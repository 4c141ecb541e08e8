import Mathlib.Tactic.SplitIfs
import TypeWitness.Json.Token
import TypeWitness.Json.Value

/-! # The tokens of written JSON
The text of a JSON value is cut into the tokens of its parts, whatever the depth at which the value
is written and whatever text follows it.

* `scanString_escape` — a quoted text is read back character by character.
* `tokens_render` — the text of a value is cut into the tokens of the value. -/

namespace TypeWitness.Json

/-! ## Quoted texts -/

/-- The hexadecimal digits of a control character spell its code. -/
theorem codeUnit?_hexDigit :
    ∀ code < 0x20, codeUnit? '0' '0' (hexDigit (code / 16)) (hexDigit (code % 16)) = some code := by
  decide

/-- A code below those of surrogates is taken in as the character it stands for. -/
theorem addUnit_toNat {c : Char} (h : c.toNat < 0xD800) (characters : List Char) :
    Content.addUnit ⟨characters, none⟩ c.toNat = .ok ⟨c :: characters, none⟩ := by
  have hleading : ¬ 0xD800 ≤ c.toNat := by omega
  have htrailing : ¬ 0xDC00 ≤ c.toNat := by omega
  simp [Content.addUnit, hleading, htrailing, Char.ofNat_toNat]

/-- A character that needs no escape is taken in as it is. -/
theorem scanString_plain {c : Char} (hquote : c ≠ '"') (hslash : c ≠ '\\')
    (hcontrol : ¬ c.toNat < 0x20) (content : Except Fault Content) (rest : List Char) :
    scanString content (c :: rest) = scanString (content.bind (·.addChar c)) rest := by
  rw [scanString]
  · rw [if_neg hcontrol]
  all_goals simp_all

/-- A backslash and a letter are taken in as the character that they stand for. -/
theorem scanString_short {letter c : Char} (hletter : unescape? letter = some c)
    (characters rest : List Char) :
    scanString (.ok ⟨characters, none⟩) ('\\' :: letter :: rest) =
      scanString (.ok ⟨c :: characters, none⟩) rest := by
  have hu : letter ≠ 'u' := by rintro rfl; simp [unescape?] at hletter
  rw [scanString, hletter]
  · rfl
  all_goals simp_all

/-- A written character is read back, be it escaped or not. -/
theorem scanString_escapeChar (c : Char) (characters rest : List Char) :
    scanString (.ok ⟨characters, none⟩) (escapeChar c ++ rest) =
      scanString (.ok ⟨c :: characters, none⟩) rest := by
  unfold escapeChar
  split_ifs with hquote hslash hb hf hn hr ht hcontrol
  · rw [hquote]; exact scanString_short rfl characters rest
  · rw [hslash]; exact scanString_short rfl characters rest
  · rw [hb]; exact scanString_short rfl characters rest
  · rw [hf]; exact scanString_short rfl characters rest
  · rw [hn]; exact scanString_short rfl characters rest
  · rw [hr]; exact scanString_short rfl characters rest
  · rw [ht]; exact scanString_short rfl characters rest
  · have hcode : c.toNat < 0xD800 := by omega
    simp only [List.cons_append, List.nil_append, scanString, codeUnit?_hexDigit _ hcontrol,
      Except.bind, addUnit_toNat hcode]
  · exact scanString_plain hquote hslash hcontrol _ rest

/-- **A quoted text is read back.** What stands between the quotes are the characters of the text,
each of them written with an escape or without. -/
theorem scanString_escape (cs characters rest : List Char) :
    scanString (.ok ⟨characters, none⟩) (cs.flatMap escapeChar ++ '"' :: rest) =
      .complete (.ok (String.ofList (characters.reverse ++ cs))) rest := by
  induction cs generalizing characters with
  | nil => simp [scanString, Except.bind, Content.finish]
  | cons c cs ih =>
    rw [List.flatMap_cons, List.append_assoc, scanString_escapeChar, ih, List.reverse_cons,
      List.append_assoc, List.singleton_append]

/-! ## Numbers -/

/-- What a reader knows of a written number. -/
def Numeral.ofNat (value : Nat) : Numeral := .ofDigits (Nat.toDigits 10 value) 0 true

/-- A text that does not go on with a number. -/
def EndsNumber : List Char → Prop
  | [] => True
  | c :: _ => c.isDigit = false ∧ c ≠ '.' ∧ c ≠ 'e' ∧ c ≠ 'E'

/-- Written numbers have no zero in front, but for zero itself. -/
theorem head?_toDigits_ne_zero {value : Nat} (hpos : 0 < value) :
    (Nat.toDigits 10 value).head? ≠ some '0' := by
  induction value using Nat.strongRecOn with
  | ind value ih =>
    by_cases hsmall : value < 10
    · rw [Nat.toDigits_of_lt_base hsmall]
      have hdigit : ∀ digit < 10, 0 < digit → digit.digitChar ≠ '0' := by decide
      simpa using hdigit value hsmall hpos
    · rw [Nat.toDigits_of_base_le (by omega) (by omega), List.head?_append,
        Option.or_of_isSome (by simp [List.isSome_head?, Nat.toDigits_ne_nil])]
      exact ih _ (by omega) (by omega)

/-- The digits of a text are those in front of a text that does not go on with a number. -/
theorem scanDigits_append {digits rest : List Char} (hne : digits ≠ [])
    (hdigits : ∀ c ∈ digits, c.isDigit = true) (hrest : EndsNumber rest) :
    scanDigits (digits ++ rest) = .ok (digits, rest) := by
  have htake : rest.takeWhile Char.isDigit = [] := by
    cases rest with
    | nil => rfl
    | cons c rest => rw [List.takeWhile_cons_of_neg]; simp [hrest.1]
  have hdrop : rest.dropWhile Char.isDigit = rest := by
    cases rest with
    | nil => rfl
    | cons c rest => rw [List.dropWhile_cons_of_neg]; simp [hrest.1]
  rw [scanDigits, List.takeWhile_append_of_pos hdigits, List.dropWhile_append_of_pos hdigits,
    htake, hdrop, List.append_nil, if_neg (by simpa using hne)]

/-- The digits of a written number are its integer digits. -/
theorem scanInteger_append (value : Nat) {rest : List Char} (hrest : EndsNumber rest) :
    scanInteger (Nat.toDigits 10 value ++ rest) = .ok (Nat.toDigits 10 value, rest) := by
  have hdigits : ∀ c ∈ Nat.toDigits 10 value, c.isDigit = true :=
    fun c => Nat.isDigit_of_mem_toDigits (by omega) (by omega)
  have hzero : ¬ ((Nat.toDigits 10 value).head? = some '0' ∧
      1 < (Nat.toDigits 10 value).length) := by
    rintro ⟨hhead, hlength⟩
    cases Nat.eq_zero_or_pos value with
    | inl hvalue => simp [hvalue] at hlength
    | inr hpos => exact head?_toDigits_ne_zero hpos hhead
  rw [scanInteger, scanDigits_append Nat.toDigits_ne_nil hdigits hrest]
  simpa [bind, Except.bind] using hzero

/-- A text that does not go on with a number has no fraction in front. -/
theorem scanFraction_of_endsNumber {rest : List Char} (hrest : EndsNumber rest) :
    scanFraction rest = .ok (none, rest) := by
  cases rest with
  | nil => rfl
  | cons c rest =>
    rw [scanFraction]
    rintro _ ⟨⟩
    exact hrest.2.1 rfl

/-- A text that does not go on with a number has no exponent in front. -/
theorem scanExponent_of_endsNumber {rest : List Char} (hrest : EndsNumber rest) :
    scanExponent rest = .ok (none, rest) := by
  cases rest with
  | nil => rfl
  | cons c rest =>
    obtain ⟨-, -, hlower, hupper⟩ := hrest
    simp [scanExponent, hlower, hupper]

/-- A written number is read up to its end. -/
theorem scanNumber_append (value : Nat) {rest : List Char} (hrest : EndsNumber rest) :
    scanNumber (Nat.toDigits 10 value ++ rest) = .ok (.ofNat value, rest) := by
  have hsign : scanSign false (Nat.toDigits 10 value ++ rest) =
      (false, Nat.toDigits 10 value ++ rest) := by
    obtain ⟨c, cs, hcs⟩ := List.exists_cons_of_ne_nil (Nat.toDigits_ne_nil (b := 10) (n := value))
    have hdigit : c.isDigit = true :=
      Nat.isDigit_of_mem_toDigits (b := 10) (n := value) (by omega) (by omega) (by simp [hcs])
    rw [hcs, List.cons_append, scanSign]
    · rintro _ ⟨⟩
      simp at hdigit
    · rintro _ ⟨⟩
      simp at hdigit
  rw [scanNumber, hsign]
  simp only [bind, Except.bind, scanInteger_append value hrest, scanFraction_of_endsNumber hrest,
    scanExponent_of_endsNumber hrest, pure, Except.pure, Numeral.ofNat]
  simp

/-! ## Tokens -/

/-- White space is passed over. -/
theorem tokens_cons_of_isSpace {c : Char} (hspace : isSpace c = true) (rest : List Char) :
    tokens (c :: rest) = tokens rest := by
  rw [tokens, if_pos hspace]

/-- A token that is read stands in front of the tokens of what follows it. -/
theorem tokens_cons_of_scanToken {c : Char} {rest next : List Char} {token : Token}
    (hspace : isSpace c = false) (hscan : scanToken c rest = (token, some next)) :
    tokens (c :: rest) = token :: tokens next := by
  rw [tokens, if_neg (by simp [hspace])]
  split
  · next heq =>
    rw [hscan] at heq
    cases heq
    rfl
  · next heq =>
    rw [hscan] at heq
    cases heq

@[simp] theorem tokens_openBrace (rest : List Char) :
    tokens ('\x7b' :: rest) = .openBrace :: tokens rest := tokens_cons_of_scanToken rfl rfl

@[simp] theorem tokens_closeBrace (rest : List Char) :
    tokens ('\x7d' :: rest) = .closeBrace :: tokens rest := tokens_cons_of_scanToken rfl rfl

@[simp] theorem tokens_openBracket (rest : List Char) :
    tokens ('[' :: rest) = .openBracket :: tokens rest := tokens_cons_of_scanToken rfl rfl

@[simp] theorem tokens_closeBracket (rest : List Char) :
    tokens (']' :: rest) = .closeBracket :: tokens rest := tokens_cons_of_scanToken rfl rfl

@[simp] theorem tokens_comma (rest : List Char) :
    tokens (',' :: rest) = .comma :: tokens rest := tokens_cons_of_scanToken rfl rfl

@[simp] theorem tokens_colon (rest : List Char) :
    tokens (':' :: rest) = .colon :: tokens rest := tokens_cons_of_scanToken rfl rfl

@[simp] theorem tokens_blank (rest : List Char) : tokens (' ' :: rest) = tokens rest :=
  tokens_cons_of_isSpace rfl rest

@[simp] theorem tokens_null (rest : List Char) :
    tokens ('n' :: 'u' :: 'l' :: 'l' :: rest) = .null :: tokens rest :=
  tokens_cons_of_scanToken rfl rfl

@[simp] theorem tokens_true (rest : List Char) :
    tokens ('t' :: 'r' :: 'u' :: 'e' :: rest) = .bool true :: tokens rest :=
  tokens_cons_of_scanToken rfl rfl

@[simp] theorem tokens_false (rest : List Char) :
    tokens ('f' :: 'a' :: 'l' :: 's' :: 'e' :: rest) = .bool false :: tokens rest :=
  tokens_cons_of_scanToken rfl rfl

/-- A line break between tokens is passed over. -/
@[simp] theorem tokens_lineBreak (depth : Nat) (rest : List Char) :
    tokens ((lineBreak depth).toList ++ rest) = tokens rest := by
  have hblanks (n : Nat) : tokens (List.replicate n ' ' ++ rest) = tokens rest := by
    induction n with
    | zero => rfl
    | succ n ih => rw [List.replicate_succ, List.cons_append, tokens_blank, ih]
  have hend : "\n".toList = ['\n'] := rfl
  rw [lineBreak, String.toList_append, hend, String.toList_ofList, List.append_assoc,
    List.singleton_append, tokens_cons_of_isSpace rfl, hblanks]

/-- A text in quotes is one token. -/
@[simp] theorem tokens_quote (text : String) (rest : List Char) :
    tokens ((quote text).toList ++ rest) = .string (.ok text) :: tokens rest := by
  rw [quote, String.toList_ofList, List.cons_append, List.append_assoc]
  refine tokens_cons_of_scanToken rfl ?_
  have hscan := scanString_escape text.toList [] rest
  rw [List.reverse_nil, List.nil_append, String.ofList_toList] at hscan
  simp [scanToken, Content.empty, hscan]

/-- A number that starts with a digit is one token. -/
theorem scanToken_of_isDigit {c : Char} {rest next : List Char} {numeral : Numeral}
    (hdigit : c.isDigit = true) (hscan : scanNumber (c :: rest) = .ok (numeral, next)) :
    scanToken c rest = (.number numeral, some next) := by
  unfold scanToken
  dsimp only
  -- no digit is one of the characters that begin other tokens
  split
  case h_11 => rw [if_pos (by simp [hdigit]), hscan]
  all_goals exact absurd hdigit (by decide)

/-- A written number is one token. -/
theorem tokens_toString (value : Nat) {rest : List Char} (hrest : EndsNumber rest) :
    tokens ((toString value).toList ++ rest) = .number (.ofNat value) :: tokens rest := by
  have hscan := scanNumber_append value hrest
  obtain ⟨c, cs, hcs⟩ := List.exists_cons_of_ne_nil (Nat.toDigits_ne_nil (b := 10) (n := value))
  have hdigit : c.isDigit = true :=
    Nat.isDigit_of_mem_toDigits (b := 10) (n := value) (by omega) (by omega) (by simp [hcs])
  rw [Nat.toString_eq_repr, Nat.toList_repr]
  rw [hcs, List.cons_append] at hscan ⊢
  refine tokens_cons_of_scanToken ?_ (scanToken_of_isDigit hdigit hscan)
  simp only [isSpace, Bool.or_eq_false_iff, beq_eq_false_iff_ne]
  refine ⟨⟨⟨?_, ?_⟩, ?_⟩, ?_⟩ <;> rintro rfl <;> exact absurd hdigit (by decide)

/-! ## The tokens of a value -/

mutual
/-- The tokens of a value. -/
def toTokens : Json → List Token
  | null => [.null]
  | bool value => [.bool value]
  | number value => [.number (.ofNat value)]
  | string text => [.string (.ok text)]
  | array [] => [.openBracket, .closeBracket]
  | array (item :: items) =>
    .openBracket :: (item.toTokens ++ itemTokens items ++ [.closeBracket])
  | object [] => [.openBrace, .closeBrace]
  | object ((key, value) :: fields) =>
    .openBrace :: .string (.ok key) :: .colon ::
      (value.toTokens ++ fieldTokens fields ++ [.closeBrace])

/-- The tokens of the items after the first, with the comma before each. -/
def itemTokens : List Json → List Token
  | [] => []
  | item :: items => .comma :: (item.toTokens ++ itemTokens items)

/-- The tokens of the fields after the first, with the comma before each. -/
def fieldTokens : List (String × Json) → List Token
  | [] => []
  | (key, value) :: fields =>
    .comma :: .string (.ok key) :: .colon :: (value.toTokens ++ fieldTokens fields)
end

theorem endsNumber_lineBreak (depth : Nat) (rest : List Char) :
    EndsNumber ((lineBreak depth).toList ++ rest) := by
  simp [lineBreak, EndsNumber]

theorem endsNumber_renderItems (depth : Nat) (items : List Json) {rest : List Char}
    (hrest : EndsNumber rest) : EndsNumber ((renderItems depth items).toList ++ rest) := by
  cases items with
  | nil => simpa [renderItems] using hrest
  | cons => simp [renderItems, EndsNumber]

theorem endsNumber_renderFields (depth : Nat) (fields : List (String × Json)) {rest : List Char}
    (hrest : EndsNumber rest) : EndsNumber ((renderFields depth fields).toList ++ rest) := by
  cases fields with
  | nil => simpa [renderFields] using hrest
  | cons => simp [renderFields, EndsNumber]

mutual
/-- **A written value is cut into the tokens of the value**, whatever follows it, as long as that
does not go on with a number. -/
theorem tokens_render (depth : Nat) (json : Json) {rest : List Char} (hrest : EndsNumber rest) :
    tokens ((json.render depth).toList ++ rest) = json.toTokens ++ tokens rest := by
  match json with
  | null => simp [render, toTokens]
  | bool true => simp [render, toTokens]
  | bool false => simp [render, toTokens]
  | number value => exact tokens_toString value hrest
  | string text => exact tokens_quote text rest
  | array [] => simp [render, toTokens]
  | array (item :: items) =>
    have hitem := tokens_render (depth + 1) item
      (endsNumber_renderItems (depth + 1) items (endsNumber_lineBreak depth (']' :: rest)))
    have hitems := tokens_renderItems (depth + 1) items
      (endsNumber_lineBreak depth (']' :: rest))
    simp [render, toTokens, hitem, hitems]
  | object [] => simp [render, toTokens]
  | object ((key, value) :: fields) =>
    have hvalue := tokens_render (depth + 1) value
      (endsNumber_renderFields (depth + 1) fields (endsNumber_lineBreak depth ('\x7d' :: rest)))
    have hfields := tokens_renderFields (depth + 1) fields
      (endsNumber_lineBreak depth ('\x7d' :: rest))
    simp [render, toTokens, hvalue, hfields]

/-- Written items are cut into their tokens. -/
theorem tokens_renderItems (depth : Nat) (items : List Json) {rest : List Char}
    (hrest : EndsNumber rest) :
    tokens ((renderItems depth items).toList ++ rest) = itemTokens items ++ tokens rest := by
  match items with
  | [] => rfl
  | item :: items =>
    have hitem := tokens_render depth item (endsNumber_renderItems depth items hrest)
    have hitems := tokens_renderItems depth items hrest
    simp [renderItems, itemTokens, hitem, hitems]

/-- Written fields are cut into their tokens. -/
theorem tokens_renderFields (depth : Nat) (fields : List (String × Json)) {rest : List Char}
    (hrest : EndsNumber rest) :
    tokens ((renderFields depth fields).toList ++ rest) = fieldTokens fields ++ tokens rest := by
  match fields with
  | [] => rfl
  | (key, value) :: fields =>
    have hvalue := tokens_render depth value (endsNumber_renderFields depth fields hrest)
    have hfields := tokens_renderFields depth fields hrest
    simp [renderFields, fieldTokens, hvalue, hfields]
end

end TypeWitness.Json
