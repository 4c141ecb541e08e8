import TypeWitness.Json.FloatRange
import TypeWitness.Text.ByteLength

/-! # Tokens of JSON text
A JSON text is cut into tokens up to the first place where no reader can go on. What is wrong at a
place can depend on whether the value there is wanted or passed over: a value that is passed over
may hold numbers of any size and unpaired surrogates. A token therefore records both outcomes. -/

namespace TypeWitness.Json

/-- What is wrong with a JSON text. -/
inductive Fault where
  /-- The text is no JSON. -/
  | malformed
  /-- The text is JSON of another shape than the one wanted. -/
  | mismatched
  /-- The text ends too early. -/
  | truncated
  deriving DecidableEq, Repr

/-- What is wrong at a place, by what is wanted there. -/
structure Flaw where
  /-- A value is wanted. -/
  read : Fault
  /-- A value is passed over. -/
  skipped : Fault
  /-- The name of one of several alternatives is wanted. -/
  named : Fault
  deriving DecidableEq, Repr

/-- A place that is wrong in the same way whatever is wanted. -/
def Flaw.always (fault : Fault) : Flaw := ⟨fault, fault, fault⟩

/-- A number, as far as it matters to a reader. -/
structure Numeral where
  /-- The value of a number that is written with digits alone and fits into 64 bits. -/
  word? : Option Nat
  /-- Whether the number is too large for a double-precision float. -/
  overflows : Bool
  word_lt : ∀ word ∈ word?, word < UInt64.size
  deriving DecidableEq, Repr

/-- The number with the given digits, of which the last one counts for this power of ten. It is a
word if it is plain and small enough. -/
def Numeral.ofDigits (digits : List Char) (exponent : Int) (plain : Bool) : Numeral :=
  let leading := leadingDigits 0 digits
  { word? := if plain && leading.2.isEmpty then some leading.1 else none
    overflows := exceedsFloat leading.1 (exponent + leading.2.length)
    word_lt := by
      have hleading : leading.1 < UInt64.size := leadingDigits_lt digits (by decide)
      split <;> simp [hleading] }

/-- A token of JSON text. -/
inductive Token where
  | openBrace
  | closeBrace
  | openBracket
  | closeBracket
  | comma
  | colon
  | null
  | bool (value : Bool)
  | number (numeral : Numeral)
  /-- A complete quoted text, and what it says when somebody wants to know. -/
  | string (content : Except Fault String)
  /-- A number or a word that breaks off. -/
  | brokenScalar (flaw : Flaw)
  /-- A quoted text that breaks off. -/
  | brokenString (flaw : Flaw)
  /-- A character that begins no token. -/
  | stray

/-- The white space of JSON. -/
def isSpace (c : Char) : Bool := c == ' ' || c == '\n' || c == '\t' || c == '\r'

/-! ## Quoted texts -/

/-- The value of a hexadecimal digit. -/
def hexValue? (c : Char) : Option Nat :=
  if '0' ≤ c ∧ c ≤ '9' then some (c.toNat - '0'.toNat)
  else if 'a' ≤ c ∧ c ≤ 'f' then some (c.toNat - 'a'.toNat + 10)
  else if 'A' ≤ c ∧ c ≤ 'F' then some (c.toNat - 'A'.toNat + 10)
  else none

/-- The number that four hexadecimal digits spell. -/
def codeUnit? (a b c d : Char) : Option Nat := do
  return (((← hexValue? a) * 16 + (← hexValue? b)) * 16 + (← hexValue? c)) * 16 + (← hexValue? d)

/-- The character that a backslash and a letter stand for. -/
def unescape? : Char → Option Char
  | '"' => some '"'
  | '\\' => some '\\'
  | '/' => some '/'
  | 'b' => some '\x08'
  | 'f' => some '\x0c'
  | 'n' => some '\n'
  | 'r' => some '\r'
  | 't' => some '\t'
  | _ => none

/-- What has been read of a quoted text. -/
structure Content where
  /-- The characters so far, the last one first. -/
  characters : List Char
  /-- A leading surrogate that still needs its partner. -/
  leading? : Option Nat

namespace Content

/-- Nothing read so far. -/
def empty : Content := ⟨[], none⟩

/-- Take in a character; a leading surrogate must not wait for its partner. -/
def addChar (content : Content) (c : Char) : Except Fault Content :=
  match content.leading? with
  | none => .ok ⟨c :: content.characters, none⟩
  | some _ => .error .malformed

/-- Take in an escaped code unit. Surrogates count only in pairs. -/
def addUnit (content : Content) (unit : Nat) : Except Fault Content :=
  let isLeading := 0xD800 ≤ unit && unit ≤ 0xDBFF
  let isTrailing := 0xDC00 ≤ unit && unit ≤ 0xDFFF
  match content.leading? with
  | some leading =>
    if isTrailing then
      let code := 0x10000 + (leading - 0xD800) * 0x400 + (unit - 0xDC00)
      .ok ⟨Char.ofNat code :: content.characters, none⟩
    else .error .malformed
  | none =>
    if isLeading then .ok ⟨content.characters, some unit⟩
    else if isTrailing then .error .malformed
    else .ok ⟨Char.ofNat unit :: content.characters, none⟩

/-- The text that has been read. -/
def finish (content : Content) : Except Fault String :=
  match content.leading? with
  | none => .ok (String.ofList content.characters.reverse)
  | some _ => .error .malformed

end Content

/-- How a quoted text ends. -/
inductive StringScan where
  /-- The closing quote is there; the rest of the text follows. -/
  | complete (content : Except Fault String) (rest : List Char)
  | broken (flaw : Flaw)

/-- A quoted text that breaks off, after some of it has been read. -/
def StringScan.breakOff (content : Except Fault Content) (fault : Fault) : StringScan :=
  match content with
  | .ok _ => .broken (Flaw.always fault)
  | .error earlier => .broken ⟨earlier, fault, earlier⟩

/-- Read on in a quoted text. -/
def scanString (content : Except Fault Content) : List Char → StringScan
  | [] => .breakOff content .truncated
  | '"' :: rest => .complete (content.bind Content.finish) rest
  | '\\' :: 'u' :: a :: b :: c :: d :: rest =>
    match codeUnit? a b c d with
    | some unit => scanString (content.bind (·.addUnit unit)) rest
    | none => .breakOff content .malformed
  | '\\' :: 'u' :: rest =>
    .breakOff content (if byteLength rest < 4 then .truncated else .malformed)
  | '\\' :: c :: rest =>
    match unescape? c with
    | some char => scanString (content.bind (·.addChar char)) rest
    | none => .breakOff content .malformed
  | ['\\'] => .breakOff content .truncated
  | c :: rest =>
    if c.toNat < 0x20 then .breakOff content .malformed
    else scanString (content.bind (·.addChar c)) rest

theorem scanString_rest_length {content : Except Fault Content} {cs : List Char}
    {result : Except Fault String} {rest : List Char}
    (h : scanString content cs = .complete result rest) : rest.length < cs.length := by
  fun_induction scanString content cs <;> simp_all [StringScan.breakOff]
  all_goals first
    | omega
    | (split at h <;> simp at h)

/-! ## Numbers -/

/-- The digits at the start of a text, at least one, and what follows; or the characters that stand
where a digit is missing. -/
def scanDigits (cs : List Char) : Except (List Char) (List Char × List Char) :=
  if (cs.takeWhile Char.isDigit).isEmpty then .error cs
  else .ok (cs.takeWhile Char.isDigit, cs.dropWhile Char.isDigit)

/-- The integer digits of a number: a zero stands alone. -/
def scanInteger (cs : List Char) : Except (List Char) (List Char × List Char) := do
  let (digits, rest) ← scanDigits cs
  if digits.head? = some '0' && digits.length > 1 then .error cs else .ok (digits, rest)

/-- The digits behind a point, if there is one, and what follows. -/
def scanFraction : List Char → Except (List Char) (Option (List Char) × List Char)
  | '.' :: rest => do
    let (digits, rest) ← scanDigits rest
    return (some digits, rest)
  | rest => .ok (none, rest)

/-- Whether a minus sign comes first, and what follows the sign. -/
def scanSign (plus : Bool) : List Char → Bool × List Char
  | '-' :: rest => (true, rest)
  | '+' :: rest => if plus then (false, rest) else (false, '+' :: rest)
  | rest => (false, rest)

/-- The exponent of a number, if it has one, and what follows. -/
def scanExponent : List Char → Except (List Char) (Option Int × List Char)
  | [] => .ok (none, [])
  | c :: rest =>
    if c == 'e' || c == 'E' then do
      let (digits, next) ← scanDigits (scanSign true rest).2
      let value : Int := digitsValue digits
      return (some (if (scanSign true rest).1 then -value else value), next)
    else .ok (none, c :: rest)

/-- A number that starts here and what follows it, or the characters at which it breaks off. -/
def scanNumber (cs : List Char) : Except (List Char) (Numeral × List Char) := do
  let negative := (scanSign false cs).1
  let (digits, rest) ← scanInteger (scanSign false cs).2
  let (fraction, rest) ← scanFraction rest
  let (exponent, rest) ← scanExponent rest
  let decimals := fraction.getD []
  return (.ofDigits (digits ++ decimals) (exponent.getD 0 - decimals.length)
    (!negative && fraction.isNone && exponent.isNone), rest)

/-- A number that breaks off: one that is wanted breaks off at the end of the text for want of
characters. -/
def numberFlaw (rest : List Char) : Flaw :=
  ⟨if rest.isEmpty then .truncated else .malformed, .malformed, .malformed⟩

/-! ## Words and the whole text -/

/-- What follows a word of which the first character has been seen. -/
def scanWord : List Char → List Char → Except Fault (List Char)
  | [], rest => .ok rest
  | _ :: _, [] => .error .truncated
  | expected :: word, c :: rest => if c = expected then scanWord word rest else .error .malformed

/-- The first token of a text, and what follows it unless nothing can be read after it. -/
def scanToken (c : Char) (rest : List Char) : Token × Option (List Char) :=
  let word (text : String) (token : Token) : Token × Option (List Char) :=
    match scanWord text.toList rest with
    | .ok rest => (token, some rest)
    | .error fault => (.brokenScalar ⟨fault, fault, .malformed⟩, none)
  match c with
  | '\x7b' => (.openBrace, some rest)
  | '\x7d' => (.closeBrace, some rest)
  | '[' => (.openBracket, some rest)
  | ']' => (.closeBracket, some rest)
  | ',' => (.comma, some rest)
  | ':' => (.colon, some rest)
  | 'n' => word "ull" .null
  | 't' => word "rue" (.bool true)
  | 'f' => word "alse" (.bool false)
  | '"' =>
    match scanString (.ok .empty) rest with
    | .complete content rest => (.string content, some rest)
    | .broken flaw => (.brokenString flaw, none)
  | c =>
    if c == '-' || c.isDigit then
      match scanNumber (c :: rest) with
      | .ok (numeral, rest) => (.number numeral, some rest)
      | .error rest => (.brokenScalar (numberFlaw rest), none)
    else (.stray, none)

/-! ## Nothing is read twice -/

theorem scanWord_length {word rest result : List Char} (h : scanWord word rest = .ok result) :
    result.length ≤ rest.length := by
  fun_induction scanWord word rest with
  | case1 rest => simp_all
  | case2 => simp at h
  | case3 expected word rest ih =>
    have := ih h
    simp only [List.length_cons]; omega
  | case4 => simp at h

theorem scanDigits_length {cs digits rest : List Char} (h : scanDigits cs = .ok (digits, rest)) :
    rest.length < cs.length := by
  unfold scanDigits at h
  split at h
  · simp at h
  · rename_i hne
    simp only [Except.ok.injEq, Prod.mk.injEq] at h
    obtain ⟨rfl, rfl⟩ := h
    have hsplit := congrArg List.length
      (List.takeWhile_append_dropWhile (p := Char.isDigit) (l := cs))
    have hpos : 0 < (cs.takeWhile Char.isDigit).length := by
      simpa [List.length_pos_iff, List.isEmpty_iff] using hne
    simp only [List.length_append] at hsplit
    omega

theorem scanInteger_length {cs digits rest : List Char} (h : scanInteger cs = .ok (digits, rest)) :
    rest.length < cs.length := by
  simp only [scanInteger, bind, Except.bind] at h
  split at h
  · simp at h
  · rename_i v hv
    obtain ⟨ds, r⟩ := v
    simp only at h
    split at h
    · simp at h
    · simp only [Except.ok.injEq, Prod.mk.injEq] at h
      obtain ⟨_, rfl⟩ := h
      exact scanDigits_length hv

theorem scanFraction_length {cs rest : List Char} {digits : Option (List Char)}
    (h : scanFraction cs = .ok (digits, rest)) : rest.length ≤ cs.length := by
  unfold scanFraction at h
  split at h
  · simp only [bind, Except.bind, pure, Except.pure] at h
    split at h
    · simp at h
    · rename_i v hv
      simp only [Except.ok.injEq, Prod.mk.injEq] at h
      obtain ⟨_, rfl⟩ := h
      have := scanDigits_length hv
      simp only [List.length_cons]; omega
  · simp_all

theorem scanSign_length (plus : Bool) (cs : List Char) :
    (scanSign plus cs).2.length ≤ cs.length := by
  unfold scanSign
  split
  · simp
  · split <;> simp
  · simp

theorem scanExponent_length {cs rest : List Char} {exponent : Option Int}
    (h : scanExponent cs = .ok (exponent, rest)) : rest.length ≤ cs.length := by
  unfold scanExponent at h
  split at h
  · simp_all
  · split at h
    · simp only [bind, Except.bind, pure, Except.pure] at h
      split at h
      · simp at h
      · rename_i v hv
        simp only [Except.ok.injEq, Prod.mk.injEq] at h
        obtain ⟨_, rfl⟩ := h
        have := scanDigits_length hv
        have := scanSign_length true (by assumption : List Char)
        simp only [List.length_cons]; omega
    · simp_all

theorem scanNumber_length {cs rest : List Char} {numeral : Numeral}
    (h : scanNumber cs = .ok (numeral, rest)) : rest.length < cs.length := by
  simp only [scanNumber, bind, Except.bind, pure, Except.pure] at h
  split at h
  · simp at h
  · rename_i v1 h1
    split at h
    · simp at h
    · rename_i v2 h2
      split at h
      · simp at h
      · rename_i v3 h3
        simp only [Except.ok.injEq, Prod.mk.injEq] at h
        obtain ⟨_, rfl⟩ := h
        have := scanInteger_length h1
        have := scanFraction_length h2
        have := scanExponent_length h3
        have := scanSign_length false cs
        omega

theorem scanToken_length {c : Char} {rest next : List Char} {token : Token}
    (h : scanToken c rest = (token, some next)) : next.length ≤ rest.length := by
  have word (text : String) (found : Token)
      (hw : (match scanWord text.toList rest with
        | .ok rest => (found, some rest)
        | .error fault => (Token.brokenScalar ⟨fault, fault, .malformed⟩, none)) =
          (token, some next)) : next.length ≤ rest.length := by
    split at hw
    · rename_i r hr
      simp only [Prod.mk.injEq, Option.some.injEq] at hw
      obtain ⟨_, rfl⟩ := hw
      exact scanWord_length hr
    · simp at hw
  unfold scanToken at h
  dsimp only at h
  split at h
  all_goals try
    simp only [Prod.mk.injEq, Option.some.injEq] at h
    obtain ⟨_, rfl⟩ := h
    exact Nat.le_refl _
  · exact word _ _ h
  · exact word _ _ h
  · exact word _ _ h
  · split at h
    · rename_i content r hr
      simp only [Prod.mk.injEq, Option.some.injEq] at h
      obtain ⟨_, rfl⟩ := h
      exact Nat.le_of_lt (scanString_rest_length hr)
    · simp at h
  · split at h
    · split at h
      · rename_i numeral r hr
        simp only [Prod.mk.injEq, Option.some.injEq] at h
        obtain ⟨_, rfl⟩ := h
        have := scanNumber_length hr
        simp only [List.length_cons] at this
        omega
      · simp at h
    · simp at h

/-- The tokens of a text, up to the first place after which nothing can be read. -/
def tokens : List Char → List Token
  | [] => []
  | c :: rest =>
    if isSpace c then tokens rest
    else
      match _h : scanToken c rest with
      | (token, some next) => token :: tokens next
      | (token, none) => [token]
termination_by cs => cs.length
decreasing_by
  · simp
  · have := scanToken_length _h
    simp only [List.length_cons]; omega

end TypeWitness.Json
