import TypeWitness.Proofs.TypeScanning
import TypeWitness.Source.Syntax

/-! # Tokens of expressions
The text of an expression is cut into parentheses, operators and the tokens that types are made of
as well: identifiers, dots and commas. White space sets tokens apart and is dropped; an identifier
is read as far as it goes.

* `ExpressionToken.scan` — the tokens of a text.
* `ExpressionToken.all_isReadable_of_scan` — the identifiers among the tokens of a text can be read
  as such.
* `Spelled` — a text is cut into given tokens, whatever it is that follows, as long as that does not
  go on with an identifier. -/

namespace TypeWitness

/-- A token of an expression. -/
inductive ExpressionToken where
  /-- An identifier or a punctuation mark, such as types are made of. -/
  | ofType (token : TypeToken)
  | openParen
  | closeParen
  | operator (operator : Operator)
  deriving DecidableEq, Repr

namespace ExpressionToken

/-- The tokens of a text, unless a character begins no token. -/
def scan : List Char → Option (List ExpressionToken)
  | [] => some []
  | '(' :: rest => (scan rest).map (openParen :: ·)
  | ')' :: rest => (scan rest).map (closeParen :: ·)
  | '=' :: '=' :: rest => (scan rest).map (operator .same :: ·)
  | '!' :: '=' :: rest => (scan rest).map (operator .notSame :: ·)
  | '|' :: '|' :: rest => (scan rest).map (operator .or :: ·)
  | c :: rest =>
    if isBlank c then scan rest
    else
      match TypeToken.mark? c with
      | some token => (scan rest).map (ofType token :: ·)
      | none =>
        if isIdentifierStart c then
          let name := c :: rest.takeWhile isIdentifierPart
          (scan (rest.dropWhile isIdentifierPart)).map
            (ofType (.identifier (String.ofList name)) :: ·)
        else none
termination_by cs => cs.length
decreasing_by
  all_goals simp only [List.length_cons]
  all_goals try omega
  have := (List.dropWhile_suffix isIdentifierPart (l := rest)).length_le
  omega

/-- A character that may begin a token that types are not made of. -/
def isSpecial (c : Char) : Bool := ['(', ')', '=', '!', '|'].contains c

/-- All other characters are blanks, punctuation marks or the beginnings of identifiers. -/
theorem scan_of_not_isSpecial {c : Char} (h : isSpecial c = false) (rest : List Char) :
    scan (c :: rest) =
      if isBlank c then scan rest
      else
        match TypeToken.mark? c with
        | some token => (scan rest).map (ofType token :: ·)
        | none =>
          if isIdentifierStart c then
            (scan (rest.dropWhile isIdentifierPart)).map
              (ofType (.identifier (String.ofList (c :: rest.takeWhile isIdentifierPart))) :: ·)
          else none := by
  rw [scan]
  all_goals simp_all [isSpecial]

/-- Parentheses and signs of operators are no blanks, no punctuation marks of types and no parts of
identifiers. -/
theorem of_isSpecial {c : Char} (h : isSpecial c = true) :
    isBlank c = false ∧ TypeToken.mark? c = none ∧ isIdentifierPart c = false := by
  have hcases : c = '(' ∨ c = ')' ∨ c = '=' ∨ c = '!' ∨ c = '|' := by simpa [isSpecial] using h
  rcases hcases with rfl | rfl | rfl | rfl | rfl <;>
    exact ⟨by decide +kernel, rfl, by decide +kernel⟩

/-- A blank is dropped. -/
theorem scan_blank {c : Char} (h : isBlank c = true) (rest : List Char) :
    scan (c :: rest) = scan rest := by
  have hspecial : isSpecial c = false := by
    rw [Bool.eq_false_iff]
    intro hspecial
    rw [(of_isSpecial hspecial).1] at h
    cases h
  rw [scan_of_not_isSpecial hspecial, if_pos h]

/-- A punctuation mark is a token. -/
theorem scan_mark {c : Char} {token : TypeToken} (h : TypeToken.mark? c = some token)
    (rest : List Char) : scan (c :: rest) = (scan rest).map (ofType token :: ·) := by
  have hspecial : isSpecial c = false := by
    rw [Bool.eq_false_iff]
    intro hspecial
    rw [(of_isSpecial hspecial).2.1] at h
    cases h
  rw [scan_of_not_isSpecial hspecial, (isBlank_of_mark? h).1, h]
  rfl

/-- An identifier is a token, up to a boundary. -/
theorem scan_identifier {name rest : List Char} (hname : isIdentifierText name = true)
    (hrest : IsBoundary rest) :
    scan (name ++ rest) =
      (scan rest).map (ofType (.identifier (String.ofList name)) :: ·) := by
  cases name with
  | nil => cases hname
  | cons first others =>
    have hspecial : isSpecial first = false := by
      rw [Bool.eq_false_iff]
      intro hspecial
      have hpart := isIdentifierPart_of_start (isIdentifierText_cons_iff.1 hname).1
      rw [(of_isSpecial hspecial).2.2] at hpart
      cases hpart
    simp only [isIdentifierText, Bool.and_eq_true, Bool.not_eq_true', Option.isNone_iff_eq_none]
      at hname
    obtain ⟨⟨⟨hblank, hmark⟩, hstart⟩, hothers⟩ := hname
    obtain ⟨htake, hdrop⟩ := takeWhile_append_boundary hothers hrest
    rw [List.cons_append, scan_of_not_isSpecial hspecial, hblank, hmark, htake, hdrop]
    simp only [hstart, if_true]
    rfl

/-- Whether a token can be read, which only an identifier may fail to be. -/
def isReadable : ExpressionToken → Bool
  | ofType (.identifier name) => isIdentifierText name.toList
  | _ => true

/-- The identifiers that a text is cut into can be read as such. -/
theorem all_isReadable_of_scan {cs : List Char} {tokens : List ExpressionToken}
    (h : scan cs = some tokens) : tokens.all isReadable = true := by
  have hcons : ∀ {first : ExpressionToken} {rest : List Char} {tokens : List ExpressionToken},
      first.isReadable = true →
      (∀ {others}, scan rest = some others → others.all isReadable = true) →
      (scan rest).map (first :: ·) = some tokens → tokens.all isReadable = true := by
    intro first rest tokens hfirst ih h
    obtain ⟨others, hothers, rfl⟩ := Option.map_eq_some_iff.1 h
    rw [List.all_cons, hfirst, ih hothers]
    rfl
  fun_induction scan cs generalizing tokens with
  | case1 =>
    cases h
    rfl
  | case2 rest ih => exact hcons rfl ih h
  | case3 rest ih => exact hcons rfl ih h
  | case4 rest ih => exact hcons rfl ih h
  | case5 rest ih => exact hcons rfl ih h
  | case6 rest ih => exact hcons rfl ih h
  | case7 c rest _ _ _ _ _ hblank ih => exact ih h
  | case8 c rest _ _ _ _ _ hblank token hmark ih =>
    refine hcons ?_ ih h
    cases token with
    | identifier name => exact absurd rfl (mark?_ne_identifier hmark name)
    | _ => rfl
  | case9 c rest _ _ _ _ _ hblank hmark hstart identifier =>
    rename_i ih
    refine hcons ?_ ih h
    rw [isReadable, String.toList_ofList]
    exact isIdentifierText_cons_iff.2 ⟨hstart, List.all_takeWhile⟩
  | case10 => cases h

end ExpressionToken

open ExpressionToken

/-! ## Texts and their tokens -/

/-- A text is cut into the given tokens, and what follows by itself, as long as that does not go on
with an identifier. -/
def Spelled (text : List Char) (tokens : List ExpressionToken) : Prop :=
  ∀ rest, IsBoundary rest → scan (text ++ rest) = (scan rest).map (tokens ++ ·)

theorem isBoundary_of_isBlank {c : Char} (h : isBlank c = true) (rest : List Char) :
    IsBoundary (c :: rest) :=
  isBoundary_cons (isIdentifierPart_of_isBlank h) rest

theorem isBoundary_of_mark? {c : Char} {token : TypeToken} (h : TypeToken.mark? c = some token)
    (rest : List Char) : IsBoundary (c :: rest) :=
  isBoundary_cons (isBlank_of_mark? h).2 rest

theorem isBoundary_of_isSpecial {c : Char} (h : isSpecial c = true) (rest : List Char) :
    IsBoundary (c :: rest) :=
  isBoundary_cons (of_isSpecial h).2.2 rest

theorem IsBoundary.append {text rest : List Char} (h : IsBoundary text) (hrest : IsBoundary rest) :
    IsBoundary (text ++ rest) := by
  cases text with
  | nil => exact hrest
  | cons c text => exact isBoundary_cons (h c rfl) _

namespace Spelled

variable {text front back : List Char} {tokens others : List ExpressionToken}

theorem nil : Spelled [] [] := by
  intro rest _
  simp

/-- Two texts in a row are cut each by itself, when the second does not go on with an identifier. -/
theorem append (hfront : Spelled front tokens) (hback : Spelled back others)
    (hboundary : IsBoundary back) : Spelled (front ++ back) (tokens ++ others) := by
  intro rest hrest
  rw [List.append_assoc, hfront _ (hboundary.append hrest), hback rest hrest, Option.map_map]
  simp only [Function.comp_def, List.append_assoc]

/-- A token in front of a text, when the text is cut by itself behind it. -/
theorem cons {token : ExpressionToken} (first : List Char)
    (hfirst : ∀ rest, scan (first ++ rest) = (scan rest).map (token :: ·))
    (h : Spelled text tokens) : Spelled (first ++ text) (token :: tokens) := by
  intro rest hrest
  rw [List.append_assoc, hfirst, h rest hrest, Option.map_map]
  rfl

theorem openParen (h : Spelled text tokens) : Spelled ('(' :: text) (.openParen :: tokens) :=
  cons ['('] (fun _ => by rw [List.singleton_append, scan]) h

theorem closeParen (h : Spelled text tokens) : Spelled (')' :: text) (.closeParen :: tokens) :=
  cons [')'] (fun _ => by rw [List.singleton_append, scan]) h

theorem operator (operator : Operator) (h : Spelled text tokens) :
    Spelled (operator.sign.toList ++ text) (.operator operator :: tokens) := by
  refine cons _ (fun rest => ?_) h
  cases operator <;> simp [Operator.sign, scan]

theorem mark {c : Char} {token : TypeToken} (hmark : TypeToken.mark? c = some token)
    (h : Spelled text tokens) : Spelled (c :: text) (.ofType token :: tokens) :=
  cons [c] (scan_mark hmark) h

/-- A blank in front of a text counts for nothing. -/
theorem blank {c : Char} (hblank : isBlank c = true) (h : Spelled text tokens) :
    Spelled (c :: text) tokens := by
  intro rest hrest
  rw [List.cons_append, scan_blank hblank, h rest hrest]

theorem identifier {name : List Char} (hname : isIdentifierText name = true) :
    Spelled name [.ofType (.identifier (String.ofList name))] :=
  fun _ hrest => scan_identifier hname hrest

end Spelled

/-- A text that types are made of is cut into the same tokens here. -/
theorem Tokenizes.spelled {cs : List Char} {tokens : List TypeToken} (h : Tokenizes cs tokens) :
    Spelled cs (tokens.map .ofType) := by
  induction h with
  | nil => exact .nil
  | blank hblank _ ih => exact .blank hblank ih
  | mark hmark _ ih => exact .mark hmark ih
  | identifier hstart hothers hrest _ ih =>
    exact (Spelled.identifier (isIdentifierText_cons_iff.2 ⟨hstart, hothers⟩)).append ih hrest

/-- The text of a type is cut into the tokens of the type. -/
theorem TypeExpr.spelled_render {type : TypeExpr} (h : type.wellFormed .whole = true) :
    Spelled type.render.toList (type.tokens.map .ofType) := by
  have hscans := type.scans_render h isBoundary_nil scans_nil
  rw [List.append_nil, List.append_nil] at hscans
  exact (tokenizes_iff_scans.2 hscans).spelled

end TypeWitness
