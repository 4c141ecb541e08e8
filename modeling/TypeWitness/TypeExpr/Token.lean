import TypeWitness.Identifier
import TypeWitness.Text.Blank
import TypeWitness.Text.ByteLength

/-! # Tokens of type expressions
A text is cut into identifiers and punctuation marks, each with the offset in bytes at which it
starts. White space sets tokens apart and is dropped; an identifier is read as far as it goes. -/

namespace TypeWitness

/-- A token of a type expression. -/
inductive TypeToken where
  | identifier (name : String)
  | dot
  | comma
  /-- `<` -/
  | openAngle
  /-- `>` -/
  | closeAngle
  /-- `[` -/
  | openBracket
  /-- `]` -/
  | closeBracket
  /-- `?` -/
  | question
  deriving DecidableEq, Repr

/-- A token and the offset in bytes of its first character. -/
structure PlacedToken where
  token : TypeToken
  offset : Nat
  deriving DecidableEq, Repr

namespace TypeToken

/-- The token that a single character stands for. -/
def mark? : Char → Option TypeToken
  | '.' => some dot
  | ',' => some comma
  | '<' => some openAngle
  | '>' => some closeAngle
  | '[' => some openBracket
  | ']' => some closeBracket
  | '?' => some question
  | _ => none

/-- A character that begins no token, and its offset in bytes. -/
structure Stray where
  char : Char
  offset : Nat
  deriving DecidableEq, Repr

/-- The tokens of a text that starts at the given offset, or the first character that begins no
token. -/
def scan (offset : Nat) : List Char → Except Stray (List PlacedToken)
  | [] => .ok []
  | c :: rest =>
    if isBlank c then
      scan (offset + c.utf8Size) rest
    else
      match mark? c with
      | some token => do
        let tokens ← scan (offset + c.utf8Size) rest
        return ⟨token, offset⟩ :: tokens
      | none =>
        if isIdentifierStart c then do
          let name := c :: rest.takeWhile isIdentifierPart
          let tokens ← scan (offset + byteLength name) (rest.dropWhile isIdentifierPart)
          return ⟨identifier (String.ofList name), offset⟩ :: tokens
        else
          .error ⟨c, offset⟩
termination_by cs => cs.length
decreasing_by
  · simp
  · simp
  · have := (List.dropWhile_suffix isIdentifierPart (l := rest)).length_le
    simp only [List.length_cons]; omega

end TypeToken

end TypeWitness
