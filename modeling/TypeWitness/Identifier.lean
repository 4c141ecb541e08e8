import TypeWitness.Text.Alphabetic
import TypeWitness.Text.Numeric

/-! # Identifiers of generated code
Which texts may name something in generated Java code, and how a name is chosen that is neither a
reserved word nor already in use. -/

namespace TypeWitness

/-- Whether a character may begin an identifier. -/
def isIdentifierStart (c : Char) : Bool :=
  isAlphabetic c || c == '_' || c == '$'

/-- Whether a character may stand in an identifier after its first character. -/
def isIdentifierPart (c : Char) : Bool :=
  isAlphabetic c || isNumeric c || c == '_' || c == '$'

/-- A character that may begin an identifier may also stand further inside. -/
theorem isIdentifierPart_of_start {c : Char} (h : isIdentifierStart c = true) :
    isIdentifierPart c = true := by
  simp only [isIdentifierStart, isIdentifierPart, Bool.or_eq_true] at h ⊢
  rcases h with (h | h) | h <;> simp [h]

/-- The words that Java keeps for itself. -/
def reservedWords : List String := [
  "abstract", "assert", "boolean", "break", "byte", "case", "catch", "char", "class", "const",
  "continue", "default", "do", "double", "else", "enum", "extends", "false", "final", "finally",
  "float", "for", "goto", "if", "implements", "import", "instanceof", "int", "interface", "long",
  "native", "new", "null", "package", "private", "protected", "public", "return", "short",
  "static", "strictfp", "super", "switch", "synchronized", "this", "throw", "throws", "transient",
  "true", "try", "void", "volatile", "while", "_"]

/-- Whether a name is a reserved word. -/
def isReserved (name : String) : Bool := reservedWords.contains name

/-- Whether a name is an identifier: it begins and goes on with the right characters and is no
reserved word. -/
def isValidIdentifier (name : String) : Bool :=
  match name.toList with
  | [] => false
  | c :: rest => isIdentifierStart c && rest.all isIdentifierPart && !isReserved name

/-- A name for a local variable: a reserved word gets an underscore at its end. -/
def localName (name : String) : String :=
  if isReserved name then name.push '_' else name

/-- The first of `base`, `base_`, `base__`, … that is not taken. As many underscores as there are
taken names always suffice, since the candidates are distinct. -/
def freshName (base : String) (taken : List String) : String :=
  extend taken.length base
where
  /-- Append at most `count` underscores while the name is taken. -/
  extend : Nat → String → String
    | 0, name => name
    | count + 1, name => if taken.contains name then extend count (name.push '_') else name

end TypeWitness
