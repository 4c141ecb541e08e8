import TypeWitness.Text.Substitution

/-! # Diagnostics
What a run has to say about the declarations it works on. A diagnostic has a code, and its wording
comes from a template in which numbered placeholders are filled in with arguments. -/

namespace TypeWitness

/-- How serious a diagnostic is. -/
inductive Category where
  | warning
  | error
  | message
  deriving DecidableEq, Repr, Inhabited

/-- The word for a category. -/
def Category.name : Category → String
  | warning => "warning"
  | error => "error"
  | message => "message"

/-- A diagnostic. -/
structure Diagnostic where
  category : Category
  code : Nat
  /-- The declaration that the diagnostic is about. -/
  element? : Option String
  message : String
  deriving DecidableEq, Repr, Inhabited

/-- Whether a diagnostic is an error. -/
def Diagnostic.isError (diagnostic : Diagnostic) : Bool := diagnostic.category == .error

/-- The placeholder for the argument with the given index. -/
def placeholder (index : Nat) : String := "\x7b" ++ toString index ++ "\x7d"

/-- Fill in arguments from the given index on, one after the other: each one is put in for its
placeholder wherever that stands in the text so far. -/
def fillFrom (index : Nat) (text : String) : List String → String
  | [] => text
  | argument :: arguments =>
    fillFrom (index + 1) (replaceAll (placeholder index) argument text) arguments

/-- Fill in a template. -/
def fillTemplate (template : String) (arguments : List String) : String :=
  fillFrom 0 template arguments

@[simp] theorem fillTemplate_nil (template : String) : fillTemplate template [] = template := rfl

/-- The wording that belongs to a code. -/
structure MessageTemplate where
  code : Nat
  category : Category
  text : String

/-- The wording for every code that a run uses. -/
def messageTemplates : List MessageTemplate := [
  ⟨1001, .error,
    "Type token accessor '{0}' must return a parameterized reference type, found '{1}'."⟩,
  ⟨1002, .error,
    "Type token accessor '{0}' does not return a valid type token: "
      ++ "'{1}' references no type parameter of '{2}'."⟩,
  ⟨1003, .error, "Type token accessors '{0}' and '{1}' both derive the token name '{2}'."⟩,
  ⟨2001, .error, "Unexpected @{0} on {1} '{2}'."⟩,
  ⟨2002, .error, "Type '{0}' is declared more than once; only one of them is used."⟩,
  ⟨3001, .error,
    "Container declaration '{0}' must extend a container type "
      ++ "with exactly two type arguments (key, value)."⟩,
  ⟨3002, .error, "Container declaration '{0}' names an invalid class '{1}'."⟩,
  ⟨4001, .error, "Failed to write source file '{0}': {1}"⟩,
  ⟨4002, .error,
    "Class '{0}' generated from '{1}' clashes with the one generated from '{2}' "
      ++ "and is skipped."⟩,
  ⟨5001, .error, "Malformed type expression '{0}': {1}"⟩]

/-- The wording that belongs to a code. -/
def messageTemplate? (code : Nat) : Option MessageTemplate :=
  messageTemplates.find? (·.code == code)

/-- The diagnostic with the given code. A code without wording still makes an error, which says its
arguments. -/
def Diagnostic.ofCode (code : Nat) (element? : Option String) (arguments : List String) :
    Diagnostic :=
  match messageTemplate? code with
  | some template => ⟨template.category, code, element?, fillTemplate template.text arguments⟩
  | none => ⟨.error, code, element?, " ".intercalate arguments⟩

end TypeWitness
