import TypeWitness.Diagnostic.Basic

/-! # What can be wrong with declarations
The problems that a run reports, each with the code and the arguments of its diagnostic. -/

namespace TypeWitness

/-- A problem of a declaration or of what is generated from it. -/
inductive Problem where
  /-- A token accessor returns a type without type arguments. -/
  | notParameterized (accessor type : String)
  /-- No type argument of a token accessor's return type is a parameter of the owner. -/
  | witnessesNothing (accessor type owner : String)
  /-- Two token accessors derive the same token name. -/
  | duplicateToken (first second token : String)
  /-- A marker stands on something that cannot carry it. -/
  | misplacedMarker (marker carrier name : String)
  /-- A type is declared more than once. -/
  | duplicateDeclaration (name : String)
  /-- A container declaration does not extend a type with two type arguments. -/
  | containerSuperclass (name : String)
  /-- A container declaration asks for a class whose name is no identifier. -/
  | containerName (name className : String)
  /-- A generated file could not be written. -/
  | writeFailed (path reason : String)
  /-- Two generated classes have the same name. -/
  | clashingTarget (name : String) (originating winner : List String)
  /-- A type expression cannot be read. -/
  | malformedType (text reason : String)
  deriving DecidableEq, Repr

namespace Problem

/-- The code of a problem. -/
def code : Problem → Nat
  | notParameterized .. => 1001
  | witnessesNothing .. => 1002
  | duplicateToken .. => 1003
  | misplacedMarker .. => 2001
  | duplicateDeclaration .. => 2002
  | containerSuperclass .. => 3001
  | containerName .. => 3002
  | writeFailed .. => 4001
  | clashingTarget .. => 4002
  | malformedType .. => 5001

/-- The arguments that the wording of a problem takes. -/
def arguments : Problem → List String
  | notParameterized accessor type => [accessor, type]
  | witnessesNothing accessor type owner => [accessor, type, owner]
  | duplicateToken first second token => [first, second, token]
  | misplacedMarker marker carrier name => [marker, carrier, name]
  | duplicateDeclaration name => [name]
  | containerSuperclass name => [name]
  | containerName name className => [name, className]
  | writeFailed path reason => [path, reason]
  | clashingTarget name originating winner =>
    [name, ", ".intercalate originating, ", ".intercalate winner]
  | malformedType text reason => [text, reason]

/-- The diagnostic of a problem with the given declaration. -/
def diagnostic (problem : Problem) (element : String) : Diagnostic :=
  .ofCode problem.code (some element) problem.arguments

@[simp] theorem diagnostic_code (problem : Problem) (element : String) :
    (problem.diagnostic element).code = problem.code := by
  simp only [diagnostic, Diagnostic.ofCode]
  split <;> rfl

@[simp] theorem diagnostic_element (problem : Problem) (element : String) :
    (problem.diagnostic element).element? = some element := by
  simp only [diagnostic, Diagnostic.ofCode]
  split <;> rfl

end Problem

end TypeWitness
