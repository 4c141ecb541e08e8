import TypeWitness.Declaration.Accessor
import TypeWitness.Declaration.Container
import TypeWitness.Diagnostic.Problem
import TypeWitness.Identifier
import TypeWitness.Manifest.Basic
import TypeWitness.TypeExpr.Parser

/-! # What a manifest asks for
A collection holds the token accessors and containers that the declarations of a manifest ask for.
Type expressions are read here, and markers in the wrong place are reported. What is generated from
a collection is decided later. -/

namespace TypeWitness

/-- What declarations ask for. -/
structure Collection where
  accessors : List TokenAccessor
  containers : List ContainerDeclaration
  /-- The full names of types with accessors that could not all be read. -/
  rejected : List String
  diagnostics : List Diagnostic

namespace Collection

/-- Nothing. -/
def empty : Collection := ⟨[], [], [], []⟩

/-- Both, in this order. -/
def append (a b : Collection) : Collection :=
  ⟨a.accessors ++ b.accessors, a.containers ++ b.containers, a.rejected ++ b.rejected,
    a.diagnostics ++ b.diagnostics⟩

instance : Append Collection := ⟨append⟩

instance : EmptyCollection Collection := ⟨empty⟩

/-- All of them, in this order. -/
def join : List Collection → Collection
  | [] => empty
  | first :: others => first ++ join others

@[simp] theorem accessors_append (a b : Collection) :
    (a ++ b).accessors = a.accessors ++ b.accessors := rfl

@[simp] theorem containers_append (a b : Collection) :
    (a ++ b).containers = a.containers ++ b.containers := rfl

@[simp] theorem rejected_append (a b : Collection) : (a ++ b).rejected = a.rejected ++ b.rejected :=
  rfl

@[simp] theorem diagnostics_append (a b : Collection) :
    (a ++ b).diagnostics = a.diagnostics ++ b.diagnostics := rfl

/-- A single problem. -/
def ofProblem (element : String) (problem : Problem) : Collection :=
  { empty with diagnostics := [problem.diagnostic element] }

/-- A single problem of a type, which is then rejected. -/
def ofRejection (typeName element : String) (problem : Problem) : Collection :=
  ⟨[], [], [typeName], [problem.diagnostic element]⟩

end Collection

/-! ## One declaration -/

/-- The problem of a type expression that cannot be read. -/
def malformed (text : String) (error : TypeError) : Problem := .malformedType text error.message

/-- The problems of the bounds of a declaration's type parameters. -/
def TypeDeclaration.boundProblems (declaration : TypeDeclaration) : List Problem :=
  declaration.typeParameters.flatMap fun parameter =>
    parameter.bounds.filterMap fun bound =>
      match TypeExpr.parse bound with
      | .ok _ => none
      | .error error => some (malformed bound error)

/-- The declared type, with the bounds that can be read. -/
def TypeDeclaration.owner (declaration : TypeDeclaration) : OwningType where
  packageName := declaration.packageName
  simpleName := declaration.name
  visibility := declaration.visibility
  parameters := declaration.typeParameters.map fun parameter =>
    ⟨parameter.name, parameter.bounds.filterMap fun bound => (TypeExpr.parse bound).toOption⟩

/-- The container that a declaration asks for under the given class name. The declaration must
extend a type with a key type and a value type as its type arguments. -/
def TypeDeclaration.container (declaration : TypeDeclaration) (className : String) :
    Except Problem ContainerDeclaration :=
  if isValidIdentifier className then
    match declaration.superclass? with
    | none => .error (.containerSuperclass declaration.qualifiedName)
    | some text =>
      match TypeExpr.parse text with
      | .error error => .error (malformed text error)
      | .ok superclass =>
        match superclass.arguments with
        | [keyType, valueType] => .ok ⟨declaration.owner, className, keyType, valueType⟩
        | _ => .error (.containerSuperclass declaration.qualifiedName)
  else
    .error (.containerName declaration.qualifiedName className)

/-- What a marker on a type asks for. -/
def TypeDeclaration.collectMarker (declaration : TypeDeclaration) (marker : Marker) : Collection :=
  match marker with
  | .typeToken =>
    .ofProblem declaration.qualifiedName
      (.misplacedMarker marker.label "type" declaration.qualifiedName)
  | .container className =>
    match declaration.container className with
    | .ok container => { Collection.empty with containers := [container] }
    | .error problem => .ofProblem declaration.qualifiedName problem

/-- What a marker stands on, when it must not stand there: token markers belong on methods without
parameters, and container markers on types. -/
def MemberDeclaration.wrongCarrier? (member : MemberDeclaration) : Marker → Option String
  | .typeToken =>
    match member.kind with
    | .method => if member.parameters.isEmpty then none else some "method with parameters"
    | kind => some kind.describe
  | .container _ => some member.kind.describe

/-- The type of a member; a member without type is `void`. -/
def MemberDeclaration.readType (member : MemberDeclaration) : Except Problem TypeExpr :=
  match member.type? with
  | none => .ok (.primitive "void")
  | some text =>
    match TypeExpr.parse text with
    | .ok type => .ok type
    | .error error => .error (malformed text error)

/-- What a marker on a member of a type asks for. -/
def MemberDeclaration.collectMarker (owner : OwningType) (member : MemberDeclaration)
    (marker : Marker) : Collection :=
  let element := owner.qualifiedName ++ "#" ++ member.name
  match member.wrongCarrier? marker with
  | some carrier =>
    .ofProblem element (.misplacedMarker marker.label carrier member.name)
  | none =>
    match member.readType with
    | .error problem => .ofRejection owner.qualifiedName element problem
    | .ok returnType =>
      { Collection.empty with
        accessors := [⟨owner, member.name, returnType, member.typeParameters.map (·.name)⟩] }

/-- What a member of a type asks for. -/
def MemberDeclaration.collect (owner : OwningType) (member : MemberDeclaration) : Collection :=
  .join (member.markers.map (member.collectMarker owner))

/-- What a declaration asks for. A type whose bounds cannot be read is rejected as a whole. -/
def TypeDeclaration.collect (declaration : TypeDeclaration) : Collection :=
  match declaration.boundProblems with
  | [] =>
    .join (declaration.markers.map declaration.collectMarker)
      ++ .join (declaration.members.map (·.collect declaration.owner))
  | problems =>
    ⟨[], [], [declaration.qualifiedName], problems.map (·.diagnostic declaration.qualifiedName)⟩

/-! ## All declarations -/

/-- Whether a declaration is the one that counts among those with its full name: it is less than
those before it and no greater than those after it. -/
def TypeDeclaration.counts (before after : List TypeDeclaration) (declaration : TypeDeclaration) :
    Bool :=
  before.all (fun other =>
    other.qualifiedName != declaration.qualifiedName || compare declaration other == .lt)
  && after.all (fun other =>
    other.qualifiedName != declaration.qualifiedName || compare other declaration != .lt)

/-- What declarations ask for that follow the given ones. Of the declarations with one name a single
one counts, and the others are reported. -/
def collectFrom (before : List TypeDeclaration) : List TypeDeclaration → Collection
  | [] => .empty
  | declaration :: after =>
    let own :=
      if declaration.counts before after then declaration.collect
      else
        .ofProblem declaration.qualifiedName (.duplicateDeclaration declaration.qualifiedName)
    own ++ collectFrom (declaration :: before) after

/-- What a manifest asks for. -/
def Manifest.collect (manifest : Manifest) : Collection := collectFrom [] manifest.types

end TypeWitness
