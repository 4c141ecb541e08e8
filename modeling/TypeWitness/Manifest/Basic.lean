import TypeWitness.Declaration.Owner

/-! # Manifests
A manifest lists the marked declarations of a code base as plain data: names, type expressions as
they were written, and markers. Declarations are ordered by their contents, field by field, so that
of several declarations with one name the least is the same whatever their order in the manifest. -/

namespace TypeWitness

/-- A type parameter with its bounds as written. -/
structure TypeParameterDeclaration where
  name : String
  bounds : List String
  deriving DecidableEq, Repr, Inhabited

/-- What kind of member a declaration is. -/
inductive MemberKind where
  | method
  | field
  | constructor
  deriving DecidableEq, Repr, Inhabited

/-- The word for a kind of member. -/
def MemberKind.describe : MemberKind → String
  | method => "method"
  | field => "field"
  | constructor => "constructor"

/-- A marker on a declaration. -/
inductive Marker where
  /-- The marked method hands out a type token. -/
  | typeToken
  /-- The marked type asks for a container class of the given name. -/
  | container (className : String)
  deriving DecidableEq, Repr, Inhabited

/-- The name by which a marker is written in source code, without its `@`. -/
def Marker.label : Marker → String
  | typeToken => "TypeToken"
  | container _ => "Container"

/-- The class that a marker asks for. -/
def Marker.className? : Marker → Option String
  | typeToken => none
  | container className => some className

/-- A member of a type. -/
structure MemberDeclaration where
  name : String
  kind : MemberKind
  /-- The type of a field, or the return type of a method. -/
  type? : Option String
  /-- The types of the parameters. -/
  parameters : List String
  typeParameters : List TypeParameterDeclaration
  markers : List Marker
  deriving DecidableEq, Repr, Inhabited

/-- A type with its members. -/
structure TypeDeclaration where
  name : String
  packageName : String
  visibility : Visibility
  typeParameters : List TypeParameterDeclaration
  superclass? : Option String
  markers : List Marker
  members : List MemberDeclaration
  deriving DecidableEq, Repr, Inhabited

/-- The full name of a declared type. -/
def TypeDeclaration.qualifiedName (declaration : TypeDeclaration) : String :=
  qualify declaration.packageName declaration.name

/-- The declarations that a run works on. -/
structure Manifest where
  types : List TypeDeclaration
  deriving DecidableEq, Repr, Inhabited

/-! ## The order of declarations -/

/-- Public declarations come first. -/
instance : Ord Visibility where
  compare := compareOn fun
    | .everywhere => 0
    | .package => 1

/-- Methods come before fields, and fields before constructors. -/
instance : Ord MemberKind where
  compare := compareOn fun
    | .method => 0
    | .field => 1
    | .constructor => 2

/-- Token markers come first; container markers follow by class name. -/
instance : Ord Marker where
  compare := compareOn Marker.className?

/-- Type parameters are compared by name, then by bounds. -/
instance : Ord TypeParameterDeclaration where
  compare := compareLex (compareOn (·.name)) (compareOn (·.bounds))

/-- Members are compared field by field. -/
instance : Ord MemberDeclaration where
  compare :=
    compareLex (compareOn (·.name)) <|
    compareLex (compareOn (·.kind)) <|
    compareLex (compareOn (·.type?)) <|
    compareLex (compareOn (·.parameters)) <|
    compareLex (compareOn (·.typeParameters)) (compareOn (·.markers))

/-- Types are compared field by field. -/
instance : Ord TypeDeclaration where
  compare :=
    compareLex (compareOn (·.name)) <|
    compareLex (compareOn (·.packageName)) <|
    compareLex (compareOn (·.visibility)) <|
    compareLex (compareOn (·.typeParameters)) <|
    compareLex (compareOn (·.superclass?)) <|
    compareLex (compareOn (·.markers)) (compareOn (·.members))

end TypeWitness
