import TypeWitness.Json.Value
import TypeWitness.Manifest.Basic

/-! # Writing manifests
The JSON form of manifests. Empty lists and absent texts are left out, but for the list of types,
the package and the visibility of a type, which are always there. -/

namespace TypeWitness

open Json

/-- The name of a visibility. -/
def Visibility.name : Visibility → String
  | everywhere => "public"
  | package => "package"

/-- A type parameter as JSON. -/
def TypeParameterDeclaration.toJson (parameter : TypeParameterDeclaration) : Json :=
  .object <|
    ("name", .string parameter.name) :: nonemptyField "bounds" (parameter.bounds.map .string)

/-- A marker as JSON. -/
def Marker.toJson : Marker → Json
  | typeToken => .object [("kind", .string "typeToken")]
  | container className => .object [("kind", .string "container"), ("value", .string className)]

/-- A member as JSON. -/
def MemberDeclaration.toJson (declaration : MemberDeclaration) : Json :=
  .object <|
    [("name", .string declaration.name), ("kind", .string declaration.kind.describe)]
    ++ optionalField "type" (declaration.type?.map .string)
    ++ nonemptyField "parameters" (declaration.parameters.map .string)
    ++ nonemptyField "typeParameters" (declaration.typeParameters.map (·.toJson))
    ++ nonemptyField "markers" (declaration.markers.map (·.toJson))

/-- A type as JSON. -/
def TypeDeclaration.toJson (declaration : TypeDeclaration) : Json :=
  .object <|
    [("name", .string declaration.name), ("namespace", .string declaration.packageName),
      ("visibility", .string declaration.visibility.name)]
    ++ nonemptyField "typeParameters" (declaration.typeParameters.map (·.toJson))
    ++ optionalField "superclass" (declaration.superclass?.map .string)
    ++ nonemptyField "markers" (declaration.markers.map (·.toJson))
    ++ nonemptyField "members" (declaration.members.map (·.toJson))

/-- A manifest as JSON. -/
def Manifest.toJson (manifest : Manifest) : Json :=
  .object [("types", .array (manifest.types.map (·.toJson)))]

/-- The text of a manifest. -/
def Manifest.toText (manifest : Manifest) : String := manifest.toJson.pretty

end TypeWitness
