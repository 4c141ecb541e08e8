import TypeWitness.Json.Reader
import TypeWitness.Manifest.Basic

/-! # Reading manifests
The JSON form of manifests. Fields that are not required default to nothing, unknown fields are
passed over, and type expressions stay texts, so that a malformed one is a matter of the declaration
it belongs to and not of the manifest. -/

namespace TypeWitness

open Json

/-- The names of the visibilities. -/
def visibilityNames : List (String × Visibility) :=
  [("public", .everywhere), ("package", .package)]

/-- The names of the kinds of members. -/
def memberKindNames : List (String × MemberKind) :=
  [("method", .method), ("field", .field), ("constructor", .constructor)]

/-- The fields of a type parameter. -/
def TypeParameterDeclaration.fields : List (RecordField TypeParameterDeclaration) := [
  ⟨"name", true, fun record draft => do return { record with name := ← draft.readString }⟩,
  ⟨"bounds", false, fun record draft => do
    return { record with bounds := ← draft.readList Draft.readString }⟩]

/-- Read a type parameter. -/
def TypeParameterDeclaration.read : Draft → Except Fault TypeParameterDeclaration :=
  Draft.readRecord TypeParameterDeclaration.fields ⟨"", []⟩

/-! ## Markers
A marker is kept aside as a whole before its kind decides what it is made of. -/

/-- Which marker a text names. -/
inductive MarkerKind where
  | typeToken
  | container
  deriving DecidableEq, Repr

/-- The names of the markers. -/
def markerKindNames : List (String × MarkerKind) :=
  [("typeToken", .typeToken), ("container", .container)]

/-- Read the kind of a marker, which is a text. -/
def MarkerKind.read (draft : Draft) : Except Fault MarkerKind := do
  alternative markerKindNames (← draft.readString)

/-- What has been read of a marker. -/
structure MarkerParts where
  kind? : Option MarkerKind
  /-- The values that stand for the name of a class. -/
  values : List Draft

/-- The marker that its parts make up. -/
def MarkerParts.assemble (parts : MarkerParts) : Except Fault Marker :=
  match parts.kind?, parts.values with
  | some .typeToken, _ => .ok .typeToken
  | some .container, [.string content] => content.map .container
  | _, _ => .error .mismatched

/-- Collect the parts of a marker that is written as an object. -/
def MarkerParts.ofFields (room : Nat) (parts : MarkerParts) :
    DraftFields → Except Fault MarkerParts
  | .stop missing => do
    endOf missing
    return parts
  | .field (.broken flaw) _ _ => .error flaw.read
  | .field (.text content) value rest => do
    let key ← content
    if key = "kind" then
      if parts.kind?.isSome then .error .mismatched
      else do
        let kind ← MarkerKind.read value
        MarkerParts.ofFields room { parts with kind? := some kind } rest
    else do
      value.keep room
      let values := if key = "value" then parts.values ++ [value] else parts.values
      MarkerParts.ofFields room { parts with values } rest

/-- The items of an array as they are kept aside. -/
def keptItems (room : Nat) : DraftItems → Except Fault (List Draft)
  | .stop missing => do
    endOf missing
    return []
  | .item value rest => do
    value.keep room
    let others ← keptItems room rest
    return value :: others

/-- Read a marker: an object with its kind in the field `kind`, or an array that starts with the
kind. Values inside it are at most `room` containers deep. -/
def Marker.read (room : Nat) : Draft → Except Fault Marker
  | .object fields => do
    let parts ← MarkerParts.ofFields room ⟨none, []⟩ fields
    parts.assemble
  | .array (.stop missing) => .error (missing.getD .mismatched)
  | .array (.item value rest) => do
    let kind ← MarkerKind.read value
    let values ← keptItems room rest
    if kind = .typeToken ∧ values ≠ [] then
      throw .mismatched
    (⟨some kind, values⟩ : MarkerParts).assemble
  | draft => .error draft.wrongType

/-! ## Members, types and manifests -/

/-- How deep values may be nested in the markers of a member: of 127 levels in all, the marker is
the seventh. -/
def memberMarkerRoom : Nat := 120

/-- How deep values may be nested in the markers of a type, where the marker is the fifth level. -/
def typeMarkerRoom : Nat := 122

/-- The fields of a member. -/
def MemberDeclaration.fields : List (RecordField MemberDeclaration) := [
  ⟨"name", true, fun record draft => do return { record with name := ← draft.readString }⟩,
  ⟨"kind", true, fun record draft => do
    return { record with kind := ← draft.readAlternative memberKindNames }⟩,
  ⟨"type", false, fun record draft => do
    return { record with type? := ← draft.readOption Draft.readString }⟩,
  ⟨"parameters", false, fun record draft => do
    return { record with parameters := ← draft.readList Draft.readString }⟩,
  ⟨"typeParameters", false, fun record draft => do
    return { record with typeParameters := ← draft.readList TypeParameterDeclaration.read }⟩,
  ⟨"markers", false, fun record draft => do
    return { record with markers := ← draft.readList (Marker.read memberMarkerRoom) }⟩]

/-- Read a member. -/
def MemberDeclaration.read : Draft → Except Fault MemberDeclaration :=
  Draft.readRecord MemberDeclaration.fields ⟨"", .method, none, [], [], []⟩

/-- The fields of a type. -/
def TypeDeclaration.fields : List (RecordField TypeDeclaration) := [
  ⟨"name", true, fun record draft => do return { record with name := ← draft.readString }⟩,
  ⟨"namespace", false, fun record draft => do
    return { record with packageName := ← draft.readString }⟩,
  ⟨"visibility", false, fun record draft => do
    return { record with visibility := ← draft.readAlternative visibilityNames }⟩,
  ⟨"typeParameters", false, fun record draft => do
    return { record with typeParameters := ← draft.readList TypeParameterDeclaration.read }⟩,
  ⟨"superclass", false, fun record draft => do
    return { record with superclass? := ← draft.readOption Draft.readString }⟩,
  ⟨"markers", false, fun record draft => do
    return { record with markers := ← draft.readList (Marker.read typeMarkerRoom) }⟩,
  ⟨"members", false, fun record draft => do
    return { record with members := ← draft.readList MemberDeclaration.read }⟩]

/-- Read a type. -/
def TypeDeclaration.read : Draft → Except Fault TypeDeclaration :=
  Draft.readRecord TypeDeclaration.fields ⟨"", "", .package, [], none, [], []⟩

/-- The fields of a manifest. -/
def Manifest.fields : List (RecordField Manifest) := [
  ⟨"types", false, fun _ draft => do return { types := ← draft.readList TypeDeclaration.read }⟩]

/-- Read a manifest. -/
def Manifest.read : Draft → Except Fault Manifest :=
  Draft.readRecord Manifest.fields ⟨[]⟩

/-- The manifest that a text spells. -/
def Manifest.ofText (text : String) : Except Fault Manifest :=
  readText Manifest.read text

end TypeWitness
