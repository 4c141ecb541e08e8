import TypeWitness.Manifest.Reader
import TypeWitness.Manifest.Writer
import TypeWitness.Proofs.JsonRecords

/-! # Writing and reading manifests
The text of a manifest loses nothing: it is read back as the same manifest. What is left out when it
is empty or absent is what a reader takes for granted, and each name of an alternative is read as
the alternative that has it.

* `TypeParameterDeclaration.read_toJson`, `Marker.read_toJson`, `MemberDeclaration.read_toJson`,
  `TypeDeclaration.read_toJson` — each part of a manifest is read back by itself.
* `Manifest.ofText_toText` — the text of a manifest is read back as the manifest. -/

namespace TypeWitness

open Json

/-! ## Names of alternatives -/

theorem Visibility.lookup_name (visibility : Visibility) :
    visibilityNames.lookup visibility.name = some visibility := by
  cases visibility <;> rfl

theorem MemberKind.lookup_describe (kind : MemberKind) :
    memberKindNames.lookup kind.describe = some kind := by
  cases kind <;> rfl

/-! ## Declarations -/

/-- A written type parameter is read back. -/
theorem TypeParameterDeclaration.read_toJson (parameter : TypeParameterDeclaration) :
    TypeParameterDeclaration.read parameter.toJson.toDraft = .ok parameter := by
  have hname : Stores fields ["name"] [("name", string parameter.name)] ⟨"", []⟩
      ⟨parameter.name, []⟩ :=
    .field Draft.readString (TypeParameterDeclaration.mk · []) rfl rfl
  have hbounds : Stores fields ["bounds"] (nonemptyField "bounds" (parameter.bounds.map string))
      ⟨parameter.name, []⟩ parameter :=
    .nonemptyField Draft.readString (TypeParameterDeclaration.mk parameter.name) (fun _ => rfl)
      (fun _ => rfl) parameter.bounds
  exact (hname.append hbounds).readRecord_eq_ok (by decide) (by simp [fields])

/-- A written marker is read back, however little room there is. -/
theorem Marker.read_toJson (room : Nat) (marker : Marker) :
    Marker.read room marker.toJson.toDraft = .ok marker := by
  cases marker <;> rfl

/-- A written member is read back. -/
theorem MemberDeclaration.read_toJson (declaration : MemberDeclaration) :
    MemberDeclaration.read declaration.toJson.toDraft = .ok declaration := by
  obtain ⟨name, kind, type?, parameters, typeParameters, markers⟩ := declaration
  have hname : Stores fields ["name"] [("name", string name)] ⟨"", .method, none, [], [], []⟩
      ⟨name, .method, none, [], [], []⟩ :=
    .field Draft.readString (MemberDeclaration.mk · .method none [] [] []) rfl rfl
  have hkind : Stores fields ["kind"] [("kind", string kind.describe)]
      ⟨name, .method, none, [], [], []⟩ ⟨name, kind, none, [], [], []⟩ :=
    .field (Draft.readAlternative memberKindNames) (MemberDeclaration.mk name · none [] [] []) rfl
      (readAlternative_string kind.lookup_describe)
  have htype : Stores fields ["type"] (optionalField "type" (type?.map string))
      ⟨name, kind, none, [], [], []⟩ ⟨name, kind, type?, [], [], []⟩ :=
    .optionalField (Draft.readOption Draft.readString) (MemberDeclaration.mk name kind · [] [] [])
      (fun _ => rfl) fun _ _ => rfl
  have hparameters : Stores fields ["parameters"]
      (nonemptyField "parameters" (parameters.map string))
      ⟨name, kind, type?, [], [], []⟩ ⟨name, kind, type?, parameters, [], []⟩ :=
    .nonemptyField Draft.readString (MemberDeclaration.mk name kind type? · [] []) (fun _ => rfl)
      (fun _ => rfl) parameters
  have htypeParameters : Stores fields ["typeParameters"]
      (nonemptyField "typeParameters" (typeParameters.map (·.toJson)))
      ⟨name, kind, type?, parameters, [], []⟩ ⟨name, kind, type?, parameters, typeParameters, []⟩ :=
    .nonemptyField TypeParameterDeclaration.read
      (MemberDeclaration.mk name kind type? parameters · []) (fun _ => rfl)
      TypeParameterDeclaration.read_toJson typeParameters
  have hmarkers : Stores fields ["markers"] (nonemptyField "markers" (markers.map (·.toJson)))
      ⟨name, kind, type?, parameters, typeParameters, []⟩
      ⟨name, kind, type?, parameters, typeParameters, markers⟩ :=
    .nonemptyField (Marker.read memberMarkerRoom)
      (MemberDeclaration.mk name kind type? parameters typeParameters) (fun _ => rfl)
      (Marker.read_toJson _) markers
  exact ((((hname.append hkind).append htype).append hparameters).append htypeParameters).append
    hmarkers |>.readRecord_eq_ok (by decide) (by simp [fields])

/-- A written type is read back. -/
theorem TypeDeclaration.read_toJson (declaration : TypeDeclaration) :
    TypeDeclaration.read declaration.toJson.toDraft = .ok declaration := by
  obtain ⟨name, packageName, visibility, typeParameters, superclass?, markers, members⟩ :=
    declaration
  have hname : Stores fields ["name"] [("name", string name)] ⟨"", "", .package, [], none, [], []⟩
      ⟨name, "", .package, [], none, [], []⟩ :=
    .field Draft.readString (TypeDeclaration.mk · "" .package [] none [] []) rfl rfl
  have hpackageName : Stores fields ["namespace"] [("namespace", string packageName)]
      ⟨name, "", .package, [], none, [], []⟩ ⟨name, packageName, .package, [], none, [], []⟩ :=
    .field Draft.readString (TypeDeclaration.mk name · .package [] none [] []) rfl rfl
  have hvisibility : Stores fields ["visibility"] [("visibility", string visibility.name)]
      ⟨name, packageName, .package, [], none, [], []⟩
      ⟨name, packageName, visibility, [], none, [], []⟩ :=
    .field (Draft.readAlternative visibilityNames)
      (TypeDeclaration.mk name packageName · [] none [] []) rfl
      (readAlternative_string visibility.lookup_name)
  have htypeParameters : Stores fields ["typeParameters"]
      (nonemptyField "typeParameters" (typeParameters.map (·.toJson)))
      ⟨name, packageName, visibility, [], none, [], []⟩
      ⟨name, packageName, visibility, typeParameters, none, [], []⟩ :=
    .nonemptyField TypeParameterDeclaration.read
      (TypeDeclaration.mk name packageName visibility · none [] []) (fun _ => rfl)
      TypeParameterDeclaration.read_toJson typeParameters
  have hsuperclass : Stores fields ["superclass"]
      (optionalField "superclass" (superclass?.map string))
      ⟨name, packageName, visibility, typeParameters, none, [], []⟩
      ⟨name, packageName, visibility, typeParameters, superclass?, [], []⟩ :=
    .optionalField (Draft.readOption Draft.readString)
      (TypeDeclaration.mk name packageName visibility typeParameters · [] []) (fun _ => rfl)
      fun _ _ => rfl
  have hmarkers : Stores fields ["markers"] (nonemptyField "markers" (markers.map (·.toJson)))
      ⟨name, packageName, visibility, typeParameters, superclass?, [], []⟩
      ⟨name, packageName, visibility, typeParameters, superclass?, markers, []⟩ :=
    .nonemptyField (Marker.read typeMarkerRoom)
      (TypeDeclaration.mk name packageName visibility typeParameters superclass? · [])
      (fun _ => rfl) (Marker.read_toJson _) markers
  have hmembers : Stores fields ["members"] (nonemptyField "members" (members.map (·.toJson)))
      ⟨name, packageName, visibility, typeParameters, superclass?, markers, []⟩
      ⟨name, packageName, visibility, typeParameters, superclass?, markers, members⟩ :=
    .nonemptyField MemberDeclaration.read
      (TypeDeclaration.mk name packageName visibility typeParameters superclass? markers)
      (fun _ => rfl) MemberDeclaration.read_toJson members
  exact (((((hname.append hpackageName).append hvisibility).append htypeParameters).append
    hsuperclass).append hmarkers).append hmembers |>.readRecord_eq_ok (by decide) (by simp [fields])

/-- A written manifest is read back. -/
theorem Manifest.read_toJson (manifest : Manifest) :
    Manifest.read manifest.toJson.toDraft = .ok manifest := by
  have htypes : Stores fields ["types"] [("types", array (manifest.types.map (·.toJson)))] ⟨[]⟩
      manifest :=
    .field (Draft.readList TypeDeclaration.read) Manifest.mk rfl
      (readList_toDraft TypeDeclaration.read_toJson manifest.types)
  exact htypes.readRecord_eq_ok (by decide) (by simp [fields])

/-- **The text of a manifest loses nothing.** It is read back as the same manifest, whatever texts
the manifest holds and whatever is left out of it. -/
theorem Manifest.ofText_toText (manifest : Manifest) :
    Manifest.ofText manifest.toText = .ok manifest := by
  rw [Manifest.ofText, Manifest.toText, readText_pretty, Manifest.read_toJson]

end TypeWitness
