import TypeWitness.Generation.Target
import TypeWitness.Proofs.CollectedMarkers
import TypeWitness.Proofs.Identifiers
import TypeWitness.Proofs.UsedDeclarations

/-! # Names of generated classes
A generated class is named by its package and by a name without dots. So the full name of a class
tells its package and its file.

* `qualify_inj` — a full name is made of one package and one simple name only.
* `OutputTarget.packageName_eq` — the name of a target tells its package.
* `Manifest.path_eq_of_name_eq` — targets of the same name have the same path. -/

namespace TypeWitness

/-! ## Full names -/

/-- Text after the last dot is cut off at one place only. -/
theorem append_dot_inj {before before' after after' : List Char} (hafter : '.' ∉ after)
    (hafter' : '.' ∉ after') (h : before ++ '.' :: after = before' ++ '.' :: after') :
    before = before' ∧ after = after' := by
  -- were they cut at two places, the later dot would stand in the part behind the earlier one
  rw [List.append_eq_append_iff] at h
  rcases h with ⟨middle, rfl, hrest⟩ | ⟨middle, rfl, hrest⟩
  · cases middle with
    | nil => simpa using hrest
    | cons first middle =>
      rw [List.cons_append, List.cons.injEq] at hrest
      exact absurd (hrest.2 ▸ List.mem_append_right _ List.mem_cons_self) hafter
  · cases middle with
    | nil => simpa [eq_comm] using hrest
    | cons first middle =>
      rw [List.cons_append, List.cons.injEq] at hrest
      exact absurd (hrest.2 ▸ List.mem_append_right _ List.mem_cons_self) hafter'

theorem toList_qualify {packageName : String} (h : packageName ≠ "") (simpleName : String) :
    (qualify packageName simpleName).toList = packageName.toList ++ '.' :: simpleName.toList := by
  rw [qualify, if_neg (by simpa using h), String.toList_append, String.toList_append,
    List.append_assoc]
  rfl

/-- **A full name is made of one package and one simple name only**, when simple names have no
dots. -/
theorem qualify_inj {packageName packageName' simpleName simpleName' : String}
    (hsimple : '.' ∉ simpleName.toList) (hsimple' : '.' ∉ simpleName'.toList) :
    qualify packageName simpleName = qualify packageName' simpleName' ↔
      packageName = packageName' ∧ simpleName = simpleName' := by
  refine ⟨fun h => ?_, fun ⟨hpackage, hname⟩ => by rw [hpackage, hname]⟩
  have hdot : ∀ before after : List Char, '.' ∈ before ++ '.' :: after :=
    fun _ _ => List.mem_append_right _ List.mem_cons_self
  by_cases hempty : packageName = "" <;> by_cases hempty' : packageName' = ""
  · subst hempty hempty'
    rw [qualify_empty, qualify_empty] at h
    exact ⟨rfl, h⟩
  · -- a name in the default package has no dot, and one in any other package has
    subst hempty
    rw [qualify_empty] at h
    rw [h, toList_qualify hempty'] at hsimple
    exact absurd (hdot _ _) hsimple
  · subst hempty'
    rw [qualify_empty] at h
    rw [← h, toList_qualify hempty] at hsimple'
    exact absurd (hdot _ _) hsimple'
  · have hlists := congrArg String.toList h
    rw [toList_qualify hempty, toList_qualify hempty'] at hlists
    obtain ⟨hpackage, hname⟩ := append_dot_inj hsimple hsimple' hlists
    exact ⟨String.toList_injective hpackage, String.toList_injective hname⟩

/-- The package of a generated class: its full name up to the last dot. -/
def OutputTarget.packageName (target : OutputTarget) : String :=
  String.ofList ((target.name.toList.reverse.dropWhile (· != '.')).drop 1).reverse

/-- **The name of a target tells its package**, as simple names have no dots. -/
theorem OutputTarget.packageName_eq {target : OutputTarget} {packageName simpleName : String}
    (hsimple : '.' ∉ simpleName.toList) (hname : target.name = qualify packageName simpleName) :
    target.packageName = packageName := by
  have hnodot : ∀ c ∈ simpleName.toList.reverse, (c != '.') = true := by
    intro c hmem
    rw [bne_iff_ne]
    rintro rfl
    exact hsimple (List.mem_reverse.1 hmem)
  rw [OutputTarget.packageName, hname]
  by_cases hempty : packageName = ""
  · subst hempty
    have hall : simpleName.toList.reverse.dropWhile (· != '.') = [] := by
      have happend := @List.dropWhile_append_of_pos _ (· != '.') _ [] hnodot
      rwa [List.append_nil] at happend
    rw [qualify_empty, hall]
    rfl
  · rw [toList_qualify hempty, List.reverse_append, List.reverse_cons, List.append_assoc,
      List.dropWhile_append_of_pos hnodot]
    simp

/-! ## Targets before clashes are dropped -/

/-- What grouping makes of a manifest. -/
def Manifest.grouping (manifest : Manifest) : Grouping :=
  groupAccessors manifest.collect.accessors manifest.collect.rejected

/-- The targets of a manifest before clashing ones are dropped, in no particular order. -/
def Manifest.candidates (options : GenerationOptions) (manifest : Manifest) : List OutputTarget :=
  manifest.grouping.packages.map (·.target options)
    ++ manifest.collect.containers.map (·.target options)

theorem Manifest.generate_eq (options : GenerationOptions) (manifest : Manifest) :
    manifest.generate options =
      let kept := dropClashes none
        ((manifest.candidates options).mergeSort fun a b => (a.order b).isLE)
      ⟨kept.targets,
        manifest.collect.diagnostics ++ manifest.grouping.diagnostics ++ kept.diagnostics⟩ := rfl

/-- A container that a declaration asks for has an identifier as its class name. -/
theorem TypeDeclaration.isValidIdentifier_of_container {declaration : TypeDeclaration}
    {className : String} {container : ContainerDeclaration}
    (h : declaration.container className = .ok container) :
    isValidIdentifier className = true ∧ container.className = className
    ∧ container.declaringType = declaration.owner := by
  unfold TypeDeclaration.container at h
  split at h
  · next hvalid =>
    refine ⟨hvalid, ?_⟩
    split at h
    · cases h
    · split at h
      · cases h
      · split at h <;> cases h
        exact ⟨rfl, rfl⟩
  · cases h

/-- The containers that a declaration asks for are declared by its type. -/
theorem TypeDeclaration.declaringType_of_mem_containers {declaration : TypeDeclaration}
    {container : ContainerDeclaration} (h : container ∈ declaration.collect.containers) :
    container.declaringType = declaration.owner := by
  obtain ⟨-, className, -, h⟩ := mem_containers_collect.1 h
  exact (isValidIdentifier_of_container h).2.2

/-- All containers of a manifest have identifiers as their class names. -/
theorem Manifest.isValidIdentifier_of_mem_containers {manifest : Manifest}
    {container : ContainerDeclaration} (h : container ∈ manifest.collect.containers) :
    isValidIdentifier container.className = true := by
  rw [manifest.collect_items.2.1, List.mem_flatMap] at h
  obtain ⟨declaration, -, h⟩ := h
  obtain ⟨-, className, -, h⟩ := TypeDeclaration.mem_containers_collect.1 h
  obtain ⟨hvalid, hname, -⟩ := TypeDeclaration.isValidIdentifier_of_container h
  exact hname ▸ hvalid

/-- A holder is generated for its own package. -/
theorem PackageGroup.packageName_target {options : GenerationOptions}
    (hholder : isValidIdentifier options.holderName = true) (group : PackageGroup) :
    (group.target options).packageName = group.packageName :=
  OutputTarget.packageName_eq (dot_not_mem_of_isValidIdentifier hholder) rfl

/-- A container is generated for the package of the type that declares it. -/
theorem Manifest.packageName_target_container (options : GenerationOptions) {manifest : Manifest}
    {container : ContainerDeclaration} (h : container ∈ manifest.collect.containers) :
    (container.target options).packageName = container.declaringType.packageName :=
  OutputTarget.packageName_eq
    (dot_not_mem_of_isValidIdentifier (manifest.isValidIdentifier_of_mem_containers h)) rfl

/-- The name and the path of a candidate come from its package and from an identifier. -/
theorem Manifest.exists_names_of_mem_candidates {options : GenerationOptions}
    (hholder : isValidIdentifier options.holderName = true) {manifest : Manifest}
    {target : OutputTarget} (h : target ∈ manifest.candidates options) :
    ∃ simpleName, isValidIdentifier simpleName = true
      ∧ target.name = qualify target.packageName simpleName
      ∧ target.path = Path.ofClass target.packageName simpleName := by
  cases List.mem_append.1 h with
  | inl h =>
    obtain ⟨group, -, rfl⟩ := List.mem_map.1 h
    rw [PackageGroup.packageName_target hholder]
    exact ⟨options.holderName, hholder, rfl, rfl⟩
  | inr h =>
    obtain ⟨container, hcontainer, rfl⟩ := List.mem_map.1 h
    rw [packageName_target_container options hcontainer]
    exact ⟨container.className, isValidIdentifier_of_mem_containers hcontainer, rfl, rfl⟩

/-- **Candidates of the same name have the same path.** -/
theorem Manifest.path_eq_of_name_eq {options : GenerationOptions}
    (hholder : isValidIdentifier options.holderName = true) {manifest : Manifest}
    {a b : OutputTarget} (ha : a ∈ manifest.candidates options)
    (hb : b ∈ manifest.candidates options) (hname : a.name = b.name) : a.path = b.path := by
  obtain ⟨simpleName, hvalid, haname, hapath⟩ := exists_names_of_mem_candidates hholder ha
  obtain ⟨simpleName', hvalid', hbname, hbpath⟩ := exists_names_of_mem_candidates hholder hb
  rw [haname, hbname, qualify_inj (dot_not_mem_of_isValidIdentifier hvalid)
    (dot_not_mem_of_isValidIdentifier hvalid')] at hname
  rw [hapath, hbpath, hname.1, hname.2]

end TypeWitness
