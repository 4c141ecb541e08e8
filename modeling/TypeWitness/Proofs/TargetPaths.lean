import TypeWitness.Output.FileStore
import TypeWitness.Proofs.PathComponents
import TypeWitness.Proofs.TargetClashes
import TypeWitness.Settings.Basic

/-! # Where generated files go
A generated file lies below the directory that it is written to, whatever stands in the manifest,
unless a package has a part that starts with a slash: such a part leads back to the root.

* `Configuration.isValidIdentifier_holderName` — settings name holders by identifiers.
* `Manifest.path_target` — the path of a generated file is that of a class in its package.
* `Manifest.path_below_root` — where a generated file goes. -/

namespace TypeWitness

/-! ## Settings -/

theorem isValidIdentifier_of_identifierOption {option value default : String}
    {value? : Option String} (hdefault : isValidIdentifier default = true)
    (h : identifierOption option value? default = .ok value) : isValidIdentifier value = true := by
  cases value? with
  | none =>
    cases h
    exact hdefault
  | some given =>
    simp only [identifierOption] at h
    split at h
    · next hvalid =>
      cases h
      exact hvalid
    · cases h

theorem isValidIdentifier_standard :
    isValidIdentifier GenerationOptions.standard.holderName = true := by decide

/-- **Settings name holders by identifiers.** -/
theorem Configuration.isValidIdentifier_holderName {configuration : Configuration}
    {directory : String} {settings : RunSettings}
    (h : configuration.resolve directory = .ok settings) :
    isValidIdentifier settings.generation.holderName = true := by
  simp only [resolve, ConfigurationOptions.generation, bind, Except.bind] at h
  split at h
  · cases h
  · next generation hgeneration =>
    cases h
    split at hgeneration
    · cases hgeneration
    · next holderName hholderName =>
      have hvalid := isValidIdentifier_of_identifierOption isValidIdentifier_standard hholderName
      split at hgeneration
      · cases hgeneration
      · split at hgeneration
        · cases hgeneration
        · cases hgeneration
          exact hvalid

/-! ## Targets -/

namespace Manifest

variable {manifest : Manifest} {options : GenerationOptions} {target : OutputTarget}

/-- **The path of a generated file is that of a class in its package.** -/
theorem path_target (hholder : isValidIdentifier options.holderName = true)
    (h : target ∈ (manifest.generate options).targets) :
    ∃ simpleName, isValidIdentifier simpleName = true
      ∧ target.name = qualify target.packageName simpleName
      ∧ target.path = Path.ofClass target.packageName simpleName :=
  exists_names_of_mem_candidates hholder (mem_candidates_of_mem_targets h)

/-- **Where a generated file goes.** Its path goes through some names and never back. When no part
of its package starts with a slash, the path is relative, and the file goes below the directory that
it is written to, whichever that is; and otherwise the path starts at the root, and the file goes
where it says. -/
theorem path_below_root {configuration : Configuration} {directory : String}
    {settings : RunSettings} (hsettings : configuration.resolve directory = .ok settings)
    (manifest : Manifest) {target : OutputTarget}
    (htarget : target ∈ (manifest.generate settings.generation).targets) :
    Path.components target.path ≠ [] ∧ ".." ∉ Path.components target.path
    ∧ (Path.isAbsolute target.path = true ↔
      ∃ segment ∈ Path.segments target.packageName, Path.isAbsolute segment = true)
    ∧ (Path.isAbsolute target.path = false → ∀ root,
      Path.components (FileStore.destination root target) =
        Path.components root ++ Path.components target.path)
    ∧ (Path.isAbsolute target.path = true → ∀ root,
      FileStore.destination root target = target.path) := by
  obtain ⟨simpleName, hvalid, -, hpath⟩ :=
    path_target (Configuration.isValidIdentifier_holderName hsettings) htarget
  have hslash := slash_not_mem_of_isValidIdentifier hvalid
  rw [hpath]
  refine ⟨?_, Path.not_mem_components_ofClass hslash, ?_, fun hrelative root => ?_,
    fun habsolute root => ?_⟩
  · rw [Path.components_ofClass hslash]
    exact List.append_ne_nil_of_right_ne_nil _ (List.cons_ne_nil _ _)
  · rw [Path.isAbsolute_ofClass hslash, Path.isAbsolute_ofPackage, List.any_eq_true]
  · rw [Path.isAbsolute_ofClass hslash] at hrelative
    have hanchor := (Path.anchor_ofClass hslash).trans (Path.anchor_ofPackage hrelative)
    rw [FileStore.destination, hpath, Path.components_join hanchor]
  · rw [FileStore.destination, hpath, Path.join, if_pos habsolute]

/-- A file is generated for the class of each container. -/
theorem exists_target_of_container (hholder : isValidIdentifier options.holderName = true)
    {packageName className : String}
    (h : (packageName, className) ∈ manifest.collect.containers.map fun container =>
      (container.declaringType.packageName, container.className)) :
    ∃ target ∈ (manifest.generate options).targets,
      target.packageName = packageName ∧ target.path = Path.ofClass packageName className := by
  obtain ⟨container, hcontainer, hnames⟩ := List.mem_map.1 h
  cases hnames
  have hcandidate : container.target options ∈ manifest.candidates options :=
    List.mem_append_right _ (List.mem_map_of_mem hcontainer)
  obtain ⟨target, htarget, hname⟩ := exists_target_of_candidate hcandidate
  refine ⟨target, htarget, ?_, ?_⟩
  · rw [← packageName_target_container options hcontainer, OutputTarget.packageName, hname]
    rfl
  · exact path_eq_of_name_eq hholder (mem_candidates_of_mem_targets htarget) hcandidate hname

/-- The settings of a configuration that leaves everything open. -/
theorem resolve_empty :
    Configuration.empty.resolve "/project" = .ok ⟨none, none, false, .standard⟩ :=
  rfl

theorem path_below_root_relation :
    let manifest : Manifest := ⟨[relationDeclaration]⟩
    Configuration.empty.resolve "/project" = .ok ⟨none, none, false, .standard⟩
    ∧ ∃ target ∈ (manifest.generate .standard).targets, Path.isAbsolute target.path = false
      ∧ ∀ root, Path.components (FileStore.destination root target) =
        Path.components root ++ ["model", "RelationMap.java"] := by
  intro manifest
  have hcontainer : ("model", "RelationMap") ∈ manifest.collect.containers.map fun container =>
      (container.declaringType.packageName, container.className) := by
    decide +kernel
  obtain ⟨target, htarget, -, hpath⟩ :=
    exists_target_of_container isValidIdentifier_standard hcontainer
  obtain ⟨-, -, -, hbelow, -⟩ := path_below_root resolve_empty manifest htarget
  have hrelative : Path.isAbsolute target.path = false := by
    rw [hpath]
    decide +kernel
  have hcomponents : Path.components target.path = ["model", "RelationMap.java"] := by
    rw [hpath]
    decide +kernel
  refine ⟨resolve_empty, target, htarget, hrelative, fun root => ?_⟩
  rw [hbelow hrelative, hcomponents]

/-- The same type in a package whose name is a path that starts at the root. -/
def rootedDeclaration : TypeDeclaration :=
  { relationDeclaration with packageName := "/etc" }

/-- A package whose name starts with a slash leads out of every directory. -/
theorem path_of_rooted :
    let manifest : Manifest := ⟨[rootedDeclaration]⟩
    Configuration.empty.resolve "/project" = .ok ⟨none, none, false, .standard⟩
    ∧ ∃ target ∈ (manifest.generate .standard).targets, Path.isAbsolute target.path = true
      ∧ ∀ root, FileStore.destination root target = "/etc/RelationMap.java" := by
  intro manifest
  have hcontainer : ("/etc", "RelationMap") ∈ manifest.collect.containers.map fun container =>
      (container.declaringType.packageName, container.className) := by
    decide +kernel
  obtain ⟨target, htarget, -, hpath⟩ :=
    exists_target_of_container isValidIdentifier_standard hcontainer
  have hrooted : target.path = "/etc/RelationMap.java" := by
    rw [hpath]
    decide +kernel
  have habsolute : Path.isAbsolute target.path = true := by
    rw [hrooted]
    decide +kernel
  refine ⟨resolve_empty, target, htarget, habsolute, fun root => ?_⟩
  rw [FileStore.destination, Path.join, if_pos habsolute, hrooted]

end Manifest

end TypeWitness
