import TypeWitness.Proofs.FileTreeLaws
import TypeWitness.Proofs.GroupsByType
import TypeWitness.Proofs.OptionIndependence
import TypeWitness.Proofs.TargetPaths

/-! # Generated files on disk
Classes are told apart by their full names, and files by their paths. Generated files go to places
of their own when the packages of a manifest do: when none of them starts at the root, and no two of
them lead to the same directory. Then all files that are written one after the other, in any order,
are there in the end. Where two packages lead to one directory, files may replace each other.

* `Manifest.HasOwnDirectories` — what is asked of packages.
* `Path.components_ofPackage_inj` — packages that are names with dots between them have directories
  of their own.
* `Manifest.packages_of_path_eq` — which generated files have one path.
* `Manifest.targets_stored` — generated files are written without replacing each other. -/

namespace TypeWitness

/-! ## Directories of packages -/

namespace Path

/-- Whether the name of a package is made of names with dots between them, or is the empty one. -/
def IsPlain (packageName : String) : Prop :=
  packageName = "" ∨ ∀ part ∈ splitAt '.' packageName.toList, part ≠ [] ∧ '/' ∉ part

instance (packageName : String) : Decidable (IsPlain packageName) :=
  inferInstanceAs (Decidable (_ ∨ _))

variable {packageName packageName' : String}

/-- The parts of a plain name are single names. -/
theorem components_of_mem_segments (h : IsPlain packageName) {segment : String}
    (hsegment : segment ∈ segments packageName) :
    isAbsolute segment = false ∧ components segment = [segment] := by
  have hdot := dot_not_mem_of_mem_segments hsegment
  obtain ⟨part, hpart, rfl⟩ := List.mem_map.1 hsegment
  obtain ⟨hmem, hne⟩ := List.mem_filter.1 hpart
  have hslash : '/' ∉ (String.ofList part).toList := by
    rw [String.toList_ofList]
    rcases h with rfl | h
    · cases List.mem_singleton.1 hmem
      exact List.not_mem_nil
    · exact (h part hmem).2
  have hempty : String.ofList part ≠ "" := by
    rintro heq
    have hnil : part = [] := by
      rw [← String.toList_ofList (l := part), heq]
      rfl
    rw [hnil] at hne
    cases hne
  have hnoDot : String.ofList part ≠ "." := by
    rintro heq
    rw [heq] at hdot
    revert hdot
    decide
  exact ⟨isAbsolute_of_not_mem hslash, components_of_name hslash hempty hnoDot⟩

theorem isAbsolute_ofPackage_of_isPlain (h : IsPlain packageName) :
    isAbsolute (ofPackage packageName) = false := by
  rw [isAbsolute_ofPackage, List.any_eq_false]
  intro segment hsegment
  rw [(components_of_mem_segments h hsegment).1]
  exact Bool.false_ne_true

/-- **The directory of a package with a plain name** goes through the parts of the name. -/
theorem components_ofPackage_of_isPlain (h : IsPlain packageName) :
    components (ofPackage packageName) = segments packageName := by
  rw [components_ofPackage (isAbsolute_ofPackage_of_isPlain h)]
  calc (segments packageName).flatMap components
      = (segments packageName).flatMap fun segment => [segment] :=
        List.flatMap_congr fun segment hsegment => (components_of_mem_segments h hsegment).2
    _ = segments packageName := List.flatMap_singleton' _

/-- The parts of a plain name tell the name. -/
theorem segments_inj (h : IsPlain packageName) (h' : IsPlain packageName')
    (heq : segments packageName = segments packageName') : packageName = packageName' := by
  -- no part of a plain name is left out, unless there is only an empty one
  have hall : ∀ {name : String}, name ≠ "" → IsPlain name →
      segments name = (splitAt '.' name.toList).map String.ofList := by
    intro name hne hplain
    rw [segments, List.filter_eq_self.2]
    intro part hpart
    simpa using (hplain.resolve_left hne part hpart).1
  have hnil : ∀ {name : String}, IsPlain name → segments name = [] → name = "" := by
    intro name hplain hsegments
    by_contra hne
    rw [hall hne hplain, List.map_eq_nil_iff] at hsegments
    exact splitAt_ne_nil _ hsegments
  by_cases hempty : packageName = ""
  · subst hempty
    exact (hnil h' heq.symm).symm
  · have hempty' : packageName' ≠ "" := by
      rintro rfl
      exact hempty (hnil h heq)
    rw [hall hempty h, hall hempty' h'] at heq
    have hparts := List.map_injective_iff.2 (fun _ _ => String.ofList_injective) heq
    exact String.toList_injective (splitAt_inj.1 hparts)

/-- **Packages with plain names have directories of their own.** -/
theorem components_ofPackage_inj (h : IsPlain packageName) (h' : IsPlain packageName')
    (heq : components (ofPackage packageName) = components (ofPackage packageName')) :
    packageName = packageName' := by
  rw [components_ofPackage_of_isPlain h, components_ofPackage_of_isPlain h'] at heq
  exact segments_inj h h' heq

end Path

/-! ## Paths of generated files -/

/-- The packages of a manifest lead below the directory that files are written to, and each of them
leads to a directory of its own. -/
structure Manifest.HasOwnDirectories (manifest : Manifest) : Prop where
  relative : ∀ declaration ∈ manifest.types,
    Path.isAbsolute (Path.ofPackage declaration.packageName) = false
  distinct : ∀ a ∈ manifest.types, ∀ b ∈ manifest.types,
    Path.components (Path.ofPackage a.packageName) =
      Path.components (Path.ofPackage b.packageName) →
    a.packageName = b.packageName

namespace Manifest

variable {manifest : Manifest} {options : GenerationOptions}

/-- Packages with plain names have their own directories. -/
theorem hasOwnDirectories_of_isPlain
    (h : ∀ declaration ∈ manifest.types, Path.IsPlain declaration.packageName) :
    manifest.HasOwnDirectories where
  relative declaration hmem := Path.isAbsolute_ofPackage_of_isPlain (h declaration hmem)
  distinct a ha b hb := Path.components_ofPackage_inj (h a ha) (h b hb)

/-- A file is generated for the package of some declaration. -/
theorem exists_declaration_of_target (hholder : isValidIdentifier options.holderName = true)
    {target : OutputTarget} (h : target ∈ (manifest.generate options).targets) :
    ∃ declaration ∈ manifest.types, target.packageName = declaration.packageName := by
  rcases List.mem_append.1 (mem_candidates_of_mem_targets h) with hmem | hmem
  · obtain ⟨package, hpackage, rfl⟩ := List.mem_map.1 hmem
    obtain ⟨group, hgroup⟩ :=
      List.exists_mem_of_ne_nil _ (mem_packages_groupAccessors.1 hpackage).2
    obtain ⟨declaration, hused, hname, -⟩ := exists_declaration_of_group hpackage hgroup
    exact ⟨declaration, (mem_used_iff.1 hused).1,
      (PackageGroup.packageName_target hholder package).trans hname⟩
  · obtain ⟨container, hcontainer, rfl⟩ := List.mem_map.1 hmem
    have hdeclared := hcontainer
    rw [manifest.collect_items.2.1, List.mem_flatMap] at hdeclared
    obtain ⟨declaration, hused, hdeclared⟩ := hdeclared
    refine ⟨declaration, (mem_used_iff.1 hused).1, ?_⟩
    rw [packageName_target_container options hcontainer,
      TypeDeclaration.declaringType_of_mem_containers hdeclared, TypeDeclaration.packageName_owner]

/-- **Generated files of one path** are for packages that lead to one directory, and files for one
package have different paths. -/
theorem packages_of_path_eq (hholder : isValidIdentifier options.holderName = true)
    {a b : OutputTarget} (ha : a ∈ (manifest.generate options).targets)
    (hb : b ∈ (manifest.generate options).targets)
    (heq : Path.components a.path = Path.components b.path) :
    Path.components (Path.ofPackage a.packageName) = Path.components (Path.ofPackage b.packageName)
    ∧ (a.packageName = b.packageName → a = b) := by
  obtain ⟨simpleName, hvalid, hname, hpath⟩ := path_target hholder ha
  obtain ⟨simpleName', hvalid', hname', hpath'⟩ := path_target hholder hb
  rw [hpath, hpath', Path.components_ofClass (slash_not_mem_of_isValidIdentifier hvalid),
    Path.components_ofClass (slash_not_mem_of_isValidIdentifier hvalid')] at heq
  -- the last component tells the class, and those before it tell the directory
  obtain ⟨hdirectory, hfile⟩ := List.append_inj' heq rfl
  have hsimple : simpleName = simpleName' := Path.fileName_inj (List.head_eq_of_cons_eq hfile)
  refine ⟨hdirectory, fun hpackage => ?_⟩
  have hnames : a.name = b.name := by rw [hname, hname', hpackage, hsimple]
  exact List.inj_on_of_nodup_map (nodup_target_names options) ha hb hnames

/-- **Generated files have different paths**, when packages have directories of their own. -/
theorem nodup_paths (hholder : isValidIdentifier options.holderName = true)
    (hdirectories : manifest.HasOwnDirectories) :
    ((manifest.generate options).targets.map fun target => Path.components target.path).Nodup := by
  refine List.Nodup.map_on (fun a ha b hb heq => ?_) (nodup_target_names options).of_map
  obtain ⟨hdirectory, hunique⟩ := packages_of_path_eq hholder ha hb heq
  obtain ⟨declaration, hmem, hpackage⟩ := exists_declaration_of_target hholder ha
  obtain ⟨declaration', hmem', hpackage'⟩ := exists_declaration_of_target hholder hb
  refine hunique ?_
  rw [hpackage, hpackage'] at hdirectory ⊢
  exact hdirectories.distinct declaration hmem declaration' hmem' hdirectory

/-- A generated file goes below the directory that files are written to. -/
theorem place_destination (hholder : isValidIdentifier options.holderName = true)
    (hdirectories : manifest.HasOwnDirectories) {target : OutputTarget}
    (h : target ∈ (manifest.generate options).targets) (root : String) :
    Path.place (FileStore.destination root target) =
      Path.place root ++ Path.components target.path := by
  obtain ⟨simpleName, hvalid, -, hpath⟩ := path_target hholder h
  have hslash := slash_not_mem_of_isValidIdentifier hvalid
  obtain ⟨declaration, hmem, hpackage⟩ := exists_declaration_of_target hholder h
  have hrelative : Path.isAbsolute (Path.ofPackage target.packageName) = false := by
    rw [hpackage]
    exact hdirectories.relative declaration hmem
  rw [FileStore.destination, hpath, Path.place_join _ (Path.not_mem_components_ofClass hslash)]
  rw [Path.anchor_ofClass hslash, Path.anchor_ofPackage hrelative]

/-- **Generated files are written without replacing each other**, unless packages share directories.
Two of them have one path only when their packages have different names and lead to one directory.
When each package of the manifest has a directory of its own, their paths are different; and
whichever file system they are written to by a new store, in whichever order, each file is at its
destination in the end with what was generated for it, unless a step of the file system has failed
for it, which is reported. No other file changes. -/
theorem targets_stored {configuration : Configuration} {directory : String} {settings : RunSettings}
    (hsettings : configuration.resolve directory = .ok settings) (manifest : Manifest) :
    let targets := (manifest.generate settings.generation).targets
    (∀ a ∈ targets, ∀ b ∈ targets, Path.components a.path = Path.components b.path →
      Path.components (Path.ofPackage a.packageName) =
        Path.components (Path.ofPackage b.packageName)
      ∧ (a.packageName = b.packageName → a = b))
    ∧ (manifest.HasOwnDirectories →
      (targets.map fun target => Path.components target.path).Nodup
      ∧ ∀ {σ : Type} {access : FileAccess (StateM σ)} {view : FileView σ}, access.Lawful view →
        ∀ (root : String) (order : List OutputTarget), order.Perm targets → ∀ state : σ,
          let outcome := emit (FileStore.write access) order (FileStore.ofRoot root) state
          let emission := outcome.1.1
          (∀ target ∈ targets, target.name ∉ emission.failed →
            (access.readText? (FileStore.destination root target) outcome.2).1 =
              some target.contents)
          ∧ (∀ target ∈ targets, target.name ∈ emission.failed →
            ∃ error : WriteError, (∀ name, error ≠ .duplicate name)
              ∧ (Problem.writeFailed target.path error.message).diagnostic target.name
                ∈ emission.diagnostics)
          ∧ ∀ place, (∀ target ∈ targets,
              place ≠ Path.place (FileStore.destination root target)) →
            view.files outcome.2 place = view.files state place) := by
  intro targets
  have hholder := Configuration.isValidIdentifier_holderName hsettings
  refine ⟨fun a ha b hb heq => packages_of_path_eq hholder ha hb heq, fun hdirectories => ?_⟩
  have hpaths : (targets.map fun target => Path.components target.path).Nodup :=
    nodup_paths hholder hdirectories
  refine ⟨hpaths, ?_⟩
  intro σ access view hlawful root order horder state outcome emission
  have hnames : (order.map (·.name)).Nodup :=
    (horder.map _).nodup_iff.2 (nodup_target_names settings.generation)
  have hplaces : (order.map fun target =>
      Path.place (FileStore.destination root target)).Nodup := by
    have hmap : (order.map fun target => Path.place (FileStore.destination root target)) =
        (order.map fun target => Path.components target.path).map (Path.place root ++ ·) := by
      rw [List.map_map]
      exact List.map_congr_left fun target hmem =>
        place_destination hholder hdirectories (horder.mem_iff.1 hmem) root
    rw [hmap]
    exact ((horder.map _).nodup_iff.2 hpaths).map (List.append_right_injective _)
  have hfree : ∀ target ∈ order, target.name ∉ (FileStore.ofRoot root).claimed :=
    fun _ _ => List.not_mem_nil
  have hstores : view.Stores root order state emission outcome.2 :=
    hlawful.emit hfree hnames hplaces state
  refine ⟨fun target htarget hwritten => ?_, fun target htarget hfailed => ?_,
    fun place hplace =>
      hstores.others place fun target hmem => hplace target (horder.mem_iff.1 hmem)⟩
  · obtain ⟨hreaches, htext⟩ := (hstores.stored target (horder.mem_iff.2 htarget)).written hwritten
    rw [hlawful.readText? hreaches, htext]
  · exact ((hstores.stored target (horder.mem_iff.2 htarget)).failed hfailed).2

/-- All containers are generated when no two of them have one name, and there is nothing else to
generate. -/
theorem perm_targets_of_containers (haccessors : manifest.collect.accessors = [])
    (hnames : (manifest.collect.containers.map (·.qualifiedClassName)).Nodup) :
    (manifest.collect.containers.map (·.target options)).Perm
      (manifest.generate options).targets := by
  have hkeeps : KeepsLeast (manifest.candidates options) (manifest.generate options).targets _ :=
    keepsLeast_generate options
  have hcandidates : manifest.candidates options =
      manifest.collect.containers.map (·.target options) := by
    rw [candidates, grouping, haccessors]
    simp [groupAccessors, sortedNames]
  rw [hcandidates] at hkeeps
  refine hkeeps.perm_of_nodup ?_
  rwa [List.map_map]

/-- A type in the given package that asks for a container and nothing else. -/
def mapDeclaration (packageName : String) : TypeDeclaration :=
  { relationDeclaration with
    packageName := packageName, markers := [.container "RelationMap"], members := [] }

/-- Containers in two packages: both are there in the end. -/
theorem targets_stored_maps :
    let manifest : Manifest := ⟨[mapDeclaration "a.b", mapDeclaration "a.c"]⟩
    let order := manifest.collect.containers.map (·.target .standard)
    let outcome :=
      emit (FileStore.write FileTree.access) order (FileStore.ofRoot "/out") FileTree.empty
    Configuration.empty.resolve "/project" = .ok ⟨none, none, false, .standard⟩
    ∧ manifest.HasOwnDirectories
    ∧ FileTree.access.Lawful FileTree.view
    ∧ order.Perm (manifest.generate .standard).targets
    ∧ outcome.1.1.failed = []
    ∧ order.map (FileStore.destination "/out") =
      ["/out/a/b/RelationMap.java", "/out/a/c/RelationMap.java"]
    ∧ ∀ target ∈ order,
      (FileTree.access.readText? (FileStore.destination "/out" target) outcome.2).1 =
        some target.contents := by
  intro manifest order outcome
  have hdirectories : manifest.HasOwnDirectories := hasOwnDirectories_of_isPlain (by decide +kernel)
  have horder : order.Perm (manifest.generate .standard).targets :=
    perm_targets_of_containers (by decide +kernel) (by decide +kernel)
  have hwritten : outcome.1.1.failed = [] := by decide +kernel
  obtain ⟨-, hdistinct⟩ := targets_stored resolve_empty manifest
  obtain ⟨-, hstored⟩ := hdistinct hdirectories
  obtain ⟨hcontents, -⟩ := hstored FileTree.lawful "/out" order horder FileTree.empty
  refine ⟨resolve_empty, hdirectories, FileTree.lawful, horder, hwritten, by decide +kernel,
    fun target htarget => hcontents target (horder.mem_iff.1 htarget) fun hfailed => ?_⟩
  rw [hwritten] at hfailed
  cases hfailed

/-- The files of containers in these two packages differ. -/
theorem contents_ne_of_packages {first second : ContainerDeclaration}
    (hfirst : first.declaringType.packageName = "a.b")
    (hsecond : second.declaringType.packageName = "a..b") :
    (first.target .standard).contents ≠ (second.target .standard).contents := by
  intro heq
  obtain ⟨rest, htext⟩ := first.exists_rest_of_file .standard
  obtain ⟨rest', htext'⟩ := second.exists_rest_of_file .standard
  rw [hfirst] at htext
  rw [hsecond] at htext'
  have hprefix := htext.symm.trans ((congrArg String.toList heq).trans htext')
  -- the texts differ after the first dot
  have hstart := congrArg (List.take 11) hprefix
  rw [List.take_append_of_le_length (by decide),
    List.take_append_of_le_length (by decide)] at hstart
  revert hstart
  decide

/-- Containers in two packages that lead to one directory: both are written to one file without a
failure, so one of them is not there in the end. -/
theorem targets_replaced :
    let manifest : Manifest := ⟨[mapDeclaration "a.b", mapDeclaration "a..b"]⟩
    let order := manifest.collect.containers.map (·.target .standard)
    let outcome :=
      emit (FileStore.write FileTree.access) order (FileStore.ofRoot "/out") FileTree.empty
    Configuration.empty.resolve "/project" = .ok ⟨none, none, false, .standard⟩
    ∧ order.Perm (manifest.generate .standard).targets
    ∧ order.map (fun target => (target.name, target.path)) =
      [("a.b.RelationMap", "a/b/RelationMap.java"), ("a..b.RelationMap", "a/b/RelationMap.java")]
    ∧ outcome.1.1.failed = []
    ∧ ∃ target ∈ order,
      (FileTree.access.readText? (FileStore.destination "/out" target) outcome.2).1 ≠
        some target.contents := by
  intro manifest order outcome
  have horder : order.Perm (manifest.generate .standard).targets :=
    perm_targets_of_containers (by decide +kernel) (by decide +kernel)
  refine ⟨resolve_empty, horder, by decide +kernel, by decide +kernel, ?_⟩
  have hcontainers : manifest.collect.containers.map (fun container =>
        (container.declaringType.packageName, (container.target .standard).path)) =
      [("a.b", "a/b/RelationMap.java"), ("a..b", "a/b/RelationMap.java")] := by
    decide +kernel
  have hdeclared : ∀ {packageName path : String},
      (packageName, path) ∈ [("a.b", "a/b/RelationMap.java"), ("a..b", "a/b/RelationMap.java")] →
      ∃ container ∈ manifest.collect.containers, container.declaringType.packageName = packageName
        ∧ (container.target .standard).path = path := by
    intro packageName path hmem
    rw [← hcontainers] at hmem
    obtain ⟨container, hcontainer, heq⟩ := List.mem_map.1 hmem
    exact ⟨container, hcontainer, congrArg Prod.fst heq, congrArg Prod.snd heq⟩
  obtain ⟨first, hfirst, hpackage, hpath⟩ := hdeclared List.mem_cons_self
  obtain ⟨second, hsecond, hpackage', hpath'⟩ :=
    hdeclared (List.mem_cons_of_mem _ List.mem_cons_self)
  by_contra! hall
  have htext := hall _ (List.mem_map_of_mem hfirst)
  have htext' := hall _ (List.mem_map_of_mem hsecond)
  -- both are read from the same place
  rw [FileStore.destination, hpath] at htext
  rw [FileStore.destination, hpath'] at htext'
  exact contents_ne_of_packages hpackage hpackage' (Option.some.inj (htext.symm.trans htext'))

end Manifest

end TypeWitness
