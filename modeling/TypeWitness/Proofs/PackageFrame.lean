import Mathlib.Data.List.Perm.Subperm
import TypeWitness.Proofs.GroupsByType
import TypeWitness.Proofs.TargetClashes

/-! # A declaration affects its own package only
Types are told apart by their full names, and targets by names that tell their packages. So a
declaration of a new name changes no target of another package. And when neither a group nor a
container comes of it, it changes no target at all: it only adds problems of its own.

* `Manifest.mem_targets_iff` — which targets are generated.
* `Manifest.collect_cons` — what a declaration of a new name adds to a collection.
* `Manifest.mem_candidates_cons_iff` — the candidates of other packages stay the same.
* `Manifest.generate_insert` — what a declaration of a new name changes. -/

namespace TypeWitness

/-! ## Which targets are generated -/

/-- Targets with increasing names are known by their members. -/
theorem eq_of_increasing_names {targets targets' : List OutputTarget}
    (h : targets.Pairwise fun a b => a.name < b.name)
    (h' : targets'.Pairwise fun a b => a.name < b.name)
    (hmem : ∀ target, target ∈ targets ↔ target ∈ targets') : targets = targets' := by
  have hnodup : ∀ {targets : List OutputTarget},
      (targets.Pairwise fun a b => a.name < b.name) → targets.Nodup := by
    intro targets hincreasing
    refine hincreasing.imp ?_
    rintro a b hlt rfl
    exact String.lt_irrefl _ hlt
  refine List.Perm.eq_of_pairwise (fun a b _ _ hab hba => ?_) h h'
    ((List.perm_ext_iff_of_nodup (hnodup h) (hnodup h')).2 hmem)
  exact absurd (String.lt_trans hab hba) (String.lt_irrefl _)

namespace Manifest

variable {options : GenerationOptions} {manifest : Manifest}

/-- **Which targets are generated**: the least candidate of each name. -/
theorem mem_targets_iff (hholder : isValidIdentifier options.holderName = true)
    {target : OutputTarget} :
    target ∈ (manifest.generate options).targets ↔
      target ∈ manifest.candidates options
      ∧ ∀ other ∈ manifest.candidates options, target.name = other.name →
        (target.priority other).isLE := by
  have hkeeps : KeepsLeast (manifest.candidates options) (manifest.generate options).targets _ :=
    keepsLeast_generate options
  constructor
  · intro hmem
    exact ⟨hkeeps.mem_of_mem_kept hmem, hkeeps.least target hmem⟩
  · rintro ⟨hmem, hleast⟩
    obtain ⟨winner, hwinner, hname⟩ := hkeeps.exists_kept hmem
    have hcandidate := hkeeps.mem_of_mem_kept hwinner
    -- each of the two is no greater than the other, so they are the same
    have hle : (target.order winner).isLE :=
      OutputTarget.order_isLE_iff.2 (.inr ⟨hname.symm, hleast winner hcandidate hname.symm⟩)
    have hge : (winner.order target).isLE :=
      OutputTarget.order_isLE_iff.2 (.inr ⟨hname, hkeeps.least winner hwinner target hmem hname⟩)
    have htie : target.order winner = .eq := Std.OrientedCmp.isLE_antisymm hle hge
    have heq := OutputTarget.eq_of_tie htie
      (path_eq_of_name_eq hholder hmem hcandidate hname.symm)
    rwa [heq]

end Manifest

/-! ## A declaration of a new name -/

/-- No declaration of a list has the name of the given one. -/
def TypeDeclaration.IsNew (declaration : TypeDeclaration) (types : List TypeDeclaration) : Prop :=
  ∀ other ∈ types, other.qualifiedName ≠ declaration.qualifiedName

instance (declaration : TypeDeclaration) (types : List TypeDeclaration) :
    Decidable (declaration.IsNew types) :=
  inferInstanceAs (Decidable (∀ other ∈ types, _))

/-- A declaration of another name does not matter for which declarations count. -/
theorem collectFrom_of_isNew {declaration : TypeDeclaration} {before types : List TypeDeclaration}
    (hnew : declaration.IsNew types) :
    collectFrom (declaration :: before) types = collectFrom before types := by
  induction types generalizing before with
  | nil => rfl
  | cons first rest ih =>
    have hcounts : first.counts (declaration :: before) rest = first.counts before rest := by
      have hne : (declaration.qualifiedName != first.qualifiedName) = true :=
        bne_iff_ne.2 (hnew first List.mem_cons_self).symm
      rw [TypeDeclaration.counts, TypeDeclaration.counts, List.all_cons, hne, Bool.true_or,
        Bool.true_and]
    have hrest : declaration.IsNew rest := fun other hother =>
      hnew other (List.mem_cons_of_mem _ hother)
    rw [collectFrom_cons, collectFrom_cons, TypeDeclaration.contribution, hcounts,
      collectFrom_before_perm (List.Perm.swap declaration first before), ih hrest]
    rfl

namespace Manifest

variable {options : GenerationOptions} {declaration : TypeDeclaration}
  {types : List TypeDeclaration}

/-- **What a declaration of a new name adds** is what it asks for by itself. -/
theorem collect_cons (hnew : declaration.IsNew types) :
    (⟨declaration :: types⟩ : Manifest).collect =
      declaration.collect ++ (⟨types⟩ : Manifest).collect := by
  have hcounts : declaration.counts [] types = true := by
    rw [TypeDeclaration.counts_iff]
    constructor
    · intro other hother
      cases hother
    · intro other hother hname
      exact absurd hname (hnew other hother)
  rw [Manifest.collect, collectFrom_cons, TypeDeclaration.contribution, if_pos hcounts,
    collectFrom_of_isNew hnew]
  rfl

theorem containers_cons (hnew : declaration.IsNew types) :
    (⟨declaration :: types⟩ : Manifest).collect.containers =
      declaration.collect.containers ++ (⟨types⟩ : Manifest).collect.containers := by
  rw [collect_cons hnew]
  rfl

/-- The types of accessors are declared. -/
theorem exists_declaration_of_accessor {manifest : Manifest} {accessor : TokenAccessor}
    (h : accessor ∈ manifest.collect.accessors) :
    ∃ declaration ∈ manifest.types, accessor.owner = declaration.owner := by
  rw [manifest.collect_items.1, List.mem_flatMap] at h
  obtain ⟨declaration, hused, hmem⟩ := h
  exact ⟨declaration, (mem_used_iff.1 hused).1, TypeDeclaration.owner_of_mem_accessors hmem⟩

/-- The accessors that are kept are those of the new declaration and those of the others. -/
theorem kept_cons (hnew : declaration.IsNew types) :
    ∃ own : List TokenAccessor, (∀ accessor ∈ own, accessor.owner = declaration.owner)
      ∧ ∀ packageName,
        packageAccessors packageName (⟨declaration :: types⟩ : Manifest).collect.accessors
            (⟨declaration :: types⟩ : Manifest).collect.rejected =
          own.filter (·.owner.packageName == packageName)
            ++ packageAccessors packageName (⟨types⟩ : Manifest).collect.accessors
              (⟨types⟩ : Manifest).collect.rejected := by
  rw [collect_cons hnew]
  simp only [Collection.accessors_append, Collection.rejected_append, packageAccessors,
    List.filter_append]
  refine ⟨_, fun accessor hmem => TypeDeclaration.owner_of_mem_accessors (List.mem_filter.1 hmem).1,
    fun packageName => congrArg _ (congrArg _ ?_)⟩
  -- the declaration rejects no name but its own
  apply List.filter_congr
  intro accessor haccessor
  obtain ⟨other, hother, howner⟩ := exists_declaration_of_accessor haccessor
  have hne : accessor.owner.qualifiedName ∉ declaration.collect.rejected := by
    intro hmem
    have hname := (TypeDeclaration.exists_element_of_mem_rejected hmem).1
    rw [howner] at hname
    exact hnew other hother hname
  simp [hne]

/-- Another package has the accessors that it has without the declaration. -/
theorem packageAccessors_cons (hnew : declaration.IsNew types) {packageName : String}
    (hne : packageName ≠ declaration.packageName) :
    packageAccessors packageName (⟨declaration :: types⟩ : Manifest).collect.accessors
        (⟨declaration :: types⟩ : Manifest).collect.rejected =
      packageAccessors packageName (⟨types⟩ : Manifest).collect.accessors
        (⟨types⟩ : Manifest).collect.rejected := by
  obtain ⟨own, howner, hkept⟩ := kept_cons hnew
  have hnone : own.filter (·.owner.packageName == packageName) = [] := by
    rw [List.filter_eq_nil_iff]
    intro accessor haccessor
    rw [howner accessor haccessor]
    simpa using hne.symm
  rw [hkept, hnone, List.nil_append]

/-- Another type has the accessors that it has without the declaration. -/
theorem typeAccessors_cons (hnew : declaration.IsNew types) {packageName simpleName : String}
    (hne : qualify packageName simpleName ≠ declaration.qualifiedName) :
    typeAccessors packageName simpleName (⟨declaration :: types⟩ : Manifest).collect.accessors
        (⟨declaration :: types⟩ : Manifest).collect.rejected =
      typeAccessors packageName simpleName (⟨types⟩ : Manifest).collect.accessors
        (⟨types⟩ : Manifest).collect.rejected := by
  obtain ⟨own, howner, hkept⟩ := kept_cons hnew
  have hnone : (own.filter (·.owner.packageName == packageName)).filter
      (·.owner.simpleName == simpleName) = [] := by
    rw [List.filter_filter, List.filter_eq_nil_iff]
    intro accessor haccessor hkept
    rw [howner accessor haccessor] at hkept
    simp only [TypeDeclaration.simpleName_owner, TypeDeclaration.packageName_owner,
      Bool.and_eq_true, beq_iff_eq] at hkept
    apply hne
    rw [TypeDeclaration.qualifiedName, hkept.1, hkept.2]
  rw [← accessorsOf_packageAccessors, ← accessorsOf_packageAccessors, hkept, accessorsOf,
    List.filter_append, hnone, List.nil_append]
  rfl

/-- Without the declaration there are no accessors of its name. -/
theorem typeAccessors_of_isNew (hnew : declaration.IsNew types) {packageName simpleName : String}
    (heq : qualify packageName simpleName = declaration.qualifiedName) :
    typeAccessors packageName simpleName (⟨types⟩ : Manifest).collect.accessors
      (⟨types⟩ : Manifest).collect.rejected = [] := by
  rw [List.eq_nil_iff_forall_not_mem]
  intro accessor hmem
  obtain ⟨hmem, -, hpackage, hsimple⟩ := mem_typeAccessors.1 hmem
  obtain ⟨other, hother, howner⟩ := exists_declaration_of_accessor hmem
  apply hnew other hother
  rw [← TypeDeclaration.qualifiedName_owner, ← howner, OwningType.qualifiedName, hpackage, hsimple,
    heq]

/-! ## Candidates -/

/-- **The candidates of other packages stay the same.** -/
theorem mem_candidates_cons_iff (hholder : isValidIdentifier options.holderName = true)
    (hnew : declaration.IsNew types) {target : OutputTarget}
    (hne : target.packageName ≠ declaration.packageName) :
    target ∈ (⟨declaration :: types⟩ : Manifest).candidates options ↔
      target ∈ (⟨types⟩ : Manifest).candidates options := by
  have hpackage : ∀ package : PackageGroup, package.packageName ≠ declaration.packageName →
      (package ∈ (⟨declaration :: types⟩ : Manifest).grouping.packages ↔
        package ∈ (⟨types⟩ : Manifest).grouping.packages) := by
    intro package hother
    rw [grouping, grouping, mem_packages_groupAccessors, mem_packages_groupAccessors,
      packageAccessors_cons hnew hother]
  rw [candidates, candidates, List.mem_append, List.mem_append]
  refine or_congr ?_ ?_
  · -- holders of other packages
    simp only [List.mem_map]
    constructor
    · rintro ⟨package, hmem, rfl⟩
      rw [package.packageName_target hholder] at hne
      exact ⟨package, (hpackage package hne).1 hmem, rfl⟩
    · rintro ⟨package, hmem, rfl⟩
      rw [package.packageName_target hholder] at hne
      exact ⟨package, (hpackage package hne).2 hmem, rfl⟩
  · -- containers of other packages
    rw [containers_cons hnew, List.map_append, List.mem_append, or_iff_right]
    intro hmem
    obtain ⟨container, hcontainer, rfl⟩ := List.mem_map.1 hmem
    have hown : container ∈ (⟨declaration :: types⟩ : Manifest).collect.containers := by
      rw [containers_cons hnew]
      exact List.mem_append_left _ hcontainer
    rw [packageName_target_container options hown] at hne
    rw [TypeDeclaration.declaringType_of_mem_containers hcontainer] at hne
    exact hne rfl

/-- **The targets of other packages stay the same.** -/
theorem targets_cons (hholder : isValidIdentifier options.holderName = true)
    (hnew : declaration.IsNew types) :
    ((⟨declaration :: types⟩ : Manifest).generate options).targets.filter
        (·.packageName != declaration.packageName) =
      ((⟨types⟩ : Manifest).generate options).targets.filter
        (·.packageName != declaration.packageName) := by
  have hincreasing : ∀ manifest : Manifest, ((manifest.generate options).targets.filter
      (·.packageName != declaration.packageName)).Pairwise fun a b => a.name < b.name :=
    fun manifest => (keepsLeast_generate options).increasing.filter _
  refine eq_of_increasing_names (hincreasing _) (hincreasing _) fun target => ?_
  rw [List.mem_filter, List.mem_filter]
  refine and_congr_left fun hne => ?_
  rw [bne_iff_ne] at hne
  rw [mem_targets_iff hholder, mem_targets_iff hholder, mem_candidates_cons_iff hholder hnew hne]
  refine and_congr_right fun _ => forall_congr' fun other => ?_
  -- a target of the same name belongs to the same package
  have hother : target.name = other.name → (other ∈ (⟨declaration :: types⟩ : Manifest).candidates
      options ↔ other ∈ (⟨types⟩ : Manifest).candidates options) := by
    intro hname
    refine mem_candidates_cons_iff hholder hnew ?_
    rwa [OutputTarget.packageName, ← hname]
  constructor
  · intro h hmem hname
    exact h ((hother hname).2 hmem) hname
  · intro h hmem hname
    exact h ((hother hname).1 hmem) hname

/-! ## A declaration that nothing comes of -/

/-- Nothing is generated from a type of the given name: it is not accepted, and it has no
container. -/
structure GeneratesNothingOf (manifest : Manifest) (name : String) : Prop where
  groups : ∀ package ∈ manifest.grouping.packages, ∀ group ∈ package.types,
    group.owner.qualifiedName ≠ name
  containers : ∀ container ∈ manifest.collect.containers,
    container.declaringType.qualifiedName ≠ name

/-- A type that nothing is generated from is not accepted. -/
theorem GeneratesNothingOf.groupType_eq_none {manifest : Manifest} {packageName simpleName : String}
    (h : manifest.GeneratesNothingOf (qualify packageName simpleName)) :
    (groupType (typeAccessors packageName simpleName manifest.collect.accessors
      manifest.collect.rejected)).1 = none := by
  rw [Option.eq_none_iff_forall_ne_some]
  intro group hgroup
  obtain ⟨package, hpackage, -, hmem⟩ := exists_group_iff.2 ⟨simpleName, hgroup⟩
  apply h.groups package hpackage group hmem
  -- the group has the name of its accessors' owner
  obtain ⟨-, first, rest, heq, rfl⟩ := groupType_eq_some_iff.1 hgroup
  obtain ⟨-, -, hpackageName, hsimpleName⟩ := mem_typeAccessors.1 (heq ▸ List.mem_cons_self)
  rw [OwningType.qualifiedName, hpackageName, hsimpleName]

/-- Such a declaration leaves the groups and the containers as they are. -/
theorem candidates_cons_of_nothing (hnew : declaration.IsNew types)
    (hnothing : (⟨declaration :: types⟩ : Manifest).GeneratesNothingOf
      declaration.qualifiedName) :
    (⟨declaration :: types⟩ : Manifest).candidates options =
      (⟨types⟩ : Manifest).candidates options := by
  have hpackages : (⟨declaration :: types⟩ : Manifest).grouping.packages =
      (⟨types⟩ : Manifest).grouping.packages := by
    apply packages_groupAccessors_congr
    intro packageName simpleName
    by_cases hname : qualify packageName simpleName = declaration.qualifiedName
    · rw [← hname] at hnothing
      rw [hnothing.groupType_eq_none, typeAccessors_of_isNew hnew hname, groupType_nil]
    · rw [typeAccessors_cons hnew hname]
  have hnone : declaration.collect.containers = [] := by
    rw [List.eq_nil_iff_forall_not_mem]
    intro container hmem
    apply hnothing.containers container
    · rw [containers_cons hnew]
      exact List.mem_append_left _ hmem
    · rw [TypeDeclaration.declaringType_of_mem_containers hmem,
        TypeDeclaration.qualifiedName_owner]
  rw [candidates, candidates, hpackages, containers_cons hnew, hnone, List.nil_append]

/-- **Such a declaration only adds problems**, and they are its own. -/
theorem generate_cons_of_nothing (options : GenerationOptions) (hnew : declaration.IsNew types)
    (hnothing : (⟨declaration :: types⟩ : Manifest).GeneratesNothingOf
      declaration.qualifiedName) :
    ((⟨declaration :: types⟩ : Manifest).generate options).targets =
        ((⟨types⟩ : Manifest).generate options).targets
    ∧ (((⟨types⟩ : Manifest).generate options).diagnostics).Sublist
        ((⟨declaration :: types⟩ : Manifest).generate options).diagnostics := by
  have hcollect : ((⟨types⟩ : Manifest).collect.diagnostics).Sublist
      (⟨declaration :: types⟩ : Manifest).collect.diagnostics := by
    rw [collect_cons hnew]
    exact List.sublist_append_right _ _
  have hgrouping : ((⟨types⟩ : Manifest).grouping.diagnostics).Sublist
      (⟨declaration :: types⟩ : Manifest).grouping.diagnostics := by
    apply diagnostics_groupAccessors_sublist
    intro packageName simpleName
    by_cases hname : qualify packageName simpleName = declaration.qualifiedName
    · rw [typeAccessors_of_isNew hnew hname, groupType_nil]
      exact List.nil_sublist _
    · rw [typeAccessors_cons hnew hname]
  rw [generate_eq, generate_eq, candidates_cons_of_nothing hnew hnothing]
  exact ⟨rfl, (hcollect.append hgrouping).append (List.Sublist.refl _)⟩

/-! ## A declaration in any place -/

/-- Manifests with the same contents generate nothing of the same names. -/
theorem GeneratesNothingOf.of_sameContents {a b : Manifest} {name : String}
    (h : a.GeneratesNothingOf name) (hsame : Collection.SameContents a.collect b.collect) :
    b.GeneratesNothingOf name := by
  have hpackages : a.grouping.packages = b.grouping.packages :=
    (groupAccessors_perm hsame.accessors fun name => hsame.rejected.mem_iff (a := name)).1
  constructor
  · rw [← hpackages]
    exact h.groups
  · intro container hmem
    exact h.containers container (hsame.containers.mem_iff.2 hmem)

/-- **A declaration affects its own package only.** A declaration of a new name, wherever it stands
in the manifest, changes no target of another package. If nothing is generated from it, it changes
no target, and all that is reported without it is reported with it, too. -/
theorem generate_insert (options : GenerationOptions)
    (hholder : isValidIdentifier options.holderName = true) (before after : List TypeDeclaration)
    (declaration : TypeDeclaration) (hnew : declaration.IsNew (before ++ after)) :
    let without := (⟨before ++ after⟩ : Manifest).generate options
    let inserted := (⟨before ++ declaration :: after⟩ : Manifest).generate options
    inserted.targets.filter (·.packageName != declaration.packageName) =
        without.targets.filter (·.packageName != declaration.packageName)
    ∧ ((⟨before ++ declaration :: after⟩ : Manifest).GeneratesNothingOf
          declaration.qualifiedName →
        inserted.targets = without.targets
        ∧ without.diagnostics.Subperm inserted.diagnostics) := by
  intro without inserted
  -- the declaration may as well stand in front
  have hsame : Collection.SameContents (⟨before ++ declaration :: after⟩ : Manifest).collect
      (⟨declaration :: (before ++ after)⟩ : Manifest).collect :=
    collectFrom_perm List.perm_middle
  obtain ⟨htargets, hdiagnostics⟩ := generate_of_sameContents hholder hsame
  constructor
  · show ((⟨before ++ declaration :: after⟩ : Manifest).generate options).targets.filter _ = _
    rw [htargets]
    exact targets_cons hholder hnew
  · intro hnothing
    obtain ⟨hequal, hsublist⟩ :=
      generate_cons_of_nothing options hnew (hnothing.of_sameContents hsame)
    exact ⟨htargets.trans hequal, hsublist.subperm.trans hdiagnostics.symm.subperm⟩

/-- Nothing is generated from a type with an accessor that is wrong by itself, unless the type asks
for a container. -/
theorem generatesNothingOf_of_problem {manifest : Manifest} (hused : declaration ∈ manifest.used)
    (hproblem : ∃ accessor ∈ declaration.collect.accessors, accessor.problem? ≠ none)
    (hcontainers : declaration.collect.containers = []) :
    manifest.GeneratesNothingOf declaration.qualifiedName where
  groups := by
    intro package hpackage group hgroup hname
    obtain ⟨other, hother, -, howner, haccessors, -, hnone⟩ :=
      exists_declaration_of_group hpackage hgroup
    rw [howner, TypeDeclaration.qualifiedName_owner] at hname
    obtain rfl := eq_of_mem_used hother hused hname
    obtain ⟨accessor, haccessor, hsome⟩ := hproblem
    have hmem : accessor ∈ group.accessors := by
      rw [haccessors]
      exact List.mem_mergeSort.2 haccessor
    exact hsome (((accessorProblems_eq_nil_iff [] group.accessors).1 hnone).1 accessor hmem).1
  containers := by
    intro container hmem hname
    rw [manifest.collect_items.2.1, List.mem_flatMap] at hmem
    obtain ⟨other, hother, hmem⟩ := hmem
    rw [TypeDeclaration.declaringType_of_mem_containers hmem,
      TypeDeclaration.qualifiedName_owner] at hname
    obtain rfl := eq_of_mem_used hother hused hname
    rw [hcontainers] at hmem
    cases hmem

/-- A type whose accessor has no type arguments in its return type. -/
def brokenDeclaration : TypeDeclaration :=
  { relationDeclaration with
    name := "Broken"
    markers := []
    members := [⟨"getLeft", .method, some "A", [], [], [.typeToken]⟩] }

/-- A declaration of another package, whose container is generated. -/
def distantDeclaration : TypeDeclaration :=
  { orderedDeclaration with packageName := "demo" }

/-- The broken type stands between one of its own package and one of another. -/
theorem generate_insert_broken :
    let without : Manifest := ⟨[relationDeclaration] ++ [distantDeclaration]⟩
    let inserted : Manifest := ⟨[relationDeclaration] ++ brokenDeclaration :: [distantDeclaration]⟩
    isValidIdentifier GenerationOptions.standard.holderName = true
    ∧ brokenDeclaration.IsNew ([relationDeclaration] ++ [distantDeclaration])
    ∧ (∃ target ∈ (without.generate .standard).targets.filter (·.packageName != "model"),
      target.name = "demo.RelationMap")
    ∧ (inserted.generate .standard).targets.filter (·.packageName != "model") =
      (without.generate .standard).targets.filter (·.packageName != "model")
    ∧ inserted.GeneratesNothingOf "model.Broken"
    ∧ (inserted.generate .standard).targets = (without.generate .standard).targets
    ∧ (without.generate .standard).diagnostics.Subperm
      (inserted.generate .standard).diagnostics := by
  intro without inserted
  have hholder : isValidIdentifier GenerationOptions.standard.holderName = true := by
    decide +kernel
  have hnew : brokenDeclaration.IsNew ([relationDeclaration] ++ [distantDeclaration]) := by
    decide +kernel
  have hdistant : ∃ target ∈ (without.generate .standard).targets.filter
      (·.packageName != "model"), target.name = "demo.RelationMap" := by
    have hcontainer : ∃ container ∈ without.collect.containers,
        container.qualifiedClassName = "demo.RelationMap" := by decide +kernel
    obtain ⟨container, hcontainer, hname⟩ := hcontainer
    have hcandidate : container.target .standard ∈ without.candidates .standard :=
      List.mem_append_right _ (List.mem_map_of_mem hcontainer)
    obtain ⟨target, htarget, htargetName⟩ := exists_target_of_candidate hcandidate
    rw [show (container.target .standard).name = container.qualifiedClassName from rfl,
      hname] at htargetName
    refine ⟨target, List.mem_filter.2 ⟨htarget, ?_⟩, htargetName⟩
    rw [OutputTarget.packageName, htargetName]
    decide +kernel
  have hname : brokenDeclaration.qualifiedName = "model.Broken" := by decide +kernel
  have hnothing : inserted.GeneratesNothingOf brokenDeclaration.qualifiedName := by
    refine generatesNothingOf_of_problem ?_ ?_ ?_ <;> decide +kernel
  obtain ⟨hothers, hsame⟩ := generate_insert .standard hholder _ _ brokenDeclaration hnew
  exact ⟨hholder, hnew, hdistant, hothers, hname ▸ hnothing, hsame hnothing⟩

end Manifest

end TypeWitness
