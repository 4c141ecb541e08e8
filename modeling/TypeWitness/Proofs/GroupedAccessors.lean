import TypeWitness.Proofs.CollectedMarkers
import TypeWitness.Proofs.SortedAccessors
import TypeWitness.Proofs.TargetNames

/-! # The groups of a manifest
A group has the accessors of one declaration: of a used one that is not rejected, and of no other.
What is said about groups of accessors in general is put together here with what is known about the
accessors of a manifest.

* `exists_group_iff` — the groups are the accepted types.
* `mem_diagnostics_groupAccessors` — the problems are those of types that are not accepted.
* `Manifest.exists_declaration_of_group` — where a group of a manifest comes from.
* `Manifest.exists_group_or_diagnostic` — a declaration with accessors has a group or a problem. -/

namespace TypeWitness

/-! ## Groups of accessors -/

/-- The accessors of one type, in the order of their names, unless the type is rejected. -/
def typeAccessors (packageName simpleName : String) (accessors : List TokenAccessor)
    (rejected : List String) : List TokenAccessor :=
  accessorsOf simpleName ((accessors.filter fun accessor =>
    !rejected.contains accessor.owner.qualifiedName).filter (·.owner.packageName == packageName))

theorem mem_typeAccessors {packageName simpleName : String} {accessors : List TokenAccessor}
    {rejected : List String} {accessor : TokenAccessor} :
    accessor ∈ typeAccessors packageName simpleName accessors rejected ↔
      accessor ∈ accessors ∧ accessor.owner.qualifiedName ∉ rejected
      ∧ accessor.owner.packageName = packageName ∧ accessor.owner.simpleName = simpleName := by
  rw [typeAccessors, mem_accessorsOf, List.mem_filter, List.mem_filter, beq_iff_eq]
  simp [and_assoc]

/-- A group is that of accessors without problems. -/
theorem groupType_eq_some_iff {accessors : List TokenAccessor} {group : TypeGroup} :
    (groupType accessors).1 = some group ↔
      accessorProblems [] accessors = []
      ∧ ∃ first rest, accessors = first :: rest ∧ group = ⟨first.owner, accessors⟩ := by
  cases accessors with
  | nil => simp
  | cons first rest =>
    by_cases hproblems : accessorProblems [] (first :: rest) = []
    · rw [groupType_of_no_problems hproblems]
      simp [hproblems, eq_comm]
    · rw [groupType_of_problems hproblems]
      simp [hproblems]

/-- A type that has a group has accessors. -/
theorem ne_nil_of_groupType_eq_some {accessors : List TokenAccessor} {group : TypeGroup}
    (h : (groupType accessors).1 = some group) : accessors ≠ [] := by
  obtain ⟨-, first, rest, rfl, -⟩ := groupType_eq_some_iff.1 h
  exact List.cons_ne_nil first rest

/-- A type that has a problem has accessors. -/
theorem ne_nil_of_mem_snd_groupType {accessors : List TokenAccessor} {diagnostic : Diagnostic}
    (h : diagnostic ∈ (groupType accessors).2) : accessors ≠ [] := by
  rintro rfl
  rw [groupType_nil] at h
  cases h

/-- A type that has accessors is one of the types that are looked at. -/
theorem mem_sortedNames_of_accessorsOf {simpleName : String} {accessors : List TokenAccessor}
    (h : accessorsOf simpleName accessors ≠ []) :
    simpleName ∈ sortedNames (accessors.map (·.owner.simpleName)) := by
  obtain ⟨accessor, haccessor⟩ := List.exists_mem_of_ne_nil _ h
  obtain ⟨hmem, hname⟩ := mem_accessorsOf.1 haccessor
  exact mem_sortedNames.2 (List.mem_map.2 ⟨accessor, hmem, hname⟩)

theorem packageName_of_mem_groupPackage {packageName : String} {accessors : List TokenAccessor}
    {package : PackageGroup} (h : package ∈ (groupPackage packageName accessors).packages) :
    package.packageName = packageName := by
  simp only [groupPackage] at h
  split at h
  · cases h
  · rw [List.mem_singleton.1 h]

/-- The types of a package are the accepted ones. -/
theorem exists_type_iff {packageName : String} {accessors : List TokenAccessor}
    {group : TypeGroup} :
    (∃ package ∈ (groupPackage packageName accessors).packages, group ∈ package.types) ↔
      ∃ simpleName, (groupType (accessorsOf simpleName
        (accessors.filter (·.owner.packageName == packageName)))).1 = some group := by
  simp only [groupPackage]
  generalize accessors.filter (·.owner.packageName == packageName) = own
  have hiff : group ∈ ((sortedNames (own.map (·.owner.simpleName))).map fun simpleName =>
      groupType (accessorsOf simpleName own)).filterMap Prod.fst ↔
      ∃ simpleName, (groupType (accessorsOf simpleName own)).1 = some group := by
    rw [List.filterMap_map, List.mem_filterMap]
    constructor
    · rintro ⟨simpleName, -, h⟩
      exact ⟨simpleName, h⟩
    · rintro ⟨simpleName, h⟩
      have hname := mem_sortedNames_of_accessorsOf (ne_nil_of_groupType_eq_some h)
      exact ⟨simpleName, hname, h⟩
  rw [← hiff]
  split
  · next hempty => simp [List.isEmpty_iff.1 hempty]
  · simp

/-- The problems of a package are those of its types. -/
theorem mem_diagnostics_groupPackage {packageName : String} {accessors : List TokenAccessor}
    {diagnostic : Diagnostic} :
    diagnostic ∈ (groupPackage packageName accessors).diagnostics ↔
      ∃ simpleName, diagnostic ∈ (groupType (accessorsOf simpleName
        (accessors.filter (·.owner.packageName == packageName)))).2 := by
  simp only [groupPackage]
  generalize accessors.filter (·.owner.packageName == packageName) = own
  rw [List.flatMap_map, List.mem_flatMap]
  constructor
  · rintro ⟨simpleName, -, h⟩
    exact ⟨simpleName, h⟩
  · rintro ⟨simpleName, h⟩
    have hname := mem_sortedNames_of_accessorsOf (ne_nil_of_mem_snd_groupType h)
    exact ⟨simpleName, hname, h⟩

/-- The package of a type with accessors is one of the packages that are looked at. -/
theorem mem_sortedNames_of_typeAccessors {packageName simpleName : String}
    {accessors : List TokenAccessor} {rejected : List String}
    (h : typeAccessors packageName simpleName accessors rejected ≠ []) :
    packageName ∈ sortedNames ((accessors.filter fun accessor =>
      !rejected.contains accessor.owner.qualifiedName).map (·.owner.packageName)) := by
  obtain ⟨accessor, haccessor⟩ := List.exists_mem_of_ne_nil _ h
  rw [typeAccessors, mem_accessorsOf, List.mem_filter, beq_iff_eq] at haccessor
  obtain ⟨⟨hmem, hpackage⟩, -⟩ := haccessor
  exact mem_sortedNames.2 (List.mem_map.2 ⟨accessor, hmem, hpackage⟩)

/-- **The groups are the accepted types.** -/
theorem exists_group_iff {packageName : String} {accessors : List TokenAccessor}
    {rejected : List String} {group : TypeGroup} :
    (∃ package ∈ (groupAccessors accessors rejected).packages,
      package.packageName = packageName ∧ group ∈ package.types) ↔
      ∃ simpleName,
        (groupType (typeAccessors packageName simpleName accessors rejected)).1 = some group := by
  simp only [groupAccessors, List.flatMap_map, List.mem_flatMap]
  constructor
  · rintro ⟨package, ⟨name, -, hpackage⟩, hname, hgroup⟩
    rw [packageName_of_mem_groupPackage hpackage] at hname
    subst hname
    exact exists_type_iff.1 ⟨package, hpackage, hgroup⟩
  · rintro ⟨simpleName, h⟩
    obtain ⟨package, hpackage, hgroup⟩ := exists_type_iff.2 ⟨simpleName, h⟩
    have hname := mem_sortedNames_of_typeAccessors (ne_nil_of_groupType_eq_some h)
    exact ⟨package, ⟨packageName, hname, hpackage⟩,
      packageName_of_mem_groupPackage hpackage, hgroup⟩

/-- **The problems are those of types that are not accepted.** -/
theorem mem_diagnostics_groupAccessors {accessors : List TokenAccessor} {rejected : List String}
    {diagnostic : Diagnostic} :
    diagnostic ∈ (groupAccessors accessors rejected).diagnostics ↔
      ∃ packageName simpleName, diagnostic ∈
        (groupType (typeAccessors packageName simpleName accessors rejected)).2 := by
  simp only [groupAccessors, List.flatMap_map, List.mem_flatMap]
  constructor
  · rintro ⟨packageName, -, h⟩
    exact ⟨packageName, mem_diagnostics_groupPackage.1 h⟩
  · rintro ⟨packageName, simpleName, h⟩
    have hname := mem_sortedNames_of_typeAccessors (ne_nil_of_mem_snd_groupType h)
    exact ⟨packageName, hname, mem_diagnostics_groupPackage.2 ⟨simpleName, h⟩⟩

/-! ## The problems of accessors -/

/-- The codes of the problems that grouping reports. -/
def groupingCodes : List Nat := [1001, 1002, 1003]

/-- The problem of an accessor by itself is one of its type. -/
theorem TokenAccessor.code_of_problem? {accessor : TokenAccessor} {problem : Problem}
    (h : accessor.problem? = some problem) : problem.code ∈ groupingCodes := by
  unfold problem? at h
  split at h
  · cases h
    simp [Problem.code, groupingCodes]
  · split at h <;> cases h
    simp [Problem.code, groupingCodes]

/-- A problem of accessors names one of them, and is one that grouping reports. -/
theorem exists_element_of_mem_accessorProblems {seen : List (String × String)}
    {accessors : List TokenAccessor} {diagnostic : Diagnostic}
    (h : diagnostic ∈ accessorProblems seen accessors) :
    (∃ accessor ∈ accessors, diagnostic.element? = some accessor.elementName)
    ∧ diagnostic.code ∈ groupingCodes := by
  induction accessors generalizing seen with
  | nil => cases h
  | cons first accessors ih =>
    -- a problem is that of a later accessor, whatever was seen, or one of the first
    have hrest : ∀ {seen : List (String × String)}, diagnostic ∈ accessorProblems seen accessors →
        (∃ accessor ∈ first :: accessors, diagnostic.element? = some accessor.elementName)
        ∧ diagnostic.code ∈ groupingCodes := by
      intro seen h
      obtain ⟨⟨accessor, haccessor, helement⟩, hcode⟩ := ih h
      exact ⟨⟨accessor, List.mem_cons_of_mem _ haccessor, helement⟩, hcode⟩
    have hown : ∀ {problem : Problem}, problem.code ∈ groupingCodes →
        diagnostic = problem.diagnostic first.elementName →
        (∃ accessor ∈ first :: accessors, diagnostic.element? = some accessor.elementName)
        ∧ diagnostic.code ∈ groupingCodes := by
      intro problem hcode heq
      rw [heq, Problem.diagnostic_element, Problem.diagnostic_code]
      exact ⟨⟨first, List.mem_cons_self, rfl⟩, hcode⟩
    simp only [accessorProblems] at h
    cases hproblem : first.problem? with
    | some problem =>
      rw [hproblem, List.mem_cons] at h
      exact h.elim (hown (TokenAccessor.code_of_problem? hproblem)) hrest
    | none =>
      rw [hproblem] at h
      cases hseen : seen.lookup first.tokenName.upper with
      | some previous =>
        rw [hseen, List.mem_cons] at h
        exact h.elim (hown (by simp [Problem.code, groupingCodes])) hrest
      | none =>
        rw [hseen] at h
        exact hrest h

/-- What is wrong with a type are the problems of its accessors. -/
theorem snd_groupType (accessors : List TokenAccessor) :
    (groupType accessors).2 = accessorProblems [] accessors := by
  cases accessors with
  | nil => rfl
  | cons first rest =>
    by_cases hproblems : accessorProblems [] (first :: rest) = []
    · rw [groupType_of_no_problems hproblems, hproblems]
    · rw [groupType_of_problems hproblems]

/-! ## Groups of a manifest -/

/-- The accessors that a declaration asks for are its own. -/
theorem TypeDeclaration.owner_of_mem_accessors {declaration : TypeDeclaration}
    {accessor : TokenAccessor} (h : accessor ∈ declaration.collect.accessors) :
    accessor.owner = declaration.owner := by
  obtain ⟨-, member, -, returnType, -, rfl⟩ := mem_accessors_collect h
  rfl

@[simp] theorem TypeDeclaration.packageName_owner (declaration : TypeDeclaration) :
    declaration.owner.packageName = declaration.packageName := rfl

@[simp] theorem TypeDeclaration.simpleName_owner (declaration : TypeDeclaration) :
    declaration.owner.simpleName = declaration.name := rfl

@[simp] theorem TypeDeclaration.qualifiedName_owner (declaration : TypeDeclaration) :
    declaration.owner.qualifiedName = declaration.qualifiedName := rfl

namespace Manifest

variable {manifest : Manifest} {declaration : TypeDeclaration}

/-- Grouping reports problems of its own kind only. -/
theorem code_of_mem_grouping {diagnostic : Diagnostic}
    (h : diagnostic ∈ manifest.grouping.diagnostics) : diagnostic.code ∈ groupingCodes := by
  obtain ⟨packageName, simpleName, h⟩ := mem_diagnostics_groupAccessors.1 h
  rw [snd_groupType] at h
  exact (exists_element_of_mem_accessorProblems h).2

/-- A used declaration that rejects nothing is not rejected. -/
theorem not_mem_rejected (hused : declaration ∈ manifest.used)
    (hrejected : declaration.collect.rejected = []) :
    declaration.qualifiedName ∉ manifest.collect.rejected := by
  intro hmem
  rw [manifest.collect_items.2.2, List.mem_flatMap] at hmem
  obtain ⟨other, hother, hmem⟩ := hmem
  have hname := (TypeDeclaration.exists_element_of_mem_rejected hmem).1
  rw [← eq_of_mem_used hused hother hname, hrejected] at hmem
  cases hmem

/-- The accessors of a type in a manifest are those of the used declaration with its name. -/
theorem typeAccessors_eq (hused : declaration ∈ manifest.used)
    (hrejected : declaration.collect.rejected = []) :
    typeAccessors declaration.packageName declaration.name manifest.collect.accessors
        manifest.collect.rejected =
      declaration.collect.accessors.mergeSort fun a b => a.name ≤ b.name := by
  rw [typeAccessors, accessorsOf, List.filter_filter, List.filter_filter,
    manifest.collect_items.1]
  congr 1
  -- what is kept are the accessors of this declaration, as only it has its name
  refine filter_flatMap_eq manifest.nodup_used hused ?_ ?_
  · intro accessor haccessor
    rw [TypeDeclaration.owner_of_mem_accessors haccessor]
    simpa using not_mem_rejected hused hrejected
  · intro other _ hne accessor haccessor
    rw [TypeDeclaration.owner_of_mem_accessors haccessor, Bool.eq_false_iff]
    intro hkept
    simp only [Bool.and_eq_true, beq_iff_eq, TypeDeclaration.simpleName_owner,
      TypeDeclaration.packageName_owner] at hkept
    obtain ⟨⟨hname, hpackage⟩, -⟩ := hkept
    rw [TypeDeclaration.qualifiedName, TypeDeclaration.qualifiedName, hname, hpackage] at hne
    exact hne rfl

/-- **Where a group of a manifest comes from.** Its accessors are those of a used declaration, in
the order of their names, and they have no problems. -/
theorem exists_declaration_of_group {package : PackageGroup} {group : TypeGroup}
    (hpackage : package ∈ manifest.grouping.packages) (hgroup : group ∈ package.types) :
    ∃ declaration ∈ manifest.used, package.packageName = declaration.packageName
      ∧ group.owner = declaration.owner
      ∧ group.accessors = declaration.collect.accessors.mergeSort (fun a b => a.name ≤ b.name)
      ∧ group.accessors ≠ [] ∧ accessorProblems [] group.accessors = [] := by
  obtain ⟨simpleName, h⟩ := exists_group_iff.1 ⟨package, hpackage, rfl, hgroup⟩
  obtain ⟨hproblems, first, rest, heq, rfl⟩ := groupType_eq_some_iff.1 h
  have hfirst := mem_typeAccessors.1 (heq ▸ List.mem_cons_self)
  obtain ⟨hmem, hnotRejected, hpackageName, hsimpleName⟩ := hfirst
  have hmem' := hmem
  rw [manifest.collect_items.1, List.mem_flatMap] at hmem'
  -- the first accessor tells which declaration has them all
  obtain ⟨declaration, hused, haccessor⟩ := hmem'
  have howner := TypeDeclaration.owner_of_mem_accessors haccessor
  have hrejected : declaration.collect.rejected = [] := by
    -- a declaration rejects nothing but itself
    refine List.eq_nil_iff_forall_not_mem.2 fun name hname => hnotRejected ?_
    have hqualified := (TypeDeclaration.exists_element_of_mem_rejected hname).1
    subst hqualified
    rw [howner, manifest.collect_items.2.2, List.mem_flatMap]
    exact ⟨declaration, hused, hname⟩
  rw [howner, TypeDeclaration.packageName_owner] at hpackageName
  rw [howner, TypeDeclaration.simpleName_owner] at hsimpleName
  rw [← hpackageName, ← hsimpleName, typeAccessors_eq hused hrejected] at heq hproblems
  rw [← hpackageName, ← hsimpleName, typeAccessors_eq hused hrejected]
  refine ⟨declaration, hused, rfl, howner, rfl, ?_, hproblems⟩
  rw [heq]
  exact List.cons_ne_nil _ _

/-- Accessors without problems have a group. -/
theorem exists_group_of_no_problems (hused : declaration ∈ manifest.used)
    (hrejected : declaration.collect.rejected = [])
    (haccessors : declaration.collect.accessors ≠ [])
    (hproblems : accessorProblems []
      (declaration.collect.accessors.mergeSort fun a b => a.name ≤ b.name) = []) :
    ∃ package ∈ manifest.grouping.packages, package.packageName = declaration.packageName
      ∧ ∃ group ∈ package.types, group.owner = declaration.owner
        ∧ group.accessors =
          declaration.collect.accessors.mergeSort fun a b => a.name ≤ b.name := by
  have hall := typeAccessors_eq hused hrejected
  cases hsorted : declaration.collect.accessors.mergeSort fun a b => a.name ≤ b.name with
  | nil =>
    have hperm := List.mergeSort_perm declaration.collect.accessors fun a b => a.name ≤ b.name
    rw [hsorted, List.nil_perm] at hperm
    exact absurd hperm haccessors
  | cons first rest =>
    have hmem : first ∈ declaration.collect.accessors.mergeSort fun a b => a.name ≤ b.name := by
      rw [hsorted]
      exact List.mem_cons_self
    have hfirst := List.mem_mergeSort.1 hmem
    rw [hsorted] at hproblems hall
    have hgroup := groupType_of_no_problems hproblems
    rw [← hall] at hgroup
    obtain ⟨package, hpackage, hname, hmem⟩ :=
      exists_group_iff.2 ⟨declaration.name, congrArg Prod.fst hgroup⟩
    exact ⟨package, hpackage, hname, _, hmem, TypeDeclaration.owner_of_mem_accessors hfirst, hall⟩

/-- **A declaration with accessors has a group or a problem**, unless it is rejected. -/
theorem exists_group_or_diagnostic (hused : declaration ∈ manifest.used)
    (hrejected : declaration.collect.rejected = [])
    (haccessors : declaration.collect.accessors ≠ []) :
    (∃ package ∈ manifest.grouping.packages, package.packageName = declaration.packageName
      ∧ ∃ group ∈ package.types, group.owner = declaration.owner
        ∧ group.accessors = declaration.collect.accessors.mergeSort fun a b => a.name ≤ b.name)
    ∨ ∃ diagnostic ∈ manifest.grouping.diagnostics, ∃ accessor ∈ declaration.collect.accessors,
      diagnostic.element? = some accessor.elementName := by
  by_cases hproblems : accessorProblems []
      (declaration.collect.accessors.mergeSort fun a b => a.name ≤ b.name) = []
  · exact .inl (exists_group_of_no_problems hused hrejected haccessors hproblems)
  · obtain ⟨diagnostic, hdiagnostic⟩ := List.exists_mem_of_ne_nil _ hproblems
    obtain ⟨⟨accessor, haccessor, helement⟩, -⟩ :=
      exists_element_of_mem_accessorProblems hdiagnostic
    refine .inr ⟨diagnostic, mem_diagnostics_groupAccessors.2
      ⟨declaration.packageName, declaration.name, ?_⟩, accessor, List.mem_mergeSort.1 haccessor,
      helement⟩
    rw [typeAccessors_eq hused hrejected, snd_groupType]
    exact hdiagnostic

/-- The accessors of a group are accessors of the manifest, and their token names differ. -/
theorem accessors_of_group {package : PackageGroup} {group : TypeGroup}
    (hpackage : package ∈ manifest.grouping.packages) (hgroup : group ∈ package.types) :
    (∀ accessor ∈ group.accessors, accessor ∈ manifest.collect.accessors)
    ∧ group.accessors.Pairwise fun a b => a.tokenName.upper ≠ b.tokenName.upper := by
  obtain ⟨declaration, hused, -, -, hsorted, -, hproblems⟩ :=
    exists_declaration_of_group hpackage hgroup
  refine ⟨fun accessor haccessor => ?_, ((accessorProblems_eq_nil_iff [] _).1 hproblems).2⟩
  rw [hsorted, List.mem_mergeSort] at haccessor
  rw [manifest.collect_items.1]
  exact List.mem_flatMap.2 ⟨declaration, hused, haccessor⟩

/-- A manifest with one type has a group when the accessors of the type are in order, and come in
the order of their names. -/
theorem exists_group_of_single (hrejected : declaration.collect.rejected = [])
    (haccessors : declaration.collect.accessors ≠ [])
    (hsorted : declaration.collect.accessors.Pairwise fun a b => decide (a.name ≤ b.name))
    (hproblems : accessorProblems [] declaration.collect.accessors = []) :
    ∃ package ∈ (⟨[declaration]⟩ : Manifest).grouping.packages,
      ⟨declaration.owner, declaration.collect.accessors⟩ ∈ package.types := by
  have hused : declaration ∈ (⟨[declaration]⟩ : Manifest).used := by
    rw [mem_used_iff]
    refine ⟨List.mem_singleton_self _, fun other hother _ => ?_⟩
    rw [List.mem_singleton.1 hother, Std.ReflOrd.compare_self]
    exact Ordering.noConfusion
  have hsort : (declaration.collect.accessors.mergeSort fun a b => a.name ≤ b.name) =
      declaration.collect.accessors := List.mergeSort_of_pairwise hsorted
  obtain ⟨package, hpackage, -, group, hgroup, howner, hown⟩ :=
    exists_group_of_no_problems hused hrejected haccessors (hsort.symm ▸ hproblems)
  refine ⟨package, hpackage, ?_⟩
  rw [← howner, ← hsort, ← hown]
  exact hgroup

/-- A manifest with one type, whose two accessors are in order, has a group of them. -/
theorem exists_package_relation :
    ∃ package ∈ (⟨[relationDeclaration]⟩ : Manifest).grouping.packages,
      ⟨relationDeclaration.owner, relationDeclaration.collect.accessors⟩ ∈ package.types := by
  obtain ⟨hrejected, haccessors, hsorted, hproblems⟩ :
      relationDeclaration.collect.rejected = []
      ∧ relationDeclaration.collect.accessors.isEmpty = false
      ∧ relationDeclaration.collect.accessors.Pairwise
        (fun a b : TokenAccessor => decide (a.name ≤ b.name))
      ∧ accessorProblems [] relationDeclaration.collect.accessors = [] := by decide +kernel
  exact exists_group_of_single hrejected (List.isEmpty_eq_false_iff.1 haccessors) hsorted hproblems

theorem exists_group_relation :
    ∃ package ∈ (⟨[relationDeclaration]⟩ : Manifest).grouping.packages,
      ∃ group ∈ package.types, group.owner = relationDeclaration.owner := by
  obtain ⟨package, hpackage, hgroup⟩ := exists_package_relation
  exact ⟨package, hpackage, _, hgroup, rfl⟩

end Manifest

end TypeWitness
