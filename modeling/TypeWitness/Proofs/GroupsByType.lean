import Mathlib.Data.List.Flatten
import TypeWitness.Proofs.GroupedAccessors

/-! # Grouping goes type by type
Each type is accepted or refused by its own accessors. So the groups of two lists of accessors can
be compared type by type: where all types are accepted alike, the groups are the same, and where
the problems of each type grow, all problems do.

* `acceptedTypes`, `typeProblems` — what becomes of the types of one package.
* `mem_packages_groupAccessors` — a package is grouped from its own accessors.
* `packages_groupAccessors_congr` — types that are accepted alike give the same groups.
* `diagnostics_groupAccessors_sublist` — types with more problems give more problems. -/

namespace TypeWitness

/-! ## Names that add nothing -/

/-- Items that add nothing may be left out. -/
theorem flatMap_filter_isEmpty {α β : Type} (f : α → List β) (items : List α) :
    (items.filter fun item => !(f item).isEmpty).flatMap f = items.flatMap f := by
  induction items with
  | nil => rfl
  | cons first items ih =>
    cases hfirst : f first with
    | nil => simp [hfirst, ih]
    | cons item more => simp [hfirst, ih]

/-- What is put together over sorted names depends only on the names that add something. -/
theorem flatMap_sortedNames_congr {α : Type} (f : String → List α) (names names' : List String)
    (h : ∀ name, f name ≠ [] → (name ∈ names ↔ name ∈ names')) :
    (sortedNames names).flatMap f = (sortedNames names').flatMap f := by
  have hsorted : ∀ names : List String,
      ((sortedNames names).filter fun name => !(f name).isEmpty).Pairwise fun a b => a ≤ b :=
    fun names => (pairwise_mergeSort_by_name id _).filter _
  have hfilter : ((sortedNames names).filter fun name => !(f name).isEmpty) =
      (sortedNames names').filter fun name => !(f name).isEmpty := by
    refine eq_of_perm_of_sorted_by_name ?_ (hsorted names) (hsorted names')
      fun a _ b _ (hab : id a = id b) => hab
    rw [List.perm_ext_iff_of_nodup ((nodup_sortedNames names).filter _)
      ((nodup_sortedNames names').filter _)]
    intro name
    rw [List.mem_filter, List.mem_filter, mem_sortedNames, mem_sortedNames]
    refine and_congr_left fun hne => h name ?_
    simpa using hne
  rw [← flatMap_filter_isEmpty f, hfilter, flatMap_filter_isEmpty]

/-! ## The types of one package -/

/-- The types that are accepted among those that own the given accessors. -/
def acceptedTypes (own : List TokenAccessor) : List TypeGroup :=
  (sortedNames (own.map (·.owner.simpleName))).flatMap fun simpleName =>
    (groupType (accessorsOf simpleName own)).1.toList

/-- The problems of the types that own the given accessors. -/
def typeProblems (own : List TokenAccessor) : List Diagnostic :=
  (sortedNames (own.map (·.owner.simpleName))).flatMap fun simpleName =>
    (groupType (accessorsOf simpleName own)).2

/-- The group of a package whose types own the given accessors, unless no type is accepted. -/
def packageGroups (packageName : String) (own : List TokenAccessor) : List PackageGroup :=
  if (acceptedTypes own).isEmpty then [] else [⟨packageName, acceptedTypes own⟩]

theorem groupPackage_eq (packageName : String) (accessors : List TokenAccessor) :
    groupPackage packageName accessors =
      let own := accessors.filter (·.owner.packageName == packageName)
      ⟨packageGroups packageName own, typeProblems own⟩ := by
  simp only [groupPackage, packageGroups, acceptedTypes, typeProblems,
    List.filterMap_eq_flatMap_toList, List.flatMap_map]
  rfl

theorem mem_packageGroups {packageName : String} {own : List TokenAccessor}
    {package : PackageGroup} :
    package ∈ packageGroups packageName own ↔
      package.packageName = packageName ∧ package.types = acceptedTypes own
      ∧ package.types ≠ [] := by
  unfold packageGroups
  split
  · next hempty =>
    have hnil : acceptedTypes own = [] := List.isEmpty_iff.1 hempty
    simp [hnil]
  · next hempty =>
    have hne : acceptedTypes own ≠ [] := fun hnil => hempty (List.isEmpty_iff.2 hnil)
    rw [List.mem_singleton]
    constructor
    · rintro rfl
      exact ⟨rfl, rfl, hne⟩
    · rintro ⟨rfl, htypes, -⟩
      rw [← htypes]

@[simp] theorem acceptedTypes_nil : acceptedTypes [] = [] := by
  simp [acceptedTypes, sortedNames]

@[simp] theorem typeProblems_nil : typeProblems [] = [] := by
  simp [typeProblems, sortedNames]

/-- A package with types has accessors. -/
theorem ne_nil_of_acceptedTypes {own : List TokenAccessor} (h : acceptedTypes own ≠ []) :
    own ≠ [] := by
  rintro rfl
  exact h acceptedTypes_nil

/-- A package with problems has accessors. -/
theorem ne_nil_of_typeProblems {own : List TokenAccessor} (h : typeProblems own ≠ []) :
    own ≠ [] := by
  rintro rfl
  exact h typeProblems_nil

/-- Types that are accepted alike are accepted in the same order. -/
theorem acceptedTypes_congr {own own' : List TokenAccessor}
    (h : ∀ simpleName, (groupType (accessorsOf simpleName own)).1 =
      (groupType (accessorsOf simpleName own')).1) :
    acceptedTypes own = acceptedTypes own' := by
  unfold acceptedTypes
  simp only [h]
  apply flatMap_sortedNames_congr
  intro simpleName hne
  -- a type that is accepted owns accessors of both lists
  obtain ⟨group, hgroup⟩ : ∃ group, (groupType (accessorsOf simpleName own')).1 = some group := by
    rw [← Option.isSome_iff_exists]
    simpa [Option.isSome_iff_ne_none] using hne
  have hmem := mem_sortedNames_of_accessorsOf (ne_nil_of_groupType_eq_some hgroup)
  have hmem' :=
    mem_sortedNames_of_accessorsOf (ne_nil_of_groupType_eq_some ((h simpleName).trans hgroup))
  rw [mem_sortedNames] at hmem hmem'
  exact iff_of_true hmem' hmem

/-- Types with more problems give more problems. -/
theorem typeProblems_sublist {own own' : List TokenAccessor}
    (h : ∀ simpleName, ((groupType (accessorsOf simpleName own)).2).Sublist
      (groupType (accessorsOf simpleName own')).2) :
    (typeProblems own).Sublist (typeProblems own') := by
  unfold typeProblems
  -- both go over the same names, as a type with problems owns accessors of both lists
  rw [flatMap_sortedNames_congr (fun simpleName => (groupType (accessorsOf simpleName own)).2)
    (own.map (·.owner.simpleName)) (own'.map (·.owner.simpleName)) ?_]
  swap
  · intro simpleName hne
    obtain ⟨diagnostic, hdiagnostic⟩ := List.exists_mem_of_ne_nil _ hne
    have hmem := mem_sortedNames_of_accessorsOf (ne_nil_of_mem_snd_groupType hdiagnostic)
    have hmem' := mem_sortedNames_of_accessorsOf
      (ne_nil_of_mem_snd_groupType ((h simpleName).subset hdiagnostic))
    rw [mem_sortedNames] at hmem hmem'
    exact iff_of_true hmem hmem'
  exact List.Sublist.flatMap_right _ fun simpleName _ => h simpleName

/-! ## All packages -/

section Packages

variable {accessors accessors' : List TokenAccessor} {rejected rejected' : List String}

/-- The accessors of one package, but for those of rejected types. -/
def packageAccessors (packageName : String) (accessors : List TokenAccessor)
    (rejected : List String) : List TokenAccessor :=
  (accessors.filter fun accessor => !rejected.contains accessor.owner.qualifiedName).filter
    (·.owner.packageName == packageName)

theorem accessorsOf_packageAccessors (packageName simpleName : String)
    (accessors : List TokenAccessor) (rejected : List String) :
    accessorsOf simpleName (packageAccessors packageName accessors rejected) =
      typeAccessors packageName simpleName accessors rejected := rfl

/-- The names of the packages that are looked at. -/
def packageNames (accessors : List TokenAccessor) (rejected : List String) : List String :=
  (accessors.filter fun accessor => !rejected.contains accessor.owner.qualifiedName).map
    (·.owner.packageName)

theorem groupAccessors_eq (accessors : List TokenAccessor) (rejected : List String) :
    groupAccessors accessors rejected =
      ⟨(sortedNames (packageNames accessors rejected)).flatMap fun packageName =>
          packageGroups packageName (packageAccessors packageName accessors rejected),
        (sortedNames (packageNames accessors rejected)).flatMap fun packageName =>
          typeProblems (packageAccessors packageName accessors rejected)⟩ := by
  simp only [groupAccessors, List.flatMap_map, groupPackage_eq]
  rfl

/-- A package with accessors is looked at. -/
theorem mem_packageNames {packageName : String}
    (h : packageAccessors packageName accessors rejected ≠ []) :
    packageName ∈ packageNames accessors rejected := by
  obtain ⟨accessor, haccessor⟩ := List.exists_mem_of_ne_nil _ h
  obtain ⟨hmem, hname⟩ := List.mem_filter.1 haccessor
  exact List.mem_map.2 ⟨accessor, hmem, beq_iff_eq.1 hname⟩

/-- **A package is grouped from its own accessors.** -/
theorem mem_packages_groupAccessors {package : PackageGroup} :
    package ∈ (groupAccessors accessors rejected).packages ↔
      package.types = acceptedTypes (packageAccessors package.packageName accessors rejected)
      ∧ package.types ≠ [] := by
  simp only [groupAccessors_eq, List.mem_flatMap, mem_packageGroups, mem_sortedNames]
  constructor
  · rintro ⟨packageName, -, rfl, htypes, hne⟩
    exact ⟨htypes, hne⟩
  · rintro ⟨htypes, hne⟩
    have hown := ne_nil_of_acceptedTypes (htypes ▸ hne)
    exact ⟨package.packageName, mem_packageNames hown, rfl, htypes, hne⟩

/-- **Types that are accepted alike give the same groups.** -/
theorem packages_groupAccessors_congr
    (h : ∀ packageName simpleName,
      (groupType (typeAccessors packageName simpleName accessors rejected)).1 =
        (groupType (typeAccessors packageName simpleName accessors' rejected')).1) :
    (groupAccessors accessors rejected).packages =
      (groupAccessors accessors' rejected').packages := by
  have htypes : ∀ packageName,
      acceptedTypes (packageAccessors packageName accessors rejected) =
        acceptedTypes (packageAccessors packageName accessors' rejected') :=
    fun packageName => acceptedTypes_congr (h packageName)
  simp only [groupAccessors_eq, packageGroups, htypes]
  apply flatMap_sortedNames_congr
  intro packageName hne
  -- a package with types has accessors in both lists
  have hne' : acceptedTypes (packageAccessors packageName accessors' rejected') ≠ [] := by
    intro hnil
    simp [hnil] at hne
  exact iff_of_true (mem_packageNames (ne_nil_of_acceptedTypes (htypes packageName ▸ hne')))
    (mem_packageNames (ne_nil_of_acceptedTypes hne'))

/-- **Types with more problems give more problems.** -/
theorem diagnostics_groupAccessors_sublist
    (h : ∀ packageName simpleName,
      ((groupType (typeAccessors packageName simpleName accessors rejected)).2).Sublist
        (groupType (typeAccessors packageName simpleName accessors' rejected')).2) :
    ((groupAccessors accessors rejected).diagnostics).Sublist
      (groupAccessors accessors' rejected').diagnostics := by
  have hproblems : ∀ packageName,
      (typeProblems (packageAccessors packageName accessors rejected)).Sublist
        (typeProblems (packageAccessors packageName accessors' rejected')) :=
    fun packageName => typeProblems_sublist (h packageName)
  have hnames := flatMap_sortedNames_congr
    (fun packageName => typeProblems (packageAccessors packageName accessors rejected))
    (packageNames accessors rejected) (packageNames accessors' rejected') ?_
  swap
  · intro packageName hsome
    have hsome' : typeProblems (packageAccessors packageName accessors' rejected') ≠ [] := by
      intro hnil
      exact hsome (List.sublist_nil.1 (hnil ▸ hproblems packageName))
    exact iff_of_true (mem_packageNames (ne_nil_of_typeProblems hsome))
      (mem_packageNames (ne_nil_of_typeProblems hsome'))
  simp only [groupAccessors_eq, hnames]
  exact List.Sublist.flatMap_right _ fun packageName _ => hproblems packageName

end Packages

end TypeWitness
