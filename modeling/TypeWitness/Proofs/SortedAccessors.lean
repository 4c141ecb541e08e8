import Mathlib.Data.List.Flatten
import Mathlib.Data.List.Nodup
import Mathlib.Data.List.Perm.Basic
import TypeWitness.Generation.Grouping

/-! # Grouping does not depend on order
Accessors are grouped by names in sorted order, so the order in which they come matters only where
two accessors of one type have the same name. Such a type is never accepted, and the problems that
are reported for it are the same whichever of the two comes first.

* `accessorProblems_eq_nil_iff` — when the accessors of a type are accepted.
* `accessorProblems_perm` — the problems of sorted accessors, up to their order.
* `groupAccessors_perm` — accessors in another order give the same groups. -/

namespace TypeWitness

/-! ## Sorted names -/

/-- Sorting by a name puts the names in increasing order. -/
theorem pairwise_mergeSort_by_name {α : Type} (name : α → String) (items : List α) :
    (items.mergeSort fun a b => name a ≤ name b).Pairwise fun a b => name a ≤ name b := by
  have htrans : ∀ a b c : α, decide (name a ≤ name b) = true → decide (name b ≤ name c) = true →
      decide (name a ≤ name c) = true := by
    intro a b c hab hbc
    rw [decide_eq_true_eq] at hab hbc ⊢
    exact String.le_trans hab hbc
  have htotal : ∀ a b : α, (decide (name a ≤ name b) || decide (name b ≤ name a)) = true := by
    intro a b
    rw [Bool.or_eq_true, decide_eq_true_eq, decide_eq_true_eq]
    exact String.le_total (name a) (name b)
  simpa using List.pairwise_mergeSort htrans htotal items

/-- Two arrangements in the order of their names are the same when names tell the items apart. -/
theorem eq_of_perm_of_sorted_by_name {α : Type} {name : α → String} {items items' : List α}
    (hperm : items.Perm items') (hsorted : items.Pairwise fun a b => name a ≤ name b)
    (hsorted' : items'.Pairwise fun a b => name a ≤ name b)
    (hnames : ∀ a ∈ items, ∀ b ∈ items, name a = name b → a = b) : items = items' :=
  List.Perm.eq_of_pairwise
    (fun a b ha hb hab hba => hnames a ha b (hperm.mem_iff.2 hb) (String.le_antisymm hab hba))
    hsorted hsorted' hperm

/-- Erasing repetitions leaves none. -/
theorem nodup_eraseDups (names : List String) : names.eraseDups.Nodup := by
  -- on the length, as erasing the first name may drop any number of others
  induction hn : names.length using Nat.strongRecOn generalizing names with
  | _ n ih =>
    cases names with
    | nil => simp
    | cons first names =>
      rw [List.eraseDups_cons, List.nodup_cons]
      refine ⟨fun hmem => ?_, ih _ ?_ _ rfl⟩
      · rw [List.mem_eraseDups, List.mem_filter] at hmem
        simp at hmem
      · have hle := List.length_filter_le (fun name => !name == first) names
        rw [List.length_cons] at hn
        omega

theorem nodup_sortedNames (names : List String) : (sortedNames names).Nodup :=
  (List.mergeSort_perm _ _).nodup_iff.2 (nodup_eraseDups names)

/-- Sorted names depend only on which names there are. -/
theorem sortedNames_congr {names names' : List String}
    (h : ∀ name, name ∈ names ↔ name ∈ names') : sortedNames names = sortedNames names' := by
  refine eq_of_perm_of_sorted_by_name ?_ (pairwise_mergeSort_by_name id _)
    (pairwise_mergeSort_by_name id _) fun a _ b _ hab => hab
  rw [List.perm_ext_iff_of_nodup (nodup_sortedNames names) (nodup_sortedNames names')]
  simpa only [mem_sortedNames] using h

/-! ## The problems of a type -/

/-- **When the accessors of a type are accepted.** Each is in order by itself, and no two derive the
same token name, nor one that was seen before. -/
theorem accessorProblems_eq_nil_iff (seen : List (String × String))
    (accessors : List TokenAccessor) :
    accessorProblems seen accessors = [] ↔
      (∀ accessor ∈ accessors,
        accessor.problem? = none ∧ seen.lookup accessor.tokenName.upper = none)
      ∧ accessors.Pairwise fun a b => a.tokenName.upper ≠ b.tokenName.upper := by
  induction accessors generalizing seen with
  | nil => simp [accessorProblems]
  | cons accessor accessors ih =>
    rw [accessorProblems, List.forall_mem_cons, List.pairwise_cons]
    cases hproblem : accessor.problem? with
    | some problem => simp
    | none =>
      cases hseen : seen.lookup accessor.tokenName.upper with
      | some previous => simp
      | none =>
        -- behind this accessor its token name counts as seen, too
        have hlookup : ∀ other : TokenAccessor,
            List.lookup other.tokenName.upper ((accessor.tokenName.upper, accessor.name) :: seen) =
                none ↔
              accessor.tokenName.upper ≠ other.tokenName.upper
              ∧ seen.lookup other.tokenName.upper = none := by
          intro other
          rw [List.lookup_cons]
          by_cases heq : other.tokenName.upper = accessor.tokenName.upper
          · simp [heq]
          · simp [beq_false_of_ne heq, Ne.symm heq]
        simp only [ih, hlookup]
        constructor
        · rintro ⟨hall, hpairwise⟩
          refine ⟨⟨⟨trivial, trivial⟩, fun other hother => ?_⟩,
            fun other hother => (hall other hother).2.1, hpairwise⟩
          exact ⟨(hall other hother).1, (hall other hother).2.2⟩
        · rintro ⟨⟨-, hall⟩, hdistinct, hpairwise⟩
          exact ⟨fun other hother => ⟨(hall other hother).1, hdistinct other hother,
            (hall other hother).2⟩, hpairwise⟩

/-- Accepted accessors have pairwise different names. -/
theorem nodup_names_of_accessorProblems {seen : List (String × String)}
    {accessors : List TokenAccessor} (h : accessorProblems seen accessors = []) :
    (accessors.map (·.name)).Nodup := by
  rw [List.Nodup, List.pairwise_map]
  refine ((accessorProblems_eq_nil_iff seen accessors).1 h).2.imp fun htoken hname => htoken ?_
  rw [TokenAccessor.tokenName, hname, TokenAccessor.tokenName]

/-- The problems of the first accessor, and what it adds to the token names seen. -/
theorem accessorProblems_cons (seen : List (String × String)) (accessor : TokenAccessor) :
    ∃ own seen', ∀ accessors, accessorProblems seen (accessor :: accessors) =
      own ++ accessorProblems seen' accessors := by
  simp only [accessorProblems]
  cases accessor.problem? with
  | some problem => exact ⟨[_], seen, fun _ => rfl⟩
  | none =>
    cases seen.lookup accessor.tokenName.upper with
    | some previous => exact ⟨[_], seen, fun _ => rfl⟩
    | none => exact ⟨[], _, fun _ => rfl⟩

/-- Two neighbours of the same name, with the same owner, may change places. -/
theorem accessorProblems_swap (seen : List (String × String)) {a b : TokenAccessor}
    (hname : a.name = b.name) (howner : a.owner.qualifiedName = b.owner.qualifiedName)
    (accessors : List TokenAccessor) :
    (accessorProblems seen (a :: b :: accessors)).Perm
      (accessorProblems seen (b :: a :: accessors)) := by
  have htoken : a.tokenName = b.tokenName := by
    rw [TokenAccessor.tokenName, hname, TokenAccessor.tokenName]
  have helement : a.elementName = b.elementName := by
    rw [TokenAccessor.elementName, TokenAccessor.elementName, hname, howner]
  simp only [accessorProblems, htoken, helement, hname]
  -- both have the same token name, so only the first one in order can claim it
  cases a.problem? <;> cases b.problem? <;> cases seen.lookup b.tokenName.upper <;>
    simp [List.Perm.swap]

/-- An accessor moves to the front of others of the same name, with the same owner. -/
theorem accessorProblems_middle (seen : List (String × String)) {accessor : TokenAccessor}
    {before : List TokenAccessor} (hname : ∀ other ∈ before, other.name = accessor.name)
    (howner : ∀ other ∈ before, other.owner.qualifiedName = accessor.owner.qualifiedName)
    (after : List TokenAccessor) :
    (accessorProblems seen (before ++ accessor :: after)).Perm
      (accessorProblems seen (accessor :: (before ++ after))) := by
  induction before generalizing seen with
  | nil => exact List.Perm.refl _
  | cons first before ih =>
    rw [List.forall_mem_cons] at hname howner
    -- the accessor passes all but the first by induction, and then changes places with it
    obtain ⟨own, seen', hfirst⟩ := accessorProblems_cons seen first
    rw [List.cons_append, hfirst]
    refine ((ih seen' hname.2 howner.2).append_left own).trans ?_
    rw [← hfirst]
    exact accessorProblems_swap seen hname.1 howner.1 _

/-- **The problems of a type do not depend on order.** For accessors of one owner, any two
arrangements in the order of their names give the same problems, up to their order. -/
theorem accessorProblems_perm {owner : String} {accessors accessors' : List TokenAccessor}
    (hperm : accessors.Perm accessors')
    (hsorted : accessors.Pairwise fun a b => a.name ≤ b.name)
    (hsorted' : accessors'.Pairwise fun a b => a.name ≤ b.name)
    (howner : ∀ accessor ∈ accessors, accessor.owner.qualifiedName = owner)
    (seen : List (String × String)) :
    (accessorProblems seen accessors).Perm (accessorProblems seen accessors') := by
  induction accessors generalizing accessors' seen with
  | nil =>
    rw [List.nil_perm.1 hperm]
  | cons first accessors ih =>
    -- the first accessor stands among those of its name in the other arrangement
    obtain ⟨before, after, rfl⟩ := List.append_of_mem (hperm.mem_iff.1 List.mem_cons_self)
    rw [List.pairwise_cons] at hsorted
    rw [List.forall_mem_cons] at howner
    have hrest : accessors.Perm (before ++ after) :=
      List.Perm.cons_inv (hperm.trans List.perm_middle)
    have hbefore : ∀ other ∈ before, other ∈ accessors :=
      fun other hother => hrest.mem_iff.2 (List.mem_append_left _ hother)
    have hname : ∀ other ∈ before, other.name = first.name := by
      intro other hother
      exact String.le_antisymm
        ((List.pairwise_append.1 hsorted').2.2 other hother first List.mem_cons_self)
        (hsorted.1 other (hbefore other hother))
    have hsame : ∀ other ∈ before, other.owner.qualifiedName = first.owner.qualifiedName := by
      intro other hother
      rw [howner.1, howner.2 other (hbefore other hother)]
    have hsorted'' : (before ++ after).Pairwise fun a b => a.name ≤ b.name :=
      hsorted'.sublist ((List.Sublist.refl before).append (List.sublist_cons_self first after))
    obtain ⟨own, seen', hfirst⟩ := accessorProblems_cons seen first
    refine List.Perm.trans ?_ (accessorProblems_middle seen hname hsame after).symm
    rw [hfirst, hfirst]
    exact (ih hrest hsorted.2 hsorted'' howner.2 seen').append_left own

/-! ## Groups -/

/-- A type without accessors has no group and no problems. -/
@[simp] theorem groupType_nil : groupType [] = (none, []) := rfl

/-- A type with a problem has no group. -/
theorem groupType_of_problems {accessors : List TokenAccessor}
    (h : accessorProblems [] accessors ≠ []) :
    groupType accessors = (none, accessorProblems [] accessors) := by
  unfold groupType
  split
  · next heq => exact absurd heq h
  · rfl

/-- A type without problems has the group of its accessors. -/
theorem groupType_of_no_problems {first : TokenAccessor} {accessors : List TokenAccessor}
    (h : accessorProblems [] (first :: accessors) = []) :
    groupType (first :: accessors) = (some ⟨first.owner, first :: accessors⟩, []) := by
  unfold groupType
  rw [h]

/-- Two arrangements of the accessors of a type in the order of their names give the same group, and
the same problems up to their order. -/
theorem groupType_perm {owner : String} {accessors accessors' : List TokenAccessor}
    (hperm : accessors.Perm accessors')
    (hsorted : accessors.Pairwise fun a b => a.name ≤ b.name)
    (hsorted' : accessors'.Pairwise fun a b => a.name ≤ b.name)
    (howner : ∀ accessor ∈ accessors, accessor.owner.qualifiedName = owner) :
    (groupType accessors).1 = (groupType accessors').1
    ∧ (groupType accessors).2.Perm (groupType accessors').2 := by
  have hproblems := accessorProblems_perm hperm hsorted hsorted' howner []
  by_cases hnil : accessorProblems [] accessors = []
  · -- without problems the names differ, so there is only one arrangement
    have hnames : ∀ a ∈ accessors, ∀ b ∈ accessors, a.name = b.name → a = b := fun a ha b hb =>
      List.inj_on_of_nodup_map (nodup_names_of_accessorProblems hnil) ha hb
    rw [eq_of_perm_of_sorted_by_name hperm hsorted hsorted' hnames]
    exact ⟨rfl, List.Perm.refl _⟩
  · have hnil' : accessorProblems [] accessors' ≠ [] := by
      intro h
      rw [h, List.perm_nil] at hproblems
      exact hnil hproblems
    rw [groupType_of_problems hnil, groupType_of_problems hnil']
    exact ⟨rfl, hproblems⟩

/-- The accessors of a type come in the order of their names. -/
theorem pairwise_accessorsOf (simpleName : String) (accessors : List TokenAccessor) :
    (accessorsOf simpleName accessors).Pairwise fun a b => a.name ≤ b.name :=
  pairwise_mergeSort_by_name TokenAccessor.name _

/-- The accessors of a type are those whose owner has its name. -/
theorem mem_accessorsOf {simpleName : String} {accessors : List TokenAccessor}
    {accessor : TokenAccessor} :
    accessor ∈ accessorsOf simpleName accessors ↔
      accessor ∈ accessors ∧ accessor.owner.simpleName = simpleName := by
  rw [accessorsOf, List.mem_mergeSort, List.mem_filter, beq_iff_eq]

/-- Accessors in another order give the same accessors for each type, in some order. -/
theorem accessorsOf_perm (simpleName : String) {accessors accessors' : List TokenAccessor}
    (hperm : accessors.Perm accessors') :
    (accessorsOf simpleName accessors).Perm (accessorsOf simpleName accessors') :=
  (List.mergeSort_perm _ _).trans ((hperm.filter _).trans (List.mergeSort_perm _ _).symm)

/-- Accessors in another order give the same group for a package. -/
theorem groupPackage_perm (packageName : String) {accessors accessors' : List TokenAccessor}
    (hperm : accessors.Perm accessors') :
    (groupPackage packageName accessors).packages = (groupPackage packageName accessors').packages
    ∧ (groupPackage packageName accessors).diagnostics.Perm
      (groupPackage packageName accessors').diagnostics := by
  have hown := hperm.filter (·.owner.packageName == packageName)
  have hnames := sortedNames_congr fun _ => (hown.map (·.owner.simpleName)).mem_iff
  have htype : ∀ simpleName,
      (groupType (accessorsOf simpleName
          (accessors.filter (·.owner.packageName == packageName)))).1 =
        (groupType (accessorsOf simpleName
          (accessors'.filter (·.owner.packageName == packageName)))).1
      ∧ (groupType (accessorsOf simpleName
          (accessors.filter (·.owner.packageName == packageName)))).2.Perm
        (groupType (accessorsOf simpleName
          (accessors'.filter (·.owner.packageName == packageName)))).2 := by
    intro simpleName
    -- within a package the simple name tells the type
    have howner : ∀ accessor ∈ accessorsOf simpleName
        (accessors.filter (·.owner.packageName == packageName)),
        accessor.owner.qualifiedName = qualify packageName simpleName := by
      intro accessor hmem
      obtain ⟨hmem, hsimple⟩ := mem_accessorsOf.1 hmem
      rw [OwningType.qualifiedName, hsimple, beq_iff_eq.1 (List.mem_filter.1 hmem).2]
    exact groupType_perm (accessorsOf_perm simpleName hown) (pairwise_accessorsOf _ _)
      (pairwise_accessorsOf _ _) howner
  simp only [groupPackage, hnames, List.filterMap_map, List.flatMap_map, Function.comp_def,
    (htype _).1, true_and]
  exact List.Perm.flatMap_left _ fun simpleName _ => (htype simpleName).2

/-- **Grouping does not depend on order.** Accessors in another order give the same groups, and the
same problems up to their order; of the rejected types it matters only which they are. -/
theorem groupAccessors_perm {accessors accessors' : List TokenAccessor}
    (hperm : accessors.Perm accessors') {rejected rejected' : List String}
    (hrejected : ∀ name, name ∈ rejected ↔ name ∈ rejected') :
    (groupAccessors accessors rejected).packages = (groupAccessors accessors' rejected').packages
    ∧ (groupAccessors accessors rejected).diagnostics.Perm
      (groupAccessors accessors' rejected').diagnostics := by
  have hcontains : (fun accessor : TokenAccessor =>
      !rejected.contains accessor.owner.qualifiedName) =
        fun accessor => !rejected'.contains accessor.owner.qualifiedName := by
    funext accessor
    rw [Bool.eq_iff_iff]
    simp [hrejected]
  have hkept := hperm.filter fun accessor => !rejected'.contains accessor.owner.qualifiedName
  have hnames := sortedNames_congr fun _ => (hkept.map (·.owner.packageName)).mem_iff
  simp only [groupAccessors, hcontains, hnames, List.flatMap_map]
  constructor
  · exact List.flatMap_congr fun packageName _ => (groupPackage_perm packageName hkept).1
  · exact List.Perm.flatMap_left _ fun packageName _ => (groupPackage_perm packageName hkept).2

end TypeWitness
