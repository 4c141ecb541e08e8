import Mathlib.Data.List.Forall2
import Mathlib.Data.List.Sort
import TypeWitness.Proofs.CanonicalDeclarations
import TypeWitness.Proofs.CollectionOrder

/-! # Duplicates and the order of members
Of several declarations with one name the least one is used. Members are compared last, in the order
in which they are written. So their order never matters between declarations that differ before
their members, but between others it may decide which of them is used. It cannot exactly when the
used one, even with its members in decreasing order, is less than each of the others with its
members in increasing order.

* `compare_of_pairwise` — sorted lists are extreme among their permutations.
* `Manifest.withoutMembers_of_reordered` — all but the members of a used declaration is kept.
* `Manifest.keepsChoice_iff` — when the order of members cannot change which declaration is used.
* `Manifest.choices_of_reordered` — both of this, and what it means for what is collected. -/

namespace TypeWitness

open Std

/-! ## Sorted lists among their permutations -/

section Sorted

variable {α : Type} [Ord α] [TransOrd α] [LawfulEqOrd α]

omit [TransOrd α] in
/-- A list whose items lie in one direction from all that follow lies in this direction from all its
permutations. -/
theorem compare_of_pairwise {direction : Ordering → Bool} (heq : direction .eq = true)
    {items items' : List α} (hsorted : items.Pairwise fun a b => direction (compare a b) = true)
    (hperm : items.Perm items') : direction (compare items items') = true := by
  induction items generalizing items' with
  | nil => rwa [hperm.nil_eq, ReflOrd.compare_self]
  | cons first items ih =>
    rw [List.pairwise_cons] at hsorted
    obtain ⟨other, others, rfl⟩ : ∃ other others, items' = other :: others :=
      List.exists_cons_of_ne_nil fun hnil => List.cons_ne_nil first items (hnil ▸ hperm).eq_nil
    have hcompare : compare (first :: items) (other :: others) =
        (compare first other).then (compare items others) := List.compareLex_cons_cons
    rw [hcompare]
    by_cases hsame : other = first
    · subst hsame
      rw [ReflOrd.compare_self]
      exact ih hsorted.2 ((List.perm_cons other).1 hperm)
    · -- the first items differ and decide
      have hmem : other ∈ items :=
        (List.mem_cons.1 (hperm.mem_iff.2 List.mem_cons_self)).resolve_left hsame
      have hdirection := hsorted.1 other hmem
      cases hfirst : compare first other with
      | eq => exact absurd (LawfulEqOrd.eq_of_compare hfirst).symm hsame
      | lt => rwa [hfirst] at hdirection
      | gt => rwa [hfirst] at hdirection

/-- The items in increasing order. -/
def increasing (items : List α) : List α := items.insertionSort fun a b => (compare a b).isLE

/-- The items in decreasing order. -/
def decreasing (items : List α) : List α := (increasing items).reverse

omit [TransOrd α] [LawfulEqOrd α] in
theorem increasing_perm (items : List α) : items.Perm (increasing items) :=
  (List.perm_insertionSort _ _).symm

omit [TransOrd α] [LawfulEqOrd α] in
theorem decreasing_perm (items : List α) : items.Perm (decreasing items) :=
  (increasing_perm items).trans (List.reverse_perm _).symm

omit [LawfulEqOrd α] in
theorem pairwise_increasing (items : List α) :
    (increasing items).Pairwise fun a b => (compare a b).isLE = true := by
  have : Std.Total fun a b : α => (compare a b).isLE = true :=
    ⟨fun a b => by rw [OrientedOrd.eq_swap (a := a) (b := b)]; cases compare b a <;> simp⟩
  have : IsTrans α fun a b => (compare a b).isLE = true := ⟨fun _ _ _ => TransCmp.isLE_trans⟩
  exact List.pairwise_insertionSort _ items

/-- **Increasing order is the least.** -/
theorem compare_increasing {items items' : List α} (h : items.Perm items') :
    (compare (increasing items) items').isLE = true :=
  compare_of_pairwise rfl (pairwise_increasing items) ((increasing_perm items).symm.trans h)

/-- **Decreasing order is the greatest.** -/
theorem compare_decreasing {items items' : List α} (h : items.Perm items') :
    (compare items' (decreasing items)).isLE = true := by
  rw [← OrientedCmp.isGE_iff_isLE]
  refine compare_of_pairwise rfl ?_ ((decreasing_perm items).symm.trans h)
  rw [decreasing, List.pairwise_reverse]
  exact (pairwise_increasing items).imp fun h => OrientedCmp.isGE_iff_isLE.2 h

/-- Permutations have one decreasing order. -/
theorem decreasing_congr {items items' : List α} (h : items.Perm items') :
    decreasing items = decreasing items' := by
  have hle : ∀ {a b : List α}, a.Perm b → (compare (decreasing a) (decreasing b)).isLE = true :=
    fun hab => compare_decreasing (hab.symm.trans (decreasing_perm _))
  refine LawfulEqOrd.eq_of_compare (OrientedCmp.isLE_antisymm (hle h) (hle h.symm))

end Sorted

/-! ## Declarations without their members -/

namespace TypeDeclaration

/-- A declaration with everything but its members. -/
def withoutMembers (declaration : TypeDeclaration) : TypeDeclaration :=
  { declaration with members := [] }

/-- Two declarations differ in the order of their members at most. -/
structure ReordersMembers (a b : TypeDeclaration) : Prop where
  members : a.members.Perm b.members
  others : a.withoutMembers = b.withoutMembers

instance (a b : TypeDeclaration) : Decidable (a.ReordersMembers b) :=
  decidable_of_iff (a.members.Perm b.members ∧ a.withoutMembers = b.withoutMembers)
    ⟨fun h => ⟨h.1, h.2⟩, fun h => ⟨h.members, h.others⟩⟩

variable {a b : TypeDeclaration}

theorem ReordersMembers.symm (h : a.ReordersMembers b) : b.ReordersMembers a :=
  ⟨h.members.symm, h.others.symm⟩

/-- Names do not depend on members. -/
theorem qualifiedName_congr (h : a.withoutMembers = b.withoutMembers) :
    a.qualifiedName = b.qualifiedName := by
  change a.withoutMembers.qualifiedName = b.withoutMembers.qualifiedName
  rw [h]

/-- What declarations ask for does not depend on the order of their members. -/
theorem ReordersMembers.sameContents (h : a.ReordersMembers b) :
    Collection.SameContents a.collect b.collect := by
  obtain ⟨hmembers, hothers⟩ := h
  refine collect_rearranged ⟨?_, ⟨b.members, hmembers, ?_⟩, ?_⟩
  · exact congrArg markers hothers ▸ List.Perm.refl _
  · exact List.forall₂_same.2 fun member _ => ⟨.refl _, rfl⟩
  · cases a
    cases b
    cases hothers
    rfl

/-- **Members are compared last.** -/
theorem compare_eq_then (a b : TypeDeclaration) :
    compare a b =
      (compare a.withoutMembers b.withoutMembers).then (compare a.members b.members) := by
  have hnil : compare ([] : List MemberDeclaration) [] = .eq := ReflOrd.compare_self
  simp only [compare, compareLex, compareOn, withoutMembers, Ordering.then_assoc] at hnil ⊢
  rw [hnil]
  rfl

/-- Between declarations that are the same without their members the members decide. -/
theorem compare_eq_compare_members (h : a.withoutMembers = b.withoutMembers) :
    compare a b = compare a.members b.members := by
  rw [compare_eq_then, h, ReflOrd.compare_self]
  rfl

end TypeDeclaration

/-! ## Reordered manifests -/

/-- Two manifests differ in the order of members inside declarations at most. -/
def Manifest.ReordersMembers (a b : Manifest) : Prop :=
  List.Forall₂ TypeDeclaration.ReordersMembers a.types b.types

instance (a b : Manifest) : Decidable (a.ReordersMembers b) :=
  inferInstanceAs (Decidable (List.Forall₂ TypeDeclaration.ReordersMembers a.types b.types))

namespace Manifest

variable {manifest manifest' : Manifest}

theorem ReordersMembers.symm (h : manifest.ReordersMembers manifest') :
    manifest'.ReordersMembers manifest :=
  (h.imp fun _ _ => TypeDeclaration.ReordersMembers.symm).flip

/-- Each declaration is there in the other order of its members. -/
theorem ReordersMembers.exists_mem (h : manifest.ReordersMembers manifest')
    {declaration : TypeDeclaration} (hmem : declaration ∈ manifest.types) :
    ∃ reordered ∈ manifest'.types, declaration.ReordersMembers reordered := by
  obtain ⟨place, hplace, rfl⟩ := List.mem_iff_getElem.1 hmem
  have hplace' : place < manifest'.types.length := h.length_eq ▸ hplace
  exact ⟨_, List.getElem_mem hplace', List.Forall₂.get h hplace hplace'⟩

/-- For each name that occurs a declaration is used. -/
theorem exists_mem_used {declaration : TypeDeclaration} (h : declaration ∈ manifest.types) :
    ∃ chosen ∈ manifest.used, chosen.qualifiedName = declaration.qualifiedName := by
  obtain ⟨place, ⟨chosen, hcanonical, hname⟩, -⟩ :=
    existsUnique_canonical (List.mem_map_of_mem h)
  exact ⟨chosen, mem_used_iff.2 ⟨hcanonical.mem, hcanonical.least⟩, hname⟩

/-- **All but the members of a used declaration is kept.** -/
theorem withoutMembers_of_reordered (h : manifest.ReordersMembers manifest')
    {chosen chosen' : TypeDeclaration} (hchosen : chosen ∈ manifest.used)
    (hchosen' : chosen' ∈ manifest'.used)
    (hname : chosen'.qualifiedName = chosen.qualifiedName) :
    chosen.withoutMembers = chosen'.withoutMembers := by
  by_contra hne
  -- each is there in both manifests, so neither is less than the other
  have hleast : ∀ {m m' : Manifest} {a b : TypeDeclaration}, m.ReordersMembers m' → a ∈ m.used →
      b ∈ m'.used → b.qualifiedName = a.qualifiedName →
      compare b.withoutMembers a.withoutMembers ≠ .lt := by
    intro m m' a b hm ha hb hab hlt
    obtain ⟨other, hother, hreorders⟩ := hm.symm.exists_mem (mem_used_iff.1 hb).1
    refine (mem_used_iff.1 ha).2 other hother
      ((TypeDeclaration.qualifiedName_congr hreorders.symm.others).trans hab) ?_
    rw [TypeDeclaration.compare_eq_then, ← hreorders.others, hlt]
    rfl
  exact hleast h.symm hchosen' hchosen hname.symm
    ((TypeDeclaration.compare_ne_lt_iff hne).1 (hleast h hchosen hchosen' hname))

/-- For each declaration that is used one is used in another order of members, and it is the same up
to its members. -/
theorem exists_mem_used_of_reordered (h : manifest.ReordersMembers manifest')
    {chosen : TypeDeclaration} (hchosen : chosen ∈ manifest.used) :
    ∃ chosen' ∈ manifest'.used, chosen'.qualifiedName = chosen.qualifiedName
      ∧ chosen'.withoutMembers = chosen.withoutMembers := by
  obtain ⟨own, hown, hreorders⟩ := h.exists_mem (mem_used_iff.1 hchosen).1
  obtain ⟨chosen', hchosen', hname⟩ := exists_mem_used hown
  have hname := hname.trans (TypeDeclaration.qualifiedName_congr hreorders.others).symm
  exact ⟨chosen', hchosen', hname, (withoutMembers_of_reordered h hchosen hchosen' hname).symm⟩

/-! ## When the order of members cannot matter -/

/-- However members are reordered, the declaration that is used is the given one with its members
reordered. -/
def KeepsChoice (manifest : Manifest) (chosen : TypeDeclaration) : Prop :=
  ∀ manifest', manifest.ReordersMembers manifest' → ∀ chosen' ∈ manifest'.used,
    chosen'.qualifiedName = chosen.qualifiedName → chosen.ReordersMembers chosen'

/-- The given declaration is less than each other one that has different members and is the same
without them, for every order of members. -/
def StaysLeast (manifest : Manifest) (chosen : TypeDeclaration) : Prop :=
  ∀ other ∈ manifest.types, other.withoutMembers = chosen.withoutMembers →
    ¬ chosen.members.Perm other.members →
      compare (decreasing chosen.members) (increasing other.members) = .lt

instance (manifest : Manifest) (chosen : TypeDeclaration) :
    Decidable (manifest.StaysLeast chosen) :=
  inferInstanceAs (Decidable (∀ other ∈ manifest.types, _ → _ → _))

theorem StaysLeast.keepsChoice {chosen : TypeDeclaration} (hchosen : chosen ∈ manifest.used)
    (hleast : manifest.StaysLeast chosen) : manifest.KeepsChoice chosen := by
  intro manifest' h chosen' hchosen' hname
  have hsame := withoutMembers_of_reordered h hchosen hchosen' hname
  obtain ⟨hmem', hleast'⟩ := mem_used_iff.1 hchosen'
  obtain ⟨own, hown, hreorders⟩ := h.exists_mem (mem_used_iff.1 hchosen).1
  obtain ⟨other, hother, hreorders'⟩ := h.symm.exists_mem hmem'
  by_cases hperm : chosen.members.Perm other.members
  · exact ⟨hperm.trans hreorders'.members.symm, hsame⟩
  · -- else the given one would still be less than the one that is used
    refine absurd ?_ (hleast' own hown
      ((TypeDeclaration.qualifiedName_congr hreorders.others).symm.trans hname.symm))
    have hlt := hleast other hother (hreorders'.others.symm.trans hsame.symm) hperm
    rw [TypeDeclaration.compare_eq_compare_members (hreorders.others.symm.trans hsame)]
    exact TransCmp.lt_of_lt_of_isLE
      (TransCmp.lt_of_isLE_of_lt (compare_decreasing hreorders.members) hlt)
      (compare_increasing hreorders'.members.symm)

/-- The declaration in the order of members that is worst for the given one: decreasing if the
members are its own, and increasing otherwise. -/
def worstOrder (chosen declaration : TypeDeclaration) : TypeDeclaration :=
  if chosen.members.Perm declaration.members then
    { declaration with members := decreasing declaration.members }
  else { declaration with members := increasing declaration.members }

theorem reordersMembers_worstOrder (chosen declaration : TypeDeclaration) :
    declaration.ReordersMembers (worstOrder chosen declaration) := by
  rw [worstOrder]
  split
  · exact ⟨decreasing_perm _, rfl⟩
  · exact ⟨increasing_perm _, rfl⟩

theorem KeepsChoice.staysLeast {chosen : TypeDeclaration} (hchosen : chosen ∈ manifest.used)
    (hkeeps : manifest.KeepsChoice chosen) : manifest.StaysLeast chosen := by
  intro other hother hsame hperm
  have h : manifest.ReordersMembers ⟨manifest.types.map (worstOrder chosen)⟩ := by
    rw [ReordersMembers, List.forall₂_map_right_iff]
    exact List.forall₂_same.2 fun declaration _ => reordersMembers_worstOrder chosen declaration
  obtain ⟨own, hown, hreorders⟩ := h.exists_mem (mem_used_iff.1 hchosen).1
  obtain ⟨chosen', hchosen', hname⟩ := exists_mem_used hown
  have hname := hname.trans (TypeDeclaration.qualifiedName_congr hreorders.others).symm
  have hkept := hkeeps _ h chosen' hchosen' hname
  obtain ⟨hmem', hleast'⟩ := mem_used_iff.1 hchosen'
  -- the one that is used has its members in decreasing order
  have hdecreasing : chosen'.members = decreasing chosen.members := by
    obtain ⟨declaration, -, rfl⟩ := List.mem_map.1 hmem'
    have hown : chosen.members.Perm declaration.members :=
      hkept.members.trans (reordersMembers_worstOrder chosen declaration).members.symm
    rw [worstOrder, if_pos hown, decreasing_congr hown]
  -- and the other one, with its members in increasing order, is no less
  have hworst : (worstOrder chosen other).members = increasing other.members := by
    rw [worstOrder, if_neg hperm]
  have hothers := (reordersMembers_worstOrder chosen other).others
  have hge := hleast' (worstOrder chosen other) (List.mem_map_of_mem hother)
    ((TypeDeclaration.qualifiedName_congr (hothers.symm.trans hsame)).trans hname.symm)
  rw [TypeDeclaration.compare_eq_compare_members
    (hothers.symm.trans (hsame.trans hkept.others)), hworst, hdecreasing] at hge
  cases hcompare : compare (decreasing chosen.members) (increasing other.members) with
  | lt => rfl
  | eq =>
    refine absurd ?_ hperm
    exact (decreasing_perm _).trans
      (LawfulEqOrd.eq_of_compare hcompare ▸ (increasing_perm other.members).symm)
  | gt =>
    rw [OrientedOrd.eq_swap, hcompare] at hge
    exact absurd rfl hge

/-- **When the order of members cannot change which declaration is used.** -/
theorem keepsChoice_iff {chosen : TypeDeclaration} (hchosen : chosen ∈ manifest.used) :
    manifest.KeepsChoice chosen ↔ manifest.StaysLeast chosen :=
  ⟨KeepsChoice.staysLeast hchosen, StaysLeast.keepsChoice hchosen⟩

/-! ## What is collected -/

/-- What used declarations ask for is among what reordered ones ask for. -/
theorem flatMap_used_subset {α : Type} {items : TypeDeclaration → List α}
    (hitems : ∀ {a b : TypeDeclaration}, a.ReordersMembers b → (items a).Perm (items b))
    (hused : ∀ chosen ∈ manifest.used, ∃ chosen' ∈ manifest'.used, chosen.ReordersMembers chosen') :
    manifest.used.flatMap items ⊆ manifest'.used.flatMap items := by
  intro item hitem
  obtain ⟨chosen, hchosen, hitem⟩ := List.mem_flatMap.1 hitem
  obtain ⟨chosen', hchosen', hreorders⟩ := hused chosen hchosen
  exact List.mem_flatMap.2 ⟨chosen', hchosen', (hitems hreorders).mem_iff.1 hitem⟩

/-- **What depends on the order of members.** However members are reordered, a declaration is used
for the same names, and it is the same up to its members. Which one that is cannot change exactly
when the used one stays least: with its members in decreasing order it is less than every other one
that has different members, and is the same without them, with its members in increasing order. When
that holds of all used declarations, the same accessors and containers are collected. -/
theorem choices_of_reordered (manifest : Manifest) :
    (∀ manifest', manifest.ReordersMembers manifest' → ∀ chosen ∈ manifest.used,
      ∃ chosen' ∈ manifest'.used, chosen'.qualifiedName = chosen.qualifiedName
        ∧ chosen'.withoutMembers = chosen.withoutMembers)
    ∧ (∀ chosen ∈ manifest.used, manifest.KeepsChoice chosen ↔ manifest.StaysLeast chosen)
    ∧ ((∀ chosen ∈ manifest.used, manifest.StaysLeast chosen) →
      ∀ manifest', manifest.ReordersMembers manifest' →
        (∀ accessor, accessor ∈ manifest'.collect.accessors ↔
          accessor ∈ manifest.collect.accessors)
        ∧ ∀ container, container ∈ manifest'.collect.containers ↔
          container ∈ manifest.collect.containers) := by
  refine ⟨fun _ h _ => exists_mem_used_of_reordered h, fun _ => keepsChoice_iff,
    fun hleast manifest' h => ?_⟩
  -- each used declaration is used in the other order, and the other way round
  have hthere : ∀ chosen ∈ manifest.used,
      ∃ chosen' ∈ manifest'.used, chosen.ReordersMembers chosen' := by
    intro chosen hchosen
    obtain ⟨chosen', hchosen', hname, -⟩ := exists_mem_used_of_reordered h hchosen
    exact ⟨chosen', hchosen',
      (hleast chosen hchosen).keepsChoice hchosen manifest' h chosen' hchosen' hname⟩
  have hback : ∀ chosen' ∈ manifest'.used,
      ∃ chosen ∈ manifest.used, chosen'.ReordersMembers chosen := by
    intro chosen' hchosen'
    obtain ⟨chosen, hchosen, hname, -⟩ := exists_mem_used_of_reordered h.symm hchosen'
    exact ⟨chosen, hchosen,
      ((hleast chosen hchosen).keepsChoice hchosen manifest' h chosen' hchosen' hname.symm).symm⟩
  obtain ⟨haccessors, hcontainers, -⟩ := collect_items manifest
  obtain ⟨haccessors', hcontainers', -⟩ := collect_items manifest'
  rw [haccessors, haccessors', hcontainers, hcontainers']
  exact ⟨fun _ => ⟨fun hmem => flatMap_used_subset (·.sameContents.accessors) hback hmem,
      fun hmem => flatMap_used_subset (·.sameContents.accessors) hthere hmem⟩,
    fun _ => ⟨fun hmem => flatMap_used_subset (·.sameContents.containers) hback hmem,
      fun hmem => flatMap_used_subset (·.sameContents.containers) hthere hmem⟩⟩

/-- A declaration of one type with token accessors of the given names and types. -/
def relationWith (accessors : List (String × String)) : TypeDeclaration where
  name := "Relation"
  packageName := "model"
  visibility := .package
  typeParameters := [⟨"A", []⟩]
  superclass? := none
  markers := []
  members := accessors.map fun (name, type) => ⟨name, .method, some type, [], [], [.typeToken]⟩

/-- Two declarations of a type of which one is less in all orders of members. -/
theorem choices_of_reordered_relation :
    let manifest : Manifest :=
      ⟨[relationWith [("getC", "List<A>"), ("getD", "Token<A>")],
        relationWith [("getB", "Token<A>"), ("getA", "List<A>")]]⟩
    let manifest' : Manifest :=
      ⟨[relationWith [("getD", "Token<A>"), ("getC", "List<A>")],
        relationWith [("getA", "List<A>"), ("getB", "Token<A>")]]⟩
    manifest.ReordersMembers manifest'
    ∧ manifest'.collect.accessors.map (·.name) = ["getA", "getB"]
    ∧ (∀ accessor, accessor ∈ manifest'.collect.accessors ↔
      accessor ∈ manifest.collect.accessors) := by
  intro manifest manifest'
  have hreorders : manifest.ReordersMembers manifest' := by decide +kernel
  have hleast : ∀ chosen ∈ manifest.used, manifest.StaysLeast chosen := by decide +kernel
  exact ⟨hreorders, by decide +kernel,
    ((choices_of_reordered manifest).2.2 hleast manifest' hreorders).1⟩

/-- **The order of members decides between two declarations of one type**: when that of the second
one is turned round, it is used in place of the first, and other accessors are collected. -/
theorem choices_depend_on_members :
    let first := relationWith [("getB", "Token<A>"), ("getD", "List<A>")]
    let second := relationWith [("getC", "Token<A>"), ("getA", "List<A>")]
    let turned := relationWith [("getA", "List<A>"), ("getC", "Token<A>")]
    (⟨[first, second]⟩ : Manifest).ReordersMembers ⟨[first, turned]⟩
    ∧ (⟨[first, second]⟩ : Manifest).used = [first]
    ∧ (⟨[first, turned]⟩ : Manifest).used = [turned]
    ∧ ¬ first.ReordersMembers turned
    ∧ (⟨[first, second]⟩ : Manifest).collect.accessors.map (·.name) = ["getB", "getD"]
    ∧ (⟨[first, turned]⟩ : Manifest).collect.accessors.map (·.name) = ["getA", "getC"] := by
  decide +kernel

end Manifest

end TypeWitness
