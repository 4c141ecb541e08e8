import Mathlib.Data.List.Forall2
import TypeWitness.Generation.Collection
import TypeWitness.Proofs.DeclarationOrder

/-! # Collecting does not depend on order
What declarations ask for is put together in the order of the manifest. In another order the same
things are asked for, in another order.

* `collectFrom_perm` — permuting declarations, among them several of one name.
* `Manifest.collect_rearranged` — when all names differ, also permuting members and markers. -/

namespace TypeWitness

/-! ## Equal up to order -/

/-- Two collections hold the same things, up to their order. -/
structure Collection.SameContents (a b : Collection) : Prop where
  accessors : a.accessors.Perm b.accessors
  containers : a.containers.Perm b.containers
  rejected : a.rejected.Perm b.rejected
  diagnostics : a.diagnostics.Perm b.diagnostics

namespace Collection

theorem SameContents.refl (a : Collection) : SameContents a a :=
  ⟨.refl _, .refl _, .refl _, .refl _⟩

theorem SameContents.trans {a b c : Collection} (hab : SameContents a b) (hbc : SameContents b c) :
    SameContents a c :=
  ⟨hab.accessors.trans hbc.accessors, hab.containers.trans hbc.containers,
    hab.rejected.trans hbc.rejected, hab.diagnostics.trans hbc.diagnostics⟩

/-- Collections with the same contents may be put together instead of each other. -/
theorem SameContents.append {a a' b b' : Collection} (ha : SameContents a a')
    (hb : SameContents b b') : SameContents (a ++ b) (a' ++ b') :=
  ⟨ha.accessors.append hb.accessors, ha.containers.append hb.containers,
    ha.rejected.append hb.rejected, ha.diagnostics.append hb.diagnostics⟩

/-- Two collections in front of a third may change places. -/
theorem sameContents_append_left_comm (a b c : Collection) :
    SameContents (a ++ (b ++ c)) (b ++ (a ++ c)) := by
  have hcomm : ∀ {α : Type} (x y z : List α), (x ++ (y ++ z)).Perm (y ++ (x ++ z)) := by
    intro α x y z
    rw [← List.append_assoc, ← List.append_assoc]
    exact List.perm_append_comm.append_right z
  exact ⟨hcomm _ _ _, hcomm _ _ _, hcomm _ _ _, hcomm _ _ _⟩

/-- Joining collections in another order gives the same contents. -/
theorem sameContents_join_of_perm {collections collections' : List Collection}
    (h : collections.Perm collections') : SameContents (join collections) (join collections') := by
  induction h with
  | nil => exact SameContents.refl _
  | cons first _ ih => exact (SameContents.refl first).append ih
  | swap first second others => exact sameContents_append_left_comm second first (join others)
  | trans _ _ ih ih' => exact ih.trans ih'

/-- Joining collections with the same contents one by one gives the same contents. -/
theorem sameContents_join_of_forall₂ {collections collections' : List Collection}
    (h : List.Forall₂ SameContents collections collections') :
    SameContents (join collections) (join collections') := by
  induction h with
  | nil => exact SameContents.refl _
  | cons hfirst _ ih => exact hfirst.append ih

end Collection

open Collection

/-! ## Permuted declarations -/

/-- Which declaration counts does not depend on the order of those before it, nor of those after. -/
theorem TypeDeclaration.counts_perm {before before' after after' : List TypeDeclaration}
    (hbefore : before.Perm before') (hafter : after.Perm after') (declaration : TypeDeclaration) :
    declaration.counts before after = declaration.counts before' after' := by
  rw [counts, counts, hbefore.all_eq, hafter.all_eq]

/-- What a declaration adds to a collection: what it asks for, or that it does not count. -/
def TypeDeclaration.contribution (before after : List TypeDeclaration)
    (declaration : TypeDeclaration) : Collection :=
  if declaration.counts before after then declaration.collect
  else .ofProblem declaration.qualifiedName (.duplicateDeclaration declaration.qualifiedName)

theorem collectFrom_cons (before after : List TypeDeclaration) (declaration : TypeDeclaration) :
    collectFrom before (declaration :: after) =
      declaration.contribution before after ++ collectFrom (declaration :: before) after := rfl

/-- A declaration counts in front of a different neighbour if it counts behind it. -/
theorem TypeDeclaration.counts_swap (before after : List TypeDeclaration) {a b : TypeDeclaration}
    (hne : a ≠ b) : a.counts before (b :: after) = a.counts (b :: before) after := by
  -- one that follows must not be less, and one that comes first must be greater
  have hlesser : (compare b a != .lt) = (compare a b == .lt) := by
    rw [Bool.eq_iff_iff, bne_iff_ne, beq_iff_eq]
    exact compare_ne_lt_iff hne
  rw [counts, counts, List.all_cons, List.all_cons, hlesser, Bool.and_assoc, Bool.and_left_comm]

theorem TypeDeclaration.contribution_perm {before before' after after' : List TypeDeclaration}
    (hbefore : before.Perm before') (hafter : after.Perm after') (declaration : TypeDeclaration) :
    declaration.contribution before after = declaration.contribution before' after' := by
  rw [contribution, contribution, counts_perm hbefore hafter]

theorem TypeDeclaration.contribution_swap (before after : List TypeDeclaration)
    {a b : TypeDeclaration} (hne : a ≠ b) :
    a.contribution before (b :: after) = a.contribution (b :: before) after := by
  rw [contribution, contribution, counts_swap before after hne]

/-- Of the declarations that come before it matters only which they are. -/
theorem collectFrom_before_perm {before before' : List TypeDeclaration}
    (hbefore : before.Perm before') (types : List TypeDeclaration) :
    collectFrom before types = collectFrom before' types := by
  induction types generalizing before before' with
  | nil => rfl
  | cons first rest ih =>
    rw [collectFrom_cons, collectFrom_cons,
      TypeDeclaration.contribution_perm hbefore (List.Perm.refl rest), ih (hbefore.cons first)]

/-- **Collecting does not depend on the order of declarations.** -/
theorem collectFrom_perm {before : List TypeDeclaration} {types types' : List TypeDeclaration}
    (h : types.Perm types') :
    SameContents (collectFrom before types) (collectFrom before types') := by
  induction h generalizing before with
  | nil => exact SameContents.refl _
  | cons first hrest ih =>
    rw [collectFrom_cons, collectFrom_cons,
      TypeDeclaration.contribution_perm (List.Perm.refl before) hrest]
    exact (SameContents.refl _).append ih
  | swap b a rest =>
    by_cases heq : a = b
    · rw [heq]
      exact SameContents.refl _
    · -- both count as before, so only their contributions change places
      rw [collectFrom_cons, collectFrom_cons, collectFrom_cons, collectFrom_cons,
        TypeDeclaration.contribution_swap before rest heq,
        TypeDeclaration.contribution_swap before rest (Ne.symm heq),
        collectFrom_before_perm (List.Perm.swap a b before)]
      exact sameContents_append_left_comm _ _ _
  | trans _ _ ih ih' => exact ih.trans ih'

/-! ## Rearranged declarations -/

/-- Two members differ in the order of their markers at most. -/
structure MemberDeclaration.Rearranges (a b : MemberDeclaration) : Prop where
  markers : a.markers.Perm b.markers
  others : { a with markers := b.markers } = b

/-- Two declarations differ at most in the order of their markers, in that of their members, and in
that of the markers of members. -/
structure TypeDeclaration.Rearranges (a b : TypeDeclaration) : Prop where
  markers : a.markers.Perm b.markers
  members : ∃ members, a.members.Perm members ∧
    List.Forall₂ MemberDeclaration.Rearranges members b.members
  others : { a with markers := b.markers, members := b.members } = b

/-- Two manifests differ at most in the order of their declarations and inside declarations. -/
def Manifest.Rearranges (a b : Manifest) : Prop :=
  ∃ types, a.types.Perm types ∧ List.Forall₂ TypeDeclaration.Rearranges types b.types

/-- What a marker on a member asks for does not depend on the other markers. -/
theorem MemberDeclaration.collectMarker_markers (owner : OwningType) (member : MemberDeclaration)
    (markers : List Marker) :
    { member with markers }.collectMarker owner = member.collectMarker owner := rfl

theorem MemberDeclaration.collect_rearranged {a b : MemberDeclaration} (h : a.Rearranges b)
    (owner : OwningType) : SameContents (a.collect owner) (b.collect owner) := by
  obtain ⟨hmarkers, hothers⟩ := h
  have hmarker : b.collectMarker owner = a.collectMarker owner := by
    rw [← hothers, collectMarker_markers]
  rw [collect, collect, hmarker]
  exact sameContents_join_of_perm (hmarkers.map _)

/-- The members of two declarations that differ in order ask for the same. -/
theorem sameContents_join_members {members members' rearranged : List MemberDeclaration}
    (hperm : members.Perm rearranged)
    (hmembers : List.Forall₂ MemberDeclaration.Rearranges rearranged members')
    (owner : OwningType) :
    SameContents (join (members.map (·.collect owner)))
      (join (members'.map (·.collect owner))) := by
  refine (sameContents_join_of_perm (hperm.map _)).trans (sameContents_join_of_forall₂ ?_)
  rw [List.forall₂_map_left_iff, List.forall₂_map_right_iff]
  exact hmembers.imp fun _ _ h => MemberDeclaration.collect_rearranged h owner

/-- What a declaration asks for does not depend on the order inside it. -/
theorem TypeDeclaration.collect_rearranged {a b : TypeDeclaration} (h : a.Rearranges b) :
    SameContents a.collect b.collect := by
  obtain ⟨hmarkers, ⟨members, hperm, hmembers⟩, hothers⟩ := h
  -- all that is read besides markers and members is the same
  have hproblems : b.boundProblems = a.boundProblems := by rw [← hothers]; rfl
  have howner : b.owner = a.owner := by rw [← hothers]; rfl
  have hname : b.qualifiedName = a.qualifiedName := by rw [← hothers]; rfl
  have hmarker : b.collectMarker = a.collectMarker := by rw [← hothers]; rfl
  rw [collect, collect, hproblems, howner, hname, hmarker]
  cases a.boundProblems with
  | nil =>
    exact (sameContents_join_of_perm (hmarkers.map _)).append
      (sameContents_join_members hperm hmembers a.owner)
  | cons problem problems => exact SameContents.refl _

/-- Declarations count when no other declaration has their name. -/
theorem collectFrom_of_nodup {before types : List TypeDeclaration}
    (hnodup : (types.map (·.qualifiedName)).Nodup)
    (hbefore : ∀ a ∈ before, ∀ b ∈ types, a.qualifiedName ≠ b.qualifiedName) :
    collectFrom before types = join (types.map (·.collect)) := by
  induction types generalizing before with
  | nil => rfl
  | cons first rest ih =>
    rw [List.map_cons, List.nodup_cons, List.mem_map] at hnodup
    obtain ⟨hfirst, hnodup⟩ := hnodup
    have hrest : ∀ b ∈ rest, first.qualifiedName ≠ b.qualifiedName :=
      fun b hb heq => hfirst ⟨b, hb, heq.symm⟩
    -- there is no other of its name that could be less
    have hcounts : first.counts before rest = true := by
      rw [TypeDeclaration.counts, Bool.and_eq_true, List.all_eq_true, List.all_eq_true]
      refine ⟨fun other hother => ?_, fun other hother => ?_⟩
      · rw [bne_iff_ne.2 (hbefore other hother first List.mem_cons_self), Bool.true_or]
      · rw [bne_iff_ne.2 (hrest other hother).symm, Bool.true_or]
    rw [collectFrom_cons, TypeDeclaration.contribution, if_pos hcounts, List.map_cons, join,
      ih hnodup]
    intro a ha b hb
    cases List.mem_cons.1 ha with
    | inl heq => exact heq ▸ hrest b hb
    | inr ha => exact hbefore a ha b (List.mem_cons_of_mem _ hb)

/-- Rearranged declarations keep their names. -/
theorem TypeDeclaration.qualifiedName_rearranged {a b : TypeDeclaration} (h : a.Rearranges b) :
    a.qualifiedName = b.qualifiedName := by
  rw [← h.others]
  rfl

/-- **Without duplicates, collecting does not depend on the order inside declarations either.** -/
theorem Manifest.collect_rearranged {a b : Manifest} (h : a.Rearranges b)
    (hnodup : (a.types.map (·.qualifiedName)).Nodup) : SameContents a.collect b.collect := by
  obtain ⟨types, hperm, htypes⟩ := h
  have hnodup' : (types.map (·.qualifiedName)).Nodup := (hperm.map _).nodup_iff.1 hnodup
  have hnames : types.map (·.qualifiedName) = b.types.map (·.qualifiedName) := by
    rw [← List.forall₂_eq_eq_eq, List.forall₂_map_left_iff, List.forall₂_map_right_iff]
    exact htypes.imp fun _ _ h => TypeDeclaration.qualifiedName_rearranged h
  -- once in their new order, all declarations count, and they are compared one by one
  refine (collectFrom_perm hperm).trans ?_
  rw [Manifest.collect, collectFrom_of_nodup hnodup' (by simp),
    collectFrom_of_nodup (hnames ▸ hnodup') (by simp)]
  refine sameContents_join_of_forall₂ ?_
  rw [List.forall₂_map_left_iff, List.forall₂_map_right_iff]
  exact htypes.imp fun _ _ h => TypeDeclaration.collect_rearranged h

end TypeWitness
