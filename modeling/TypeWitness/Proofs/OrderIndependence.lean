import TypeWitness.Proofs.CollectionOrder
import TypeWitness.Proofs.SortedAccessors
import TypeWitness.Proofs.TargetNames

/-! # What is generated does not depend on the order of a manifest
Groups come from sorted names and targets are sorted before clashes are dropped. Two targets can
tie in that order only when they are equal, because the name of a target tells its path. So
manifests that ask for the same things in another order give the same files in the same order.

* `eq_of_perm_of_sorted_targets` — sorted targets come in one order only.
* `Manifest.generate_of_sameContents` — what is generated from collections with the same contents.
* `Manifest.generate_rearranged` — what is generated from a manifest in another order. -/

namespace TypeWitness

open Std

/-! ## Sorted targets -/

instance : TransCmp OutputTarget.order :=
  inferInstanceAs (TransCmp (compareLex (compareOn _) (compareLex (compareOn _) (compareOn _))))

/-- Targets that tie have everything but their paths in common. -/
theorem OutputTarget.order_eq_eq_iff {a b : OutputTarget} :
    a.order b = .eq ↔
      a.name = b.name ∧ a.originating = b.originating ∧ a.contents = b.contents := by
  rw [order, compareLex_eq_eq_iff, compareLex_eq_eq_iff, compareOn_eq_eq_iff, compareOn_eq_eq_iff,
    compareOn_eq_eq_iff]

/-- Targets that tie and have the same path are the same. -/
theorem OutputTarget.eq_of_tie {a b : OutputTarget} (htie : a.order b = .eq)
    (hpath : a.path = b.path) : a = b := by
  obtain ⟨hname, horiginating, hcontents⟩ := order_eq_eq_iff.1 htie
  cases a
  cases b
  cases hname
  cases horiginating
  cases hcontents
  cases hpath
  rfl

/-- Sorting targets puts them in order. -/
theorem pairwise_mergeSort_targets (targets : List OutputTarget) :
    (targets.mergeSort fun a b => (a.order b).isLE).Pairwise fun a b => (a.order b).isLE := by
  refine List.pairwise_mergeSort (fun a b c => TransCmp.isLE_trans) (fun a b => ?_) targets
  have hswap : b.order a = (a.order b).swap := OrientedCmp.eq_swap
  rw [hswap]
  cases a.order b <;> rfl

/-- **Sorted targets come in one order only**, when names tell paths. -/
theorem eq_of_perm_of_sorted_targets {targets targets' : List OutputTarget}
    (hperm : targets.Perm targets')
    (hpath : ∀ a ∈ targets, ∀ b ∈ targets, a.name = b.name → a.path = b.path) :
    (targets.mergeSort fun a b => (a.order b).isLE) =
      targets'.mergeSort fun a b => (a.order b).isLE := by
  refine List.Perm.eq_of_pairwise (fun a b ha hb hab hba => ?_) (pairwise_mergeSort_targets targets)
    (pairwise_mergeSort_targets targets')
    ((List.mergeSort_perm _ _).trans (hperm.trans (List.mergeSort_perm _ _).symm))
  -- two targets that tie have the same name, so they have the same path as well
  have ha : a ∈ targets := List.mem_mergeSort.1 ha
  have hb : b ∈ targets := hperm.mem_iff.2 (List.mem_mergeSort.1 hb)
  have htie : a.order b = .eq := OrientedCmp.isLE_antisymm hab hba
  exact OutputTarget.eq_of_tie htie
    (hpath a ha b hb (OutputTarget.order_eq_eq_iff.1 htie).1)

/-! ## Agreement -/

/-- Two generations have the same targets in the same order, and the same diagnostics up to their
order. -/
structure Generation.Agrees (a b : Generation) : Prop where
  targets : a.targets = b.targets
  diagnostics : a.diagnostics.Perm b.diagnostics

/-- What is generated from collections with the same contents agrees. -/
theorem Manifest.generate_of_sameContents {options : GenerationOptions}
    (hholder : isValidIdentifier options.holderName = true) {a b : Manifest}
    (h : Collection.SameContents a.collect b.collect) :
    (a.generate options).Agrees (b.generate options) := by
  obtain ⟨hpackages, hdiagnostics⟩ :=
    groupAccessors_perm h.accessors fun name => h.rejected.mem_iff (a := name)
  have hcandidates : (a.candidates options).Perm (b.candidates options) := by
    rw [candidates, candidates, grouping, grouping, hpackages]
    exact (h.containers.map _).append_left _
  have hsorted := eq_of_perm_of_sorted_targets hcandidates fun _ ha _ hb =>
    path_eq_of_name_eq hholder ha hb
  rw [generate_eq, generate_eq, hsorted]
  exact ⟨rfl, (h.diagnostics.append hdiagnostics).append_right _⟩

/-- **What is generated does not depend on the order of declarations**, duplicates included; and
when no two declarations have the same name, it does not depend on the order of members and markers
either. -/
theorem Manifest.generate_rearranged (options : GenerationOptions)
    (hholder : isValidIdentifier options.holderName = true) (manifest : Manifest) :
    (∀ manifest' : Manifest, manifest.types.Perm manifest'.types →
      (manifest.generate options).Agrees (manifest'.generate options))
    ∧ ((manifest.types.map (·.qualifiedName)).Nodup →
      ∀ manifest' : Manifest, manifest.Rearranges manifest' →
        (manifest.generate options).Agrees (manifest'.generate options)) := by
  constructor
  · intro manifest' hperm
    exact generate_of_sameContents hholder (collectFrom_perm hperm)
  · intro hnodup manifest' hrearranges
    exact generate_of_sameContents hholder (collect_rearranged hrearranges hnodup)

/-- The same relation with everything inside it in another order. -/
def rearrangedRelation : TypeDeclaration :=
  { relationDeclaration with
    markers := [.typeToken, .container "RelationMap"]
    members := [
      ⟨"getRight", .method, some "Token<B, List<T>>", [], [⟨"T", []⟩],
        [.typeToken, .container "Right"]⟩,
      ⟨"getLeft", .method, some "Token<A>", [], [], [.typeToken]⟩] }

/-- Another declaration, of another name. -/
def orderedDeclaration : TypeDeclaration :=
  { relationDeclaration with name := "Ordered" }

theorem relationDeclaration_rearranges : relationDeclaration.Rearranges rearrangedRelation where
  markers := List.Perm.swap _ _ _
  members := by
    refine ⟨_, List.Perm.swap _ _ _, .cons ⟨List.Perm.swap _ _ _, rfl⟩ (.cons ⟨.refl _, rfl⟩ .nil)⟩
  others := rfl

theorem Manifest.generate_rearranged_relation :
    isValidIdentifier GenerationOptions.standard.holderName = true
    ∧ [relationDeclaration, rearrangedRelation].Perm [rearrangedRelation, relationDeclaration]
    ∧ ((⟨[relationDeclaration, rearrangedRelation]⟩ : Manifest).generate .standard).Agrees
      ((⟨[rearrangedRelation, relationDeclaration]⟩ : Manifest).generate .standard)
    ∧ ([relationDeclaration, orderedDeclaration].map (·.qualifiedName)).Nodup
    ∧ (⟨[relationDeclaration, orderedDeclaration]⟩ : Manifest).Rearranges
      ⟨[orderedDeclaration, rearrangedRelation]⟩
    ∧ ((⟨[relationDeclaration, orderedDeclaration]⟩ : Manifest).generate .standard).Agrees
      ((⟨[orderedDeclaration, rearrangedRelation]⟩ : Manifest).generate .standard) := by
  have hholder : isValidIdentifier GenerationOptions.standard.holderName = true := by
    decide +kernel
  have hperm : [relationDeclaration, rearrangedRelation].Perm
      [rearrangedRelation, relationDeclaration] := List.Perm.swap _ _ _
  have hnodup : ([relationDeclaration, orderedDeclaration].map (·.qualifiedName)).Nodup := by
    decide +kernel
  have hrearranges : (⟨[relationDeclaration, orderedDeclaration]⟩ : Manifest).Rearranges
      ⟨[orderedDeclaration, rearrangedRelation]⟩ := by
    refine ⟨_, List.Perm.swap _ _ _, .cons ⟨.refl _, ⟨_, .refl _, ?_⟩, rfl⟩
      (.cons relationDeclaration_rearranges .nil)⟩
    exact .cons ⟨.refl _, rfl⟩ (.cons ⟨.refl _, rfl⟩ .nil)
  exact ⟨hholder, hperm, (generate_rearranged .standard hholder _).1 _ hperm, hnodup, hrearranges,
    (generate_rearranged .standard hholder _).2 hnodup _ hrearranges⟩

end TypeWitness
