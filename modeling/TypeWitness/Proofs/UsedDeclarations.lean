import Mathlib.Data.List.Nodup
import TypeWitness.Proofs.CollectedMarkers
import TypeWitness.Proofs.DeclarationOrder

/-! # The declarations that are used
Of the declarations with one name the least one is used. What a manifest asks for is what its used
declarations ask for, in the order of the manifest; the others are reported.

* `Manifest.mem_used_iff` — which declarations are used.
* `Manifest.nodup_used` — no name is used twice.
* `Manifest.collect_items` — only used declarations ask for something. -/

namespace TypeWitness

/-- Those declarations that count, among the ones that follow the given ones. -/
def usedFrom (before : List TypeDeclaration) : List TypeDeclaration → List TypeDeclaration
  | [] => []
  | declaration :: after =>
    if declaration.counts before after then declaration :: usedFrom (declaration :: before) after
    else usedFrom (declaration :: before) after

/-- The declarations of a manifest that are used. -/
def Manifest.used (manifest : Manifest) : List TypeDeclaration := usedFrom [] manifest.types

/-- When a declaration counts. -/
theorem TypeDeclaration.counts_iff {before after : List TypeDeclaration}
    {declaration : TypeDeclaration} :
    declaration.counts before after = true ↔
      (∀ other ∈ before, other.qualifiedName = declaration.qualifiedName →
        compare declaration other = .lt)
      ∧ ∀ other ∈ after, other.qualifiedName = declaration.qualifiedName →
        compare other declaration ≠ .lt := by
  simp only [counts, Bool.and_eq_true, List.all_eq_true, Bool.or_eq_true, bne_iff_ne, beq_iff_eq,
    Decidable.imp_iff_not_or, ne_eq]

theorem mem_usedFrom_cons {before after : List TypeDeclaration}
    {first declaration : TypeDeclaration} :
    declaration ∈ usedFrom before (first :: after) ↔
      declaration = first ∧ first.counts before after = true
      ∨ declaration ∈ usedFrom (first :: before) after := by
  rw [usedFrom]
  split
  · next h => simp [h]
  · next h => simp [h]

/-- The declarations that are used are less than those before them with their name, and none of
their name is less. -/
theorem mem_usedFrom_iff {before types : List TypeDeclaration} {declaration : TypeDeclaration} :
    declaration ∈ usedFrom before types ↔
      declaration ∈ types
      ∧ (∀ other ∈ before, other.qualifiedName = declaration.qualifiedName →
        compare declaration other = .lt)
      ∧ ∀ other ∈ types, other.qualifiedName = declaration.qualifiedName →
        compare other declaration ≠ .lt := by
  induction types generalizing before with
  | nil => simp [usedFrom]
  | cons first after ih =>
    rw [mem_usedFrom_cons, TypeDeclaration.counts_iff, ih, List.mem_cons, List.forall_mem_cons,
      List.forall_mem_cons]
    -- the first one is used, or it stands before the one that is
    constructor
    · rintro (⟨rfl, hbefore, hafter⟩ | ⟨hmem, ⟨hfirst, hbefore⟩, hafter⟩)
      · refine ⟨.inl rfl, hbefore, fun _ hlt => ?_, hafter⟩
        rw [Std.ReflOrd.compare_self] at hlt
        cases hlt
      · refine ⟨.inr hmem, hbefore, fun hname hlt => ?_, hafter⟩
        rw [Std.OrientedOrd.eq_swap, hfirst hname] at hlt
        cases hlt
    · rintro ⟨hmem, hbefore, hfirst, hafter⟩
      by_cases heq : declaration = first
      · subst heq
        exact .inl ⟨rfl, hbefore, hafter⟩
      · have hless := TypeDeclaration.compare_ne_lt_iff heq
        exact .inr ⟨hmem.resolve_left heq, ⟨fun hname => hless.1 (hfirst hname), hbefore⟩, hafter⟩

/-- **Which declarations are used.** Those of the manifest with no lesser one of the same name. -/
theorem Manifest.mem_used_iff {manifest : Manifest} {declaration : TypeDeclaration} :
    declaration ∈ manifest.used ↔
      declaration ∈ manifest.types
      ∧ ∀ other ∈ manifest.types, other.qualifiedName = declaration.qualifiedName →
        compare other declaration ≠ .lt := by
  rw [used, mem_usedFrom_iff]
  simp

theorem nodup_usedFrom (before types : List TypeDeclaration) :
    ((usedFrom before types).map (·.qualifiedName)).Nodup := by
  induction types generalizing before with
  | nil => exact List.nodup_nil
  | cons first after ih =>
    rw [usedFrom]
    split
    · next hcounts =>
      rw [List.map_cons, List.nodup_cons]
      refine ⟨fun hmem => ?_, ih _⟩
      -- a used one of the same name would be less than the first, and not be so
      obtain ⟨other, hother, hname⟩ := List.mem_map.1 hmem
      obtain ⟨hafter, hbefore, -⟩ := mem_usedFrom_iff.1 hother
      exact (TypeDeclaration.counts_iff.1 hcounts).2 other hafter hname
        (hbefore first List.mem_cons_self hname.symm)
    · exact ih _

/-- **No name is used twice.** -/
theorem Manifest.nodup_used (manifest : Manifest) :
    (manifest.used.map (·.qualifiedName)).Nodup := nodup_usedFrom [] manifest.types

theorem collectFrom_items (before types : List TypeDeclaration) :
    (collectFrom before types).accessors = (usedFrom before types).flatMap (·.collect.accessors)
    ∧ (collectFrom before types).containers =
      (usedFrom before types).flatMap (·.collect.containers)
    ∧ (collectFrom before types).rejected =
      (usedFrom before types).flatMap (·.collect.rejected) := by
  induction types generalizing before with
  | nil => exact ⟨rfl, rfl, rfl⟩
  | cons first after ih =>
    obtain ⟨haccessors, hcontainers, hrejected⟩ := ih (first :: before)
    rw [collectFrom, usedFrom]
    split
    · simp only [Collection.accessors_append, Collection.containers_append,
        Collection.rejected_append, List.flatMap_cons, haccessors, hcontainers, hrejected, and_self]
    · exact ⟨haccessors, hcontainers, hrejected⟩

/-- **Only used declarations ask for something.** -/
theorem Manifest.collect_items (manifest : Manifest) :
    manifest.collect.accessors = manifest.used.flatMap (·.collect.accessors)
    ∧ manifest.collect.containers = manifest.used.flatMap (·.collect.containers)
    ∧ manifest.collect.rejected = manifest.used.flatMap (·.collect.rejected) :=
  collectFrom_items [] manifest.types

/-! ## What is reported -/

/-- A declaration is used, or it is reported as a duplicate. -/
theorem mem_usedFrom_or_duplicate (before : List TypeDeclaration) {types : List TypeDeclaration}
    {declaration : TypeDeclaration} (h : declaration ∈ types) :
    declaration ∈ usedFrom before types
    ∨ (Problem.duplicateDeclaration declaration.qualifiedName).diagnostic declaration.qualifiedName
      ∈ (collectFrom before types).diagnostics := by
  induction types generalizing before with
  | nil => cases h
  | cons first after ih =>
    rw [mem_usedFrom_cons, collectFrom, Collection.diagnostics_append, List.mem_append]
    cases List.mem_cons.1 h with
    | inl heq =>
      subst heq
      by_cases hcounts : declaration.counts before after = true
      · exact .inl (.inl ⟨rfl, hcounts⟩)
      · rw [if_neg hcounts]
        exact .inr (.inl (List.mem_singleton_self _))
    | inr hafter =>
      cases ih (first :: before) hafter with
      | inl hused => exact .inl (.inr hused)
      | inr hreported => exact .inr (.inr hreported)

/-- Of the problems of one kind, other than duplicates, there are those of the used declarations. -/
theorem filter_diagnostics_collectFrom {p : Diagnostic → Bool}
    (hp : ∀ name, p ((Problem.duplicateDeclaration name).diagnostic name) = false)
    (before types : List TypeDeclaration) :
    (collectFrom before types).diagnostics.filter p =
      (usedFrom before types).flatMap (·.collect.diagnostics.filter p) := by
  induction types generalizing before with
  | nil => rfl
  | cons first after ih =>
    rw [collectFrom, usedFrom, Collection.diagnostics_append, List.filter_append, ih]
    split
    · rw [List.flatMap_cons]
    · rw [Collection.ofProblem, List.filter_cons, hp]
      rfl

/-- Collecting reports problems of its own kind only. -/
theorem code_of_mem_collectFrom {before types : List TypeDeclaration} {diagnostic : Diagnostic}
    (h : diagnostic ∈ (collectFrom before types).diagnostics) :
    diagnostic.code ∈ collectingCodes := by
  induction types generalizing before with
  | nil => cases h
  | cons first after ih =>
    rw [collectFrom, Collection.diagnostics_append, List.mem_append] at h
    rcases h with hown | hrest
    · split at hown
      · have hcodes : declarationCodes ⊆ collectingCodes := by decide
        exact hcodes (TypeDeclaration.code_of_mem_collect hown)
      · rw [Collection.ofProblem, List.mem_singleton] at hown
        rw [hown, Problem.diagnostic_code]
        simp [Problem.code, collectingCodes]
    · exact ih hrest

/-- What is reported for a used declaration is reported for the manifest. -/
theorem mem_diagnostics_collectFrom {before types : List TypeDeclaration}
    {declaration : TypeDeclaration} (h : declaration ∈ usedFrom before types)
    {diagnostic : Diagnostic} (hdiagnostic : diagnostic ∈ declaration.collect.diagnostics) :
    diagnostic ∈ (collectFrom before types).diagnostics := by
  induction types generalizing before with
  | nil => cases h
  | cons first after ih =>
    rw [collectFrom, Collection.diagnostics_append, List.mem_append]
    cases mem_usedFrom_cons.1 h with
    | inl hfirst =>
      obtain ⟨rfl, hcounts⟩ := hfirst
      rw [if_pos hcounts]
      exact .inl hdiagnostic
    | inr hafter => exact .inr (ih hafter)

/-- **A declaration of a manifest is used, or it is reported as a duplicate.** -/
theorem Manifest.mem_used_or_duplicate {manifest : Manifest} {declaration : TypeDeclaration}
    (h : declaration ∈ manifest.types) :
    declaration ∈ manifest.used
    ∨ (Problem.duplicateDeclaration declaration.qualifiedName).diagnostic declaration.qualifiedName
      ∈ manifest.collect.diagnostics := mem_usedFrom_or_duplicate [] h

/-- Used declarations of the same name are the same. -/
theorem Manifest.eq_of_mem_used {manifest : Manifest} {a b : TypeDeclaration}
    (ha : a ∈ manifest.used) (hb : b ∈ manifest.used) (hname : a.qualifiedName = b.qualifiedName) :
    a = b := List.inj_on_of_nodup_map manifest.nodup_used ha hb hname

/-! ## What belongs to one of many -/

/-- Keep those items of a list of things with different names that a single one of them has: what is
left are its items. -/
theorem filter_flatMap_eq {α β : Type} {name : β → String} {all : List β}
    (hnodup : (all.map name).Nodup) {items : β → List α} {p : α → Bool} {one : β}
    (hmem : one ∈ all) (hkeep : ∀ item ∈ items one, p item = true)
    (hdrop : ∀ other ∈ all, name other ≠ name one → ∀ item ∈ items other, p item = false) :
    (all.flatMap items).filter p = items one := by
  -- nothing is left of things that have other names
  have hnone : ∀ part : List β, (∀ other ∈ part, other ∈ all) →
      name one ∉ part.map name → (part.flatMap items).filter p = [] := by
    intro part hpart hname
    rw [List.filter_eq_nil_iff]
    intro item hitem
    obtain ⟨other, hother, hitem⟩ := List.mem_flatMap.1 hitem
    have hne : name other ≠ name one := fun heq => hname (List.mem_map.2 ⟨other, hother, heq⟩)
    rw [hdrop other (hpart other hother) hne item hitem]
    exact Bool.false_ne_true
  obtain ⟨before, after, rfl⟩ := List.append_of_mem hmem
  rw [List.map_append, List.map_cons, List.nodup_append, List.nodup_cons] at hnodup
  obtain ⟨-, ⟨hafter, -⟩, hbefore⟩ := hnodup
  rw [List.flatMap_append, List.flatMap_cons, List.filter_append, List.filter_append,
    List.filter_eq_self.2 hkeep,
    hnone before (fun other hother => List.mem_append_left _ hother)
      fun hmem => hbefore _ hmem _ List.mem_cons_self rfl,
    hnone after
      (fun other hother => List.mem_append_right _ (List.mem_cons_of_mem _ hother)) hafter,
    List.nil_append, List.append_nil]

end TypeWitness
