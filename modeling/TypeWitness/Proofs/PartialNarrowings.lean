import Mathlib.Data.List.Perm.Basic
import TypeWitness.Proofs.CastShapes

/-! # A full narrowing and its partial ones
The full narrowing of a type has the checks of all its accessors, and a partial one that of a single
accessor. So the full one performs the bindings of the partial ones, one after the other. Bindings
to one slot may change places only where they bind it to the same type argument.

* `Binding.performAll_perm` — bindings that agree may be performed in any order.
* `Narrowing.apply_result` — a narrowing leaves its own result as it is.
* `Narrowing.applyEach_eq_ok` — what comes out of narrowings that are applied one after the other.
* `CastPlan.full_eq_singles` — the full narrowing is the sum of the partial ones. -/

namespace TypeWitness

/-! ## Order and repetition of bindings -/

namespace Binding

/-- No parameter is bound to two different type arguments. -/
def Agree (subject : Instance) (bindings : List Binding) : Prop :=
  ∀ a ∈ bindings, ∀ b ∈ bindings, a.parameter = b.parameter → a.tag? subject = b.tag? subject

/-- **Bindings that agree may be performed in any order.** -/
theorem performAll_perm {subject : Instance} {bindings bindings' : List Binding}
    (hperm : bindings.Perm bindings') (hagree : Agree subject bindings)
    (slots : List (Slot TypeTag)) :
    performAll subject bindings slots = performAll subject bindings' slots := by
  refine hperm.foldl_eq' (fun a ha b hb slots => ?_) slots
  by_cases h : a.parameter = b.parameter
  · -- both bind the slot to the same, so it does not matter which one counts
    have hslot : a.slot subject = b.slot subject := by rw [slot, slot, hagree a ha b hb h]
    rw [h, hslot]
  · exact List.set_comm _ _ h

/-- Bindings that are performed again change nothing. -/
theorem performAll_performAll (subject : Instance) (bindings : List Binding)
    (slots : List (Slot TypeTag)) :
    performAll subject bindings (performAll subject bindings slots) =
      performAll subject bindings slots := by
  apply List.ext_getElem?
  intro index
  rw [getElem?_performAll, getElem?_performAll, Option.map_map]
  -- the last binding to a slot decides both times
  cases lastTo? index bindings <;> rfl

end Binding

namespace Narrowing

/-- **A narrowing leaves its own result as it is**, given the same witnesses. -/
theorem apply_result {narrowing : Narrowing} {view result : View}
    {witnesses : List (Option Witness)} (h : narrowing.apply view witnesses = .ok result) :
    narrowing.apply result witnesses = .ok result := by
  obtain ⟨haccepts, hresult⟩ := apply_eq_ok_iff.1 h
  have hsubject : result.subject = view.subject := by rw [hresult]
  have hslots : result.slots = Binding.performAll view.subject narrowing.bindings
      (narrowing.initialSlots view) := by rw [hresult]
  -- the second time the slots are in their right number and hold what the bindings give
  have hagain : Binding.performAll view.subject narrowing.bindings
      (narrowing.initialSlots result) = result.slots := by
    by_cases hpassthrough : narrowing.passthrough = true
    · rw [initialSlots_of_passthrough hpassthrough (by simp [hslots]), hslots,
        Binding.performAll_performAll]
    · -- without passing through, nothing of the view is looked at
      have hinitial : narrowing.initialSlots result = narrowing.initialSlots view := by
        simp only [initialSlots, if_neg hpassthrough]
      rw [hinitial, hslots]
  refine apply_eq_ok_iff.2 ⟨hsubject ▸ haccepts, ?_⟩
  rw [hsubject, hagain, ← hsubject]

/-! ## One narrowing after the other -/

/-- Apply narrowings one after the other, each with a single witness and to the view that came out
of the one before. -/
def applyEach (view : View) : List (Narrowing × Option Witness) → Except Mismatch View
  | [] => .ok view
  | (narrowing, witness?) :: rest => do
    let next ← narrowing.apply view [witness?]
    applyEach next rest

theorem applyEach_cons {view next : View} {narrowing : Narrowing} {witness? : Option Witness}
    (h : narrowing.apply view [witness?] = .ok next) (rest : List (Narrowing × Option Witness)) :
    applyEach view ((narrowing, witness?) :: rest) = applyEach next rest := by
  rw [applyEach, h]
  rfl

/-- **What comes out of narrowings that are applied one after the other**, when they pass slots
through and accept their witnesses: the slots in their right number, with the bindings of all of
them performed. -/
theorem applyEach_eq_ok {arity : Nat} {subject : Instance} {slots : List (Slot TypeTag)}
    {entries : List (Narrowing × Option Witness)} (hne : entries ≠ [])
    (harity : ∀ entry ∈ entries, entry.1.arity = arity)
    (hpassthrough : ∀ entry ∈ entries, entry.1.passthrough = true)
    (haccepts : ∀ entry ∈ entries, entry.1.Accepts subject [entry.2]) :
    applyEach ⟨subject, slots⟩ entries = .ok ⟨subject, Binding.performAll subject
      (entries.flatMap (·.1.bindings)) (Slot.resize arity slots)⟩ := by
  induction entries generalizing slots with
  | nil => exact absurd rfl hne
  | cons first rest ih =>
    obtain ⟨narrowing, witness?⟩ := first
    rw [List.forall_mem_cons] at harity hpassthrough haccepts
    have hinitial : narrowing.initialSlots ⟨subject, slots⟩ = Slot.resize arity slots := by
      rw [initialSlots, if_pos hpassthrough.1, harity.1]
    rw [applyEach_cons (apply_eq_ok_iff.2 ⟨haccepts.1, rfl⟩), hinitial, List.flatMap_cons,
      Binding.performAll_append]
    by_cases hrest : rest = []
    · rw [hrest]
      rfl
    · -- after the first narrowing the slots have the right number
      rw [ih hrest harity.2 hpassthrough.2 haccepts.2, Slot.resize_of_length (by simp)]

end Narrowing

/-! ## Full and partial narrowings -/

namespace CastPlan

variable (options : GenerationOptions) (group : TypeGroup)

/-- The bindings of the full narrowing are those of the partial ones. -/
theorem bindings_full :
    (full options group).narrowing.bindings =
      group.accessors.flatMap fun accessor =>
        (single options group accessor).narrowing.bindings := by
  simp only [Narrowing.bindings, full, single, checks_build, List.flatMap_map, List.map_cons,
    List.map_nil, List.flatMap_cons, List.flatMap_nil, List.append_nil]

/-- The partial narrowings of a type with their witnesses, in the order of its accessors. -/
def singles (witnesses : List (Option Witness)) : List (Narrowing × Option Witness) :=
  (group.accessors.map fun accessor => (single options group accessor).narrowing).zip witnesses

variable {options group} {witnesses : List (Option Witness)}

/-- A partial narrowing of a type is that of one of its accessors. -/
theorem exists_accessor_of_mem_singles {entry : Narrowing × Option Witness}
    (h : entry ∈ singles options group witnesses) :
    ∃ accessor ∈ group.accessors, entry.1 = (single options group accessor).narrowing := by
  obtain ⟨accessor, haccessor, heq⟩ := List.mem_map.1 (List.of_mem_zip h).1
  exact ⟨accessor, haccessor, heq.symm⟩

/-- The full narrowing performs what the partial ones perform. -/
theorem bindings_singles (hlength : witnesses.length = group.accessors.length) :
    (singles options group witnesses).flatMap (·.1.bindings) =
      (full options group).narrowing.bindings := by
  have hnarrowings : (singles options group witnesses).map Prod.fst =
      group.accessors.map fun accessor => (single options group accessor).narrowing :=
    List.map_fst_zip (by simp [hlength])
  rw [bindings_full, ← List.flatMap_map (f := Prod.fst), hnarrowings, List.flatMap_map]

/-- The full narrowing accepts the witnesses that the partial ones accept one by one. -/
theorem accepts_full_iff (hlength : witnesses.length = group.accessors.length)
    (subject : Instance) :
    (full options group).narrowing.Accepts subject witnesses ↔
      ∀ entry ∈ singles options group witnesses, entry.1.Accepts subject [entry.2] := by
  have hsingle : ∀ accessor witness?,
      (single options group accessor).narrowing.Accepts subject [witness?] ↔
        accessor.check.Passes subject witness? := by
    intro accessor witness?
    simp [Narrowing.Accepts, single, checks_build]
  simp only [singles, List.zip_map_left, List.forall_mem_map, Prod.map, hsingle]
  rw [Narrowing.Accepts, full, checks_build, List.zip_map_left, List.forall_mem_map,
    List.length_map]
  exact ⟨fun h => h.2, fun h => ⟨hlength, h⟩⟩

/-- Partial narrowings that pass slots through and accept their witnesses perform, in whatever order
they are applied, their bindings in this order. -/
theorem applyEach_of_perm_singles (hstyle : options.signatureStyle = .passthrough)
    (hne : group.accessors ≠ []) (hlength : witnesses.length = group.accessors.length) {view : View}
    (haccepts : ∀ entry ∈ singles options group witnesses,
      entry.1.Accepts view.subject [entry.2])
    {order : List (Narrowing × Option Witness)}
    (hperm : order.Perm (singles options group witnesses)) :
    Narrowing.applyEach view order = .ok ⟨view.subject, Binding.performAll view.subject
      (order.flatMap (·.1.bindings)) (Slot.resize group.owner.arity view.slots)⟩ := by
  have hentry : ∀ entry ∈ order, entry.1.arity = group.owner.arity
      ∧ entry.1.passthrough = true ∧ entry.1.Accepts view.subject [entry.2] := by
    intro entry hentry
    have hmem := hperm.mem_iff.1 hentry
    obtain ⟨accessor, -, heq⟩ := exists_accessor_of_mem_singles hmem
    refine ⟨by rw [heq]; rfl, ?_, haccepts entry hmem⟩
    rw [heq]
    simp [narrowing, single, build, hstyle]
  have hnonempty : order ≠ [] := by
    rintro rfl
    have hcount := hperm.length_eq
    simp only [singles, List.length_nil, List.length_zip, List.length_map, hlength,
      Nat.min_self] at hcount
    exact hne (List.length_eq_zero_iff.1 hcount.symm)
  exact Narrowing.applyEach_eq_ok hnonempty (fun entry h => (hentry entry h).1)
    (fun entry h => (hentry entry h).2.1) fun entry h => (hentry entry h).2.2

/-- **The full narrowing of a type is the sum of its partial ones.** It accepts witnesses when each
partial narrowing accepts its own. When slots are passed through, the partial narrowings applied one
after the other, in the order of the accessors, give the view that the full one gives; and if no
parameter is bound to two different type arguments they do so in every order. A narrowing of either
style, applied to its own result with the same witnesses, gives this result again. -/
theorem full_eq_singles (options : GenerationOptions) (group : TypeGroup)
    (hne : group.accessors ≠ []) (view : View) (witnesses : List (Option Witness))
    (hlength : witnesses.length = group.accessors.length) :
    ((∃ result, (full options group).narrowing.apply view witnesses = .ok result) ↔
      ∀ entry ∈ singles options group witnesses,
        ∃ result, entry.1.apply view [entry.2] = .ok result)
    ∧ (options.signatureStyle = .passthrough →
      ∀ result, (full options group).narrowing.apply view witnesses = .ok result →
        Narrowing.applyEach view (singles options group witnesses) = .ok result
        ∧ (Binding.Agree view.subject (full options group).narrowing.bindings →
          ∀ order, order.Perm (singles options group witnesses) →
            Narrowing.applyEach view order = .ok result))
    ∧ ∀ (narrowing : Narrowing) (given : List (Option Witness)) (before result : View),
      narrowing.apply before given = .ok result → narrowing.apply result given = .ok result := by
  refine ⟨?_, ?_, fun narrowing given before result h => Narrowing.apply_result h⟩
  · have haccepts : ∀ (narrowing : Narrowing) (given : List (Option Witness)),
        (∃ result, narrowing.apply view given = .ok result) ↔
          narrowing.Accepts view.subject given := fun narrowing given =>
      narrowing.exists_apply_eq_ok_iff view given
    simp only [haccepts]
    exact accepts_full_iff hlength view.subject
  · intro hstyle result hfull
    obtain ⟨haccepts, rfl⟩ := Narrowing.apply_eq_ok_iff.1 hfull
    rw [accepts_full_iff hlength] at haccepts
    have hinitial : (full options group).narrowing.initialSlots view =
        Slot.resize group.owner.arity view.slots := by
      rw [Narrowing.initialSlots, if_pos (by simp [narrowing, full, build, hstyle])]
      rfl
    rw [hinitial, ← bindings_singles hlength]
    refine ⟨applyEach_of_perm_singles hstyle hne hlength haccepts (List.Perm.refl _), ?_⟩
    intro hagree order hperm
    rw [applyEach_of_perm_singles hstyle hne hlength haccepts hperm,
      Binding.performAll_perm (hperm.symm.flatMap_right _) hagree]

/-- The partial narrowings of `Relation<T1, T2>`, in the order that is not that of its accessors. -/
theorem full_eq_singles_relation :
    let through := { GenerationOptions.standard with signatureStyle := .passthrough }
    let before : View := .ofInstance relation 2
    let after : View := ⟨relation, [.bound ⟨"Integer"⟩, .bound ⟨"String"⟩]⟩
    let witnesses := [some ⟨1, [⟨"String"⟩]⟩, some ⟨2, [⟨"Integer"⟩]⟩]
    (full through relationGroup).narrowing.apply before witnesses = .ok after
    ∧ Narrowing.applyEach before (singles through relationGroup witnesses).reverse = .ok after
    ∧ (full through relationGroup).narrowing.apply after witnesses = .ok after := by
  intro through before after witnesses
  have happly : (full through relationGroup).narrowing.apply before witnesses = .ok after := rfl
  have hagree : Binding.Agree relation (full through relationGroup).narrowing.bindings := by
    have hbindings : (full through relationGroup).narrowing.bindings =
        [⟨"getO", 0, 1⟩, ⟨"getType1", 0, 0⟩] := by decide
    simp [Binding.Agree, hbindings]
  obtain ⟨-, hthrough, hagain⟩ :=
    full_eq_singles through relationGroup (List.cons_ne_nil _ _) before witnesses rfl
  exact ⟨happly, (hthrough rfl after happly).2 hagree _ (List.reverse_perm _),
    hagain _ _ _ _ happly⟩

end CastPlan

end TypeWitness
