import TypeWitness.Proofs.NarrowingOutcomes

/-! # The shapes of views
A cast plan tells which slots of a view are bound before and after the cast. The narrowing at run
time starts from its own slots and binds one after the other, each time to what a witness says. Both
come to the same: what the checks of the narrowing bind is what the plan pins.

* `Narrowing.binds_of_apply` — which slots a narrowing binds, and that it leaves the others alone.
* `CastPlan.checks_build` — what the narrowing of a cast checks.
* `CastPlan.mem_pinned_build_iff` — what a cast pins.
* `CastPlan.apply_shape` — the new view has the shape that the plan says. -/

namespace TypeWitness

/-- Whether a slot is bound to something. -/
def Slot.isBound {α : Type} : Slot α → Bool
  | bound _ => true
  | unknown => false

/-! ## Binding slots -/

/-- Slots are the same as before but for those of the given parameters, which are bound. -/
structure BindsOnly (parameters : List Nat) (before after : List (Slot TypeTag)) : Prop where
  length : after.length = before.length
  bound : ∀ parameter ∈ parameters, parameter < before.length →
    ∃ tag, after[parameter]? = some (.bound tag)
  others : ∀ parameter, parameter ∉ parameters → after[parameter]? = before[parameter]?

/-- Bindings that find their type arguments bind the slots of their parameters. -/
theorem Binding.bindsOnly_performAll {subject : Instance} {bindings : List Binding}
    (h : ∀ binding ∈ bindings, ∃ tag, binding.tag? subject = some tag)
    (slots : List (Slot TypeTag)) :
    BindsOnly (bindings.map (·.parameter)) slots (performAll subject bindings slots) := by
  refine ⟨length_performAll subject bindings slots, fun parameter hmem hlt => ?_,
    fun parameter hnot => ?_⟩
  · -- some binding is to this slot, so there is a last one
    obtain ⟨binding, hbinding, rfl⟩ := List.mem_map.1 hmem
    cases hlast : lastTo? binding.parameter bindings with
    | none => exact absurd rfl (lastTo?_eq_none_iff.1 hlast binding hbinding)
    | some last =>
      obtain ⟨tag, htag⟩ := h last (mem_of_lastTo? hlast).1
      refine ⟨tag, ?_⟩
      rw [getElem?_performAll, List.getElem?_eq_getElem hlt, hlast, Option.map_some,
        Option.map_some, Option.getD_some, slot_of_tag? htag]
  · have hnone : lastTo? parameter bindings = none :=
      lastTo?_eq_none_iff.2 fun binding hbinding heq =>
        hnot (List.mem_map.2 ⟨binding, hbinding, heq⟩)
    rw [getElem?_performAll, hnone, Option.map_none]
    exact Option.map_id'

/-- The parameters that a check binds. -/
def WitnessCheck.parameters (check : WitnessCheck) : List Nat := check.binds.map (·.2)

namespace Narrowing

/-- The parameters that some check of a narrowing binds. -/
def parameters (narrowing : Narrowing) : List Nat := narrowing.checks.flatMap (·.parameters)

theorem map_parameter_bindings (narrowing : Narrowing) :
    narrowing.bindings.map (·.parameter) = narrowing.parameters := by
  rw [bindings, parameters, List.map_flatMap]
  refine List.flatMap_congr fun check _ => ?_
  rw [WitnessCheck.bindings, WitnessCheck.parameters, List.map_map]
  rfl

/-- **Which slots a narrowing binds.** It binds the slots of the parameters of its checks, and
leaves the others as they were before the first check. -/
theorem binds_of_apply {narrowing : Narrowing} {view result : View}
    {witnesses : List (Option Witness)} (h : narrowing.apply view witnesses = .ok result) :
    BindsOnly narrowing.parameters (narrowing.initialSlots view) result.slots := by
  obtain ⟨haccepts, rfl⟩ := apply_eq_ok_iff.1 h
  rw [← map_parameter_bindings]
  exact Binding.bindsOnly_performAll (fun binding hbinding => haccepts.exists_tag hbinding) _

/-- A view of the right arity is passed through as it is. -/
theorem initialSlots_of_passthrough {narrowing : Narrowing} (h : narrowing.passthrough = true)
    {view : View} (hview : view.slots.length = narrowing.arity) :
    narrowing.initialSlots view = view.slots := by
  rw [initialSlots, if_pos h, Slot.resize_of_length hview]

end Narrowing

/-! ## The shapes in a plan -/

theorem getElem?_slotsWhere (arity : Nat) (p : Nat → Bool) (index : Nat) :
    (slotsWhere arity p)[index]? =
      if index < arity then some (if p index then .bound index else .unknown) else none := by
  by_cases hlt : index < arity
  · rw [slotsWhere, List.getElem?_map, List.getElem?_range hlt, if_pos hlt]
    rfl
  · rw [if_neg hlt, List.getElem?_eq_none_iff, length_slotsWhere]
    omega

/-- The slots of a plan are bound to their own parameters. -/
theorem getElem?_slotsWhere_eq_bound_iff {arity : Nat} {p : Nat → Bool} {index other : Nat} :
    (slotsWhere arity p)[index]? = some (.bound other) ↔
      index < arity ∧ p index = true ∧ other = index := by
  rw [getElem?_slotsWhere]
  split
  · next hlt =>
    cases p index <;> simp [hlt, eq_comm]
  · next hlt => simp [hlt]

/-- The check of an accessor's witness. -/
def TokenAccessor.check (accessor : TokenAccessor) : WitnessCheck :=
  ⟨accessor.name, accessor.binds⟩

namespace CastPlan

section Build

variable {name : String} {owner : OwningType} {accessors : List TokenAccessor}
  {style : SignatureStyle}

/-- A cast checks the witnesses of its accessors, in their order. -/
theorem checks_build :
    (build name owner accessors style).narrowing.checks = accessors.map (·.check) := by
  -- every accessor has got a name, so none is lost when they are paired
  have haccessors : (accessors.zip (witnessNames [] accessors)).map Prod.fst = accessors :=
    List.map_fst_zip (by simp)
  conv_rhs => rw [← haccessors]
  simp only [narrowing, build, List.map_map]
  rfl

/-- The narrowing of a cast binds what the accessors bind. -/
theorem parameters_narrowing_build :
    (build name owner accessors style).narrowing.parameters =
      (accessors.flatMap (·.binds)).map (·.2) := by
  rw [Narrowing.parameters, checks_build, List.flatMap_map, List.map_flatMap]
  rfl

/-- **What a cast pins** is what its narrowing binds. -/
theorem mem_pinned_build_iff {index : Nat} :
    index ∈ (build name owner accessors style).pinned ↔
      index < owner.arity
      ∧ index ∈ (build name owner accessors style).narrowing.parameters := by
  rw [parameters_narrowing_build]
  simp only [build, pinnedParameters, mem_indicesBelow, List.contains_iff_mem]

/-- A cast claims only what it pins or has been given. -/
theorem pinned_or_given_build {index other : Nat}
    (h : (build name owner accessors style).output[index]? = some (.bound other)) :
    other = index
    ∧ (index ∈ (build name owner accessors style).pinned
      ∨ (build name owner accessors style).input[index]? = some (.bound index)) := by
  cases style with
  | wildcard =>
    obtain ⟨-, hpinned, rfl⟩ := getElem?_slotsWhere_eq_bound_iff.1 h
    exact ⟨rfl, .inl (List.contains_iff_mem.1 hpinned)⟩
  | passthrough =>
    obtain ⟨hlt, -, rfl⟩ := getElem?_slotsWhere_eq_bound_iff.1 h
    refine ⟨rfl, ?_⟩
    by_cases hpinned : other ∈ pinnedParameters owner accessors
    · exact .inl hpinned
    · exact .inr (getElem?_slotsWhere_eq_bound_iff.2 ⟨hlt, by simpa using hpinned, rfl⟩)

/-- A successful narrowing gives a view with a slot for every parameter of the owner, and binds the
slots that the cast pins. -/
theorem bound_of_pinned_build {view result : View} {witnesses : List (Option Witness)}
    (h : (build name owner accessors style).narrowing.apply view witnesses = .ok result) :
    result.slots.length = owner.arity
    ∧ ∀ index ∈ (build name owner accessors style).pinned,
      ∃ tag, result.slots[index]? = some (.bound tag) := by
  have hbinds := Narrowing.binds_of_apply h
  refine ⟨hbinds.length.trans (Narrowing.length_initialSlots _ view), fun index hpinned => ?_⟩
  obtain ⟨hlt, hmem⟩ := mem_pinned_build_iff.1 hpinned
  exact hbinds.bound index hmem (by rwa [Narrowing.length_initialSlots])

/-- Slots that the cast does not pin are those from before the first check. -/
theorem others_of_build {view result : View} {witnesses : List (Option Witness)}
    (h : (build name owner accessors style).narrowing.apply view witnesses = .ok result)
    {index : Nat} (hnot : index ∉ (build name owner accessors style).pinned) :
    result.slots[index]? =
      ((build name owner accessors style).narrowing.initialSlots view)[index]? := by
  have hbinds := Narrowing.binds_of_apply h
  by_cases hlt : index < owner.arity
  · exact hbinds.others index fun hmem => hnot (mem_pinned_build_iff.2 ⟨hlt, hmem⟩)
  · -- neither list has a slot there
    rw [List.getElem?_eq_none_iff.2, List.getElem?_eq_none_iff.2]
    · rw [Narrowing.length_initialSlots]
      exact Nat.le_of_not_lt hlt
    · rw [(bound_of_pinned_build h).1]
      exact Nat.le_of_not_lt hlt

/-- In a cast with wildcards no slot is bound but those that are pinned. -/
theorem bound_iff_pinned_build {view result : View} {witnesses : List (Option Witness)}
    (h : (build name owner accessors .wildcard).narrowing.apply view witnesses = .ok result)
    (index : Nat) :
    (∃ tag, result.slots[index]? = some (.bound tag)) ↔
      index ∈ (build name owner accessors .wildcard).pinned := by
  refine ⟨fun ⟨tag, htag⟩ => ?_, fun hpinned => (bound_of_pinned_build h).2 index hpinned⟩
  by_contra hnot
  rw [others_of_build h hnot] at htag
  have hunknown := List.eq_of_mem_replicate (List.mem_of_getElem? htag)
  cases hunknown

/-- In a cast that passes its view through the plan takes views in which just the pinned slots are
unknown. -/
theorem input_unknown_iff_build {index : Nat} :
    (build name owner accessors .passthrough).input[index]? = some .unknown ↔
      index ∈ (build name owner accessors .passthrough).pinned := by
  have hinput : (build name owner accessors .passthrough).input =
      slotsWhere owner.arity fun index => !(pinnedParameters owner accessors).contains index := rfl
  have hpinned : (build name owner accessors .passthrough).pinned =
      pinnedParameters owner accessors := rfl
  rw [hinput, hpinned, getElem?_slotsWhere]
  by_cases hmem : index ∈ pinnedParameters owner accessors
  · simp [hmem, (mem_indicesBelow.1 hmem).1]
  · simp [hmem]

/-- In a cast that passes its view through a slot that is not pinned stays as it was. -/
theorem kept_of_passthrough_build {view result : View} {witnesses : List (Option Witness)}
    (hview : view.slots.length = owner.arity)
    (h : (build name owner accessors .passthrough).narrowing.apply view witnesses = .ok result)
    {index : Nat} (hnot : index ∉ (build name owner accessors .passthrough).pinned) :
    result.slots[index]? = view.slots[index]? := by
  rw [others_of_build h hnot, Narrowing.initialSlots_of_passthrough rfl hview]

/-- A view in which just the pinned slots are unknown is passed through to one with every slot
bound. -/
theorem all_bound_of_passthrough_build {view result : View} {witnesses : List (Option Witness)}
    (hview : view.slots.length = owner.arity)
    (hshape : view.slots.map (·.isBound) =
      (build name owner accessors .passthrough).input.map (·.isBound))
    (h : (build name owner accessors .passthrough).narrowing.apply view witnesses = .ok result) :
    ∀ slot ∈ result.slots, slot.isBound = true := by
  intro slot hslot
  obtain ⟨index, hindex⟩ := List.getElem?_of_mem hslot
  by_cases hpinned : index ∈ (build name owner accessors .passthrough).pinned
  · obtain ⟨tag, htag⟩ := (bound_of_pinned_build h).2 index hpinned
    rw [hindex] at htag
    cases htag
    rfl
  · rw [kept_of_passthrough_build hview h hpinned] at hindex
    -- the view has the shape that the plan takes, and there the slot is not unknown
    have hbound := congrArg (·[index]?) hshape
    simp only [List.getElem?_map, hindex] at hbound
    cases hinput : (build name owner accessors .passthrough).input[index]? with
    | none =>
      rw [hinput] at hbound
      cases hbound
    | some given =>
      rw [hinput] at hbound
      cases given with
      | bound other => exact Option.some.inj hbound
      | unknown => exact absurd (input_unknown_iff_build.1 hinput) hpinned

end Build

/-- **The new view has the shape that the plan says.** Take any view with a slot for each parameter,
and witnesses that the narrowing of the plan accepts. In a cast with wildcards the slots that are
bound are those that are pinned, which are those that the plan shows as bound. In a cast that passes
its view through, pinned slots are bound and the others stay as they were; the plan takes a view in
which just the pinned slots are unknown, and such a view comes out with every slot bound, as the
plan shows it. In both a plan shows a slot as bound only when it is pinned, or was bound before. -/
theorem apply_shape (options : GenerationOptions) (group : TypeGroup) (plan : CastPlan)
    (hplan : plan ∈ ofGroup options group) (view : View)
    (hview : view.slots.length = plan.owner.arity) (witnesses : List (Option Witness))
    (result : View) (happly : plan.narrowing.apply view witnesses = .ok result) :
    result.slots.length = plan.owner.arity
    ∧ (options.signatureStyle = .wildcard → ∀ index,
      ((∃ tag, result.slots[index]? = some (.bound tag)) ↔
        plan.output[index]? = some (.bound index))
      ∧ (plan.output[index]? = some (.bound index) ↔ index ∈ plan.pinned))
    ∧ (options.signatureStyle = .passthrough →
      (∀ index ∈ plan.pinned, ∃ tag, result.slots[index]? = some (.bound tag))
      ∧ (∀ index, index ∉ plan.pinned → result.slots[index]? = view.slots[index]?)
      ∧ (∀ index, plan.input[index]? = some .unknown ↔ index ∈ plan.pinned)
      ∧ (∀ index < plan.owner.arity, plan.output[index]? = some (.bound index))
      ∧ (view.slots.map (·.isBound) = plan.input.map (·.isBound) →
        result.slots.map (·.isBound) = plan.output.map (·.isBound)
        ∧ ∀ slot ∈ result.slots, slot.isBound = true))
    ∧ ∀ index other, plan.output[index]? = some (.bound other) →
      other = index ∧ (index ∈ plan.pinned ∨ plan.input[index]? = some (.bound index)) := by
  obtain ⟨name, accessors, -, rfl⟩ := exists_build_of_mem_ofGroup hplan
  generalize options.signatureStyle = style at happly ⊢
  obtain ⟨hlength, hpinned⟩ := bound_of_pinned_build happly
  refine ⟨hlength, ?_, ?_, fun index other h => pinned_or_given_build h⟩
  · rintro rfl index
    have houtput : (build name group.owner accessors .wildcard).output[index]? =
          some (.bound index) ↔
        index ∈ (build name group.owner accessors .wildcard).pinned := by
      refine getElem?_slotsWhere_eq_bound_iff.trans ?_
      simp only [List.contains_iff_mem, and_true]
      exact ⟨fun h => h.2, fun h => ⟨(mem_indicesBelow.1 h).1, h⟩⟩
    exact ⟨(bound_iff_pinned_build happly index).trans houtput.symm, houtput⟩
  · rintro rfl
    have houtput : ∀ index < group.owner.arity,
        (build name group.owner accessors .passthrough).output[index]? = some (.bound index) :=
      fun index hlt => getElem?_slotsWhere_eq_bound_iff.2 ⟨hlt, rfl, rfl⟩
    refine ⟨hpinned, fun index hnot => kept_of_passthrough_build hview happly hnot,
      fun index => input_unknown_iff_build, houtput, fun hshape => ?_⟩
    have hall := all_bound_of_passthrough_build hview hshape happly
    have hshown : ∀ slot ∈ (build name group.owner accessors .passthrough).output,
        slot.isBound = true := by
      intro slot hslot
      obtain ⟨index, -, rfl⟩ := List.mem_map.1 hslot
      rfl
    refine ⟨?_, hall⟩
    rw [List.map_eq_replicate_iff.2 hall, List.map_eq_replicate_iff.2 hshown, hlength]
    exact congrArg (List.replicate · true) (length_slotsWhere _ _).symm

/-- The casts of `Relation<T1, T2>` by the token for `T2` alone, in either style: with wildcards the
first slot is forgotten, and passed through it is kept. -/
theorem apply_shape_relation :
    let known : Slot TypeTag := .bound ⟨"Integer"⟩
    let found : Slot TypeTag := .bound ⟨"String"⟩
    let wildcards := GenerationOptions.standard
    let through := { wildcards with signatureStyle := .passthrough }
    let accessor : TokenAccessor :=
      ⟨relationGroup.owner, "getO", .named "Class" [.named "T2" []], []⟩
    let before : View := ⟨relation, [known, .unknown]⟩
    let witnesses := [some ⟨1, [⟨"String"⟩]⟩]
    (single wildcards relationGroup accessor).narrowing.apply before witnesses =
      .ok ⟨relation, [.unknown, found]⟩
    ∧ ((∃ tag, [.unknown, found][0]? = some (.bound tag)) ↔
      (single wildcards relationGroup accessor).output[0]? = some (.bound 0))
    ∧ (single through relationGroup accessor).narrowing.apply before witnesses =
      .ok ⟨relation, [known, found]⟩
    ∧ [known, found].map (·.isBound) =
      (single through relationGroup accessor).output.map (·.isBound) := by
  intro known found wildcards through accessor before witnesses
  have hwildcards : (single wildcards relationGroup accessor).narrowing.apply before witnesses =
      .ok ⟨relation, [.unknown, found]⟩ := rfl
  have hthrough : (single through relationGroup accessor).narrowing.apply before witnesses =
      .ok ⟨relation, [known, found]⟩ := rfl
  have hplan : ∀ options, single options relationGroup accessor ∈ ofGroup options relationGroup :=
    fun options => List.mem_cons_of_mem _ List.mem_cons_self
  obtain ⟨-, hshown, -⟩ :=
    apply_shape wildcards relationGroup _ (hplan _) before rfl witnesses _ hwildcards
  obtain ⟨-, -, hpassed, -⟩ :=
    apply_shape through relationGroup _ (hplan _) before rfl witnesses _ hthrough
  exact ⟨hwildcards, (hshown rfl 0).1, hthrough, ((hpassed rfl).2.2.2.2 rfl).1⟩

end CastPlan

end TypeWitness
