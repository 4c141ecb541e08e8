import TypeWitness.Proofs.AcceptedTypes
import TypeWitness.Proofs.CastShapes

/-! # Recoverable parameters
Grouping marks the parameters that the accessors of a type witness, and planning pins those that the
witnesses of a cast bind. Both come to the same parameters: those for which some type argument of a
return type stands. What is left is erased, and shown as a wildcard.

* `TypeGroup.erasedParameters_eq` — the erased parameters are those that are shown as wildcards.
* `CastPlan.pinned_full`, `CastPlan.mem_pinned_single_iff` — what the casts of a type pin.
* `CastPlan.outputType_full` — the type of an instance after the full cast.
* `Manifest.recoverable_agrees` — grouping and planning agree on the types of a manifest. -/

namespace TypeWitness

/-! ## What accessors witness -/

namespace TokenAccessor

theorem mem_witnessed_iff {accessor : TokenAccessor} {index : Nat} :
    index ∈ accessor.witnessed ↔ ∃ bind ∈ accessor.binds, bind.2 = index := by
  rw [witnessed, List.mem_eraseDups, List.mem_map]

/-- An accessor without problems witnesses something. -/
theorem exists_mem_witnessed {accessor : TokenAccessor} (h : accessor.problem? = none) :
    ∃ index, index ∈ accessor.witnessed :=
  exists_mem_witnessed_iff.2 (problem?_eq_none_iff.1 h).2

/-- No parameter that an accessor witnesses is named like a wildcard, as its name stands as a type
argument. -/
theorem name_ne_of_mem_witnessed {accessor : TokenAccessor}
    (hreturn : accessor.returnType.wellFormed .whole = true) {index : Nat}
    (hindex : index ∈ accessor.witnessed) {parameter : TypeParameter}
    (hparameter : accessor.owner.parameters[index]? = some parameter) : parameter.name ≠ "?" := by
  obtain ⟨argument, hargument, hresolve⟩ := mem_witnessed_iff_resolve?.1 hindex
  obtain ⟨parameter', hparameter', rfl, -⟩ := exists_parameter_of_resolve? hresolve
  cases hparameter.symm.trans hparameter'
  cases htype : accessor.returnType with
  | named name arguments =>
    rw [htype, TypeExpr.wellFormed, TypeExpr.wellFormedArguments_eq, Bool.and_eq_true,
      List.all_eq_true] at hreturn
    rw [htype] at hargument
    -- what is written as a type argument is a name, and a wildcard is none
    have hwritten := hreturn.2 _ hargument
    rw [TypeExpr.wellFormed, Bool.and_eq_true, Bool.and_eq_true] at hwritten
    intro hname
    rw [hname] at hwritten
    exact absurd hwritten.1.1 (by decide)
  | _ =>
    rw [htype] at hargument
    cases hargument

end TokenAccessor

/-! ## What is recoverable -/

namespace TypeGroup

variable {group : TypeGroup}

theorem mem_recoverable_iff {index : Nat} :
    index ∈ group.recoverable ↔
      index < group.owner.arity ∧ ∃ accessor ∈ group.accessors, index ∈ accessor.witnessed := by
  simp [recoverable]

/-- The type arguments with which a type is shown after its full cast: a recoverable parameter by
its name, and an erased one as a wildcard. -/
def shownArguments (group : TypeGroup) : List String :=
  group.owner.parameters.zipIdx.map fun (parameter, index) =>
    if group.recoverable.contains index then parameter.name else "?"

/-- **The erased parameters are those that are shown as wildcards**, when no recoverable one is
named like a wildcard. -/
theorem erasedParameters_eq
    (h : ∀ index ∈ group.recoverable, ∀ parameter,
      group.owner.parameters[index]? = some parameter → parameter.name ≠ "?") :
    group.erasedParameters =
      ((group.owner.parameters.zip group.shownArguments).filter (·.2 == "?")).map (·.1.name) := by
  -- pair each parameter with how it is shown, so that both sides go through the same pairs
  have hzip : group.owner.parameters.zip group.shownArguments =
      group.owner.parameters.zipIdx.map fun (parameter, index) =>
        (parameter, if group.recoverable.contains index then parameter.name else "?") := by
    calc group.owner.parameters.zip group.shownArguments
        = (group.owner.parameters.zipIdx.map Prod.fst).zip group.shownArguments := by
          rw [List.zipIdx_map_fst]
      _ = _ := List.zip_map'
  rw [hzip, List.filter_map, List.map_map, erasedParameters, ← List.filterMap_eq_map,
    List.filterMap_filter]
  refine List.filterMap_congr fun entry hentry => ?_
  obtain ⟨parameter, index⟩ := entry
  have hparameter := List.mem_zipIdx_iff_getElem?.1 hentry
  by_cases hmem : index ∈ group.recoverable
  · simp [hmem, h index hmem parameter hparameter]
  · simp [hmem]

end TypeGroup

/-! ## What casts pin -/

namespace CastPlan

variable {options : GenerationOptions} {group : TypeGroup}

/-- **The full cast of a type pins what is recoverable.** -/
theorem pinned_full : (full options group).pinned = group.recoverable := by
  refine List.filter_congr fun index _ => ?_
  rw [Bool.eq_iff_iff, List.contains_iff_mem, List.contains_iff_mem, List.map_flatMap,
    List.mem_flatMap, List.mem_flatMap]
  simp only [TokenAccessor.mem_witnessed_iff, List.mem_map]

/-- **A partial cast pins what its accessor witnesses.** -/
theorem mem_pinned_single_iff {accessor : TokenAccessor} (howner : accessor.owner = group.owner)
    {index : Nat} :
    index ∈ (single options group accessor).pinned ↔ index ∈ accessor.witnessed := by
  have hpinned : (single options group accessor).pinned =
      pinnedParameters group.owner [accessor] := rfl
  rw [hpinned, pinnedParameters, mem_indicesBelow, List.contains_iff_mem, List.flatMap_singleton,
    List.mem_map, TokenAccessor.mem_witnessed_iff]
  refine and_iff_right_of_imp ?_
  rintro ⟨bind, hbind, rfl⟩
  exact howner ▸ TokenAccessor.lt_of_mem_binds hbind

/-- What a partial cast binds is what its accessor binds. -/
theorem exists_bind_single_iff {accessor : TokenAccessor} {index : Nat} :
    (∃ witness ∈ (single options group accessor).witnesses, ∃ bind ∈ witness.binds,
      bind.2 = index) ↔ index ∈ accessor.witnessed := by
  rw [TokenAccessor.mem_witnessed_iff]
  simp [single, build, witnessNames]

/-- Slots that are bound where a property holds are shown by names there and as wildcards
elsewhere. -/
theorem renderView_slotsWhere {owner : OwningType} (h : owner.parameters ≠ []) (p : Nat → Bool) :
    renderView owner (slotsWhere owner.arity p) =
      owner.simpleName ++ "<" ++ ", ".intercalate (owner.parameters.zipIdx.map
        fun (parameter, index) => if p index then parameter.name else "?") ++ ">" := by
  have hne : (slotsWhere owner.arity p).isEmpty = false := by
    rw [List.isEmpty_eq_false_iff, ← List.length_pos_iff, length_slotsWhere]
    exact List.length_pos_iff.2 h
  simp only [renderView, hne, Bool.false_eq_true, if_false]
  congr 3
  apply List.ext_getElem?
  intro index
  rw [List.getElem?_map, getElem?_slotsWhere, List.getElem?_map, List.getElem?_zipIdx]
  by_cases hlt : index < owner.arity
  · rw [if_pos hlt, List.getElem?_eq_getElem hlt]
    cases hp : p index <;> simp [hp, List.getElem?_eq_getElem hlt]
  · rw [if_neg hlt, List.getElem?_eq_none (Nat.not_lt.1 hlt)]
    rfl

/-- **The type of an instance after the full cast**, with wildcards. -/
theorem outputType_full (hstyle : options.signatureStyle = .wildcard)
    (h : group.owner.parameters ≠ []) :
    (full options group).outputType =
      group.owner.simpleName ++ "<" ++ ", ".intercalate group.shownArguments ++ ">" := by
  have houtput : (full options group).output =
      slotsWhere group.owner.arity group.recoverable.contains := by
    have hpinned : (full options group).pinned = group.recoverable := pinned_full
    rw [← hpinned]
    simp [full, build, hstyle]
  rw [outputType, houtput]
  exact renderView_slotsWhere h _

end CastPlan

/-! ## Agreement -/

/-- **Grouping and planning agree on what is recoverable.** The set that grouping fills has the
parameters that the full cast pins, which are those that some partial cast pins. Each partial cast
pins what its accessor witnesses, which is what its own witness binds, and that is at least one
parameter. After the full cast with wildcards the type of an instance shows the recoverable
parameters by their names and wildcards for exactly those that count as erased. -/
theorem Manifest.recoverable_agrees (options : GenerationOptions) (manifest : Manifest)
    {package : PackageGroup} (hpackage : package ∈ manifest.grouping.packages)
    {group : TypeGroup} (hgroup : group ∈ package.types) :
    (recoverable? group.accessors).map (·.toList) = some group.recoverable
    ∧ (CastPlan.full options group).pinned = group.recoverable
    ∧ (∀ index, index ∈ group.recoverable ↔
      ∃ accessor ∈ group.accessors, index ∈ (CastPlan.single options group accessor).pinned)
    ∧ (∀ accessor ∈ group.accessors,
      accessor.witnessed =
        (accessor.returnType.arguments.filterMap accessor.resolve?).eraseDups
      ∧ (CastPlan.single options group accessor).pinned ≠ []
      ∧ ∀ index,
        (index ∈ (CastPlan.single options group accessor).pinned ↔ index ∈ accessor.witnessed)
        ∧ (index ∈ (CastPlan.single options group accessor).pinned ↔
          ∃ witness ∈ (CastPlan.single options group accessor).witnesses,
            ∃ bind ∈ witness.binds, bind.2 = index))
    ∧ (options.signatureStyle = .wildcard →
      (CastPlan.full options group).outputType =
        group.owner.simpleName ++ "<" ++ ", ".intercalate group.shownArguments ++ ">"
      ∧ group.erasedParameters =
        ((group.owner.parameters.zip group.shownArguments).filter
          (·.2 == "?")).map (·.1.name)) := by
  have haccessor := fun {accessor} (h : accessor ∈ group.accessors) =>
    accessor_of_group hpackage hgroup h
  obtain ⟨-, -, -, -, -, hne, hproblems⟩ := exists_declaration_of_group hpackage hgroup
  have howner : ∀ accessor ∈ group.accessors, accessor.owner = group.owner :=
    fun accessor h => (haccessor h).1
  have hsingle : ∀ accessor ∈ group.accessors, ∀ index,
      index ∈ (CastPlan.single options group accessor).pinned ↔ index ∈ accessor.witnessed :=
    fun accessor h index => CastPlan.mem_pinned_single_iff (howner accessor h)
  -- what is witnessed is in range, so being witnessed is all that counts
  have hrecoverable : ∀ index, index ∈ group.recoverable ↔
      ∃ accessor ∈ group.accessors, index ∈ accessor.witnessed := by
    intro index
    rw [TypeGroup.mem_recoverable_iff]
    refine and_iff_right_of_imp ?_
    rintro ⟨accessor, h, hindex⟩
    exact howner accessor h ▸ TokenAccessor.lt_of_mem_witnessed hindex
  refine ⟨recoverable?_eq howner hne hproblems, CastPlan.pinned_full, fun index => ?_,
    fun accessor h => ⟨accessor.witnessed_eq, ?_, fun index => ⟨hsingle accessor h index, ?_⟩⟩,
    fun hstyle => ⟨?_, ?_⟩⟩
  · rw [hrecoverable]
    exact exists_congr fun accessor => and_congr_right fun h => (hsingle accessor h index).symm
  · obtain ⟨index, hindex⟩ := TokenAccessor.exists_mem_witnessed (haccessor h).2.1
    exact List.ne_nil_of_mem ((hsingle accessor h index).2 hindex)
  · rw [hsingle accessor h, CastPlan.exists_bind_single_iff]
  · refine CastPlan.outputType_full hstyle fun hnil => ?_
    -- some parameter is witnessed, so there are parameters
    obtain ⟨accessor, h⟩ := List.exists_mem_of_ne_nil _ hne
    obtain ⟨index, hindex⟩ := TokenAccessor.exists_mem_witnessed (haccessor h).2.1
    have hlt := howner accessor h ▸ TokenAccessor.lt_of_mem_witnessed hindex
    rw [OwningType.arity, hnil] at hlt
    exact Nat.not_lt_zero index hlt
  · refine TypeGroup.erasedParameters_eq fun index hindex parameter hparameter => ?_
    obtain ⟨accessor, h, hindex⟩ := (hrecoverable index).1 hindex
    rw [← howner accessor h] at hparameter
    exact TokenAccessor.name_ne_of_mem_witnessed (haccessor h).2.2 hindex hparameter

theorem Manifest.recoverable_agrees_relation :
    let manifest : Manifest := ⟨[relationDeclaration]⟩
    ∃ package ∈ manifest.grouping.packages, ∃ group ∈ package.types,
      group.owner.parameters.map (·.name) = ["A", "B"]
      ∧ (CastPlan.full .standard group).pinned = group.recoverable
      ∧ (CastPlan.full .standard group).outputType =
        group.owner.simpleName ++ "<" ++ ", ".intercalate group.shownArguments ++ ">" := by
  intro manifest
  obtain ⟨package, hpackage, group, hgroup, howner⟩ := exists_group_relation
  obtain ⟨-, hpinned, -, -, hshown⟩ := recoverable_agrees .standard manifest hpackage hgroup
  exact ⟨package, hpackage, group, hgroup, by rw [howner]; rfl, hpinned, (hshown rfl).1⟩

end TypeWitness
