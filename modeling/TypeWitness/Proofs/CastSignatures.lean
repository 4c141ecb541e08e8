import TypeWitness.Proofs.BoundsClosure
import TypeWitness.Proofs.FreshNames
import TypeWitness.Proofs.GroupedAccessors
import TypeWitness.Proofs.WitnessTypes

/-! # The signatures of casts
The type of a witness is written as text, with the arguments of the accessor's return type in their
places, and a cast declares every type parameter that its signature mentions: in the types of its
witnesses, in the bounds of what it declares, and in the types of the instance.

* `CastPlan.aligned_of_accessor` — each witness is aligned with its accessor.
* `CastPlan.closed_build` — what a signature mentions is declared.
* `CastPlan.pairwise_quantified_build` — parameters are declared in order.
* `Manifest.signatures_closed_and_aligned` — all of this for the casts of a manifest. -/

namespace TypeWitness

/-! ## Closed and aligned -/

/-- The type of a witness is read as a type with the name and the number of arguments of the
accessor's return type. It mentions no type parameter of the method, and each bound argument is the
bare name of the owner's parameter. -/
def WitnessParameter.Aligned (owner : OwningType) (witness : WitnessParameter)
    (accessor : TokenAccessor) : Prop :=
  ∃ name arguments arguments', accessor.returnType = .named name arguments
    ∧ TypeExpr.parse witness.type = .ok (.named name arguments')
    ∧ arguments'.length = arguments.length
    ∧ (∀ mention ∈ (TypeExpr.named name arguments').simpleNames, mention ∉ accessor.ownParameters)
    ∧ ∀ position index, (position, index) ∈ witness.binds →
      ∃ parameter, owner.parameters[index]? = some parameter
        ∧ arguments'[position]? = some (.named parameter.name [])

namespace CastPlan

/-- The parameters that a signature mentions are declared. -/
structure Closed (plan : CastPlan) : Prop where
  witnesses : ∀ witness ∈ plan.witnesses, ∀ type, TypeExpr.parse witness.type = .ok type →
    ∀ name ∈ type.simpleNames, ∀ index, plan.owner.parameterIndex? name = some index →
      index ∈ plan.quantified
  bounds : ∀ parameter ∈ plan.quantified, ∀ index, plan.owner.Leads parameter index →
    index ∈ plan.quantified
  slots : ∀ index, .bound index ∈ plan.input ∨ .bound index ∈ plan.output →
    index ∈ plan.quantified

/-! ## Witnesses -/

section Build

variable {name : String} {owner : OwningType} {accessors : List TokenAccessor}
  {style : SignatureStyle}

/-- Each witness is that of an accessor. -/
theorem exists_accessor_of_mem_build {witness : WitnessParameter}
    (h : witness ∈ (build name owner accessors style).witnesses) :
    ∃ accessor ∈ accessors, witness.accessor = accessor.name
      ∧ witness.type = accessor.witnessType.render ∧ witness.binds = accessor.binds := by
  obtain ⟨⟨accessor, witnessName⟩, hmem, rfl⟩ := List.mem_map.1 h
  exact ⟨accessor, (List.of_mem_zip hmem).1, rfl, rfl, rfl⟩

/-- The text of a witness's type is read as the type. -/
theorem parse_witnessType {accessor : TokenAccessor} (hproblem : accessor.problem? = none)
    (hreturn : accessor.returnType.wellFormed .whole = true) :
    TypeExpr.parse accessor.witnessType.render = .ok accessor.witnessType := by
  obtain ⟨head, arguments, hnamed, -⟩ := accessor.exists_returnType_of_problem? hproblem
  exact TypeExpr.parse_render (accessor.wellFormed_witnessType hnamed hreturn)

/-- **Each witness is aligned with its accessor.** -/
theorem aligned_of_accessor {accessor : TokenAccessor} {witness : WitnessParameter}
    (hproblem : accessor.problem? = none)
    (hreturn : accessor.returnType.wellFormed .whole = true)
    (htype : witness.type = accessor.witnessType.render)
    (hbinds : witness.binds = accessor.binds) : witness.Aligned accessor.owner accessor := by
  obtain ⟨head, arguments, hnamed, hne⟩ := accessor.exists_returnType_of_problem? hproblem
  have hwitness := accessor.witnessType_of_named hnamed
  refine ⟨head, arguments, arguments.map (·.erase accessor.ownParameters), hnamed, ?_,
    List.length_map _, ?_, ?_⟩
  · rw [htype, parse_witnessType hproblem hreturn, hwitness]
  · intro mention hmention
    rw [TypeExpr.simpleNames_named (mt List.map_eq_nil_iff.1 hne), List.flatMap_map,
      List.mem_flatMap] at hmention
    obtain ⟨argument, -, hmention⟩ := hmention
    exact TypeExpr.not_mem_of_mem_simpleNames_erase _ argument hmention
  · intro position index hbind
    exact accessor.witnessType_bind hnamed (hbinds ▸ hbind)

/-! ## Declared parameters -/

/-- Pinned parameters are needed. -/
theorem mem_neededParameters_of_pinned {index : Nat}
    (h : index ∈ pinnedParameters owner accessors) : index ∈ neededParameters owner accessors :=
  mem_neededParameters_of_first (mem_neededFirst_iff.2 (.inl h))

/-- Parameters that the type of a witness mentions are needed. -/
theorem mem_neededParameters_of_mentioned {accessor : TokenAccessor}
    (haccessor : accessor ∈ accessors) {mention : String}
    (hmention : mention ∈ accessor.witnessType.simpleNames) {index : Nat}
    (hindex : owner.parameterIndex? mention = some index) :
    index ∈ neededParameters owner accessors := by
  have hmentioned := OwningType.mem_mentioned_iff.2 ⟨mention, hmention, hindex⟩
  refine mem_neededParameters_of_first (mem_neededFirst_iff.2 (.inr ?_))
  exact ⟨accessor, haccessor, hmentioned⟩

/-- A slot of a view is bound where the property holds, to its own parameter. -/
theorem bound_mem_slotsWhere_iff {arity index : Nat} {p : Nat → Bool} :
    .bound index ∈ slotsWhere arity p ↔ index < arity ∧ p index = true := by
  rw [slotsWhere, List.mem_map]
  constructor
  · rintro ⟨index', hindex', h⟩
    split at h
    · next hp =>
      cases h
      exact ⟨List.mem_range.1 hindex', hp⟩
    · cases h
  · rintro ⟨hlt, hp⟩
    exact ⟨index, List.mem_range.2 hlt, if_pos hp⟩

/-- **What a signature mentions is declared.** -/
theorem closed_build
    (hparse : ∀ accessor ∈ accessors,
      TypeExpr.parse accessor.witnessType.render = .ok accessor.witnessType) :
    (build name owner accessors style).Closed := by
  cases style with
  | wildcard =>
    refine ⟨?_, fun _ hmem _ hleads => OwningType.closeOverBounds_closed hmem hleads, ?_⟩
    · intro witness hwitness type htype mention hmention index hindex
      obtain ⟨accessor, haccessor, -, htext, -⟩ := exists_accessor_of_mem_build hwitness
      rw [htext, hparse accessor haccessor] at htype
      cases htype
      exact mem_neededParameters_of_mentioned haccessor hmention hindex
    · intro index hslot
      rcases hslot with hinput | houtput
      · simp [build, Slot.allUnknown] at hinput
      · have hpinned := (bound_mem_slotsWhere_iff.1 houtput).2
        exact mem_neededParameters_of_pinned (List.contains_iff_mem.1 hpinned)
  | passthrough =>
    -- everything that the owner has is declared
    refine ⟨?_, fun _ _ _ hleads => List.mem_range.2 hleads.lt, ?_⟩
    · intro _ _ _ _ _ _ index hindex
      exact List.mem_range.2 (OwningType.parameterIndex?_lt hindex)
    · intro index hslot
      rcases hslot with hinput | houtput
      · exact List.mem_range.2 (bound_mem_slotsWhere_iff.1 hinput).1
      · exact List.mem_range.2 (bound_mem_slotsWhere_iff.1 houtput).1

/-- **Parameters are declared in order**, and the owner has them. -/
theorem pairwise_quantified_build :
    (build name owner accessors style).quantified.Pairwise (· < ·)
    ∧ ∀ index ∈ (build name owner accessors style).quantified, index < owner.arity := by
  cases style with
  | wildcard =>
    exact ⟨List.pairwise_lt_range.filter _, fun index hmem => (mem_indicesBelow.1 hmem).1⟩
  | passthrough => exact ⟨List.pairwise_lt_range, fun index hmem => List.mem_range.1 hmem⟩

end Build

end CastPlan

/-! ## The casts of a manifest -/

/-- The type of a member that can be read can be written. -/
theorem MemberDeclaration.wellFormed_of_readType {member : MemberDeclaration} {type : TypeExpr}
    (h : member.readType = .ok type) : type.wellFormed .whole = true := by
  unfold readType at h
  split at h
  · cases h
    decide
  · split at h
    · next hparse =>
      cases h
      exact (TypeExpr.parse_eq_ok_iff.1 hparse).1
    · cases h

/-- The accessors of a group belong to its type, are in order by themselves, and have return types
that can be written. -/
theorem Manifest.accessor_of_group {manifest : Manifest} {package : PackageGroup}
    {group : TypeGroup} (hpackage : package ∈ manifest.grouping.packages)
    (hgroup : group ∈ package.types) {accessor : TokenAccessor}
    (haccessor : accessor ∈ group.accessors) :
    accessor.owner = group.owner ∧ accessor.problem? = none
    ∧ accessor.returnType.wellFormed .whole = true := by
  obtain ⟨declaration, -, -, howner, hsorted, -, hproblems⟩ :=
    exists_declaration_of_group hpackage hgroup
  have hproblem := (((accessorProblems_eq_nil_iff [] _).1 hproblems).1 accessor haccessor).1
  rw [hsorted, List.mem_mergeSort] at haccessor
  obtain ⟨-, member, -, returnType, hread, rfl⟩ :=
    TypeDeclaration.mem_accessors_collect haccessor
  exact ⟨howner.symm, hproblem, MemberDeclaration.wellFormed_of_readType hread⟩

/-- **The signatures of casts are closed and aligned.** Each witness of a cast is that of an
accessor of the type, and is aligned with it. What a signature mentions is declared, in increasing
order. -/
theorem Manifest.signatures_closed_and_aligned (options : GenerationOptions) (manifest : Manifest)
    {package : PackageGroup} (hpackage : package ∈ manifest.grouping.packages)
    {group : TypeGroup} (hgroup : group ∈ package.types)
    {plan : CastPlan} (hplan : plan ∈ CastPlan.ofGroup options group) :
    (∀ witness ∈ plan.witnesses,
      (∃ accessor ∈ group.accessors, accessor.name = witness.accessor)
      ∧ ∀ accessor ∈ group.accessors, accessor.name = witness.accessor →
        witness.Aligned group.owner accessor)
    ∧ plan.Closed
    ∧ plan.quantified.Pairwise (· < ·)
    ∧ ∀ index ∈ plan.quantified, index < group.owner.arity := by
  obtain ⟨name, accessors, hsublist, rfl⟩ := CastPlan.exists_build_of_mem_ofGroup hplan
  have hnodup : (group.accessors.map (·.name)).Nodup := by
    obtain ⟨_, _, _, _, _, _, hproblems⟩ := exists_declaration_of_group hpackage hgroup
    exact nodup_names_of_accessorProblems hproblems
  refine ⟨fun witness hwitness => ?_, ?_, CastPlan.pairwise_quantified_build⟩
  · obtain ⟨own, hown, hname, htype, hbinds⟩ := CastPlan.exists_accessor_of_mem_build hwitness
    have hmem := hsublist.subset hown
    refine ⟨⟨own, hmem, hname.symm⟩, fun accessor haccessor hsame => ?_⟩
    -- names tell the accessors of a group apart
    have heq : accessor = own :=
      List.inj_on_of_nodup_map hnodup haccessor hmem (hsame.trans hname)
    subst heq
    obtain ⟨howner, hproblem, hreturn⟩ := accessor_of_group hpackage hgroup haccessor
    exact howner ▸ CastPlan.aligned_of_accessor hproblem hreturn htype hbinds
  · refine CastPlan.closed_build fun accessor haccessor => ?_
    obtain ⟨-, hproblem, hreturn⟩ :=
      accessor_of_group hpackage hgroup (hsublist.subset haccessor)
    exact CastPlan.parse_witnessType hproblem hreturn

theorem Manifest.signatures_closed_and_aligned_relation :
    let manifest : Manifest := ⟨[relationDeclaration]⟩
    ∃ package ∈ manifest.grouping.packages, ∃ group ∈ package.types,
      ∃ plan ∈ CastPlan.ofGroup .standard group,
        (∀ witness ∈ plan.witnesses,
          (∃ accessor ∈ group.accessors, accessor.name = witness.accessor)
          ∧ ∀ accessor ∈ group.accessors, accessor.name = witness.accessor →
            witness.Aligned group.owner accessor)
        ∧ plan.Closed
        ∧ plan.quantified.Pairwise (· < ·)
        ∧ ∀ index ∈ plan.quantified, index < group.owner.arity := by
  intro manifest
  obtain ⟨package, hpackage, group, hgroup, -⟩ := exists_group_relation
  have hplan : CastPlan.full .standard group ∈ CastPlan.ofGroup .standard group :=
    List.mem_cons_self
  exact ⟨package, hpackage, group, hgroup, _, hplan,
    signatures_closed_and_aligned .standard manifest hpackage hgroup hplan⟩

end TypeWitness
