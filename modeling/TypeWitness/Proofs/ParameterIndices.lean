import TypeWitness.Proofs.CastSignatures
import TypeWitness.Proofs.GroupsByType
import TypeWitness.Proofs.GuardedGeneration

/-! # No index is out of range
The accessors of one type all belong to one declaration, so an index that is found in the
declaration of an accessor's owner is an index of the type that the accessor is grouped under. Hence
no guard of the guarded run ever stops it, and it generates what the run without guards generates.

* `Manifest.owner_of_typeAccessors` — the accessors that are grouped together have one owner.
* `CastPlan.InRange` — the indices of a cast.
* `Manifest.indices_in_range` — the indices of a whole run. -/

namespace TypeWitness

/-! ## Indices of a cast -/

/-- All indices of a cast are below a bound. -/
structure CastPlan.InRange (bound : Nat) (plan : CastPlan) : Prop where
  pinned : ∀ index ∈ plan.pinned, index < bound
  binds : ∀ witness ∈ plan.witnesses, ∀ bind ∈ witness.binds, bind.2 < bound
  quantified : ∀ index ∈ plan.quantified, index < bound
  input : ∀ index, .bound index ∈ plan.input → index < bound
  output : ∀ index, .bound index ∈ plan.output → index < bound

namespace CastPlan

/-- **The indices of a cast** are those of the owner when its accessors are. -/
theorem inRange_build {name : String} {owner : OwningType} {accessors : List TokenAccessor}
    {style : SignatureStyle} (h : ∀ accessor ∈ accessors, accessor.owner = owner) :
    (build name owner accessors style).InRange owner.arity where
  pinned _ := mem_pinnedParameters_lt
  binds witness hwitness bind hbind := by
    obtain ⟨accessor, haccessor, -, -, hbinds⟩ := exists_accessor_of_mem_build hwitness
    rw [hbinds] at hbind
    exact h accessor haccessor ▸ TokenAccessor.lt_of_mem_binds hbind
  quantified := pairwise_quantified_build.2
  input index hindex := by
    cases style with
    | wildcard => simp [build, Slot.allUnknown] at hindex
    | passthrough => exact (bound_mem_slotsWhere_iff.1 hindex).1
  output index hindex := by
    cases style <;> exact (bound_mem_slotsWhere_iff.1 hindex).1

/-- A view whose indices the owner has is written without fault. -/
theorem renderView?_eq {owner : OwningType} {slots : List (Slot Nat)}
    (h : ∀ index, .bound index ∈ slots → index < owner.arity) :
    renderView? owner slots = some (renderView owner slots) := by
  -- the texts of the slots are those of the view without guards
  refine (congrArg (Option.bind · _) (mapM_eq_some_map fun slot hslot => ?_)).trans rfl
  cases slot with
  | bound index =>
    simp only [List.getElem?_eq_getElem (h index hslot), Option.map_some, Option.getD_some]
  | unknown => rfl

/-- A cast whose indices the owner has becomes a method without fault. -/
theorem method?_eq {plan : CastPlan} (options : GenerationOptions)
    (h : plan.InRange plan.owner.arity) : method? options plan = some (plan.method options) := by
  have hdeclared : ∀ index ∈ plan.quantified,
      ((plan.owner.parameters[index]?).map (·.declaration)).isSome := by
    intro index hindex
    rw [List.getElem?_eq_getElem (h.quantified index hindex)]
    rfl
  have htypeParameters := mapM_eq_some_filterMap hdeclared
  rw [method?, renderView?_eq h.input, renderView?_eq h.output, htypeParameters]
  rfl

theorem owner_of_mem_ofGroup {options : GenerationOptions} {group : TypeGroup} {plan : CastPlan}
    (h : plan ∈ ofGroup options group) : plan.owner = group.owner := by
  obtain ⟨name, accessors, -, rfl⟩ := exists_build_of_mem_ofGroup h
  rfl

section Group

variable {group : TypeGroup} (options : GenerationOptions)
  (h : ∀ accessor ∈ group.accessors, accessor.owner = group.owner)
include h

theorem inRange_of_mem_ofGroup {plan : CastPlan} (hplan : plan ∈ ofGroup options group) :
    plan.InRange group.owner.arity := by
  obtain ⟨name, accessors, hsublist, rfl⟩ := exists_build_of_mem_ofGroup hplan
  exact inRange_build fun accessor haccessor => h accessor (hsublist.subset haccessor)

/-- The casts of a type are planned without fault. -/
theorem ofGroup?_eq : ofGroup? options group = some (ofGroup options group) := by
  have hsingles : singles? options group =
      some (if group.accessors.length > 1 then group.accessors.map (single options group)
        else []) := by
    unfold singles?
    split
    · refine mapM_eq_some_map fun accessor haccessor => build?_eq fun other hother => ?_
      rw [List.mem_singleton.1 hother, h accessor haccessor]
    · rfl
  rw [ofGroup?, build?_eq h, hsingles]
  rfl

end Group

end CastPlan

/-! ## Whole runs -/

/-- The file of a holder is made without fault when the accessors of each of its types are those of
the type. -/
theorem PackageGroup.target?_eq {package : PackageGroup} (options : GenerationOptions)
    (h : ∀ group ∈ package.types, ∀ accessor ∈ group.accessors, accessor.owner = group.owner) :
    package.target? options = some (package.target options) := by
  have hplans : package.types.mapM (CastPlan.ofGroup? options) =
      some (package.types.map (CastPlan.ofGroup options)) :=
    mapM_eq_some_map fun group hgroup => CastPlan.ofGroup?_eq options (h group hgroup)
  have hmethods : (package.types.map (CastPlan.ofGroup options)).flatten.mapM
      (CastPlan.method? options) =
      some ((package.types.map (CastPlan.ofGroup options)).flatten.map
        (CastPlan.method options)) := by
    refine mapM_eq_some_map fun plan hplan => CastPlan.method?_eq options ?_
    rw [← List.flatMap_def, List.mem_flatMap] at hplan
    obtain ⟨group, hgroup, hplan⟩ := hplan
    rw [CastPlan.owner_of_mem_ofGroup hplan]
    exact CastPlan.inRange_of_mem_ofGroup options (h group hgroup) hplan
  have hholder : package.holderClass options = { package.holderClass options with
      members := .constructor [.privateAccess] [] [] ::
        ((package.types.map (CastPlan.ofGroup options)).flatten.map
          (CastPlan.method options)).map .method } := by
    rw [PackageGroup.holderClass, ← List.flatMap_def, List.map_map]
    rfl
  rw [target?, hplans]
  simp only [Option.bind_eq_bind, Option.bind_some, hmethods, ← hholder]
  rfl

namespace Manifest

variable {manifest : Manifest}

/-- **The accessors that are grouped together have one owner**, that of the declaration which is
used for its name. -/
theorem owner_of_typeAccessors {packageName simpleName : String} {rejected : List String}
    {accessor other : TokenAccessor}
    (haccessor : accessor ∈ typeAccessors packageName simpleName manifest.collect.accessors
      rejected)
    (hother : other ∈ typeAccessors packageName simpleName manifest.collect.accessors rejected) :
    accessor.owner = other.owner := by
  obtain ⟨hmem, -, hpackage, hsimple⟩ := mem_typeAccessors.1 haccessor
  obtain ⟨hmem', -, hpackage', hsimple'⟩ := mem_typeAccessors.1 hother
  rw [manifest.collect_items.1, List.mem_flatMap] at hmem hmem'
  obtain ⟨declaration, hused, hmem⟩ := hmem
  obtain ⟨declaration', hused', hmem'⟩ := hmem'
  have howner := TypeDeclaration.owner_of_mem_accessors hmem
  have howner' := TypeDeclaration.owner_of_mem_accessors hmem'
  -- the declarations have one qualified name, and a name is used for one declaration only
  have hname : declaration.qualifiedName = declaration'.qualifiedName := by
    rw [← declaration.qualifiedName_owner, ← declaration'.qualifiedName_owner, ← howner, ← howner',
      OwningType.qualifiedName, OwningType.qualifiedName, hpackage, hsimple, hpackage', hsimple']
  rw [howner, howner', eq_of_mem_used hused hused' hname]

/-- The accessors of a manifest are grouped without fault. -/
theorem groupAccessors?_eq (manifest : Manifest) (rejected : List String) :
    groupAccessors? manifest.collect.accessors rejected =
      some (groupAccessors manifest.collect.accessors rejected) := by
  have htype : ∀ packageName simpleName,
      groupType? (typeAccessors packageName simpleName manifest.collect.accessors rejected) =
        some (groupType (typeAccessors packageName simpleName manifest.collect.accessors
          rejected)) := by
    intro packageName simpleName
    cases hcell : typeAccessors packageName simpleName manifest.collect.accessors rejected with
    | nil => rfl
    | cons first others =>
      have howner : ∀ accessor ∈ first :: others, accessor.owner = first.owner := by
        intro accessor haccessor
        rw [← hcell] at haccessor
        exact owner_of_typeAccessors haccessor (hcell ▸ List.mem_cons_self)
      exact groupType?_eq howner
  rw [groupAccessors?, mapM_eq_some_map fun packageName _ => groupPackage?_eq (htype packageName)]
  rfl

/-- **No index is out of range.** The accessors of each type belong to the declaration that is used
for its name, so all indices that are found for them, and all that a cast keeps, are below the
number of its type parameters. No guard is ever hit: the guarded run generates what is generated
without guards. -/
theorem indices_in_range (options : GenerationOptions) (manifest : Manifest) :
    (∀ package ∈ manifest.grouping.packages, ∀ group ∈ package.types,
      (∃ declaration ∈ manifest.used, group.owner = declaration.owner
        ∧ ∀ accessor ∈ group.accessors, accessor.owner = declaration.owner)
      ∧ (recoverable? group.accessors).map (·.toList) = some group.recoverable
      ∧ (∀ accessor ∈ group.accessors, ∀ index,
        index ∈ accessor.witnessed ∨ index ∈ group.owner.mentioned accessor.witnessType →
          index < group.owner.arity)
      ∧ (∀ parameter index, index ∈ group.owner.mentionedByBounds parameter →
        index < group.owner.arity)
      ∧ ∀ plan ∈ CastPlan.ofGroup options group,
        plan.owner = group.owner ∧ plan.InRange group.owner.arity)
    ∧ manifest.guardedGenerate options = some (manifest.generate options) := by
  have howner : ∀ package ∈ manifest.grouping.packages, ∀ group ∈ package.types,
      ∀ accessor ∈ group.accessors, accessor.owner = group.owner :=
    fun package hpackage group hgroup accessor haccessor =>
      (accessor_of_group hpackage hgroup haccessor).1
  refine ⟨fun package hpackage group hgroup => ?_, ?_⟩
  · have hgroupOwner := howner package hpackage group hgroup
    obtain ⟨declaration, hused, -, hdeclaration, -, hne, hproblems⟩ :=
      exists_declaration_of_group hpackage hgroup
    refine ⟨⟨declaration, hused, hdeclaration, hdeclaration ▸ hgroupOwner⟩,
      recoverable?_eq hgroupOwner hne hproblems, fun accessor haccessor index hindex => ?_,
      fun parameter index hindex => (OwningType.mem_mentionedByBounds_iff.1 hindex).lt,
      fun plan hplan => ⟨CastPlan.owner_of_mem_ofGroup hplan,
        CastPlan.inRange_of_mem_ofGroup options hgroupOwner hplan⟩⟩
    cases hindex with
    | inl hindex => exact hgroupOwner accessor haccessor ▸ TokenAccessor.lt_of_mem_witnessed hindex
    | inr hindex => exact OwningType.lt_of_mem_mentioned hindex
  · have htargets : manifest.grouping.packages.mapM (·.target? options) =
        some (manifest.grouping.packages.map (·.target options)) :=
      mapM_eq_some_map fun package hpackage =>
        PackageGroup.target?_eq options (howner package hpackage)
    have hgrouping : groupAccessors? manifest.collect.accessors manifest.collect.rejected =
        some manifest.grouping := manifest.groupAccessors?_eq _
    rw [guardedGenerate, hgrouping]
    simp only [Option.bind_eq_bind, Option.bind_some, htargets]
    rfl

theorem indices_in_range_relation :
    let manifest : Manifest := ⟨[relationDeclaration]⟩
    ∃ package ∈ manifest.grouping.packages, ∃ group ∈ package.types,
      CastPlan.full .standard group ∈ CastPlan.ofGroup .standard group
      ∧ (CastPlan.full .standard group).InRange 2
      ∧ manifest.guardedGenerate .standard = some (manifest.generate .standard) := by
  intro manifest
  obtain ⟨package, hpackage, group, hgroup, howner⟩ := exists_group_relation
  have hplan : CastPlan.full .standard group ∈ CastPlan.ofGroup .standard group :=
    List.mem_cons_self
  obtain ⟨hgroups, hguarded⟩ := indices_in_range .standard manifest
  obtain ⟨-, -, -, -, hplans⟩ := hgroups package hpackage group hgroup
  have hrange := (hplans _ hplan).2
  rw [howner] at hrange
  exact ⟨package, hpackage, group, hgroup, hplan, hrange, hguarded⟩

end Manifest

end TypeWitness
