import TypeWitness.Generation.Holder
import TypeWitness.Proofs.AcceptedTypes

/-! # The casts of a package overload one another
All casts of a package are methods of one class, so a call picks one of them by its name, the number
of its parameters and the type of the instance. The casts of a type differ in one of the first two:
the cast over all accessors has more parameters than those over a single one, which there are only
beside it, and those differ by their token names. Casts of different types are for instances of
different types.

* `CastPlan.pairwise_ofGroup` — the casts of one type.
* `PackageGroup.methods_holderClass` — the methods of a holder are the casts of its package.
* `Manifest.overloads_apart` — no two methods of a holder clash. -/

namespace TypeWitness

/-! ## The casts of a type -/

namespace CastPlan

variable {options : GenerationOptions} {group : TypeGroup}

/-- A method has a parameter for the instance and one for each witness. -/
theorem length_parameters_method (options : GenerationOptions) (plan : CastPlan) :
    (plan.method options).parameters.length = plan.witnesses.length + 1 := by
  simp [method]

/-- There are as many witnesses as accessors. -/
theorem length_witnesses_build (name : String) (owner : OwningType)
    (accessors : List TokenAccessor) (style : SignatureStyle) :
    (build name owner accessors style).witnesses.length = accessors.length := by
  simp [build]

/-- **The casts of a type differ** in their names or in how many witnesses they take, when the token
names of the accessors differ. -/
theorem pairwise_ofGroup
    (htokens : group.accessors.Pairwise fun a b => a.tokenName.upper ≠ b.tokenName.upper) :
    (ofGroup options group).Pairwise fun a b =>
      a.name = b.name → a.witnesses.length ≠ b.witnesses.length := by
  rw [ofGroup, List.pairwise_cons]
  split
  · next hmany =>
    constructor
    · -- the name does not matter, as a single witness is less than all of them
      intro plan hplan _
      obtain ⟨accessor, -, rfl⟩ := List.mem_map.1 hplan
      rw [full, single, length_witnesses_build, length_witnesses_build, List.length_singleton]
      exact Nat.ne_of_gt hmany
    · rw [List.pairwise_map]
      refine htokens.imp fun hne hname => absurd ?_ hne
      have hprefixed := congrArg String.toList hname
      simp only [single, build, String.toList_append] at hprefixed
      exact String.toList_injective (List.append_cancel_left hprefixed)
  · exact ⟨fun plan hplan => absurd hplan List.not_mem_nil, List.Pairwise.nil⟩

/-- Before a cast an instance has the owner's type, with type arguments if the owner has type
parameters. -/
theorem exists_inputType_build (name : String) {owner : OwningType} (hparameters : owner.arity ≠ 0)
    (accessors : List TokenAccessor) (style : SignatureStyle) :
    ∃ arguments, (build name owner accessors style).inputType =
      owner.simpleName ++ "<" ++ arguments ++ ">" := by
  have hlength : (build name owner accessors style).input.length = owner.arity := by
    cases style <;> simp [build, Slot.allUnknown]
  have hsome : (build name owner accessors style).input.isEmpty = false := by
    rw [List.isEmpty_eq_false_iff, ← List.length_pos_iff, hlength]
    exact Nat.pos_of_ne_zero hparameters
  rw [inputType, renderView, hsome]
  exact ⟨_, rfl⟩

end CastPlan

/-! ## The methods of a holder -/

/-- The methods of a class, in their order. -/
def ClassDefinition.methods (definition : ClassDefinition) : List Method :=
  definition.members.filterMap fun
    | .method method => some method
    | _ => none

/-- The type that a method is first of all for: that of its first parameter, as it is written. -/
def Method.receiverType? (method : Method) : Option String := method.parameters.head?.map (·.type)

/-- A type as it is written, without its type arguments. -/
def erasedType (type : String) : String := String.ofList (type.toList.takeWhile (· != '<'))

/-- Without its type arguments a type is its name. -/
theorem erasedType_append {name : String} (hname : '<' ∉ name.toList) (arguments : String) :
    erasedType (name ++ "<" ++ arguments) = name := by
  have hall : ∀ c ∈ name.toList, (c != '<') = true :=
    fun c hmem => bne_iff_ne.2 fun heq => hname (heq ▸ hmem)
  apply String.toList_injective
  simp [erasedType, List.takeWhile_append_of_pos hall]

namespace PackageGroup

/-- The casts of a package, type by type. -/
def casts (options : GenerationOptions) (package : PackageGroup) : List CastPlan :=
  package.types.flatMap (CastPlan.ofGroup options)

/-- **The methods of a holder are the casts of its package.** -/
theorem methods_holderClass (options : GenerationOptions) (package : PackageGroup) :
    (package.holderClass options).methods =
      (package.casts options).map (·.method options) := by
  rw [ClassDefinition.methods, holderClass, List.filterMap_cons, List.filterMap_map]
  exact congrFun List.filterMap_eq_map' _

/-- A cast of a package is that of one of its types. -/
theorem mem_casts {options : GenerationOptions} {package : PackageGroup} {plan : CastPlan} :
    plan ∈ package.casts options ↔
      ∃ group ∈ package.types, plan ∈ CastPlan.ofGroup options group := List.mem_flatMap

/-- A cast belongs to one of the types of its package. -/
theorem exists_owner_of_mem_casts {options : GenerationOptions} {package : PackageGroup}
    {plan : CastPlan} (h : plan ∈ package.casts options) :
    ∃ group ∈ package.types, plan.owner = group.owner := by
  obtain ⟨group, hgroup, hplan⟩ := mem_casts.1 h
  exact ⟨group, hgroup, CastPlan.owner_of_mem_ofGroup hplan⟩

/-- Casts of different types are for instances of different types, and those of one type differ in
their names or in how many witnesses they take. -/
theorem pairwise_casts {package : PackageGroup} (options : GenerationOptions)
    (htypes : package.types.Pairwise fun a b => a.owner.simpleName < b.owner.simpleName)
    (htokens : ∀ group ∈ package.types,
      group.accessors.Pairwise fun a b => a.tokenName.upper ≠ b.tokenName.upper) :
    (package.casts options).Pairwise fun a b => ¬ (a.name = b.name
      ∧ a.witnesses.length = b.witnesses.length ∧ a.owner.simpleName = b.owner.simpleName) := by
  rw [casts, List.pairwise_flatMap]
  refine ⟨fun group hgroup => ?_, htypes.imp fun hlt a ha b hb => ?_⟩
  · refine (CastPlan.pairwise_ofGroup (htokens group hgroup)).imp fun hdiffer => ?_
    rintro ⟨hname, hcount, -⟩
    exact hdiffer hname hcount
  · rintro ⟨-, -, howner⟩
    rw [CastPlan.owner_of_mem_ofGroup ha, CastPlan.owner_of_mem_ofGroup hb] at howner
    exact String.lt_irrefl _ (howner ▸ hlt)

end PackageGroup

/-! ## The holders of a manifest -/

namespace Manifest

variable {manifest : Manifest} {package : PackageGroup}

/-- A type with casts has type parameters, as some accessor witnesses one. -/
theorem arity_ne_zero_of_group (hpackage : package ∈ manifest.grouping.packages)
    {group : TypeGroup} (hgroup : group ∈ package.types) : group.owner.arity ≠ 0 := by
  obtain ⟨declaration, -, -, -, -, hne, -⟩ := exists_declaration_of_group hpackage hgroup
  obtain ⟨accessor, haccessor⟩ := List.exists_mem_of_ne_nil _ hne
  obtain ⟨howner, hproblem, -⟩ := accessor_of_group hpackage hgroup haccessor
  obtain ⟨-, parameter, hparameter, -⟩ := TokenAccessor.problem?_eq_none_iff.1 hproblem
  rw [howner] at hparameter
  exact Nat.ne_of_gt (List.length_pos_of_mem hparameter)

/-- The instance that a cast takes is of the type that the cast belongs to. -/
theorem exists_receiverType (hpackage : package ∈ manifest.grouping.packages)
    {options : GenerationOptions} {plan : CastPlan} (hplan : plan ∈ package.casts options) :
    ∃ arguments, (plan.method options).receiverType? =
      some (plan.owner.simpleName ++ "<" ++ arguments ++ ">") := by
  obtain ⟨group, hgroup, hplan⟩ := PackageGroup.mem_casts.1 hplan
  obtain ⟨name, accessors, -, rfl⟩ := CastPlan.exists_build_of_mem_ofGroup hplan
  obtain ⟨arguments, heq⟩ := CastPlan.exists_inputType_build name
    (arity_ne_zero_of_group hpackage hgroup) accessors options.signatureStyle
  exact ⟨arguments, congrArg some heq⟩

/-- No two casts of a package have methods of the same name with equally many parameters, and the
same owning type. -/
theorem pairwise_methods (options : GenerationOptions)
    (hpackage : package ∈ manifest.grouping.packages) :
    (package.casts options).Pairwise fun a b =>
      ¬ ((a.method options).name = (b.method options).name
        ∧ (a.method options).parameters.length = (b.method options).parameters.length
        ∧ a.owner.simpleName = b.owner.simpleName) := by
  have htypes := (mem_packages_groupAccessors.1 hpackage).1 ▸ pairwise_acceptedTypes _
  refine (PackageGroup.pairwise_casts options htypes fun group hgroup =>
    (accessors_of_group hpackage hgroup).2).imp fun hdiffer => ?_
  rintro ⟨hname, hcount, howner⟩
  rw [CastPlan.length_parameters_method, CastPlan.length_parameters_method] at hcount
  exact hdiffer ⟨hname, Nat.succ.inj hcount, howner⟩

/-- Where names of types have no brackets, the type of the instance without its type arguments tells
the owner of a cast. -/
theorem erasedType_receiverType (hpackage : package ∈ manifest.grouping.packages)
    (hnames : ∀ group ∈ package.types, '<' ∉ group.owner.simpleName.toList)
    {options : GenerationOptions} {plan : CastPlan} (hplan : plan ∈ package.casts options) :
    (plan.method options).receiverType?.map erasedType = some plan.owner.simpleName := by
  obtain ⟨group, hgroup, heq⟩ := PackageGroup.exists_owner_of_mem_casts hplan
  obtain ⟨arguments, htype⟩ := exists_receiverType hpackage hplan
  rw [htype, Option.map_some, String.append_assoc, erasedType_append (heq ▸ hnames group hgroup)]

/-- **No two methods of a holder clash.** The methods are the casts of the package, each for
instances of the type that it belongs to. No two of them have the same name, equally many
parameters and the same owning type, whatever names the options give to casts. So unless a type's
name is written with a bracket, no two of them have the same name, equally many parameters and the
same first type up to type arguments. -/
theorem overloads_apart (options : GenerationOptions) (manifest : Manifest)
    (hpackage : package ∈ manifest.grouping.packages) :
    (package.holderClass options).methods = (package.casts options).map (·.method options)
    ∧ (∀ plan ∈ package.casts options,
      (∃ group ∈ package.types, plan.owner = group.owner)
      ∧ ∃ arguments, (plan.method options).receiverType? =
        some (plan.owner.simpleName ++ "<" ++ arguments ++ ">"))
    ∧ (package.casts options).Pairwise (fun a b =>
      ¬ ((a.method options).name = (b.method options).name
        ∧ (a.method options).parameters.length = (b.method options).parameters.length
        ∧ a.owner.simpleName = b.owner.simpleName))
    ∧ ((∀ group ∈ package.types, '<' ∉ group.owner.simpleName.toList) →
      (package.holderClass options).methods.Pairwise fun a b =>
        ¬ (a.name = b.name ∧ a.parameters.length = b.parameters.length
          ∧ a.receiverType?.map erasedType = b.receiverType?.map erasedType)) := by
  have hmethods := package.methods_holderClass options
  have hpairwise := pairwise_methods options hpackage
  refine ⟨hmethods, fun plan hplan => ⟨PackageGroup.exists_owner_of_mem_casts hplan,
    exists_receiverType hpackage hplan⟩, hpairwise, fun hnames => ?_⟩
  rw [hmethods, List.pairwise_map]
  refine hpairwise.imp_of_mem fun {a b} ha hb hdiffer => ?_
  rintro ⟨hname, hcount, htype⟩
  rw [erasedType_receiverType hpackage hnames ha, erasedType_receiverType hpackage hnames hb]
    at htype
  exact hdiffer ⟨hname, hcount, Option.some.inj htype⟩

/-- The full cast of a relation may be called like one of the others, which takes fewer
witnesses. -/
theorem overloads_apart_relation :
    let manifest : Manifest := ⟨[relationDeclaration]⟩
    let options := { GenerationOptions.standard with castName := "castByLeft" }
    ∃ package ∈ manifest.grouping.packages,
      (∃ group ∈ package.types, (CastPlan.ofGroup options group).map (fun plan =>
        ((plan.method options).name, (plan.method options).parameters.length)) =
          [("castByLeft", 3), ("castByLeft", 2), ("castByRight", 2)])
      ∧ (∀ group ∈ package.types, '<' ∉ group.owner.simpleName.toList)
      ∧ (package.holderClass options).methods.Pairwise fun a b =>
        ¬ (a.name = b.name ∧ a.parameters.length = b.parameters.length
          ∧ a.receiverType?.map erasedType = b.receiverType?.map erasedType) := by
  intro manifest options
  obtain ⟨package, hpackage, hgroup⟩ := exists_package_relation
  have hnames : ∀ group ∈ package.types, '<' ∉ group.owner.simpleName.toList := by
    intro group hgroup
    obtain ⟨declaration, hused, -, howner, -⟩ := exists_declaration_of_group hpackage hgroup
    rw [howner, List.mem_singleton.1 (mem_used_iff.1 hused).1]
    decide
  exact ⟨package, hpackage, ⟨_, hgroup, by decide +kernel⟩, hnames,
    (overloads_apart options manifest hpackage).2.2.2 hnames⟩

end Manifest

end TypeWitness
