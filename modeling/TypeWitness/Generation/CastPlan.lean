import TypeWitness.Generation.Grouping
import TypeWitness.Generation.Options
import TypeWitness.Identifier
import TypeWitness.Witness.Narrowing

/-! # Cast plans
A cast plan describes one cast: which witnesses it takes, which type parameters it pins, and how the
instance looks before and after. The same plan gives a generated method and a narrowing at run time,
with the same checks in the same order. -/

namespace TypeWitness

/-! ## Types of witnesses
In a holder the type parameters of an accessor itself are out of scope. Each type argument that
mentions one becomes a wildcard, the innermost such argument where arguments are nested. -/

namespace TypeExpr

mutual
/-- The type argument without mentions of the given names. -/
def erase (names : List String) : TypeExpr → TypeExpr
  | named name [] => if names.contains name then wildcard else named name []
  | named name (first :: rest) => named name (eraseAll names (first :: rest))
  | other => if other.simpleNames.any names.contains then wildcard else other

/-- The type arguments without mentions of the given names. -/
def eraseAll (names : List String) : List TypeExpr → List TypeExpr
  | [] => []
  | type :: types => type.erase names :: eraseAll names types
end

/-- The type with the given names erased from its type arguments. -/
def eraseArguments (names : List String) : TypeExpr → TypeExpr
  | named name arguments => named name (eraseAll names arguments)
  | other => other

end TypeExpr

/-- The type of the witnesses that an accessor is compared with. -/
def TokenAccessor.witnessType (accessor : TokenAccessor) : TypeExpr :=
  accessor.returnType.eraseArguments accessor.ownParameters

/-! ## Type parameters that belong together -/

/-- The type parameters that a type mentions, by a bare name. -/
def OwningType.mentioned (owner : OwningType) (type : TypeExpr) : List Nat :=
  type.simpleNames.filterMap owner.parameterIndex?

/-- The type parameters that the bounds of one mention. -/
def OwningType.mentionedByBounds (owner : OwningType) (parameter : Nat) : List Nat :=
  match owner.parameters[parameter]? with
  | none => []
  | some declaration => declaration.bounds.flatMap owner.mentioned

/-- Follow bounds for a number of steps: `reached` are the parameters so far, and `latest` those
among them whose bounds have not been followed. -/
def OwningType.followBounds (owner : OwningType) : Nat → List Nat → List Nat → List Nat
  | 0, _, reached => reached
  | steps + 1, latest, reached =>
    let next :=
      ((latest.flatMap owner.mentionedByBounds).filter (!reached.contains ·)).eraseDups
    owner.followBounds steps next (next ++ reached)

/-- The given parameters and those that bounds lead to from them, in increasing order. Every
parameter that can be reached is reached in fewer steps than there are parameters. -/
def OwningType.closeOverBounds (owner : OwningType) (parameters : List Nat) : List Nat :=
  indicesBelow owner.arity (owner.followBounds owner.arity parameters parameters).contains

/-! ## Plans -/

/-- A witness that a cast takes. -/
structure WitnessParameter where
  /-- The accessor that the witness is compared with. -/
  accessor : String
  name : String
  /-- The text of the witness's type. -/
  type : String
  /-- Which type argument of the witness stands for which type parameter of the owner. -/
  binds : List (Nat × Nat)
  deriving DecidableEq, Repr

/-- A cast. -/
structure CastPlan where
  name : String
  owner : OwningType
  witnesses : List WitnessParameter
  /-- The type parameters that the witnesses determine. -/
  pinned : List Nat
  /-- The type parameters that the cast itself declares. -/
  quantified : List Nat
  /-- How the instance looks before. -/
  input : List (Slot Nat)
  /-- How the instance looks after. -/
  output : List (Slot Nat)
  /-- The name of the parameter for the instance. -/
  instanceName : String
  style : SignatureStyle

/-- Names for the witness parameters of accessors, apart from each other and from the taken ones. -/
def witnessNames (taken : List String) : List TokenAccessor → List String
  | [] => []
  | accessor :: accessors =>
    let name := freshName (localName accessor.tokenName.lower) taken
    name :: witnessNames (taken ++ [name]) accessors

/-- The type parameters that the witnesses of accessors determine. -/
def pinnedParameters (owner : OwningType) (accessors : List TokenAccessor) : List Nat :=
  let bound := (accessors.flatMap (·.binds)).map (·.2)
  indicesBelow owner.arity bound.contains

/-- The type parameters that a cast needs when it declares no more than that: the pinned ones, those
that the types of the witnesses mention, and those that bounds lead to. -/
def neededParameters (owner : OwningType) (accessors : List TokenAccessor) : List Nat :=
  let mentioned := accessors.flatMap fun accessor => owner.mentioned accessor.witnessType
  owner.closeOverBounds (pinnedParameters owner accessors ++ mentioned).eraseDups

/-- Slots that are bound to their own parameters where a property holds. -/
def slotsWhere (arity : Nat) (p : Nat → Bool) : List (Slot Nat) :=
  (List.range arity).map fun index => if p index then .bound index else .unknown

@[simp] theorem length_slotsWhere (arity : Nat) (p : Nat → Bool) :
    (slotsWhere arity p).length = arity := by
  simp [slotsWhere]

namespace CastPlan

/-- The cast of the given name that takes a witness for each of the accessors. -/
def build (name : String) (owner : OwningType) (accessors : List TokenAccessor)
    (style : SignatureStyle) : CastPlan :=
  let names := witnessNames [] accessors
  let pinned := pinnedParameters owner accessors
  { name
    owner
    witnesses := (accessors.zip names).map fun (accessor, name) =>
      ⟨accessor.name, name, accessor.witnessType.render, accessor.binds⟩
    pinned
    quantified := match style with
      | .wildcard => neededParameters owner accessors
      | .passthrough => List.range owner.arity
    input := match style with
      | .wildcard => Slot.allUnknown owner.arity
      | .passthrough => slotsWhere owner.arity fun index => !pinned.contains index
    output := match style with
      | .wildcard => slotsWhere owner.arity pinned.contains
      | .passthrough => slotsWhere owner.arity fun _ => true
    instanceName := freshName "o" names
    style }

/-- The cast that takes a witness for every accessor of a type. -/
def full (options : GenerationOptions) (group : TypeGroup) : CastPlan :=
  build options.castName group.owner group.accessors options.signatureStyle

/-- The cast that takes a witness for a single accessor of a type. -/
def single (options : GenerationOptions) (group : TypeGroup) (accessor : TokenAccessor) :
    CastPlan :=
  build (options.partialCastPrefix ++ accessor.tokenName.upper) group.owner [accessor]
    options.signatureStyle

/-- The casts of a type: the one over all accessors and, if there are several, one for each. -/
def ofGroup (options : GenerationOptions) (group : TypeGroup) : List CastPlan :=
  full options group ::
    if group.accessors.length > 1 then group.accessors.map (single options group) else []

/-- Whether everybody may use the cast. -/
def isPublic (plan : CastPlan) : Bool := plan.owner.visibility.isPublic

/-! ## The generated method -/

/-- The type of an instance with the given slots: parameters where they are bound, and wildcards. -/
def renderView (owner : OwningType) (slots : List (Slot Nat)) : String :=
  let argument : Slot Nat → String
    | .bound index => ((owner.parameters[index]?).map (·.name)).getD ""
    | .unknown => "?"
  if slots.isEmpty then owner.simpleName
  else owner.simpleName ++ "<" ++ ", ".intercalate (slots.map argument) ++ ">"

/-- The type of the instance before the cast. -/
def inputType (plan : CastPlan) : String := renderView plan.owner plan.input

/-- The type of the instance after the cast. -/
def outputType (plan : CastPlan) : String := renderView plan.owner plan.output

/-- The statement that refuses a witness which is missing or is not the one that the instance
keeps. -/
def refuse (instanceName : String) (witness : WitnessParameter) : Statement :=
  .ifThen
    (.binary (.binary (.name witness.name) .same .null) .or
      (.binary (.call (.name instanceName) witness.accessor []) .notSame (.name witness.name)))
    [.raise (.create "ClassCastException" [])]

/-- The method that performs the cast. -/
def method (options : GenerationOptions) (plan : CastPlan) : Method where
  annotations := options.castAnnotations
  modifiers := (if plan.isPublic then [.publicAccess] else []) ++ [.static]
  typeParameters := plan.quantified.filterMap fun index =>
    (plan.owner.parameters[index]?).map (·.declaration)
  returnType := plan.outputType
  name := plan.name
  parameters :=
    ⟨plan.inputType, plan.instanceName⟩ :: plan.witnesses.map fun witness =>
      ⟨witness.type, witness.name⟩
  body :=
    plan.witnesses.map (refuse plan.instanceName)
      ++ [.giveBack (.cast plan.outputType (.name plan.instanceName))]

/-! ## The narrowing at run time -/

/-- The narrowing with the same checks. -/
def narrowing (plan : CastPlan) : Narrowing where
  name := plan.name
  arity := plan.owner.arity
  checks := plan.witnesses.map fun witness => ⟨witness.accessor, witness.binds⟩
  passthrough := plan.style == .passthrough

end CastPlan

end TypeWitness
