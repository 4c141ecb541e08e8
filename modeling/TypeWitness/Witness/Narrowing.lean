import TypeWitness.Witness.View

/-! # Narrowings
A narrowing turns a view of an instance into one that claims more of its type arguments. It takes a
witness for each of its checks and compares it with the one that the instance keeps; what the
checked witnesses stand for is then known of the instance. -/

namespace TypeWitness

/-- One check of a narrowing. -/
structure WitnessCheck where
  /-- The accessor whose witness is compared. -/
  accessor : String
  /-- Which type argument of the witness stands for which type parameter. -/
  binds : List (Nat × Nat)
  deriving DecidableEq, Repr

/-- A checked change of view. -/
structure Narrowing where
  name : String
  /-- The number of type parameters. -/
  arity : Nat
  checks : List WitnessCheck
  /-- Whether the claims on other type parameters are kept. -/
  passthrough : Bool
  deriving DecidableEq, Repr

/-- Why witnesses do not prove what a narrowing claims. -/
inductive MismatchCause where
  | witnessCount (expected actual : Nat)
  | missingWitness (accessor : String)
  | unknownAccessor (accessor : String)
  | notIdentical (accessor : String)
  | malformedWitness (accessor : String) (position : Nat)
  deriving DecidableEq, Repr

/-- The wording of a cause. -/
def MismatchCause.message : MismatchCause → String
  | witnessCount expected actual => s!"expected {expected} witnesses, got {actual}"
  | missingWitness accessor => s!"no witness supplied for '{accessor}'"
  | unknownAccessor accessor => s!"instance has no token accessor '{accessor}'"
  | notIdentical accessor => s!"witness for '{accessor}' is not the instance's token"
  | malformedWitness accessor position =>
    s!"witness for '{accessor}' has no type argument at position {position}"

/-- A narrowing that failed, and why. -/
structure Mismatch where
  operation : String
  cause : MismatchCause
  deriving DecidableEq, Repr

/-- The wording of a mismatch. -/
def Mismatch.message (mismatch : Mismatch) : String :=
  mismatch.operation ++ ": " ++ mismatch.cause.message

/-- Bind slots to type arguments of a witness. A parameter beyond the slots is left alone. -/
def Witness.bindSlots (witness : Witness) (accessor : String) :
    List (Nat × Nat) → List (Slot TypeTag) → Except MismatchCause (List (Slot TypeTag))
  | [], slots => .ok slots
  | (position, parameter) :: binds, slots =>
    match witness.arguments[position]? with
    | none => .error (.malformedWitness accessor position)
    | some tag => witness.bindSlots accessor binds (slots.set parameter (.bound tag))

/-- Compare a witness with the one that an instance keeps, and bind slots to its type arguments. -/
def WitnessCheck.run (check : WitnessCheck) (subject : Instance) (witness? : Option Witness)
    (slots : List (Slot TypeTag)) : Except MismatchCause (List (Slot TypeTag)) :=
  match witness? with
  | none => .error (.missingWitness check.accessor)
  | some witness =>
    match subject.witness? check.accessor with
    | none => .error (.unknownAccessor check.accessor)
    | some kept =>
      if kept.isSame witness then witness.bindSlots check.accessor check.binds slots
      else .error (.notIdentical check.accessor)

/-- Run checks in their order, each with its witness. -/
def runChecks (subject : Instance) :
    List (WitnessCheck × Option Witness) → List (Slot TypeTag) →
      Except MismatchCause (List (Slot TypeTag))
  | [], slots => .ok slots
  | (check, witness?) :: rest, slots => do
    let slots ← check.run subject witness? slots
    runChecks subject rest slots

namespace Narrowing

/-- The slots before any check. -/
def initialSlots (narrowing : Narrowing) (view : View) : List (Slot TypeTag) :=
  if narrowing.passthrough then Slot.resize narrowing.arity view.slots
  else Slot.allUnknown narrowing.arity

@[simp] theorem length_initialSlots (narrowing : Narrowing) (view : View) :
    (narrowing.initialSlots view).length = narrowing.arity := by
  unfold initialSlots; split <;> simp

/-- The outcome of a narrowing: the slots of the new view, or why the witnesses do not suffice. -/
def outcome (narrowing : Narrowing) (view : View) (witnesses : List (Option Witness)) :
    Except MismatchCause (List (Slot TypeTag)) :=
  if witnesses.length = narrowing.checks.length then
    runChecks view.subject (narrowing.checks.zip witnesses) (narrowing.initialSlots view)
  else
    .error (.witnessCount narrowing.checks.length witnesses.length)

/-- Show the instance of a view as witnesses prove it to be. -/
def apply (narrowing : Narrowing) (view : View) (witnesses : List (Option Witness)) :
    Except Mismatch View :=
  match narrowing.outcome view witnesses with
  | .ok slots => .ok ⟨view.subject, slots⟩
  | .error cause => .error ⟨narrowing.name, cause⟩

end Narrowing

end TypeWitness
