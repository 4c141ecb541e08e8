import TypeWitness.Witness.Slot

/-! # Witnesses, instances and views
A witness stands for a generic type with its type arguments. An instance of a generic type keeps the
witnesses it was built with under the names of its token accessors, and a view shows an instance
together with what is claimed of its type arguments. Witnesses and instances are told apart by
identity: two witnesses made for the same type are different. -/

namespace TypeWitness

/-- The run-time name of a type argument. -/
structure TypeTag where
  name : String
  deriving DecidableEq, Repr

/-- A type token that is passed around at run time. Its arguments never change, so a witness is told
from all others by them and by its number among the witnesses that were made for the same ones. -/
structure Witness where
  /-- What tells this witness from all others with its arguments. -/
  number : Nat
  arguments : List TypeTag
  deriving DecidableEq, Repr

/-- Whether two witnesses are the very same. -/
def Witness.isSame (a b : Witness) : Bool := a == b

/-- One identity means one witness, and one list of arguments. -/
theorem Witness.isSame_iff {a b : Witness} : a.isSame b = true ↔ a = b := beq_iff_eq

/-- An instance of a generic type. -/
structure Instance where
  /-- What tells this instance from all others. -/
  identity : Nat
  /-- The witnesses that the instance keeps, by accessor name. -/
  witnesses : List (String × Witness)
  deriving DecidableEq, Repr

/-- The witness that an accessor of an instance hands out. -/
def Instance.witness? (subject : Instance) (accessor : String) : Option Witness :=
  subject.witnesses.lookup accessor

/-- An instance with what is claimed of its type arguments. -/
structure View where
  subject : Instance
  slots : List (Slot TypeTag)
  deriving DecidableEq, Repr

namespace View

/-- The view of an instance of which nothing is known. -/
def ofInstance (subject : Instance) (arity : Nat) : View := ⟨subject, Slot.allUnknown arity⟩

/-- The view that forgets what is claimed of the type arguments. -/
def erase (view : View) : View := ofInstance view.subject view.slots.length

@[simp] theorem subject_erase (view : View) : view.erase.subject = view.subject := rfl

@[simp] theorem length_slots_erase (view : View) : view.erase.slots.length = view.slots.length := by
  simp [erase, ofInstance]

/-- Whether two views show the very same instance. -/
def isSameInstance (a b : View) : Bool := a.subject.identity == b.subject.identity

end View

end TypeWitness
