/-! # Slots
A slot is the place of one type parameter in a view of a generic value: it is bound to something, or
nothing is known of it. -/

namespace TypeWitness

/-- The place of one type parameter. -/
inductive Slot (α : Type) where
  | bound (value : α)
  | unknown
  deriving DecidableEq, Repr, Inhabited

namespace Slot

variable {α : Type}

/-- What a slot is bound to. -/
def value? : Slot α → Option α
  | bound value => some value
  | unknown => none

@[simp] theorem value?_bound (value : α) : (bound value).value? = some value := rfl

@[simp] theorem value?_unknown : (unknown : Slot α).value? = none := rfl

/-- The slots of a view of the given arity of which nothing is known. -/
def allUnknown (arity : Nat) : List (Slot α) := List.replicate arity unknown

@[simp] theorem length_allUnknown (arity : Nat) :
    (allUnknown arity : List (Slot α)).length = arity := by
  simp [allUnknown]

/-- The slots cut or filled up with unknown ones to the given number. -/
def resize (arity : Nat) (slots : List (Slot α)) : List (Slot α) :=
  slots.take arity ++ allUnknown (arity - slots.length)

@[simp] theorem length_resize (arity : Nat) (slots : List (Slot α)) :
    (resize arity slots).length = arity := by
  simp [resize]; omega

/-- Slots of the given number are left as they are. -/
theorem resize_of_length {arity : Nat} {slots : List (Slot α)} (h : slots.length = arity) :
    resize arity slots = slots := by
  simp [resize, allUnknown, ← h]

end Slot

end TypeWitness
