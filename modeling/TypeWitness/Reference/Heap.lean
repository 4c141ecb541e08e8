import TypeWitness.Reference.IdentityMap

/-! # References in use
A program makes references, copies and drops them, and uses them as keys of one identity map. Memory
whose last reference is gone is free, and its address may be handed out again; a key of the map
counts as a reference. -/

namespace TypeWitness

/-- A program that works with references and one map. -/
structure Heap (α : Type) where
  /-- The references that the program has made; dropped ones leave a gap. -/
  handles : List (Option Reference)
  /-- The number of allocations so far. -/
  allocations : Nat
  map : IdentityMap α

namespace Heap

variable {α : Type}

/-- A program that has done nothing yet. -/
def empty : Heap α := ⟨[], 0, .empty⟩

/-- The reference behind a handle. -/
def reference? (heap : Heap α) (handle : Nat) : Option Reference := heap.handles[handle]?.join

/-- The references that keep memory in use: those of the program and the keys of the map. -/
def live (heap : Heap α) : List Reference :=
  heap.handles.filterMap id ++ heap.map.keys

/-- The addresses that live references point to. -/
def usedAddresses (heap : Heap α) : List Nat := heap.live.map (·.address)

/-- The least free address. There is one among the first addresses, one more in number than there
are live references. -/
def freeAddress (heap : Heap α) : Nat :=
  let used := heap.usedAddresses
  ((List.range (used.length + 1)).find? (!used.contains ·)).getD used.length

/-- Make a reference to new memory at a free address. -/
def allocateAt (heap : Heap α) (address : Nat) : Heap α :=
  { heap with
    handles := heap.handles ++ [some ⟨address, heap.allocations⟩]
    allocations := heap.allocations + 1 }

/-- Make a reference to new memory. -/
def allocate (heap : Heap α) : Heap α := heap.allocateAt heap.freeAddress

/-- Make another handle of the same reference. -/
def copy (heap : Heap α) (reference : Reference) : Heap α :=
  { heap with handles := heap.handles ++ [some reference] }

/-- Give up a handle. -/
def drop (heap : Heap α) (handle : Nat) : Heap α :=
  { heap with handles := heap.handles.set handle none }

/-- Change the map. -/
def withMap (heap : Heap α) (map : IdentityMap α) : Heap α := { heap with map }

end Heap

end TypeWitness
