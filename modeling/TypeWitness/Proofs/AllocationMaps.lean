import Mathlib.Data.Finmap
import TypeWitness.Reference.Heap

/-! # Maps by allocation
A program makes references, copies and drops them, and uses them as keys of its map. The map goes by
addresses, and an address is handed out again once no reference points to it. Beside this stands a
program in which nothing has an address: its references are allocations, and its map is a finite map
from allocations to values. Both give the same answers, wherever new memory is placed.

What carries this is that live references have one address exactly when they belong to one
allocation. A key of the map is live, so its address cannot come to mean another allocation.

* `Heap.Sound` — what holds of a heap at all times.
* `Heap.Agrees.perform` — one operation on both sides.
* `Heap.answers_by_allocation` — whole programs. -/

namespace TypeWitness

variable {α : Type}

/-! ## Operations -/

/-- What a program may do. A handle is told by its number, and new memory comes with the address at
which it is placed. -/
inductive HeapOperation (α : Type) where
  | allocate (address : Nat)
  | copy (handle : Nat)
  | drop (handle : Nat)
  | put (handle : Nat) (value : α)
  | get (handle : Nat)
  | remove (handle : Nat)
  | contains (handle : Nat)
  | size
  deriving DecidableEq, Repr

/-- The operation with new memory at the given address. -/
def HeapOperation.placeAt (address : Nat) : HeapOperation α → HeapOperation α
  | allocate _ => allocate address
  | operation => operation

/-- What a program sees of an operation. -/
inductive HeapAnswer (α : Type) where
  /-- The number of a new handle. -/
  | handle (number : Nat)
  | nothing
  /-- The value under a key, if there is one. -/
  | value (value? : Option α)
  | truth (holds : Bool)
  | count (number : Nat)
  deriving DecidableEq, Repr

/-- The answers to operations that are performed one after the other, if all of them can be. -/
def answersOf {σ : Type} (perform : σ → HeapOperation α → Option (HeapAnswer α × σ)) :
    σ → List (HeapOperation α) → Option (List (HeapAnswer α))
  | _, [] => some []
  | state, operation :: operations => do
    let (answer, next) ← perform state operation
    let others ← answersOf perform next operations
    return answer :: others

/-- Perform an operation. Its handle must be in use, and no live reference may point to the place of
new memory. -/
def Heap.perform (heap : Heap α) : HeapOperation α → Option (HeapAnswer α × Heap α)
  | .allocate address =>
    if address ∈ heap.usedAddresses then none
    else some (.handle heap.handles.length, heap.allocateAt address)
  | .copy handle =>
    (heap.reference? handle).map fun reference =>
      (.handle heap.handles.length, heap.copy reference)
  | .drop handle => (heap.reference? handle).map fun _ => (.nothing, heap.drop handle)
  | .put handle value =>
    (heap.reference? handle).map fun key =>
      (.value (heap.map.get? key), heap.withMap (heap.map.insert key value))
  | .get handle => (heap.reference? handle).map fun key => (.value (heap.map.get? key), heap)
  | .remove handle =>
    (heap.reference? handle).map fun key =>
      (.value (heap.map.get? key), heap.withMap (heap.map.erase key))
  | .contains handle =>
    (heap.reference? handle).map fun key => (.truth (heap.map.contains key), heap)
  | .size => some (.count heap.map.size, heap)

/-! ## The program without addresses -/

/-- A program that works with allocations themselves. -/
structure AllocationProgram (α : Type) where
  /-- The allocations that handles stand for; dropped handles leave a gap. -/
  handles : List (Option Nat)
  /-- The number of allocations so far. -/
  allocations : Nat
  values : Finmap fun _ : Nat => α

namespace AllocationProgram

/-- A program that has done nothing yet. -/
def empty : AllocationProgram α := ⟨[], 0, ∅⟩

/-- The allocation behind a handle. -/
def allocation? (program : AllocationProgram α) (handle : Nat) : Option Nat :=
  program.handles[handle]?.join

/-- Perform an operation. New memory is another allocation than all before, wherever it is
placed. -/
def perform (program : AllocationProgram α) :
    HeapOperation α → Option (HeapAnswer α × AllocationProgram α)
  | .allocate _ =>
    some (.handle program.handles.length,
      { program with
        handles := program.handles ++ [some program.allocations]
        allocations := program.allocations + 1 })
  | .copy handle =>
    (program.allocation? handle).map fun allocation =>
      (.handle program.handles.length,
        { program with handles := program.handles ++ [some allocation] })
  | .drop handle =>
    (program.allocation? handle).map fun _ =>
      (.nothing, { program with handles := program.handles.set handle none })
  | .put handle value =>
    (program.allocation? handle).map fun allocation =>
      (.value (program.values.lookup allocation),
        { program with values := program.values.insert allocation value })
  | .get handle =>
    (program.allocation? handle).map fun allocation =>
      (.value (program.values.lookup allocation), program)
  | .remove handle =>
    (program.allocation? handle).map fun allocation =>
      (.value (program.values.lookup allocation),
        { program with values := program.values.erase allocation })
  | .contains handle =>
    (program.allocation? handle).map fun allocation =>
      (.truth (program.values.lookup allocation).isSome, program)
  | .size => some (.count program.values.keys.card, program)

end AllocationProgram

/-! ## Maps by address -/

namespace IdentityMap

variable {map : IdentityMap α} {key other : Reference} {value : α}

/-- References to one place have one value. -/
theorem get?_congr (h : key.address = other.address) : map.get? key = map.get? other := by
  simp only [get?, Reference.isSame, h]

theorem get?_erase_of_ne (h : other.address ≠ key.address) :
    (map.erase key).get? other = map.get? other := by
  have hsame : ∀ entry : Reference × α,
      decide ((!entry.1.isSame key) = true ∧ entry.1.isSame other = true)
        = entry.1.isSame other := by
    intro entry
    simp only [Reference.isSame, Bool.not_eq_true', beq_eq_false_iff_ne, beq_iff_eq]
    by_cases hentry : entry.1.address = other.address
    · simp [hentry, h]
    · simp [hentry]
  simp only [get?, erase, List.find?_filter, hsame]

theorem get?_insert_of_ne (h : other.address ≠ key.address) :
    (map.insert key value).get? other = map.get? other := by
  have hkey : key.isSame other = false := by simpa [Reference.isSame] using Ne.symm h
  rw [get?, insert, List.find?_cons, hkey]
  exact get?_erase_of_ne h

/-- A place that no key has is not in the map. -/
theorem get?_eq_none (h : ∀ entry ∈ map.keys, entry.address ≠ key.address) :
    map.get? key = none := by
  rw [get?, Option.map_eq_none_iff, List.find?_eq_none]
  intro entry hentry
  simpa [Reference.isSame] using h entry.1 (List.mem_map_of_mem hentry)

theorem keys_erase (map : IdentityMap α) (key : Reference) :
    (map.erase key).keys = map.keys.filter fun entry => !entry.isSame key := by
  rw [keys, keys, erase, List.filter_map]
  rfl

theorem keys_insert (map : IdentityMap α) (key : Reference) (value : α) :
    (map.insert key value).keys = key :: (map.erase key).keys := rfl

theorem mem_keys_erase : other ∈ (map.erase key).keys ↔
    other ∈ map.keys ∧ other.address ≠ key.address := by
  rw [keys_erase, List.mem_filter, Reference.isSame, Bool.not_eq_true', beq_eq_false_iff_ne]

/-- The size is the number of keys. -/
theorem size_eq (map : IdentityMap α) : map.size = map.keys.length := (List.length_map _).symm

end IdentityMap

/-! ## Live references -/

namespace Heap

variable {heap : Heap α} {program : AllocationProgram α}

theorem mem_live {reference : Reference} :
    reference ∈ heap.live ↔ some reference ∈ heap.handles ∨ reference ∈ heap.map.keys := by
  simp [live]

theorem mem_handles_of_reference? {handle : Nat} {reference : Reference}
    (h : heap.reference? handle = some reference) : some reference ∈ heap.handles := by
  rw [reference?, Option.join_eq_some_iff] at h
  exact List.mem_of_getElem? h

/-- A reference behind a handle is live. -/
theorem mem_live_of_reference? {handle : Nat} {reference : Reference}
    (h : heap.reference? handle = some reference) : reference ∈ heap.live :=
  mem_live.2 (.inl (mem_handles_of_reference? h))

/-- There is always a free address. -/
theorem freeAddress_not_mem (heap : Heap α) : heap.freeAddress ∉ heap.usedAddresses := by
  rw [freeAddress]
  cases hfind : (List.range (heap.usedAddresses.length + 1)).find?
      (!heap.usedAddresses.contains ·) with
  | some address =>
    rw [Option.getD_some]
    simpa using List.find?_some hfind
  | none =>
    -- more addresses than live references cannot all be in use
    rw [List.find?_eq_none] at hfind
    have hsubset : List.range (heap.usedAddresses.length + 1) ⊆ heap.usedAddresses := by
      intro address haddress
      simpa using hfind address haddress
    have hle := (List.nodup_range.subperm hsubset).length_le
    rw [List.length_range] at hle
    omega

/-- What holds of a heap at all times. Live references have one address exactly when they belong to
one allocation, which is one of those made so far, and no allocation is twice among the keys. -/
structure Sound (heap : Heap α) : Prop where
  same_iff : ∀ reference ∈ heap.live, ∀ other ∈ heap.live,
    reference.address = other.address ↔ reference.allocation = other.allocation
  lt : ∀ reference ∈ heap.live, reference.allocation < heap.allocations
  nodup : (heap.map.keys.map (·.allocation)).Nodup

/-- A heap and a program without addresses are in the same state: handles stand for the same
allocations, and the maps have the same values under them. -/
structure Agrees (heap : Heap α) (program : AllocationProgram α) : Prop where
  handles : program.handles = heap.handles.map (·.map (·.allocation))
  allocations : program.allocations = heap.allocations
  keys : ∀ allocation, allocation ∈ program.values ↔
    ∃ key ∈ heap.map.keys, key.allocation = allocation
  values : ∀ reference ∈ heap.live,
    program.values.lookup reference.allocation = heap.map.get? reference

theorem sound_empty : (empty : Heap α).Sound := ⟨nofun, nofun, .nil⟩

theorem agrees_empty : (empty : Heap α).Agrees .empty :=
  ⟨rfl, rfl, fun _ => iff_of_false Finmap.notMem_empty nofun, nofun⟩

/-! ## One operation -/

/-- A heap with fewer live references stays sound. -/
theorem Sound.of_subset {next : Heap α} (h : heap.Sound)
    (hlive : ∀ reference ∈ next.live, reference ∈ heap.live)
    (hallocations : next.allocations = heap.allocations)
    (hnodup : (next.map.keys.map (·.allocation)).Nodup) : next.Sound :=
  ⟨fun reference hmem other hother =>
      h.same_iff reference (hlive _ hmem) other (hlive _ hother),
    fun reference hmem => hallocations ▸ h.lt reference (hlive _ hmem), hnodup⟩

/-- Handles come and go while the map stays. -/
theorem Sound.withHandles {handles : List (Option Reference)} (h : heap.Sound)
    (hhandles : ∀ reference, some reference ∈ handles → some reference ∈ heap.handles) :
    ({ heap with handles } : Heap α).Sound := by
  refine h.of_subset (fun reference hmem => ?_) rfl h.nodup
  rw [mem_live] at hmem ⊢
  exact hmem.imp_left (hhandles reference)

/-- New memory is apart from all live references. -/
theorem Sound.allocateAt {address : Nat} (h : heap.Sound) (hfree : address ∉ heap.usedAddresses) :
    (heap.allocateAt address).Sound := by
  have hlive : ∀ reference, reference ∈ (heap.allocateAt address).live ↔
      reference ∈ heap.live ∨ reference = ⟨address, heap.allocations⟩ := by
    intro reference
    simp only [mem_live, Heap.allocateAt, List.mem_append, List.mem_singleton, Option.some.injEq]
    tauto
  have hapart : ∀ reference ∈ heap.live,
      reference.address ≠ address ∧ reference.allocation ≠ heap.allocations := fun reference hmem =>
    ⟨fun heq => hfree (heq ▸ List.mem_map_of_mem hmem), Nat.ne_of_lt (h.lt reference hmem)⟩
  refine ⟨fun reference hmem other hother => ?_, fun reference hmem => ?_, h.nodup⟩
  · rcases (hlive _).1 hmem with hmem | rfl <;> rcases (hlive _).1 hother with hother | rfl
    · exact h.same_iff reference hmem other hother
    · exact iff_of_false (hapart reference hmem).1 (hapart reference hmem).2
    · exact iff_of_false (hapart other hother).1.symm (hapart other hother).2.symm
    · exact iff_of_true rfl rfl
  · rcases (hlive _).1 hmem with hmem | rfl
    · exact Nat.lt_succ_of_lt (h.lt reference hmem)
    · exact Nat.lt_succ_self _

theorem mem_live_of_erase {key reference : Reference}
    (h : reference ∈ (heap.withMap (heap.map.erase key)).live) : reference ∈ heap.live := by
  rw [mem_live] at h ⊢
  exact h.imp_right fun hmem => (IdentityMap.mem_keys_erase.1 hmem).1

theorem mem_live_of_insert {key reference : Reference} {value : α} (hkey : key ∈ heap.live)
    (h : reference ∈ (heap.withMap (heap.map.insert key value)).live) : reference ∈ heap.live := by
  simp only [mem_live, withMap, IdentityMap.keys_insert, List.mem_cons] at h
  rcases h with hhandle | rfl | hmem
  · exact mem_live.2 (.inl hhandle)
  · exact hkey
  · exact mem_live_of_erase (mem_live.2 (.inr hmem))

/-- A key leaves the map. -/
theorem Sound.erase (h : heap.Sound) (key : Reference) :
    (heap.withMap (heap.map.erase key)).Sound := by
  refine h.of_subset (fun _ => mem_live_of_erase) rfl ?_
  have hsublist : (heap.map.erase key).keys.Sublist heap.map.keys := by
    rw [IdentityMap.keys_erase]
    exact List.filter_sublist
  exact h.nodup.sublist (hsublist.map _)

/-- A live reference becomes a key of the map. -/
theorem Sound.insert (h : heap.Sound) {key : Reference} (hkey : key ∈ heap.live) (value : α) :
    (heap.withMap (heap.map.insert key value)).Sound := by
  refine h.of_subset (fun _ => mem_live_of_insert hkey) rfl ?_
  refine List.nodup_cons.2 ⟨fun hmem => ?_, (h.erase key).nodup⟩
  -- another key of the same allocation would have the same address, and would have left
  obtain ⟨other, hother, hsame⟩ := List.mem_map.1 hmem
  obtain ⟨hother, hne⟩ := IdentityMap.mem_keys_erase.1 hother
  exact hne ((h.same_iff other (mem_live.2 (.inr hother)) key hkey).2 hsame)

section Agrees

variable (hsound : heap.Sound) (h : heap.Agrees program)
include h

/-- A handle stands for the allocation that its reference belongs to. -/
theorem Agrees.allocation? (handle : Nat) :
    program.allocation? handle = (heap.reference? handle).map (·.allocation) := by
  rw [AllocationProgram.allocation?, h.handles, reference?, List.getElem?_map]
  cases heap.handles[handle]? with
  | none => rfl
  | some reference? => rfl

/-- Handles come and go; the map and the allocations stay. -/
theorem Agrees.withHandles {handles : List (Option Reference)}
    (hhandles : ∀ reference, some reference ∈ handles → some reference ∈ heap.handles) :
    ({ heap with handles } : Heap α).Agrees
      { program with handles := handles.map (·.map (·.allocation)) } := by
  refine ⟨rfl, h.allocations, h.keys, fun reference hmem => h.values reference ?_⟩
  rw [mem_live] at hmem ⊢
  exact hmem.imp_left (hhandles reference)

include hsound

/-- New memory has no value, although there may have been one at its address before. -/
theorem Agrees.allocateAt {address : Nat} (hfree : address ∉ heap.usedAddresses) :
    (heap.allocateAt address).Agrees
      { program with
        handles := program.handles ++ [some program.allocations]
        allocations := program.allocations + 1 } := by
  refine ⟨?_, congrArg (· + 1) h.allocations, h.keys, fun reference hmem => ?_⟩
  · simp [Heap.allocateAt, h.handles, h.allocations]
  · have hcases : reference ∈ heap.live ∨ reference = ⟨address, heap.allocations⟩ := by
      simp only [mem_live, Heap.allocateAt, List.mem_append, List.mem_singleton,
        Option.some.injEq] at hmem ⊢
      tauto
    rcases hcases with hmem | rfl
    · exact h.values reference hmem
    · have hnone : heap.map.get? ⟨address, heap.allocations⟩ = none := by
        refine IdentityMap.get?_eq_none fun key hkey heq => hfree ?_
        exact List.mem_map.2 ⟨key, mem_live.2 (.inr hkey), heq⟩
      refine (Finmap.lookup_eq_none.2 fun hnew => ?_).trans hnone.symm
      obtain ⟨key, hkey, heq⟩ := (h.keys _).1 hnew
      exact Nat.ne_of_lt (hsound.lt key (mem_live.2 (.inr hkey))) heq

/-- The size of the map is the number of allocations that have a value. -/
theorem Agrees.card_keys : program.values.keys.card = heap.map.size := by
  have hkeys : program.values.keys = (heap.map.keys.map (·.allocation)).toFinset := by
    ext allocation
    rw [Finmap.mem_keys, h.keys, List.mem_toFinset, List.mem_map]
  rw [hkeys, List.toFinset_card_of_nodup hsound.nodup, List.length_map, IdentityMap.size_eq]

/-- A key that goes takes the value of its allocation along, and of no other. -/
theorem Agrees.erase {key : Reference} (hkey : key ∈ heap.live) :
    (heap.withMap (heap.map.erase key)).Agrees
      { program with values := program.values.erase key.allocation } := by
  refine ⟨h.handles, h.allocations, fun allocation => ?_, fun reference hmem => ?_⟩
  · simp only [Finmap.mem_erase, h.keys, withMap, IdentityMap.mem_keys_erase]
    constructor
    · rintro ⟨hne, other, hother, rfl⟩
      have hsame := hsound.same_iff other (mem_live.2 (.inr hother)) key hkey
      exact ⟨other, ⟨hother, mt hsame.1 hne⟩, rfl⟩
    · rintro ⟨other, ⟨hother, hne⟩, rfl⟩
      have hsame := hsound.same_iff other (mem_live.2 (.inr hother)) key hkey
      exact ⟨mt hsame.2 hne, other, hother, rfl⟩
  · replace hmem := mem_live_of_erase hmem
    have hsame := hsound.same_iff reference hmem key hkey
    by_cases heq : reference.address = key.address
    · rw [hsame.1 heq, Finmap.lookup_erase, IdentityMap.get?_congr heq]
      exact (IdentityMap.get?_erase_self heap.map key).symm
    · rw [Finmap.lookup_erase_ne (mt hsame.2 heq), h.values reference hmem]
      exact (IdentityMap.get?_erase_of_ne heq).symm

/-- A value is put under the allocation of its key, and under no other. -/
theorem Agrees.insert {key : Reference} (hkey : key ∈ heap.live) (value : α) :
    (heap.withMap (heap.map.insert key value)).Agrees
      { program with values := program.values.insert key.allocation value } := by
  refine ⟨h.handles, h.allocations, fun allocation => ?_, fun reference hmem => ?_⟩
  · -- the keys are the new one and those that stay when it goes
    have hothers := (h.erase hsound hkey).keys allocation
    simp only [Finmap.mem_erase, withMap] at hothers
    simp only [Finmap.mem_insert, withMap, IdentityMap.keys_insert, List.exists_mem_cons_iff,
      ← hothers]
    tauto
  · replace hmem := mem_live_of_insert hkey hmem
    have hsame := hsound.same_iff reference hmem key hkey
    by_cases heq : reference.address = key.address
    · rw [hsame.1 heq, Finmap.lookup_insert, IdentityMap.get?_congr heq]
      exact (IdentityMap.get?_insert_self heap.map key value).symm
    · rw [Finmap.lookup_insert_of_ne _ (mt hsame.2 heq), h.values reference hmem]
      exact (IdentityMap.get?_insert_of_ne heq).symm

/-- **One operation.** Its answer does not depend on addresses, and the states stay the same. -/
theorem Agrees.perform {operation : HeapOperation α} {answer : HeapAnswer α} {next : Heap α}
    (hperform : heap.perform operation = some (answer, next)) :
    ∃ next', program.perform operation = some (answer, next') ∧ next.Sound ∧ next.Agrees next' := by
  have hlength : program.handles.length = heap.handles.length := by
    rw [h.handles, List.length_map]
  cases operation with
  | allocate address =>
    rw [Heap.perform] at hperform
    split at hperform
    · cases hperform
    · next hfree =>
      cases hperform
      exact ⟨_, by rw [AllocationProgram.perform, hlength], hsound.allocateAt hfree,
        h.allocateAt hsound hfree⟩
  | copy handle =>
    obtain ⟨reference, hreference, heq⟩ := Option.map_eq_some_iff.1 hperform
    cases heq
    have hhandles : program.handles ++ [some reference.allocation] =
        (heap.handles ++ [some reference]).map (·.map (·.allocation)) := by
      rw [h.handles, List.map_append]
      rfl
    have hlive : ∀ other, some other ∈ heap.handles ++ [some reference] →
        some other ∈ heap.handles := by
      intro other hmem
      rw [List.mem_append, List.mem_singleton] at hmem
      exact hmem.elim id fun heq => heq ▸ mem_handles_of_reference? hreference
    refine ⟨_, ?_, hsound.withHandles hlive, h.withHandles hlive⟩
    rw [AllocationProgram.perform, h.allocation?, hreference, Option.map_some, Option.map_some,
      hlength, hhandles]
  | drop handle =>
    obtain ⟨reference, hreference, heq⟩ := Option.map_eq_some_iff.1 hperform
    cases heq
    have hhandles : program.handles.set handle none =
        (heap.handles.set handle none).map (·.map (·.allocation)) := by
      rw [h.handles, List.map_set]
      rfl
    have hlive : ∀ other, some other ∈ heap.handles.set handle none →
        some other ∈ heap.handles := by
      intro other hmem
      exact (List.mem_or_eq_of_mem_set hmem).resolve_right nofun
    refine ⟨_, ?_, hsound.withHandles hlive, h.withHandles hlive⟩
    rw [AllocationProgram.perform, h.allocation?, hreference, Option.map_some, Option.map_some,
      hhandles]
  | put handle value =>
    obtain ⟨key, hkey, heq⟩ := Option.map_eq_some_iff.1 hperform
    cases heq
    have hlive := mem_live_of_reference? hkey
    refine ⟨_, ?_, hsound.insert hlive value, h.insert hsound hlive value⟩
    rw [AllocationProgram.perform, h.allocation?, hkey, Option.map_some, Option.map_some,
      h.values key hlive]
  | get handle =>
    obtain ⟨key, hkey, heq⟩ := Option.map_eq_some_iff.1 hperform
    cases heq
    refine ⟨_, ?_, hsound, h⟩
    rw [AllocationProgram.perform, h.allocation?, hkey, Option.map_some, Option.map_some,
      h.values key (mem_live_of_reference? hkey)]
  | remove handle =>
    obtain ⟨key, hkey, heq⟩ := Option.map_eq_some_iff.1 hperform
    cases heq
    have hlive := mem_live_of_reference? hkey
    refine ⟨_, ?_, hsound.erase key, h.erase hsound hlive⟩
    rw [AllocationProgram.perform, h.allocation?, hkey, Option.map_some, Option.map_some,
      h.values key hlive]
  | contains handle =>
    obtain ⟨key, hkey, heq⟩ := Option.map_eq_some_iff.1 hperform
    cases heq
    refine ⟨_, ?_, hsound, h⟩
    rw [AllocationProgram.perform, h.allocation?, hkey, Option.map_some, Option.map_some,
      h.values key (mem_live_of_reference? hkey)]
    rfl
  | size =>
    cases hperform
    exact ⟨_, by rw [AllocationProgram.perform, h.card_keys hsound], hsound, h⟩

/-- What can be done without addresses can be done on the heap, with memory at a free address. -/
theorem Agrees.exists_perform {operation : HeapOperation α} {answer : HeapAnswer α}
    {next' : AllocationProgram α} (hperform : program.perform operation = some (answer, next')) :
    ∃ next, heap.perform (operation.placeAt heap.freeAddress) = some (answer, next)
      ∧ next.Sound ∧ next.Agrees next' := by
  have hplaced : program.perform (operation.placeAt heap.freeAddress) =
      program.perform operation := by
    cases operation <;> rfl
  have hsome : (heap.perform (operation.placeAt heap.freeAddress)).isSome := by
    cases operation with
    | allocate address =>
      rw [HeapOperation.placeAt, Heap.perform, if_neg heap.freeAddress_not_mem]
      rfl
    | size => rfl
    | _ handle =>
      -- the handle is in use on both sides
      have hused := congrArg Option.isSome hperform
      simpa [AllocationProgram.perform, h.allocation?, HeapOperation.placeAt, Heap.perform]
        using hused
  obtain ⟨⟨answer', next⟩, hheap⟩ := Option.isSome_iff_exists.1 hsome
  obtain ⟨other, hother, hnext⟩ := h.perform hsound hheap
  rw [hplaced, hperform] at hother
  cases hother
  exact ⟨next, hheap, hnext⟩

end Agrees

/-! ## Whole programs -/

theorem Agrees.answers (hsound : heap.Sound) (h : heap.Agrees program)
    {operations : List (HeapOperation α)} {answers : List (HeapAnswer α)}
    (hanswers : answersOf Heap.perform heap operations = some answers) :
    answersOf AllocationProgram.perform program operations = some answers := by
  induction operations generalizing heap program answers with
  | nil => exact hanswers
  | cons operation operations ih =>
    simp only [answersOf, Option.bind_eq_bind, Option.bind_eq_some_iff] at hanswers
    obtain ⟨⟨answer, next⟩, hperform, others, hothers, hcons⟩ := hanswers
    obtain ⟨next', hperform', hsound', h'⟩ := h.perform hsound hperform
    simp only [answersOf, hperform', Option.bind_eq_bind, Option.bind_some,
      ih hsound' h' hothers]
    exact hcons

theorem Agrees.exists_answers (hsound : heap.Sound) (h : heap.Agrees program)
    {operations : List (HeapOperation α)} {answers : List (HeapAnswer α)}
    (hanswers : answersOf AllocationProgram.perform program operations =
      some answers) :
    ∃ placed, List.Forall₂ (fun operation placed => ∃ address, placed = operation.placeAt address)
        operations placed
      ∧ answersOf Heap.perform heap placed = some answers := by
  induction operations generalizing heap program answers with
  | nil => exact ⟨[], .nil, hanswers⟩
  | cons operation operations ih =>
    simp only [answersOf, Option.bind_eq_bind, Option.bind_eq_some_iff] at hanswers
    obtain ⟨⟨answer, next'⟩, hperform', others, hothers, hcons⟩ := hanswers
    obtain ⟨next, hperform, hsound', h'⟩ := h.exists_perform hsound hperform'
    obtain ⟨placed, hplaced, hheap⟩ := ih hsound' h' hothers
    refine ⟨_, .cons ⟨heap.freeAddress, rfl⟩ hplaced, ?_⟩
    simp only [answersOf, hperform, Option.bind_eq_bind, Option.bind_some, hheap]
    exact hcons

/-- **Keys go by allocation, although the map goes by addresses.** Whatever a program does, and at
whichever free addresses its memory is placed, each answer is that of the finite map from
allocations to values. Nothing is lost by the memory: every program of that map has its answers on
a heap as well, since there is always a free address. -/
theorem answers_by_allocation :
    (∀ (operations : List (HeapOperation α)) (answers : List (HeapAnswer α)),
      answersOf Heap.perform .empty operations = some answers →
      answersOf AllocationProgram.perform .empty operations = some answers)
    ∧ ∀ (operations : List (HeapOperation α)) (answers : List (HeapAnswer α)),
      answersOf AllocationProgram.perform .empty operations = some answers →
      ∃ placed, List.Forall₂ (fun operation placed => ∃ address, placed = operation.placeAt address)
          operations placed
        ∧ answersOf Heap.perform .empty placed = some answers :=
  ⟨fun _ _ h => agrees_empty.answers sound_empty h,
    fun _ _ h => agrees_empty.exists_answers sound_empty h⟩

/-- The address of a key that was removed and dropped is handed out again. -/
theorem answers_by_allocation_reused :
    let operations : List (HeapOperation Nat) := [.allocate 5, .copy 0, .put 1 7, .drop 0, .drop 1,
      .allocate 6, .put 2 8, .remove 2, .drop 2, .allocate 6, .get 3, .put 3 9, .contains 3, .size]
    let answers : List (HeapAnswer Nat) := [.handle 0, .handle 1, .value none, .nothing, .nothing,
      .handle 2, .value none, .value (some 8), .nothing, .handle 3, .value none, .value none,
      .truth true, .count 2]
    answersOf Heap.perform .empty operations = some answers
    ∧ answersOf AllocationProgram.perform .empty operations = some answers
    ∧ ∃ placed, List.Forall₂ (fun operation placed => ∃ address, placed = operation.placeAt address)
        operations placed
      ∧ answersOf Heap.perform .empty placed = some answers := by
  intro operations answers
  have hheap : answersOf Heap.perform .empty operations = some answers := by decide
  have hmap := answers_by_allocation.1 operations answers hheap
  exact ⟨hheap, hmap, answers_by_allocation.2 operations answers hmap⟩

end Heap

end TypeWitness
