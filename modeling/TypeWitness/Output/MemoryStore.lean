import TypeWitness.Output.Emission
import TypeWitness.Text.Sorting

/-! # Stores in memory
A store that keeps the files it takes, at most one for each class name. -/

namespace TypeWitness

/-- The files that have been taken, in the order in which they came. -/
structure MemoryStore where
  targets : List OutputTarget

namespace MemoryStore

/-- The store that has taken nothing. -/
def empty : MemoryStore := ⟨[]⟩

/-- The file for a class. -/
def find? (store : MemoryStore) (name : String) : Option OutputTarget :=
  store.targets.find? (·.name == name)

/-- The contents of the file for a class. -/
def contents? (store : MemoryStore) (name : String) : Option String :=
  (store.find? name).map (·.contents)

/-- The names of the classes, in increasing order. -/
def names (store : MemoryStore) : List String := sortedNames (store.targets.map (·.name))

/-- The number of files. -/
def size (store : MemoryStore) : Nat := store.targets.length

/-- Whether there are no files. -/
def isEmpty (store : MemoryStore) : Bool := store.targets.isEmpty

/-- The files in the order of their class names. -/
def sortedTargets (store : MemoryStore) : List OutputTarget :=
  store.targets.mergeSort fun a b => a.name ≤ b.name

/-- Take a file, unless there is one for its class. -/
def insert (store : MemoryStore) (target : OutputTarget) : Except WriteError MemoryStore :=
  match store.find? target.name with
  | some _ => .error (.duplicate target.name)
  | none => .ok ⟨store.targets ++ [target]⟩

/-- Take a file into the store that a program works on. -/
def write (target : OutputTarget) : StateM MemoryStore (Except WriteError Unit) := fun store =>
  match store.insert target with
  | .ok next => (.ok (), next)
  | .error error => (.error error, store)

end MemoryStore

end TypeWitness
