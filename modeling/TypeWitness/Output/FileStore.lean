import TypeWitness.Output.Emission

/-! # Stores on disk
A store that writes files below a root directory. The contents go to a temporary file beside the
destination, which then takes the destination's place, so a file is there completely or not at all.
-/

namespace TypeWitness

/-- A store on disk: the root directory, and the class names whose files have been taken. -/
structure FileStore where
  root : String
  claimed : List String

namespace FileStore

/-- The store below a directory that has taken nothing. -/
def ofRoot (root : String) : FileStore := ⟨root, []⟩

/-- The store with a name taken, unless it has been taken before. -/
def take? (store : FileStore) (name : String) : Option FileStore :=
  if store.claimed.contains name then none
  else some { store with claimed := name :: store.claimed }

/-- The store with a name free again. -/
def release (store : FileStore) (name : String) : FileStore :=
  { store with claimed := store.claimed.erase name }

theorem take?_of_mem {store : FileStore} {name : String} (h : name ∈ store.claimed) :
    store.take? name = none :=
  if_pos (List.contains_iff_mem.2 h)

theorem take?_of_not_mem {store : FileStore} {name : String} (h : name ∉ store.claimed) :
    store.take? name = some { store with claimed := name :: store.claimed } :=
  if_neg (mt List.contains_iff_mem.1 h)

/-- A name that has just been taken is the only one that is freed. -/
theorem release_of_take? {store taken : FileStore} {name : String}
    (h : store.take? name = some taken) : taken.release name = store := by
  rw [take?] at h
  split at h
  · cases h
  · cases h
    rw [release, List.erase_cons_head]

/-- Where a file goes. -/
def destination (root : String) (target : OutputTarget) : String := Path.join root target.path

variable {m : Type → Type} [Monad m]

/-- Put text into a file by way of a temporary one, which is removed when something fails. -/
def replaceFile (access : FileAccess m) (directory path contents : String) :
    m (Except FileError Unit) := do
  match ← access.createTemporary directory with
  | .error error => return .error error
  | .ok temporary =>
    match ← access.writeText temporary contents with
    | .error error =>
      access.remove temporary
      return .error error
    | .ok () =>
      match ← access.rename temporary path with
      | .error error =>
        access.remove temporary
        return .error error
      | .ok () => return .ok ()

/-- Put text into a file, with the directories above it. -/
def writeFile (access : FileAccess m) (path contents : String) : m (Except WriteError Unit) := do
  let directory := (Path.parent? path).getD "."
  match ← access.createDirectories directory with
  | .error error => return .error (.createDirectory directory error)
  | .ok () =>
    match ← replaceFile access directory path contents with
    | .error error => return .error (.write path error)
    | .ok () => return .ok ()

/-- Take a file, unless one for its class has been taken. Its name is taken before the file is
written, and it is freed again when the file cannot be written. -/
def write (access : FileAccess m) (target : OutputTarget) :
    StateT FileStore m (Except WriteError Unit) := fun store =>
  match store.take? target.name with
  | none => return (.error (.duplicate target.name), store)
  | some taken => do
    match ← writeFile access (destination store.root target) target.contents with
    | .error error => return (.error error, taken.release target.name)
    | .ok () => return (.ok (), taken)

end FileStore

end TypeWitness
