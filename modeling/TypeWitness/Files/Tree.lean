import TypeWitness.Files.Access

/-! # File trees
A model of a file system: a directory holds files and further directories by their names. There are
no links, so a path leads where its parts say, one after the other. -/

namespace TypeWitness

mutual
/-- What a name in a directory stands for. -/
inductive FileEntry where
  | file (contents : String)
  | directory (tree : FileTree)

/-- What is in a directory, with all that is below it. -/
inductive FileTree where
  | empty
  /-- An entry, and the other ones. -/
  | entry (name : String) (value : FileEntry) (rest : FileTree)
end

namespace FileTree

/-! ## One directory -/

/-- The number of entries of a directory. -/
def size : FileTree → Nat
  | .empty => 0
  | .entry _ _ rest => rest.size + 1

/-- The entry of a directory with the given name. -/
def child? (name : String) : FileTree → Option FileEntry
  | .empty => none
  | .entry other value rest => if other = name then some value else rest.child? name

/-- The directory with an entry of the given name, which takes the place of the one before. -/
def put (name : String) (value : FileEntry) : FileTree → FileTree
  | .empty => .entry name value .empty
  | .entry other before rest =>
    if other = name then .entry name value rest else .entry other before (rest.put name value)

/-- The directory without the entry of the given name. -/
def without (name : String) : FileTree → FileTree
  | .empty => .empty
  | .entry other value rest =>
    if other = name then rest.without name else .entry other value (rest.without name)

theorem child?_put (tree : FileTree) (name other : String) (value : FileEntry) :
    (tree.put name value).child? other =
      if name = other then some value else tree.child? other := by
  fun_induction put name value tree <;> grind [child?]

theorem child?_without (tree : FileTree) (name other : String) :
    (tree.without name).child? other = if name = other then none else tree.child? other := by
  fun_induction without name tree <;> grind [child?]

/-! ## Places
A place is given by the names that lead to it from the root. -/

/-- What is found at a place. -/
def lookup? : List String → FileTree → Option FileEntry
  | [], tree => some (.directory tree)
  | name :: rest, tree =>
    match tree.child? name, rest with
    | some (.directory below), rest => lookup? rest below
    | found, [] => found
    | _, _ :: _ => none

/-- The tree with something at a place. Directories above it that are missing are there too; nothing
comes to be below a file. -/
def insert (value : FileEntry) : List String → FileTree → FileTree
  | [], tree => tree
  | [name], tree => tree.put name value
  | name :: rest, tree =>
    match tree.child? name with
    | none => tree.put name (.directory (insert value rest .empty))
    | some (.directory below) => tree.put name (.directory (insert value rest below))
    | some (.file _) => tree

/-- The tree without what is at a place and below it. -/
def erase : List String → FileTree → FileTree
  | [], tree => tree
  | [name], tree => tree.without name
  | name :: rest, tree =>
    match tree.child? name with
    | some (.directory below) => tree.put name (.directory (erase rest below))
    | _ => tree

end FileTree

mutual
/-- The files of an entry, each with the names that lead to it; `above` are those that lead to the
entry, the last one first. -/
def FileEntry.files (above : List String) : FileEntry → List (List String × String)
  | .file contents => [(above.reverse, contents)]
  | .directory tree => tree.files above

/-- The files of a directory, each with the names that lead to it; `above` are those that lead to
the directory, the last one first. -/
def FileTree.files (above : List String) : FileTree → List (List String × String)
  | .empty => []
  | .entry name value rest => value.files (name :: above) ++ rest.files above
end

namespace FileTree

/-- The files below a place, each with the names that lead to it from there. -/
def filesBelow (place : List String) (tree : FileTree) : List (List String × String) :=
  match tree.lookup? place with
  | some found => found.files []
  | none => []

/-! ## Following paths -/

/-- The longest name that a file may have, in bytes. -/
def longestName : Nat := 255

/-- The longest path that can be followed, in bytes. -/
def longestPath : Nat := 4095

/-- The parts of a path between its slashes. -/
def parts (path : String) : List String := (Path.splitAt '/' path.toList).map String.ofList

/-- Where a path has led to. -/
structure Location where
  /-- The directories on the way, the innermost first, each with the name that was taken in it. -/
  above : List (String × FileTree)
  /-- What is there. -/
  found? : Option FileEntry

namespace Location

/-- The start of all paths. -/
def root (tree : FileTree) : Location := ⟨[], some (.directory tree)⟩

/-- The names that lead to a location from the root. -/
def place (location : Location) : List String := (location.above.map (·.1)).reverse

/-- Go to an entry of the directory at a location. The entry need not be there. -/
def enter (location : Location) (part : String) : Except FileError Location :=
  match location.found? with
  | none => .error .notFound
  | some (.file _) => .error .notADirectory
  | some (.directory here) =>
    if part = "" ∨ part = "." then .ok location
    else if part = ".." then
      match location.above with
      | [] => .ok location
      | (_, parent) :: above => .ok ⟨above, some (.directory parent)⟩
    else if part.utf8ByteSize > longestName then .error .nameTooLong
    else .ok ⟨(part, here) :: location.above, here.child? part⟩

/-- Follow parts of a path from a location. What the last part leads to need not be there. -/
def follow (location : Location) : List String → Except FileError Location
  | [] => .ok location
  | part :: rest => do
    let next ← location.enter part
    next.follow rest

end Location

/-- Follow parts of a path from the root, if the whole path can be followed at all. -/
def follow (tree : FileTree) (path : String) (names : List String) : Except FileError Location := do
  if path.toList.contains '\x00' then
    throw .nulCharacter
  if path.isEmpty then
    throw .notFound
  if path.utf8ByteSize > longestPath then
    throw .nameTooLong
  (Location.root tree).follow names

/-- Where a path leads to. -/
def locate (tree : FileTree) (path : String) : Except FileError Location :=
  tree.follow path (parts path)

/-- What a path leads to. -/
def find? (tree : FileTree) (path : String) : Option FileEntry :=
  match tree.locate path with
  | .ok location => location.found?
  | .error _ => none

/-- Where something with the given path would be created, and whether the path names it as a
directory by a slash at its end. A path whose last part is no name of its own is refused. -/
def locateNew (tree : FileTree) (refusal : FileError) (path : String) :
    Except FileError (Location × Bool) := do
  let all := parts path
  let names := (all.reverse.dropWhile (·.isEmpty)).reverse
  let location ← tree.follow path names
  if names.getLast?.all fun last => last = "." ∨ last = ".." then
    throw refusal
  return (location, names.length < all.length)

/-! ## Operations -/

/-- Create a directory. -/
def createDirectory (tree : FileTree) (path : String) : Except FileError FileTree := do
  let (location, _) ← tree.locateNew .alreadyExists path
  match location.found? with
  | some _ => throw .alreadyExists
  | none => return tree.insert (.directory .empty) location.place

/-- The first name for a temporary file that is not used in a directory. -/
def unusedName (tree : FileTree) : String :=
  let free (index : Nat) : Bool := (tree.child? (temporaryName index)).isNone
  temporaryName (((List.range (tree.size + 1)).find? free).getD 0)

/-- Create an empty file with an unused name in a directory. -/
def createTemporary (tree : FileTree) (path : String) : Except FileError (String × FileTree) := do
  let location ← tree.locate path
  match location.found? with
  | none => throw .notFound
  | some (.file _) => throw .notADirectory
  | some (.directory here) =>
    let name := here.unusedName
    let temporary := Path.join path name
    if name.utf8ByteSize > longestName ∨ temporary.utf8ByteSize > longestPath then
      throw .nameTooLong
    return (temporary, tree.insert (.file "") (location.place ++ [name]))

/-- Put text into a file. -/
def writeText (tree : FileTree) (path contents : String) : Except FileError FileTree := do
  let location ← tree.locate path
  match location.found? with
  | none => throw .notFound
  | some (.directory _) => throw .isADirectory
  | some (.file _) => return tree.insert (.file contents) location.place

/-- Give a file another path. -/
def rename (tree : FileTree) (source destination : String) : Except FileError FileTree := do
  if destination.toList.contains '\x00' then
    throw .invalidArgument
  let (target, asDirectory) ← tree.locateNew .busy destination
  let location ← tree.locate source
  match location.found?, target.found? with
  | some (.file contents), found =>
    if asDirectory then
      throw .notADirectory
    if found matches some (.directory _) then
      throw .isADirectory
    return (tree.erase location.place).insert (.file contents) target.place
  | some (.directory _), _ => throw .isADirectory
  | none, _ => throw .notFound

/-- Remove what a path leads to, with all that is below it. -/
def remove (tree : FileTree) (path : String) : FileTree :=
  match tree.locate path with
  | .ok location => tree.erase location.place
  | .error _ => tree

/-- Perform an operation that changes the tree, or leave it as it is. -/
def attempt {α : Type} (operation : FileTree → Except FileError (α × FileTree)) :
    StateM FileTree (Except FileError α) := fun tree =>
  match operation tree with
  | .ok (value, next) => (.ok value, next)
  | .error error => (.error error, tree)

/-- The operations on a tree that a program works on. -/
def access : FileAccess (StateM FileTree) where
  isDirectory path := do
    match (← get).find? path with
    | some (.directory _) => return true
    | _ => return false
  isFile path := do
    match (← get).find? path with
    | some (.file _) => return true
    | _ => return false
  readText? path := do
    match (← get).find? path with
    | some (.file contents) => return some contents
    | _ => return none
  createDirectory path := attempt fun tree => do return ((), ← tree.createDirectory path)
  createTemporary path := attempt fun tree => tree.createTemporary path
  writeText path contents := attempt fun tree => do return ((), ← tree.writeText path contents)
  rename source destination := attempt fun tree => do return ((), ← tree.rename source destination)
  remove path := modify fun tree => tree.remove path

end FileTree

end TypeWitness
