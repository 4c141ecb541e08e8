import TypeWitness.Files.Path

/-! # Access to files
What a run needs of a file system, as a record of operations in some monad, so that the same run
works on a real disk and on a model of one. -/

namespace TypeWitness

/-- Why a file operation failed. -/
inductive FileError where
  | notFound
  | busy
  | alreadyExists
  | notADirectory
  | isADirectory
  | invalidArgument
  | nameTooLong
  /-- The path contains the character that ends a path for the operating system. -/
  | nulCharacter
  /-- Another reason, in the words of the operating system. -/
  | other (text : String)
  deriving DecidableEq, Repr

/-- The wording of a reason. -/
def FileError.message : FileError → String
  | notFound => "No such file or directory (os error 2)"
  | busy => "Device or resource busy (os error 16)"
  | alreadyExists => "File exists (os error 17)"
  | notADirectory => "Not a directory (os error 20)"
  | isADirectory => "Is a directory (os error 21)"
  | invalidArgument => "Invalid argument (os error 22)"
  | nameTooLong => "File name too long (os error 36)"
  | nulCharacter => "file name contained an unexpected NUL byte"
  | other text => text

/-- A name for a temporary file, one for each number: the number has at least six digits. -/
def temporaryName (index : Nat) : String :=
  let digits := toString index
  ".tmp" ++ String.ofList (List.replicate (6 - digits.length) '0') ++ digits

/-- The operations of a file system. -/
structure FileAccess (m : Type → Type) where
  isDirectory : String → m Bool
  isFile : String → m Bool
  /-- The text of a file, unless it cannot be read. -/
  readText? : String → m (Option String)
  /-- Create a directory in one that is there. -/
  createDirectory : String → m (Except FileError Unit)
  /-- Create an empty file with an unused name in a directory; the result is its path. -/
  createTemporary : String → m (Except FileError String)
  /-- Put text into a file that is there. -/
  writeText : String → String → m (Except FileError Unit)
  /-- Give a file another path; a file that is there before is replaced. -/
  rename : String → String → m (Except FileError Unit)
  /-- Remove a file. -/
  remove : String → m Unit

namespace FileAccess

variable {m : Type → Type} [Monad m]

/-- A failure to create a directory does not count when the directory is there. -/
def forgive (access : FileAccess m) (path : String) (error : FileError) :
    m (Except FileError Unit) := do
  if ← access.isDirectory path then return .ok () else return .error error

/-- Create a directory and those above it that are missing, at most `depth` of them. -/
def createDirectoriesUpTo (access : FileAccess m) : Nat → String → m (Except FileError Unit)
  | 0, _ => return .ok ()
  | depth + 1, path => do
    if path.isEmpty then return .ok ()
    match ← access.createDirectory path, Path.parent? path with
    | .ok (), _ => return .ok ()
    | .error .notFound, some parent =>
      match ← access.createDirectoriesUpTo depth parent with
      | .error error => return .error error
      | .ok () =>
        match ← access.createDirectory path with
        | .ok () => return .ok ()
        | .error error => access.forgive path error
    | .error error, _ => access.forgive path error

/-- Create a directory and those above it that are missing. A path has fewer parts than it has
characters, and one more. -/
def createDirectories (access : FileAccess m) (path : String) : m (Except FileError Unit) :=
  access.createDirectoriesUpTo (path.length + 1) path

end FileAccess

end TypeWitness
