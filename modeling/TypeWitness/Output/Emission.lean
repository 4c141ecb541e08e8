import TypeWitness.Files.Access
import TypeWitness.Generation.Target

/-! # Handing out generated files
Generated files go to a store, one after the other. A file that the store does not take is reported
and affects no other file. -/

namespace TypeWitness

/-- Why a store did not take a file. -/
inductive WriteError where
  /-- A file for a class of this name has been taken before. -/
  | duplicate (name : String)
  | createDirectory (path : String) (reason : FileError)
  | write (path : String) (reason : FileError)
  deriving DecidableEq, Repr

/-- The wording of an error. -/
def WriteError.message : WriteError → String
  | duplicate name => s!"target '{name}' has already been written"
  | createDirectory path reason => s!"failed to create directory {path}: {reason.message}"
  | write path reason => s!"failed to write {path}: {reason.message}"

/-- What became of generated files. -/
structure Emission where
  /-- The names of the classes whose files were taken. -/
  written : List String
  /-- The names of the classes whose files were not. -/
  failed : List String
  diagnostics : List Diagnostic

/-- Whether all files were taken. -/
def Emission.isComplete (emission : Emission) : Bool := emission.failed.isEmpty

/-- What became of no file. -/
def Emission.empty : Emission := ⟨[], [], []⟩

/-- What became of one file more, which comes first. -/
def Emission.add (target : OutputTarget) (result : Except WriteError Unit) (emission : Emission) :
    Emission :=
  match result with
  | .ok () => { emission with written := target.name :: emission.written }
  | .error error =>
    let problem := Problem.writeFailed target.path error.message
    { emission with
      failed := target.name :: emission.failed
      diagnostics := problem.diagnostic target.name :: emission.diagnostics }

/-- Hand files to a store. -/
def emit {m : Type → Type} [Monad m] (write : OutputTarget → m (Except WriteError Unit)) :
    List OutputTarget → m Emission
  | [] => return .empty
  | target :: targets => do
    let result ← write target
    let rest ← emit write targets
    return rest.add target result

end TypeWitness
