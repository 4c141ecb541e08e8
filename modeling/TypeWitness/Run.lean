import TypeWitness.Diagnostic.Report
import TypeWitness.Manifest.Reader
import TypeWitness.Output.FileStore
import TypeWitness.Output.MemoryStore
import TypeWitness.Settings.Json

/-! # Runs
A run finds its settings, reads a manifest, generates files and writes them. What the program prints
and how it ends follow from that. Everything here works in any monad with access to files. -/

namespace TypeWitness

/-- Why a run could not be carried out. -/
inductive RunError where
  | noManifest
  | manifest (path : String)
  | readConfiguration (path : String)
  | parseConfiguration (path : String)
  | option (invalid : InvalidOption)
  deriving DecidableEq, Repr

/-- The wording of an error. -/
def RunError.message : RunError → String
  | noManifest =>
    "no manifest given; pass a manifest path or a project with a 'manifest' entry (-p)"
  | manifest path => s!"failed to load manifest {path}"
  | readConfiguration path => s!"failed to read config: {path}"
  | parseConfiguration path => s!"failed to parse config: {path}"
  | option invalid => invalid.message

/-- The name of configuration files. -/
def configurationFileName : String := "checkt.json"

/-- What a run has done. -/
structure RunResult where
  diagnostics : List Diagnostic
  targets : List OutputTarget
  /-- The paths of the files that were written. -/
  emitted : List String

/-- Whether there was an error. -/
def RunResult.hasErrors (result : RunResult) : Bool := result.diagnostics.any (·.isError)

section

variable {m : Type → Type} [Monad m]

/-- The configuration file of a project, which is that file or a directory with it. -/
def configurationPath (access : FileAccess m) (project : String) : m String := do
  if ← access.isDirectory project then return Path.join project configurationFileName
  else return project

/-- Read a configuration file. -/
def loadConfiguration (access : FileAccess m) (path : String) :
    m (Except RunError Configuration) := do
  match ← access.readText? path with
  | none => return .error (.readConfiguration path)
  | some text =>
    match Configuration.ofText text with
    | .error _ => return .error (.parseConfiguration path)
    | .ok configuration => return .ok configuration

/-- The path of the configuration file that a command line asks for: that of the project it names,
or, when it names no manifest either, the one in the working directory if there is one. -/
def discoverConfiguration (access : FileAccess m) (arguments : Arguments)
    (workingDirectory : String) : m (Option String) := do
  match arguments.project?, arguments.manifest? with
  | some project, _ => return some (← configurationPath access (Path.join workingDirectory project))
  | none, some _ => return none
  | none, none =>
    let candidate := Path.join workingDirectory configurationFileName
    if ← access.isFile candidate then return some candidate else return none

/-- The configuration of a run with what the command line says put over it, and the directory that
its paths are relative to. -/
def effectiveConfiguration (access : FileAccess m) (arguments : Arguments)
    (workingDirectory : String) : m (Except RunError (Configuration × String)) := do
  match ← discoverConfiguration access arguments workingDirectory with
  | none => return .ok (Configuration.empty.override arguments workingDirectory, workingDirectory)
  | some path =>
    match ← loadConfiguration access path with
    | .error error => return .error error
    | .ok configuration =>
      return .ok (configuration.override arguments workingDirectory,
        (Path.parent? path).getD workingDirectory)

/-- The settings of a run. -/
def findSettings (access : FileAccess m) (arguments : Arguments) (workingDirectory : String) :
    m (Except RunError RunSettings) := do
  match ← effectiveConfiguration access arguments workingDirectory with
  | .error error => return .error error
  | .ok (configuration, directory) =>
    match configuration.resolve directory with
    | .error invalid => return .error (.option invalid)
    | .ok settings => return .ok settings

/-- Read the manifest of a run. -/
def loadManifest (access : FileAccess m) (settings : RunSettings) :
    m (Except RunError Manifest) := do
  match settings.manifest? with
  | none => return .error .noManifest
  | some path =>
    match ← access.readText? path with
    | none => return .error (.manifest path)
    | some text =>
      match Manifest.ofText text with
      | .error _ => return .error (.manifest path)
      | .ok manifest => return .ok manifest

/-- What a run has done that writes no files. -/
def keepInMemory (generation : Generation) : RunResult :=
  let emission := (emit MemoryStore.write generation.targets .empty).1
  ⟨generation.diagnostics ++ emission.diagnostics, generation.targets, []⟩

/-- Write generated files below a directory. -/
def writeFiles (access : FileAccess m) (root : String) (generation : Generation) : m RunResult := do
  let (emission, _) ← emit (FileStore.write access) generation.targets (FileStore.ofRoot root)
  let written := generation.targets.filter fun target => emission.written.contains target.name
  return ⟨generation.diagnostics ++ emission.diagnostics, generation.targets,
    written.map (FileStore.destination root)⟩

/-- Carry out a run. Files are written only if that is wanted and the settings do not forbid it. -/
def run (access : FileAccess m) (arguments : Arguments) (workingDirectory : String)
    (emitFiles : Bool) : m (Except RunError RunResult) := do
  match ← findSettings access arguments workingDirectory with
  | .error error => return .error error
  | .ok settings =>
    match ← loadManifest access settings with
    | .error error => return .error error
    | .ok manifest =>
      let generation := manifest.generate settings.generation
      if !emitFiles || settings.noEmit then return .ok (keepInMemory generation)
      else
        return .ok (← writeFiles access (settings.outDir?.getD workingDirectory) generation)

end

/-! ## The program -/

/-- What the program knows of where it prints to. -/
structure Terminal where
  /-- The values of the environment variables about colour. -/
  colorForce? : Option String
  noColor? : Option String
  color? : Option String
  outputIsTerminal : Bool
  errorIsTerminal : Bool

/-- Whether colours may appear: they may be forced or forbidden, and otherwise appear on terminals.
-/
def Terminal.allowsColor (terminal : Terminal) : Bool :=
  if terminal.colorForce?.any (· != "0") then true
  else if terminal.noColor?.isSome then false
  else terminal.color?.all (· != "0") && terminal.outputIsTerminal

/-- What the program prints, and how it ends. -/
structure ProgramOutput where
  exitCode : Nat
  output : String
  errorOutput : String
  deriving DecidableEq, Repr

/-- How the program ends. -/
inductive ProgramEnd where
  /-- The command line is not carried out. -/
  | usage (stop : UsageStop)
  /-- The run could not be carried out. -/
  | failure (error : RunError)
  | done (output : ProgramOutput)

/-- The exit code of a run: with errors it tells whether anything could come of the run all the
same. -/
def RunResult.exitCode (arguments : Arguments) (result : RunResult) : Nat :=
  if !result.hasErrors then 0
  else if arguments.noEmit || arguments.listTargets || !result.emitted.isEmpty then 2
  else 1

/-- What the program prints after a run. -/
def RunResult.output (arguments : Arguments) (terminal : Terminal) (result : RunResult) :
    ProgramOutput where
  exitCode := result.exitCode arguments
  output :=
    if arguments.listTargets then
      String.join (result.targets.map fun target => target.name ++ "\t" ++ target.path ++ "\n")
    else ""
  errorOutput :=
    report (arguments.pretty?.getD terminal.errorIsTerminal && terminal.allowsColor)
      result.diagnostics

/-- The program. -/
def program {m : Type → Type} [Monad m] (access : FileAccess m) (terminal : Terminal)
    (workingDirectory : String) (argv : List String) : m ProgramEnd := do
  match Arguments.ofList argv with
  | .error stop => return .usage stop
  | .ok arguments =>
    if arguments.showConfig then
      match ← effectiveConfiguration access arguments workingDirectory with
      | .error error => return .failure error
      | .ok (configuration, _) => return .done ⟨0, configuration.toJson.pretty ++ "\n", ""⟩
    else
      match ← run access arguments workingDirectory (!arguments.listTargets) with
      | .error error => return .failure error
      | .ok result => return .done (result.output arguments terminal)

end TypeWitness
