import TypeWitness.Run

/-! # The program on the command line
The one place where a run meets the real world: the disk, the environment and the standard streams.
Nothing is decided here; each operation hands on what the operating system answers. -/

namespace TypeWitness

/-! ## The disk -/

/-- The number and the words by which the operating system names an error. -/
def osError : IO.Error → Option (Nat × String)
  | .alreadyExists _ code text | .inappropriateType _ code text | .invalidArgument _ code text
  | .noFileOrDirectory _ code text | .noSuchThing _ code text | .permissionDenied _ code text
  | .resourceExhausted _ code text | .interrupted _ code text
  | .otherError code text | .resourceBusy code text | .resourceVanished code text
  | .unsupportedOperation code text | .hardwareFault code text | .unsatisfiedConstraints code text
  | .illegalOperation code text | .protocolError code text | .timeExpired code text =>
    some (code.toNat, text)
  | .unexpectedEof | .userError _ => none

/-- The reason behind an error of the operating system. -/
def FileError.ofError (error : IO.Error) : FileError :=
  match osError error with
  | some (2, _) => .notFound
  | some (16, _) => .busy
  | some (17, _) => .alreadyExists
  | some (20, _) => .notADirectory
  | some (21, _) => .isADirectory
  | some (22, _) => .invalidArgument
  | some (36, _) => .nameTooLong
  | some (code, text) => .other s!"{text} (os error {code})"
  | none => .other (toString error)

/-- The outcome of an operation: its result, or the reason why it failed. -/
def outcomeOf {α : Type} (operation : IO α) : IO (Except FileError α) := do
  try
    return .ok (← operation)
  catch error =>
    return .error (.ofError error)

/-- How many names are tried for a temporary file. -/
def temporaryNameCount : Nat := 65536

/-- Create an empty file in a directory under the first of so many names that is not used. -/
def createTemporaryFile (directory : String) (index : Nat) :
    Nat → IO (Except FileError String)
  | 0 => return .error .alreadyExists
  | count + 1 => do
    let path := Path.join directory (temporaryName index)
    match ← outcomeOf (IO.FS.Handle.mk path .writeNew) with
    | .ok _ => return .ok path
    | .error .alreadyExists => createTemporaryFile directory (index + 1) count
    | .error error => return .error error

/-- The kind of what a path leads to, if it leads to anything. -/
def kindAt? (path : String) : IO (Option IO.FS.FileType) := do
  let found ← outcomeOf (IO.FS.DirEntry.mk path "").root.metadata
  return found.toOption.map (·.type)

/-- The real file system. -/
def diskAccess : FileAccess IO where
  isDirectory path := do return (← kindAt? path) == some .dir
  isFile path := do return (← kindAt? path) == some .file
  readText? path := do return (← outcomeOf (IO.FS.readFile path)).toOption
  createDirectory path := do
    if path.toList.contains '\x00' then return .error .nulCharacter
    outcomeOf (IO.FS.createDir path)
  createTemporary directory := createTemporaryFile directory 0 temporaryNameCount
  writeText path contents := outcomeOf (IO.FS.writeFile path contents)
  rename source destination := outcomeOf (IO.FS.rename source destination)
  remove path := do
    let _ ← outcomeOf (IO.FS.removeFile path)

/-! ## The standard streams -/

/-- What the environment says of where the program prints to. -/
def Terminal.ofEnvironment : IO Terminal := do
  return {
    colorForce? := ← IO.getEnv "CLICOLOR_FORCE"
    noColor? := ← IO.getEnv "NO_COLOR"
    color? := ← IO.getEnv "CLICOLOR"
    outputIsTerminal := ← (← IO.getStdout).isTty
    errorIsTerminal := ← (← IO.getStderr).isTty }

/-- The lines that say how the program is used. -/
def usageLines : List String := [
  "Usage: checkt [OPTIONS] [MANIFEST]",
  "",
  "Options:",
  "      --showConfig           Print the configuration instead of generating",
  "      --listTargets          List what would be generated and write nothing",
  "  -p, --project <PATH>       A configuration file, or a directory with one",
  "      --outDir <PATH>        The directory that files are written to",
  "      --noEmit               Write no files",
  "      --newLine <END>        How lines end: lf or crlf",
  "      --signatureStyle <STYLE>",
  "                             How casts show other parameters: wildcard or passthrough",
  "      --holderName <NAME>    The class that holds the casts of a package",
  "      --pretty <BOOL>        Whether diagnostics are coloured: true or false",
  "  -h, --help                 Print help",
  "  -V, --version              Print version"]

/-- How the program is used. -/
def usageText : String := String.join (usageLines.map (· ++ "\n"))

/-- The name and the version of the program. -/
def versionText : String := "checkt 0.1.0\n"

/-- What is wrong with a command line that is not carried out. -/
def UsageStop.reason : UsageStop → String
  | invalidValue => "a value is missing or invalid"
  | unknownArgument => "unexpected argument found"
  | argumentConflict => "an argument is given more than once"
  | tooManyValues => "a value is given to an argument that takes none"
  | displayHelp => "help is asked for"
  | displayVersion => "the version is asked for"

/-- What is printed and the exit code when the program ends: asking for help is no failure. -/
def ProgramEnd.output : ProgramEnd → ProgramOutput
  | usage .displayHelp => ⟨0, usageText, ""⟩
  | usage .displayVersion => ⟨0, versionText, ""⟩
  | usage stop => ⟨2, "", s!"error: {stop.reason}\n\n" ++ usageText⟩
  | failure error => ⟨1, "", s!"Error: {error.message}\n"⟩
  | done output => output

end TypeWitness

open TypeWitness in
/-- Run the program in the working directory. -/
def main (arguments : List String) : IO UInt32 := do
  let terminal ← Terminal.ofEnvironment
  let directory ← IO.currentDir
  let finish ← program diskAccess terminal directory.toString arguments
  let output := finish.output
  IO.print output.output
  IO.eprint output.errorOutput
  return output.exitCode.toUInt32
