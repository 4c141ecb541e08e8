import TypeWitness.Generation.Options

/-! # Command-line arguments
The arguments are taken one after the other. An option that takes a value may have it attached by an
equals sign or in the next argument, and the value is looked at only when the next option comes or
the arguments end; so an argument that is not known is refused before a value that is wrong. -/

namespace TypeWitness

/-- What the command line says. -/
structure Arguments where
  /-- Print the configuration instead of generating. -/
  showConfig : Bool
  /-- Print the generated files' names instead of writing them. -/
  listTargets : Bool
  /-- A configuration file, or a directory with one. -/
  project? : Option String
  outDir? : Option String
  /-- Write no files. -/
  noEmit : Bool
  newLine? : Option NewLine
  signatureStyle? : Option SignatureStyle
  holderName? : Option String
  /-- Whether diagnostics are coloured. -/
  pretty? : Option Bool
  manifest? : Option String
  deriving DecidableEq, Repr

/-- A command line that says nothing. -/
def Arguments.empty : Arguments :=
  ⟨false, false, none, none, false, none, none, none, none, none⟩

/-- Why a command line is not carried out. -/
inductive UsageStop where
  /-- A value is missing or is none of the possible ones. -/
  | invalidValue
  | unknownArgument
  /-- Something is given twice. -/
  | argumentConflict
  /-- Something takes no value but has one. -/
  | tooManyValues
  /-- Help is asked for. -/
  | displayHelp
  /-- The version is asked for. -/
  | displayVersion
  deriving DecidableEq, Repr

/-- An option without value. -/
inductive Switch where
  | showConfig
  | listTargets
  | noEmit
  | help
  | version
  deriving DecidableEq, Repr

/-- An option with a value, or the argument that stands by itself. -/
inductive Setting where
  | project
  | outDir
  | newLine
  | signatureStyle
  | holderName
  | pretty
  | manifest
  deriving DecidableEq, Repr

/-- What an option is. -/
inductive Parameter.Kind where
  | switch (switch : Switch)
  | setting (setting : Setting)
  deriving DecidableEq, Repr

/-- The options by their long names. -/
def longNames : List (String × Parameter.Kind) := [
  ("showConfig", .switch .showConfig), ("show-config", .switch .showConfig),
  ("listTargets", .switch .listTargets), ("list-targets", .switch .listTargets),
  ("noEmit", .switch .noEmit), ("no-emit", .switch .noEmit),
  ("help", .switch .help), ("version", .switch .version),
  ("project", .setting .project),
  ("outDir", .setting .outDir), ("out-dir", .setting .outDir),
  ("newLine", .setting .newLine), ("new-line", .setting .newLine),
  ("signatureStyle", .setting .signatureStyle), ("signature-style", .setting .signatureStyle),
  ("holderName", .setting .holderName), ("holder-name", .setting .holderName),
  ("pretty", .setting .pretty)]

/-- The options by their short names. -/
def shortNames : List (Char × Parameter.Kind) :=
  [('p', .setting .project), ('h', .switch .help), ('V', .switch .version)]

/-- A path as a value. -/
def pathValue (value : String) : Except UsageStop String :=
  if value.isEmpty then .error .invalidValue else .ok value

/-- One of several values. -/
def oneOf {α : Type} (values : List (String × α)) (value : String) : Except UsageStop α :=
  match values.lookup value with
  | some result => .ok result
  | none => .error .invalidValue

/-- The names of the line ends. -/
def newLineNames : List (String × NewLine) := [("lf", .lf), ("crlf", .crlf)]

/-- The names of the signature styles. -/
def signatureStyleNames : List (String × SignatureStyle) :=
  [("wildcard", .wildcard), ("passthrough", .passthrough)]

/-- Store a value. -/
def Setting.store (arguments : Arguments) (value : String) : Setting → Except UsageStop Arguments
  | project => do return { arguments with project? := some (← pathValue value) }
  | outDir => do return { arguments with outDir? := some (← pathValue value) }
  | newLine => do return { arguments with newLine? := some (← oneOf newLineNames value) }
  | signatureStyle => do
    return { arguments with signatureStyle? := some (← oneOf signatureStyleNames value) }
  | holderName => return { arguments with holderName? := some value }
  | pretty => do
    return { arguments with pretty? := some (← oneOf [("true", true), ("false", false)] value) }
  | manifest => do return { arguments with manifest? := some (← pathValue value) }

/-- Whether a setting has a value already. -/
def Setting.isStored (arguments : Arguments) : Setting → Bool
  | project => arguments.project?.isSome
  | outDir => arguments.outDir?.isSome
  | newLine => arguments.newLine?.isSome
  | signatureStyle => arguments.signatureStyle?.isSome
  | holderName => arguments.holderName?.isSome
  | pretty => arguments.pretty?.isSome
  | manifest => arguments.manifest?.isSome

/-- Turn a switch on. A switch may be given once only. -/
def Switch.turnOn (arguments : Arguments) : Switch → Except UsageStop Arguments
  | showConfig =>
    if arguments.showConfig then .error .argumentConflict
    else .ok { arguments with showConfig := true }
  | listTargets =>
    if arguments.listTargets then .error .argumentConflict
    else .ok { arguments with listTargets := true }
  | noEmit =>
    if arguments.noEmit then .error .argumentConflict
    else .ok { arguments with noEmit := true }
  | help => .error .displayHelp
  | version => .error .displayVersion

/-- A setting that has been named, and its value once that has come. -/
structure Pending where
  setting : Setting
  value? : Option String

/-- What has been read of a command line. -/
structure ArgumentReader where
  arguments : Arguments
  /-- The setting that was named last, if it has not been stored yet. -/
  pending? : Option Pending
  /-- Whether all further arguments stand by themselves. -/
  escaped : Bool
  /-- Whether an argument that stands by itself has come. -/
  hasPositional : Bool

namespace ArgumentReader

/-- Nothing has been read. -/
def initial : ArgumentReader := ⟨.empty, none, false, false⟩

/-- Store a setting with its value. -/
def store (reader : ArgumentReader) (setting : Setting) (value : String) :
    Except UsageStop ArgumentReader := do
  if setting.isStored reader.arguments then
    throw .argumentConflict
  return { reader with arguments := ← setting.store reader.arguments value, pending? := none }

/-- Store the setting that was named last. -/
def settle (reader : ArgumentReader) : Except UsageStop ArgumentReader :=
  match reader.pending? with
  | none => .ok reader
  | some ⟨_, none⟩ => .error .invalidValue
  | some ⟨setting, some value⟩ => reader.store setting value

/-- Take in an option with the value attached to it, if any. -/
def takeOption (reader : ArgumentReader) (kind : Parameter.Kind) (attached? : Option String) :
    Except UsageStop ArgumentReader :=
  match kind, attached? with
  | .switch _, some _ => .error .tooManyValues
  | .switch switch, none => do
    let reader ← reader.settle
    return { reader with arguments := ← switch.turnOn reader.arguments }
  | .setting setting, some value => do
    let reader ← reader.settle
    reader.store setting value
  | .setting setting, none => do
    let reader ← reader.settle
    return { reader with pending? := some ⟨setting, none⟩ }

/-- Take in an option by its long name, here without the dashes. -/
def takeLong (reader : ArgumentReader) (text : List Char) : Except UsageStop ArgumentReader :=
  let name := String.ofList (text.takeWhile (· != '='))
  let attached? := match text.dropWhile (· != '=') with
    | [] => none
    | _ :: value => some (String.ofList value)
  match longNames.lookup name with
  | none => .error .unknownArgument
  | some kind => reader.takeOption kind attached?

/-- Take in options by their short names. What follows the name of a setting is its value. -/
def takeShort (reader : ArgumentReader) : List Char → Except UsageStop ArgumentReader
  | [] => .ok reader
  | c :: rest =>
    match shortNames.lookup c with
    | none => .error .unknownArgument
    | some (.switch switch) => do
      let reader ← reader.takeOption (.switch switch) none
      reader.takeShort rest
    | some (.setting setting) =>
      reader.takeOption (.setting setting) <|
        match rest with
        | [] => none
        | '=' :: value => some (String.ofList value)
        | value => some (String.ofList value)

/-- Take in an argument that is no option: the value of the setting that was named last, or the one
argument that stands by itself. -/
def takeValue (reader : ArgumentReader) (value : String) : Except UsageStop ArgumentReader :=
  match reader.pending?, reader.escaped with
  | some ⟨setting, none⟩, false => .ok { reader with pending? := some ⟨setting, some value⟩ }
  | _, _ =>
    if reader.hasPositional then .error .unknownArgument
    else do
      let reader ← reader.settle
      return { reader with pending? := some ⟨.manifest, some value⟩, hasPositional := true }

/-- Take in an argument. -/
def take (reader : ArgumentReader) (argument : String) : Except UsageStop ArgumentReader :=
  if reader.escaped then reader.takeValue argument
  else
    match argument.toList with
    | ['-', '-'] => .ok { reader with escaped := true }
    | '-' :: '-' :: text => reader.takeLong text
    | '-' :: c :: text => reader.takeShort (c :: text)
    | _ => reader.takeValue argument

end ArgumentReader

/-- What a command line says, given without the name of the program. -/
def Arguments.ofList (arguments : List String) : Except UsageStop Arguments := do
  let reader ← arguments.foldlM ArgumentReader.take ArgumentReader.initial
  let reader ← reader.settle
  return reader.arguments

end TypeWitness
