import TypeWitness.CommandLine.Arguments
import TypeWitness.Files.Path
import TypeWitness.Identifier

/-! # Settings of a run
The settings come from a configuration file and from the command line, which goes first. Paths in
the file are relative to its directory, paths on the command line to the working directory. -/

namespace TypeWitness

/-- The options of a configuration file. -/
structure ConfigurationOptions where
  outDir? : Option String
  noEmit? : Option Bool
  newLine? : Option NewLine
  indentWidth? : Option Nat
  signatureStyle? : Option SignatureStyle
  holderName? : Option String
  castName? : Option String
  partialCastPrefix? : Option String
  suppressUnchecked? : Option Bool
  deriving DecidableEq, Repr

/-- Options that leave everything open. -/
def ConfigurationOptions.empty : ConfigurationOptions :=
  ⟨none, none, none, none, none, none, none, none, none⟩

/-- A configuration file. -/
structure Configuration where
  manifest? : Option String
  options? : Option ConfigurationOptions
  deriving DecidableEq, Repr

/-- A configuration that leaves everything open. -/
def Configuration.empty : Configuration := ⟨none, none⟩

/-- The options with those from the command line put over them. -/
def ConfigurationOptions.override (options : ConfigurationOptions) (arguments : Arguments)
    (workingDirectory : String) : ConfigurationOptions :=
  { options with
    outDir? := (arguments.outDir?.map (Path.join workingDirectory)).or options.outDir?
    noEmit? := if arguments.noEmit then some true else options.noEmit?
    newLine? := arguments.newLine?.or options.newLine?
    signatureStyle? := arguments.signatureStyle?.or options.signatureStyle?
    holderName? := arguments.holderName?.or options.holderName? }

/-- The configuration with what the command line says put over it. -/
def Configuration.override (configuration : Configuration) (arguments : Arguments)
    (workingDirectory : String) : Configuration where
  manifest? := (arguments.manifest?.map (Path.join workingDirectory)).or configuration.manifest?
  options? := some <|
    (configuration.options?.getD .empty).override arguments workingDirectory

/-- Everything that a run needs to know. -/
structure RunSettings where
  manifest? : Option String
  outDir? : Option String
  noEmit : Bool
  generation : GenerationOptions
  deriving DecidableEq, Repr

/-- An option whose value should be an identifier and is not. -/
structure InvalidOption where
  option : String
  value : String
  deriving DecidableEq, Repr

/-- The wording of the error. -/
def InvalidOption.message (invalid : InvalidOption) : String :=
  s!"option '{invalid.option}' must be a valid identifier, got '{invalid.value}'"

/-- The value of an option that is an identifier, or the default when it is open. -/
def identifierOption (option : String) (value? : Option String) (default : String) :
    Except InvalidOption String :=
  match value? with
  | none => .ok default
  | some value => if isValidIdentifier value then .ok value else .error ⟨option, value⟩

/-- The choices that options make for generation. -/
def ConfigurationOptions.generation (options : ConfigurationOptions) :
    Except InvalidOption GenerationOptions := do
  let standard := GenerationOptions.standard
  let holderName ← identifierOption "holderName" options.holderName? standard.holderName
  let castName ← identifierOption "castName" options.castName? standard.castName
  let partialCastPrefix ←
    identifierOption "partialCastPrefix" options.partialCastPrefix? standard.partialCastPrefix
  return {
    signatureStyle := options.signatureStyle?.getD standard.signatureStyle
    holderName
    castName
    partialCastPrefix
    suppressUnchecked := options.suppressUnchecked?.getD standard.suppressUnchecked
    layout := {
      newLine := options.newLine?.getD standard.layout.newLine
      indentWidth := options.indentWidth?.getD standard.layout.indentWidth } }

/-- The settings that a configuration in the given directory makes. -/
def Configuration.resolve (configuration : Configuration) (directory : String) :
    Except InvalidOption RunSettings := do
  let options := configuration.options?.getD .empty
  let generation ← options.generation
  return {
    manifest? := configuration.manifest?.map (Path.join directory)
    outDir? := options.outDir?.map (Path.join directory)
    noEmit := options.noEmit?.getD false
    generation }

end TypeWitness
