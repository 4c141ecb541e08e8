import TypeWitness.Json.Reader
import TypeWitness.Json.Value
import TypeWitness.Settings.Basic

/-! # Configuration files
The JSON form of configurations. Everything may be left out or be `null`. -/

namespace TypeWitness

open Json

/-- The names of the line ends in configuration files. -/
def configurationNewLineNames : List (String × NewLine) :=
  newLineNames ++ [("lineFeed", .lf), ("carriageReturnLineFeed", .crlf)]

/-- The fields of the options. -/
def ConfigurationOptions.fields : List (RecordField ConfigurationOptions) := [
  ⟨"outDir", false, fun record draft => do
    return { record with outDir? := ← draft.readOption Draft.readString }⟩,
  ⟨"noEmit", false, fun record draft => do
    return { record with noEmit? := ← draft.readOption Draft.readBool }⟩,
  ⟨"newLine", false, fun record draft => do
    return { record with
      newLine? := ← draft.readOption (Draft.readAlternative configurationNewLineNames) }⟩,
  ⟨"indentWidth", false, fun record draft => do
    return { record with indentWidth? := ← draft.readOption Draft.readWord }⟩,
  ⟨"signatureStyle", false, fun record draft => do
    return { record with
      signatureStyle? := ← draft.readOption (Draft.readAlternative signatureStyleNames) }⟩,
  ⟨"holderName", false, fun record draft => do
    return { record with holderName? := ← draft.readOption Draft.readString }⟩,
  ⟨"castName", false, fun record draft => do
    return { record with castName? := ← draft.readOption Draft.readString }⟩,
  ⟨"partialCastPrefix", false, fun record draft => do
    return { record with partialCastPrefix? := ← draft.readOption Draft.readString }⟩,
  ⟨"suppressUnchecked", false, fun record draft => do
    return { record with suppressUnchecked? := ← draft.readOption Draft.readBool }⟩]

/-- Read the options. -/
def ConfigurationOptions.read : Draft → Except Fault ConfigurationOptions :=
  Draft.readRecord ConfigurationOptions.fields .empty

/-- The fields of a configuration. -/
def Configuration.fields : List (RecordField Configuration) := [
  ⟨"manifest", false, fun record draft => do
    return { record with manifest? := ← draft.readOption Draft.readString }⟩,
  ⟨"generatorOptions", false, fun record draft => do
    return { record with options? := ← draft.readOption ConfigurationOptions.read }⟩]

/-- The configuration that a text spells. -/
def Configuration.ofText (text : String) : Except Fault Configuration :=
  readText (Draft.readRecord Configuration.fields .empty) text

/-- The name of a line end. -/
def NewLine.name : NewLine → String
  | lf => "lf"
  | crlf => "crlf"

/-- The name of a signature style. -/
def SignatureStyle.name : SignatureStyle → String
  | wildcard => "wildcard"
  | passthrough => "passthrough"

/-- Options as JSON, without those that are left open. -/
def ConfigurationOptions.toJson (options : ConfigurationOptions) : Json :=
  .object <|
    optionalField "outDir" (options.outDir?.map .string)
    ++ optionalField "noEmit" (options.noEmit?.map .bool)
    ++ optionalField "newLine" (options.newLine?.map fun newLine => .string newLine.name)
    ++ optionalField "indentWidth" (options.indentWidth?.map .number)
    ++ optionalField "signatureStyle" (options.signatureStyle?.map fun style => .string style.name)
    ++ optionalField "holderName" (options.holderName?.map .string)
    ++ optionalField "castName" (options.castName?.map .string)
    ++ optionalField "partialCastPrefix" (options.partialCastPrefix?.map .string)
    ++ optionalField "suppressUnchecked" (options.suppressUnchecked?.map .bool)

/-- A configuration as JSON, without what is left open. -/
def Configuration.toJson (configuration : Configuration) : Json :=
  .object <|
    optionalField "manifest" (configuration.manifest?.map .string)
    ++ optionalField "generatorOptions" (configuration.options?.map (·.toJson))

end TypeWitness
