import TypeWitness.Json.Draft

/-! # Reading typed values from JSON
A reader turns a draft into a value of some type, or says what is the first thing wrong with it. A
record is read from an object, whose unknown fields are passed over, or from an array that lists its
fields in their order. -/

namespace TypeWitness.Json

namespace Draft

/-- What is wrong with a draft of which some other type of value is wanted. -/
def wrongType : Draft → Fault
  | .string (.error fault) => fault
  | .number numeral => if numeral.overflows then .malformed else .mismatched
  | .broken flaw => flaw.read
  | _ => .mismatched

/-- Read a text. -/
def readString : Draft → Except Fault String
  | .string content => content
  | draft => .error draft.wrongType

/-- Read a truth value. -/
def readBool : Draft → Except Fault Bool
  | .bool value => .ok value
  | draft => .error draft.wrongType

/-- Read a natural number that fits into 64 bits, written with digits alone. -/
def readWord : Draft → Except Fault Nat
  | .number numeral =>
    match numeral.word? with
    | some value => .ok value
    | none => .error (wrongType (.number numeral))
  | draft => .error draft.wrongType

/-- Read a value that may be `null`. -/
def readOption {α : Type} (read : Draft → Except Fault α) : Draft → Except Fault (Option α)
  | .null => .ok none
  | .broken flaw => .error flaw.read
  | draft => (read draft).map some

end Draft

/-- The outcome of an array or object behind its last part. -/
def endOf (missing : Option Fault) : Except Fault Unit :=
  match missing with
  | none => .ok ()
  | some fault => .error fault

/-- Read all items of an array. -/
def DraftItems.readAll {α : Type} (read : Draft → Except Fault α) :
    DraftItems → Except Fault (List α)
  | .stop missing => do
    endOf missing
    return []
  | .item value rest => do
    let first ← read value
    let others ← rest.readAll read
    return first :: others

/-- Read an array. -/
def Draft.readList {α : Type} (read : Draft → Except Fault α) : Draft → Except Fault (List α)
  | .array items => items.readAll read
  | draft => .error draft.wrongType

/-! ## Values that are passed over -/

mutual
/-- Pass over a value. -/
def Draft.skip : Draft → Except Fault Unit
  | .array items => items.skip
  | .object fields => fields.skip
  | .broken flaw => .error flaw.skipped
  | _ => .ok ()

/-- Pass over items. -/
def DraftItems.skip : DraftItems → Except Fault Unit
  | .stop missing => endOf missing
  | .item value rest => do
    value.skip
    rest.skip

/-- Pass over fields. -/
def DraftFields.skip : DraftFields → Except Fault Unit
  | .stop missing => endOf missing
  | .field (.broken flaw) _ _ => .error flaw.skipped
  | .field (.text _) value rest => do
    value.skip
    rest.skip
end

/-! ## Values that are kept aside -/

mutual
/-- Check a value that is kept aside to be looked at later, at most `room` containers deep. -/
def Draft.keep (room : Nat) : Draft → Except Fault Unit
  | .string content => content.map fun _ => ()
  | .number numeral => if numeral.overflows then .error .malformed else .ok ()
  | .array items =>
    match room with
    | 0 => .error .malformed
    | room + 1 => items.keep room
  | .object fields =>
    match room with
    | 0 => .error .malformed
    | room + 1 => fields.keep room
  | .broken flaw => .error flaw.read
  | .null | .bool _ => .ok ()

/-- Check items that are kept aside. -/
def DraftItems.keep (room : Nat) : DraftItems → Except Fault Unit
  | .stop missing => endOf missing
  | .item value rest => do
    value.keep room
    rest.keep room

/-- Check fields that are kept aside. -/
def DraftFields.keep (room : Nat) : DraftFields → Except Fault Unit
  | .stop missing => endOf missing
  | .field (.broken flaw) _ _ => .error flaw.read
  | .field (.text (.error fault)) _ _ => .error fault
  | .field (.text (.ok _)) value rest => do
    value.keep room
    rest.keep room
end

/-! ## Alternatives -/

/-- The alternative with the given name. -/
def alternative {α : Type} (names : List (String × α)) (name : String) : Except Fault α :=
  match names.lookup name with
  | some value => .ok value
  | none => .error .mismatched

/-- Read one of several named alternatives: its name, or an object with the name as its only key and
`null` as the value. Anything else but a text or an object is refused at its first character. -/
def Draft.readAlternative {α : Type} (names : List (String × α)) : Draft → Except Fault α
  | .string content => content.bind (alternative names)
  | .object (.stop missing) => .error (missing.getD .malformed)
  | .object (.field (.broken flaw) _ _) => .error flaw.named
  | .object (.field (.text content) payload rest) => do
    let value ← content.bind (alternative names)
    match payload with
    | .null => pure ()
    | payload => throw payload.wrongType
    match rest with
    | .stop missing => endOf missing
    | .field _ _ _ => throw .malformed
    return value
  | .broken flaw => .error flaw.named
  | _ => .error .malformed

/-! ## Records -/

/-- A field of a record that is read piece by piece. -/
structure RecordField (ρ : Type) where
  name : String
  /-- Whether the field must be there. -/
  required : Bool
  /-- Read the field and put it into the record. -/
  store : ρ → Draft → Except Fault ρ

/-- Read the fields of an object into a record; `seen` are the names of the fields already read. A
field must not come twice, and no required field may be missing at the end. -/
def DraftFields.readRecord {ρ : Type} (fields : List (RecordField ρ)) (record : ρ)
    (seen : List String) : DraftFields → Except Fault ρ
  | .stop missing => do
    endOf missing
    if fields.any fun entry => entry.required && !seen.contains entry.name then
      throw .mismatched
    return record
  | .field (.broken flaw) _ _ => .error flaw.read
  | .field (.text (.error fault)) _ _ => .error fault
  | .field (.text (.ok name)) value rest =>
    match fields.find? (·.name == name) with
    | none => do
      value.skip
      rest.readRecord fields record seen
    | some entry =>
      if seen.contains name then .error .mismatched
      else do
        let record ← entry.store record value
        rest.readRecord fields record (name :: seen)

/-- Read the items of an array into the fields of a record. Fields at the end may be left out when
they are not required, but there must be no items beyond them. -/
def DraftItems.readRecord {ρ : Type} (record : ρ) :
    List (RecordField ρ) → DraftItems → Except Fault ρ
  | fields, .stop missing => do
    endOf missing
    if fields.any (·.required) then
      throw .mismatched
    return record
  | [], .item _ _ => .error .malformed
  | field :: fields, .item value rest => do
    let record ← field.store record value
    rest.readRecord record fields

/-- Read a record, starting from one that holds the default of each field. -/
def Draft.readRecord {ρ : Type} (fields : List (RecordField ρ)) (blank : ρ) : Draft → Except Fault ρ
  | .object content => content.readRecord fields blank []
  | .array items => items.readRecord blank fields
  | draft => .error draft.wrongType

/-- Read a whole text, with nothing behind its value. -/
def readText {α : Type} (read : Draft → Except Fault α) (text : String) : Except Fault α := do
  let document := Document.ofText text
  let value ← read document.value
  if document.trailing then
    throw .malformed
  return value

end TypeWitness.Json
