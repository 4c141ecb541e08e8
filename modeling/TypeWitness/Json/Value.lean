/-! # JSON values and their text
The values that the library writes as JSON, and their text: two spaces for each level, one item a
line, and empty containers on one line. Numbers are natural, since nothing else is ever written. -/

namespace TypeWitness

/-- A JSON value. -/
inductive Json where
  | null
  | bool (value : Bool)
  | number (value : Nat)
  | string (text : String)
  | array (items : List Json)
  /-- An object, with its fields in the order in which they are written. -/
  | object (fields : List (String × Json))
  deriving Repr, Inhabited

namespace Json

/-- The hexadecimal digit of a number below sixteen. -/
def hexDigit (n : Nat) : Char :=
  if n < 10 then Char.ofNat ('0'.toNat + n) else Char.ofNat ('a'.toNat + (n - 10))

/-- A character inside a quoted text: quotes, backslashes and control characters are escaped. -/
def escapeChar (c : Char) : List Char :=
  if c = '"' then ['\\', '"']
  else if c = '\\' then ['\\', '\\']
  else if c = '\x08' then ['\\', 'b']
  else if c = '\x0c' then ['\\', 'f']
  else if c = '\n' then ['\\', 'n']
  else if c = '\r' then ['\\', 'r']
  else if c = '\t' then ['\\', 't']
  else if c.toNat < 0x20 then
    ['\\', 'u', '0', '0', hexDigit (c.toNat / 16), hexDigit (c.toNat % 16)]
  else [c]

/-- A text in quotes. -/
def quote (text : String) : String :=
  String.ofList ('"' :: (text.toList.flatMap escapeChar ++ ['"']))

/-- A line end and the indentation of the next line. -/
def lineBreak (depth : Nat) : String := "\n" ++ String.ofList (List.replicate (2 * depth) ' ')

mutual
/-- The text of a value whose surroundings have the given depth. -/
def render (depth : Nat) : Json → String
  | null => "null"
  | bool true => "true"
  | bool false => "false"
  | number value => toString value
  | string text => quote text
  | array [] => "[]"
  | array (item :: items) =>
    "[" ++ lineBreak (depth + 1) ++ item.render (depth + 1) ++ renderItems (depth + 1) items
      ++ lineBreak depth ++ "]"
  | object [] => "\x7b\x7d"
  | object ((key, value) :: fields) =>
    "\x7b" ++ lineBreak (depth + 1) ++ quote key ++ ": " ++ value.render (depth + 1)
      ++ renderFields (depth + 1) fields ++ lineBreak depth ++ "\x7d"

/-- The items after the first, each with the comma and the line break before it. -/
def renderItems (depth : Nat) : List Json → String
  | [] => ""
  | item :: items => "," ++ lineBreak depth ++ item.render depth ++ renderItems depth items

/-- The fields after the first, each with the comma and the line break before it. -/
def renderFields (depth : Nat) : List (String × Json) → String
  | [] => ""
  | (key, value) :: fields =>
    "," ++ lineBreak depth ++ quote key ++ ": " ++ value.render depth ++ renderFields depth fields
end

/-- The text of a value. -/
def pretty (value : Json) : String := value.render 0

/-- A field that is written only when it is present. -/
def optionalField (key : String) (value : Option Json) : List (String × Json) :=
  value.toList.map (key, ·)

/-- An array field that is written only when it has items. -/
def nonemptyField (key : String) (items : List Json) : List (String × Json) :=
  if items.isEmpty then [] else [(key, .array items)]

end Json

end TypeWitness
