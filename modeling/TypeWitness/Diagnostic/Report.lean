import TypeWitness.Diagnostic.Basic

/-! # Reports
The text that shows diagnostics to a person: a line for each, and a summary that counts the errors.
On a terminal the parts of a line are set apart by colour. -/

namespace TypeWitness

/-- A style of text on a terminal, given by the parameters of the escape sequence that selects it.
-/
structure TextStyle where
  parameters : String

namespace TextStyle

/-- Cyan letters. -/
def cyan : TextStyle := ⟨"36"⟩

/-- Red letters. -/
def red : TextStyle := ⟨"31"⟩

/-- Bright blue letters. -/
def brightBlue : TextStyle := ⟨"94"⟩

/-- Bold red letters. -/
def boldRed : TextStyle := ⟨"1;31"⟩

/-- Bold yellow letters. -/
def boldYellow : TextStyle := ⟨"1;33"⟩

/-- Bold cyan letters. -/
def boldCyan : TextStyle := ⟨"1;36"⟩

/-- The sequence that selects a style. -/
def select (style : TextStyle) : String := "\x1b[" ++ style.parameters ++ "m"

/-- The sequence that returns to plain text. -/
def reset : String := "\x1b[0m"

/-- A text in a style. Where the text itself returns to plain, the style is selected again. -/
def apply (style : TextStyle) (text : String) : String :=
  style.select ++ replaceAll reset (reset ++ style.select) text ++ reset

end TextStyle

/-- The text, in the style when colour is wanted. -/
def styled (color : Bool) (style : TextStyle) (text : String) : String :=
  if color then style.apply text else text

/-- The style of a category. -/
def Category.style : Category → TextStyle
  | error => .boldRed
  | warning => .boldYellow
  | message => .boldCyan

/-- A diagnostic on one line: what it is about, its category and code, and its wording. -/
def Diagnostic.line (color : Bool) (diagnostic : Diagnostic) : String :=
  let element := match diagnostic.element? with
    | some element => styled color .cyan element
    | none => "<manifest>"
  element ++ " - " ++ styled color diagnostic.category.style diagnostic.category.name ++ " "
    ++ styled color .brightBlue ("CK" ++ toString diagnostic.code) ++ ": " ++ diagnostic.message

/-- The line that counts the errors; it is coloured only if there are any. -/
def summaryLine (color : Bool) (diagnostics : List Diagnostic) : String :=
  match diagnostics.countP (·.isError) with
  | 0 => "Found 0 errors."
  | 1 => styled color .red "Found 1 error."
  | count => styled color .red s!"Found {count} errors."

/-- The report on diagnostics, which is empty when there are none. -/
def report (color : Bool) (diagnostics : List Diagnostic) : String :=
  if diagnostics.isEmpty then ""
  else
    String.join (diagnostics.map fun diagnostic => diagnostic.line color ++ "\n") ++ "\n"
      ++ summaryLine color diagnostics ++ "\n"

end TypeWitness
