import TypeWitness.Source.Syntax

/-! # The printer
A printer holds the text that it has written so far and how deep it indents. Printing is a walk over
what is printed, in which each step writes something at the end of the text or changes the depth. -/

namespace TypeWitness

/-- How a line ends. -/
inductive NewLine where
  | lf
  | crlf
  deriving DecidableEq, Repr, Inhabited

/-- The characters that end a line. -/
def NewLine.text : NewLine → String
  | lf => "\n"
  | crlf => "\r\n"

/-- How text is laid out. -/
structure Layout where
  newLine : NewLine
  /-- The number of spaces for each level of indentation. -/
  indentWidth : Nat
  deriving DecidableEq, Repr

/-- Lines that end in a line feed, with four spaces a level. -/
def Layout.standard : Layout := ⟨.lf, 4⟩

/-- A printer at work. -/
structure Printer where
  /-- The text so far. -/
  out : String
  indentLevel : Nat
  layout : Layout
  deriving DecidableEq, Repr

/-- The printer that has written nothing. -/
def Printer.ofLayout (layout : Layout) : Printer := ⟨"", 0, layout⟩

/-- Steps of a printer. -/
abbrev Printing := StateM Printer

namespace Printing

/-- The text that a printer has written in the end. -/
def text (layout : Layout) (steps : Printing Unit) : String :=
  (StateT.run steps (Printer.ofLayout layout)).run.2.out

/-- Write text. -/
def write (text : String) : Printing Unit :=
  modify fun printer => { printer with out := printer.out ++ text }

/-- End the line. -/
def writeLine : Printing Unit :=
  modify fun printer => { printer with out := printer.out ++ printer.layout.newLine.text }

/-- Write the spaces before a line, one by one. -/
def writeIndent : Printing Unit :=
  modify fun printer =>
    let count := printer.indentLevel * printer.layout.indentWidth
    { printer with out := Nat.repeat (·.push ' ') count printer.out }

/-- Indent by one level more. -/
def increaseIndent : Printing Unit :=
  modify fun printer => { printer with indentLevel := printer.indentLevel + 1 }

/-- Indent by one level less, unless nothing is indented. -/
def decreaseIndent : Printing Unit :=
  modify fun printer =>
    if printer.indentLevel > 0 then { printer with indentLevel := printer.indentLevel - 1 }
    else printer

/-- Print one after the other, with something before each but the first. -/
def separated (separator : Printing Unit) (items : List (Printing Unit)) : Printing Unit :=
  items.zipIdx.forM fun (item, index) => do
    if index > 0 then separator
    item

/-- Print in parentheses. -/
def inParentheses (inside : Printing Unit) : Printing Unit := do
  write "("
  inside
  write ")"

/-- Print in parentheses when they are needed. -/
def parenthesized (needed : Bool) (inside : Printing Unit) : Printing Unit := do
  if needed then write "("
  inside
  if needed then write ")"

end Printing

end TypeWitness
