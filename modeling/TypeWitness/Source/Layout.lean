import TypeWitness.Source.Expression
import TypeWitness.Text.Sorting

/-! # Printing source files
The printer goes through a source file part by part. Each part ends its own lines, and a body is
printed one level deeper than what is around it. -/

namespace TypeWitness

open Printing
open Expression (loosest)

/-- The place of a modifier among all. -/
def Modifier.rank : Modifier → Nat
  | publicAccess => 0
  | privateAccess => 1
  | static => 2
  | final => 3

/-- Put a modifier in its place among others, unless it is there already. -/
def insertModifier (modifier : Modifier) : List Modifier → List Modifier
  | [] => [modifier]
  | first :: others =>
    if modifier.rank < first.rank then modifier :: first :: others
    else if modifier = first then first :: others
    else first :: insertModifier modifier others

/-- Modifiers in their order, each once. -/
def sortedModifiers (modifiers : List Modifier) : List Modifier := modifiers.foldr insertModifier []

/-- Print modifiers with a space behind each. -/
def printModifiers (modifiers : List Modifier) : Printing Unit :=
  (sortedModifiers modifiers).forM fun modifier => do
    write modifier.keyword
    write " "

/-- Print a parameter. -/
def Parameter.print (parameter : Parameter) : Printing Unit := do
  write parameter.type
  write " "
  write parameter.name

/-- Print parameters in parentheses. -/
def printParameters (parameters : List Parameter) : Printing Unit :=
  inParentheses (separated (write ", ") (parameters.map (·.print)))

/-- Print a body, given the steps that print what is inside: `{}` when that is nothing, and an
indented block otherwise. -/
def printBody (isEmpty : Bool) (inside : Printing Unit) : Printing Unit := do
  if isEmpty then
    write "\x7b\x7d"
    writeLine
    return
  write "\x7b"
  writeLine
  increaseIndent
  inside
  decreaseIndent
  writeIndent
  write "\x7d"
  writeLine

mutual
/-- Print a statement. -/
def Statement.print (statement : Statement) : Printing Unit := do
  writeIndent
  match statement with
  | .ifThen condition branch =>
    write "if ("
    condition.print loosest
    write ") "
    -- the body ends the line
    printBody branch.isEmpty (printStatements branch)
    return
  | .raise value =>
    write "throw "
    value.print loosest
  | .giveBack value =>
    write "return "
    value.print loosest
  write ";"
  writeLine

/-- Print statements. -/
def printStatements : List Statement → Printing Unit
  | [] => return
  | statement :: statements => do
    statement.print
    printStatements statements
end

/-- Print type parameters, unless there are none. -/
def printTypeParameters (typeParameters : List String) : Printing Unit := do
  if !typeParameters.isEmpty then
    write "<"
    write (", ".intercalate typeParameters)
    write "> "

/-- Print a method. -/
def Method.print (method : Method) : Printing Unit := do
  method.annotations.forM fun mark => do
    writeIndent
    write "@"
    write mark
    writeLine
  writeIndent
  printModifiers method.modifiers
  printTypeParameters method.typeParameters
  write method.returnType
  write " "
  write method.name
  printParameters method.parameters
  write " "
  printBody method.body.isEmpty (printStatements method.body)

/-- Print what a field is set to at first, if it is set. -/
def printInitializer : Option Expression → Printing Unit
  | some initializer => do
    write " = "
    initializer.print loosest
  | none => return

/-- Print a member of the class with the given name. -/
def Member.print (className : String) : Member → Printing Unit
  | .field modifiers type name initializer? => do
    writeIndent
    printModifiers modifiers
    write type
    write " "
    write name
    printInitializer initializer?
    write ";"
    writeLine
  | .constructor modifiers parameters body => do
    writeIndent
    printModifiers modifiers
    write className
    printParameters parameters
    write " "
    printBody body.isEmpty (printStatements body)
  | .method definition => definition.print

/-- Print a class, with a blank line between its members. -/
def ClassDefinition.print (definition : ClassDefinition) : Printing Unit := do
  writeIndent
  printModifiers definition.modifiers
  write "class "
  write definition.name
  write " \x7b"
  writeLine
  increaseIndent
  separated writeLine (definition.members.map (·.print definition.name))
  decreaseIndent
  writeIndent
  write "\x7d"
  writeLine

/-- Print the package, unless it is the default one, and a blank line. -/
def printPackage : Option String → Printing Unit
  | some name => do
    write "package "
    write name
    write ";"
    writeLine
    writeLine
  | none => return

/-- Print imports in their order, each once, and a blank line, unless there are none. -/
def printImports (imports : List String) : Printing Unit := do
  let imports := sortedNames imports
  if !imports.isEmpty then
    imports.forM fun name => do
      write "import "
      write name
      write ";"
      writeLine
    writeLine

/-- Print a source file, with a blank line between its classes. -/
def SourceFile.print (file : SourceFile) : Printing Unit := do
  printPackage file.packageName?
  printImports file.imports
  separated writeLine (file.classes.map (·.print))

/-- The text of a source file. -/
def SourceFile.render (layout : Layout) (file : SourceFile) : String := file.print.text layout

end TypeWitness
