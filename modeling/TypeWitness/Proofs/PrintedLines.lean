import TypeWitness.Proofs.PrintedText
import TypeWitness.Source.Layout

/-! # The lines that the printer prints
A source file has lines, each with the number of bodies that are open around it, and these are told
by its syntax alone. The printer knows how deep it is by its indentation, which each body changes
and puts back. So whatever it prints, it prints the lines of it, as deep as its indentation says,
and leaves the indentation as it was.

* `SourceFile.lines` — the lines of a file, by its syntax.
* `Printing.Prints` — steps print lines.
* `Printing.Prints.block` — a head with its body.
* `Statement.prints`, `Member.prints`, `ClassDefinition.prints` — each part prints its lines.
* `SourceFile.render_eq` — the text of a file is that of its lines. -/

namespace TypeWitness

/-- A line of a source file. -/
structure Line where
  depth : Nat
  text : String
  deriving DecidableEq, Repr

/-- A line without text, which is not indented. -/
def Line.blank : Line := ⟨0, ""⟩

/-- The text of a line with its end. -/
def Line.render (layout : Layout) (line : Line) : String :=
  String.ofList (List.replicate (line.depth * layout.indentWidth) ' ') ++ line.text
    ++ layout.newLine.text

/-! ## The lines of each part of a file -/

/-- Modifiers with a space behind each. -/
def renderModifiers (modifiers : List Modifier) : String :=
  String.join ((sortedModifiers modifiers).map fun modifier => modifier.keyword ++ " ")

/-- Parameters in parentheses. -/
def renderParameters (parameters : List Parameter) : String :=
  "(" ++ ", ".intercalate (parameters.map fun parameter => parameter.type ++ " " ++ parameter.name)
    ++ ")"

/-- A head followed by a block: on one line when the block is empty. -/
def blockLines (depth : Nat) (head : String) (body : List Line) : List Line :=
  if body.isEmpty then [⟨depth, head ++ " \x7b\x7d"⟩]
  else ⟨depth, head ++ " \x7b"⟩ :: body ++ [⟨depth, "\x7d"⟩]

mutual
/-- The lines of a statement. -/
def Statement.lines (depth : Nat) : Statement → List Line
  | .ifThen condition branch =>
    blockLines depth ("if (" ++ condition.render ++ ")") (statementLines (depth + 1) branch)
  | .raise value => [⟨depth, "throw " ++ value.render ++ ";"⟩]
  | .giveBack value => [⟨depth, "return " ++ value.render ++ ";"⟩]

/-- The lines of statements. -/
def statementLines (depth : Nat) : List Statement → List Line
  | [] => []
  | statement :: statements => statement.lines depth ++ statementLines depth statements
end

/-- The lines of a method. -/
def Method.lines (depth : Nat) (method : Method) : List Line :=
  let typeParameters :=
    if method.typeParameters.isEmpty then ""
    else "<" ++ ", ".intercalate method.typeParameters ++ "> "
  let head :=
    renderModifiers method.modifiers ++ typeParameters ++ method.returnType ++ " " ++ method.name
      ++ renderParameters method.parameters
  method.annotations.map (fun mark => ⟨depth, "@" ++ mark⟩)
    ++ blockLines depth head (statementLines (depth + 1) method.body)

/-- The lines of a member of the class with the given name. -/
def Member.lines (className : String) (depth : Nat) : Member → List Line
  | .field modifiers type name initializer =>
    let value := match initializer with
      | some expression => " = " ++ expression.render
      | none => ""
    [⟨depth, renderModifiers modifiers ++ type ++ " " ++ name ++ value ++ ";"⟩]
  | .constructor modifiers parameters body =>
    blockLines depth (renderModifiers modifiers ++ className ++ renderParameters parameters)
      (statementLines (depth + 1) body)
  | .method definition => definition.lines depth

/-- The lines of a class, with a blank line between its members. -/
def ClassDefinition.lines (depth : Nat) (definition : ClassDefinition) : List Line :=
  ⟨depth, renderModifiers definition.modifiers ++ "class " ++ definition.name ++ " \x7b"⟩
    :: [Line.blank].intercalate (definition.members.map (·.lines definition.name (depth + 1)))
    ++ [⟨depth, "\x7d"⟩]

/-- The lines of a source file, with a blank line between its parts. -/
def SourceFile.lines (file : SourceFile) : List Line :=
  let package := match file.packageName? with
    | some name => [⟨0, "package " ++ name ++ ";"⟩, Line.blank]
    | none => []
  let imports :=
    if file.imports.isEmpty then []
    else (sortedNames file.imports).map (fun name => ⟨0, "import " ++ name ++ ";"⟩) ++ [Line.blank]
  package ++ imports ++ [Line.blank].intercalate (file.classes.map (·.lines 0))

/-! ## Steps that print lines -/

namespace Printing

/-- The spaces before a line, all at once. -/
theorem run_writeIndent (printer : Printer) :
    writeIndent.run printer = pure ((), { printer with
      out := printer.out
        ++ String.ofList
          (List.replicate (printer.indentLevel * printer.layout.indentWidth) ' ') }) := by
  have hspaces : ∀ count (out : String), Nat.repeat (String.push · ' ') count out =
      out ++ String.ofList (List.replicate count ' ') := by
    intro count out
    induction count with
    | zero => simp [Nat.repeat]
    | succ count ih =>
      apply String.toList_injective
      rw [Nat.repeat, ih]
      simp [List.replicate_succ']
  rw [writeIndent, StateT.run_modify]
  simp only [hspaces]

/-- The text of lines. -/
def linesText (layout : Layout) (lines : List Line) : String :=
  String.join (lines.map (·.render layout))

/-- Steps print lines, which depend on how deep they stand: the text of these comes behind what has
been written, and nothing else changes. -/
def Prints (steps : Printing Unit) (lines : Nat → List Line) : Prop :=
  ∀ printer : Printer, steps.run printer = pure ((),
    { printer with out := printer.out ++ linesText printer.layout (lines printer.indentLevel) })

namespace Prints

variable {steps steps' : Printing Unit} {lines lines' : Nat → List Line} {text : String}

theorem nothing : Prints (return) fun _ => [] := by
  intro printer
  simp [linesText]

/-- Steps that follow each other print one after the other. -/
theorem append (h : Prints steps lines) (h' : Prints steps' lines') :
    Prints (do steps; steps') fun depth => lines depth ++ lines' depth := by
  intro printer
  rw [StateT.run_bind, h printer, pure_bind, h']
  simp [linesText, String.append_assoc]

/-- Text and the end of its line, which is not indented. -/
theorem flush (h : Writes steps text) : Prints (do steps; writeLine) fun _ => [⟨0, text⟩] := by
  intro printer
  rw [StateT.run_bind, h printer, pure_bind]
  simp [linesText, Line.render, writeLine, String.append_assoc]

/-- A blank line. -/
theorem blank : Prints writeLine fun _ => [Line.blank] := flush .nothing

/-- Text and the end of its line, as deep as the printer is. -/
theorem line (h : Writes steps text) :
    Prints (do writeIndent; steps; writeLine) fun depth => [⟨depth, text⟩] := by
  intro printer
  rw [StateT.run_bind, run_writeIndent, pure_bind, StateT.run_bind, h, pure_bind]
  simp [linesText, Line.render, writeLine, String.append_assoc]

/-- What is printed for each item, one after the other. -/
theorem forM {α : Type} {items : List α} {steps : α → Printing Unit} {lines : α → Nat → List Line}
    (h : ∀ item ∈ items, Prints (steps item) (lines item)) :
    Prints (items.forM steps) fun depth => items.flatMap (lines · depth) := by
  induction items with
  | nil => exact nothing
  | cons first others ih =>
    obtain ⟨hfirst, hothers⟩ := List.forall_mem_cons.1 h
    exact hfirst.append (ih hothers)

/-- What is printed for each item, with blank lines between the items. -/
theorem separated {α : Type} {items : List α} {steps : α → Printing Unit}
    {lines : α → Nat → List Line} (h : ∀ item ∈ items, Prints (steps item) (lines item)) :
    Prints (separated writeLine (items.map steps)) fun depth =>
      [Line.blank].intercalate (items.map (lines · depth)) := by
  induction items with
  | nil => exact nothing
  | cons first others ih =>
    obtain ⟨hfirst, hothers⟩ := List.forall_mem_cons.1 h
    cases others with
    | nil =>
      simp only [List.map_singleton, separated_singleton, List.intercalate_singleton]
      exact hfirst
    | cons second others =>
      have hrest := hfirst.append (blank.append (ih hothers))
      simp only [List.map_cons, separated_cons_cons, List.intercalate_cons_cons,
        List.append_assoc] at hrest ⊢
      exact hrest

/-- What is inside a body is printed one level deeper. -/
theorem indented (h : Prints steps lines) :
    Prints (do increaseIndent; steps; decreaseIndent) fun depth => lines (depth + 1) := by
  intro printer
  have hsteps := h { printer with indentLevel := printer.indentLevel + 1 }
  rw [StateT.run_bind, increaseIndent, StateT.run_modify, pure_bind, StateT.run_bind, hsteps,
    pure_bind]
  simp [decreaseIndent]

/-- A body on lines of its own, behind the line that opens it. -/
theorem body (hhead : Writes steps' text) (h : Prints steps lines) :
    Prints (do
      writeIndent
      steps'
      writeLine
      increaseIndent
      steps
      decreaseIndent
      writeIndent
      write "\x7d"
      writeLine) fun depth =>
      ⟨depth, text⟩ :: lines (depth + 1) ++ [⟨depth, "\x7d"⟩] := by
  have hbody := (line hhead).append (h.indented.append (line (.write "\x7d")))
  simp only [bind_assoc] at hbody
  exact hbody

/-- **A head with its body**, on one line when nothing is inside. -/
theorem block {isEmpty : Bool} (hhead : Writes steps' (text ++ " ")) (h : Prints steps lines)
    (hempty : ∀ depth, (lines depth).isEmpty = isEmpty) :
    Prints (do writeIndent; steps'; printBody isEmpty steps) fun depth =>
      blockLines depth text (lines (depth + 1)) := by
  simp only [blockLines, hempty]
  cases isEmpty with
  | true =>
    have hline := line (hhead.append (.write "\x7b\x7d"))
    simp only [bind_assoc, String.append_assoc] at hline
    simp only [printBody, if_true, bind_pure_unit]
    exact hline
  | false =>
    have hbody := body (hhead.append (.write "\x7b")) h
    simp only [bind_assoc, String.append_assoc] at hbody
    exact hbody

end Prints

end Printing

/-! ## Each part prints its lines -/

open Printing

theorem writes_render (expression : Expression) :
    Writes (expression.print Expression.loosest) expression.render := by
  rw [Expression.render_eq]
  exact expression.writes_print _

/-- There are lines of statements if there are statements. -/
theorem isEmpty_statementLines (depth : Nat) (statements : List Statement) :
    (statementLines depth statements).isEmpty = statements.isEmpty := by
  cases statements with
  | nil => rfl
  | cons statement statements =>
    cases statement with
    | ifThen condition branch =>
      rw [statementLines, Statement.lines, blockLines]
      split <;> rfl
    | raise value => rfl
    | giveBack value => rfl

mutual
theorem Statement.prints : (statement : Statement) → Prints statement.print (statement.lines ·)
  | .ifThen condition branch => by
    have hhead := (Writes.write "if (").append ((writes_render condition).append
      (.write (")" ++ " ")))
    simp only [← String.append_assoc] at hhead
    have hblock := Prints.block hhead (prints_printStatements branch)
      fun depth => isEmpty_statementLines depth branch
    simp only [bind_assoc] at hblock
    rw [Statement.print]
    simp only [bind_pure_unit]
    exact hblock
  | .raise value => by
    have hline := Prints.line ((Writes.write "throw ").append
      ((writes_render value).append (.write ";")))
    simp only [bind_assoc, ← String.append_assoc] at hline
    exact hline
  | .giveBack value => by
    have hline := Prints.line ((Writes.write "return ").append
      ((writes_render value).append (.write ";")))
    simp only [bind_assoc, ← String.append_assoc] at hline
    exact hline

theorem prints_printStatements : (statements : List Statement) →
    Prints (printStatements statements) (statementLines · statements)
  | [] => .nothing
  | statement :: statements => statement.prints.append (prints_printStatements statements)
end

/-! ## Methods, members, classes and files -/

theorem writes_printModifiers (modifiers : List Modifier) :
    Writes (printModifiers modifiers) (renderModifiers modifiers) :=
  .forM fun modifier _ => (Writes.write modifier.keyword).append (.write " ")

theorem writes_printParameters (parameters : List Parameter) :
    Writes (printParameters parameters) (renderParameters parameters) := by
  have heach := Writes.separated (fun (parameter : Parameter) (_ : parameter ∈ parameters) =>
    (Writes.write parameter.type).append ((Writes.write " ").append (.write parameter.name)))
    (.write ", ")
  have hinside := heach.inParentheses
  simp only [← String.append_assoc] at hinside
  exact hinside

theorem writes_printTypeParameters (typeParameters : List String) :
    Writes (printTypeParameters typeParameters)
      (if typeParameters.isEmpty then "" else "<" ++ ", ".intercalate typeParameters ++ "> ") := by
  rw [printTypeParameters]
  cases typeParameters.isEmpty with
  | true => exact .nothing
  | false =>
    rw [if_neg Bool.false_ne_true, String.append_assoc]
    exact (Writes.write "<").append ((Writes.write _).append (.write "> "))

theorem writes_printInitializer (initializer? : Option Expression) :
    Writes (printInitializer initializer?) (match initializer? with
      | some initializer => " = " ++ initializer.render
      | none => "") := by
  cases initializer? with
  | none => exact .nothing
  | some initializer => exact (Writes.write " = ").append (writes_render initializer)

theorem Method.prints (method : Method) : Prints method.print (method.lines ·) := by
  have hannotations := Prints.forM fun mark (_ : mark ∈ method.annotations) =>
    Prints.line ((Writes.write "@").append (.write mark))
  have hhead := (writes_printModifiers method.modifiers).append
    ((writes_printTypeParameters method.typeParameters).append
      ((Writes.write method.returnType).append ((Writes.write " ").append
        ((Writes.write method.name).append ((writes_printParameters method.parameters).append
          (.write " "))))))
  simp only [← String.append_assoc] at hhead
  have hblock := Prints.block hhead (prints_printStatements method.body)
    fun depth => isEmpty_statementLines depth method.body
  have hmethod := hannotations.append hblock
  simp only [bind_assoc, ← List.map_eq_flatMap] at hmethod
  exact hmethod

theorem Member.prints (className : String) (member : Member) :
    Prints (member.print className) (member.lines className ·) := by
  cases member with
  | field modifiers type name initializer? =>
    have hline := Prints.line ((writes_printModifiers modifiers).append
      ((Writes.write type).append ((Writes.write " ").append ((Writes.write name).append
        ((writes_printInitializer initializer?).append (.write ";"))))))
    simp only [bind_assoc, ← String.append_assoc] at hline
    exact hline
  | constructor modifiers parameters body =>
    have hhead := (writes_printModifiers modifiers).append ((Writes.write className).append
      ((writes_printParameters parameters).append (.write " ")))
    simp only [← String.append_assoc] at hhead
    have hblock := Prints.block hhead (prints_printStatements body)
      fun depth => isEmpty_statementLines depth body
    simp only [bind_assoc] at hblock
    exact hblock
  | method definition => exact definition.prints

theorem ClassDefinition.prints (definition : ClassDefinition) :
    Prints definition.print (definition.lines ·) := by
  have hhead := (writes_printModifiers definition.modifiers).append ((Writes.write "class ").append
    ((Writes.write definition.name).append (.write " \x7b")))
  simp only [← String.append_assoc] at hhead
  have hmembers := Prints.separated fun member (_ : member ∈ definition.members) =>
    member.prints definition.name
  have hbody := Prints.body hhead hmembers
  simp only [bind_assoc] at hbody
  exact hbody

theorem prints_printPackage (packageName? : Option String) :
    Prints (printPackage packageName?) fun _ => match packageName? with
      | some name => [⟨0, "package " ++ name ++ ";"⟩, Line.blank]
      | none => [] := by
  cases packageName? with
  | none => exact .nothing
  | some name =>
    have hline := Prints.flush ((Writes.write "package ").append ((Writes.write name).append
      (.write ";")))
    have hlines := hline.append .blank
    simp only [bind_assoc, ← String.append_assoc] at hlines
    exact hlines

theorem prints_printImports (imports : List String) :
    Prints (printImports imports) fun _ =>
      if imports.isEmpty then []
      else
        (sortedNames imports).map (fun name => ⟨0, "import " ++ name ++ ";"⟩) ++ [Line.blank] := by
  have hempty : (sortedNames imports).isEmpty = imports.isEmpty := by
    rw [Bool.eq_iff_iff, List.isEmpty_iff, List.isEmpty_iff, List.eq_nil_iff_forall_not_mem,
      List.eq_nil_iff_forall_not_mem]
    exact forall_congr' fun name => not_congr mem_sortedNames
  have hlines := Prints.forM fun name (_ : name ∈ sortedNames imports) =>
    Prints.flush ((Writes.write "import ").append ((Writes.write name).append (.write ";")))
  simp only [printImports, hempty]
  cases imports.isEmpty with
  | true => exact .nothing
  | false =>
    have hall := hlines.append .blank
    simp only [bind_assoc, ← String.append_assoc, ← List.map_eq_flatMap] at hall
    exact hall

/-- **What becomes of a printer** that prints a file: it has written the lines of the file, and is
not indented. -/
theorem SourceFile.run_print (file : SourceFile) (layout : Layout) :
    file.print.run (.ofLayout layout) = pure ((),
      { Printer.ofLayout layout with out := linesText layout file.lines }) := by
  have hclasses := Prints.separated fun definition (_ : definition ∈ file.classes) =>
    definition.prints
  have hfile := (prints_printPackage file.packageName?).append
    ((prints_printImports file.imports).append hclasses)
  simp only [← List.append_assoc] at hfile
  have hrun := hfile (.ofLayout layout)
  rwa [show (Printer.ofLayout layout).out = "" from rfl, String.empty_append] at hrun

/-- **The text of a file** is that of its lines. -/
theorem SourceFile.render_eq (file : SourceFile) (layout : Layout) :
    file.render layout = String.join (file.lines.map (·.render layout)) := by
  rw [render, Printing.text, file.run_print]
  rfl

end TypeWitness
