import TypeWitness.Proofs.SourceLines
import TypeWitness.Text.Substitution

/-! # The ends of lines
Names, types and the like go into a file as they are. When none of them breaks a line, no line of
the file is broken, and line feeds stand at the ends of lines only. So a file with carriage returns
at the ends of its lines is the one without them in which line feeds are replaced.

* `SourceFile.unbroken_lines` — no line is broken when no string of the file is.
* `replaceAll_render` — replacing line feeds in lines that are not broken.
* `SourceFile.lines_laid_out` — all that the layout of a file depends on. -/

namespace TypeWitness

/-! ## The strings of a file -/

mutual
/-- The strings in an expression. -/
def Expression.strings : Expression → List String
  | .name text => [text]
  | .null => []
  | .call receiver method arguments => receiver.strings ++ method :: expressionStrings arguments
  | .binary left _ right => left.strings ++ right.strings
  | .cast type operand => type :: operand.strings
  | .create type arguments => type :: expressionStrings arguments

/-- The strings in expressions. -/
def expressionStrings : List Expression → List String
  | [] => []
  | expression :: expressions => expression.strings ++ expressionStrings expressions
end

mutual
/-- The strings in a statement. -/
def Statement.strings : Statement → List String
  | .ifThen condition branch => condition.strings ++ statementStrings branch
  | .raise value => value.strings
  | .giveBack value => value.strings

/-- The strings in statements. -/
def statementStrings : List Statement → List String
  | [] => []
  | statement :: statements => statement.strings ++ statementStrings statements
end

/-- The strings in a parameter. -/
def Parameter.strings (parameter : Parameter) : List String := [parameter.type, parameter.name]

/-- The strings in a member. -/
def Member.strings : Member → List String
  | .field _ type name initializer =>
    [type, name] ++ initializer.toList.flatMap Expression.strings
  | .constructor _ parameters body =>
    parameters.flatMap Parameter.strings ++ statementStrings body
  | .method definition =>
    definition.annotations ++ definition.typeParameters ++ [definition.returnType, definition.name]
      ++ definition.parameters.flatMap Parameter.strings ++ statementStrings definition.body

/-- The strings in a class. -/
def ClassDefinition.strings (definition : ClassDefinition) : List String :=
  definition.name :: definition.members.flatMap Member.strings

/-- The strings in a source file. -/
def SourceFile.strings (file : SourceFile) : List String :=
  file.packageName?.toList ++ file.imports ++ file.classes.flatMap ClassDefinition.strings

/-! ## Texts without line breaks -/

/-- A text with neither a line feed nor a carriage return. -/
def Unbroken (text : String) : Prop := ∀ c ∈ text.toList, c ≠ '\n' ∧ c ≠ '\r'

instance (text : String) : Decidable (Unbroken text) :=
  List.decidableBAll (fun c => c ≠ '\n' ∧ c ≠ '\r') text.toList

namespace Unbroken

variable {a b : String} {texts : List String}

@[simp] theorem append_iff : Unbroken (a ++ b) ↔ Unbroken a ∧ Unbroken b := by
  simp only [Unbroken, String.toList_append, List.forall_mem_append]

theorem append (ha : Unbroken a) (hb : Unbroken b) : Unbroken (a ++ b) := append_iff.2 ⟨ha, hb⟩

theorem join (h : ∀ text ∈ texts, Unbroken text) : Unbroken (String.join texts) := by
  intro c hc
  rw [String.toList_join] at hc
  obtain ⟨text, htext, hc⟩ := List.mem_flatMap.1 hc
  exact h text htext c hc

theorem intercalate (ha : Unbroken a) (h : ∀ text ∈ texts, Unbroken text) :
    Unbroken (a.intercalate texts) := by
  induction texts with
  | nil => exact nofun
  | cons first others ih =>
    obtain ⟨hfirst, hothers⟩ := List.forall_mem_cons.1 h
    cases others with
    | nil => simpa using hfirst
    | cons second others =>
      rw [String.intercalate_cons_cons]
      exact (hfirst.append ha).append (ih hothers)

theorem parenthesize (needed : Bool) (ha : Unbroken a) :
    Unbroken (Expression.parenthesize needed a) := by
  cases needed with
  | true => exact (append (by decide) ha).append (by decide)
  | false => exact ha

end Unbroken

theorem unbroken_closingBrace : Unbroken "\x7d" := by decide

theorem unbroken_keyword (modifier : Modifier) : Unbroken modifier.keyword := by
  cases modifier <;> decide

theorem unbroken_sign (operator : Operator) : Unbroken operator.sign := by
  cases operator <;> decide

theorem unbroken_renderModifiers (modifiers : List Modifier) :
    Unbroken (renderModifiers modifiers) := by
  refine .join fun text htext => ?_
  obtain ⟨modifier, -, rfl⟩ := List.mem_map.1 htext
  exact (unbroken_keyword modifier).append (by decide)

theorem unbroken_renderParameters {parameters : List Parameter}
    (h : ∀ text ∈ parameters.flatMap Parameter.strings, Unbroken text) :
    Unbroken (renderParameters parameters) := by
  refine .append (.append (by decide) (.intercalate (by decide) fun text htext => ?_)) (by decide)
  obtain ⟨parameter, hmem, rfl⟩ := List.mem_map.1 htext
  have hstring : ∀ text ∈ parameter.strings, Unbroken text :=
    fun text htext => h text (List.mem_flatMap.2 ⟨parameter, hmem, htext⟩)
  exact ((hstring _ (by simp [Parameter.strings])).append (by decide)).append
    (hstring _ (by simp [Parameter.strings]))

mutual
/-- The text of an expression has no line breaks but those of its strings. -/
theorem Expression.unbroken_renderIn (surroundings : Nat) : (expression : Expression) →
    (∀ text ∈ expression.strings, Unbroken text) → Unbroken (expression.renderIn surroundings)
  | .name text, h => by
    rw [Expression.renderIn]
    exact h text (by simp [Expression.strings])
  | .null, _ => by
    rw [Expression.renderIn]
    decide
  | .call receiver method arguments, h => by
    simp only [Expression.strings, List.forall_mem_append, List.forall_mem_cons] at h
    obtain ⟨hreceiver, hmethod, harguments⟩ := h
    rw [Expression.renderIn]
    have := receiver.unbroken_renderIn Expression.tightest hreceiver
    have := unbroken_renderArguments arguments harguments
    simp only [Unbroken.append_iff, *, and_true, true_and]
    decide
  | .binary left operator right, h => by
    simp only [Expression.strings, List.forall_mem_append] at h
    rw [Expression.renderIn]
    have := left.unbroken_renderIn operator.precedence h.1
    have := right.unbroken_renderIn (operator.precedence + 1) h.2
    refine .parenthesize _ ?_
    simp only [Unbroken.append_iff, unbroken_sign, *, and_true, true_and]
    decide
  | .cast type operand, h => by
    simp only [Expression.strings, List.forall_mem_cons] at h
    rw [Expression.renderIn]
    have := operand.unbroken_renderIn Expression.tightest h.2
    refine .parenthesize _ ?_
    simp only [Unbroken.append_iff, *, and_true]
    decide
  | .create type arguments, h => by
    simp only [Expression.strings, List.forall_mem_cons] at h
    rw [Expression.renderIn]
    have := unbroken_renderArguments arguments h.2
    simp only [Unbroken.append_iff, *, and_true]
    decide

theorem unbroken_renderArguments : (arguments : List Expression) →
    (∀ text ∈ expressionStrings arguments, Unbroken text) →
      Unbroken (Expression.renderArguments arguments)
  | [], _ => by
    rw [Expression.renderArguments]
    decide
  | first :: others, h => by
    simp only [expressionStrings, List.forall_mem_append] at h
    rw [Expression.renderArguments]
    exact (first.unbroken_renderIn _ h.1).append (unbroken_renderFurtherArguments others h.2)

theorem unbroken_renderFurtherArguments : (arguments : List Expression) →
    (∀ text ∈ expressionStrings arguments, Unbroken text) →
      Unbroken (Expression.renderFurtherArguments arguments)
  | [], _ => by
    rw [Expression.renderFurtherArguments]
    decide
  | first :: others, h => by
    simp only [expressionStrings, List.forall_mem_append] at h
    rw [Expression.renderFurtherArguments]
    exact (Unbroken.append (by decide) (first.unbroken_renderIn _ h.1)).append
      (unbroken_renderFurtherArguments others h.2)
end

theorem Expression.unbroken_render (expression : Expression)
    (h : ∀ text ∈ expression.strings, Unbroken text) : Unbroken expression.render := by
  rw [Expression.render_eq]
  exact expression.unbroken_renderIn _ h

/-! ## Lines without line breaks -/

/-- No line is broken. -/
def AllUnbroken (lines : List Line) : Prop := ∀ line ∈ lines, Unbroken line.text

namespace AllUnbroken

variable {lines lines' : List Line}

theorem nil : AllUnbroken [] := nofun

theorem cons {line : Line} (hline : Unbroken line.text) (h : AllUnbroken lines) :
    AllUnbroken (line :: lines) := List.forall_mem_cons.2 ⟨hline, h⟩

theorem single {line : Line} (h : Unbroken line.text) : AllUnbroken [line] := .cons h .nil

theorem append (h : AllUnbroken lines) (h' : AllUnbroken lines') : AllUnbroken (lines ++ lines') :=
  List.forall_mem_append.2 ⟨h, h'⟩

theorem blank : AllUnbroken [Line.blank] := .single (by decide)

theorem block {head : String} (depth : Nat) (hhead : Unbroken head) (h : AllUnbroken lines) :
    AllUnbroken (blockLines depth head lines) := by
  rw [blockLines]
  split
  · exact .single (hhead.append (by decide))
  · exact (AllUnbroken.cons (hhead.append (by decide)) h).append (.single unbroken_closingBrace)

theorem intercalate {parts : List (List Line)} (h : ∀ part ∈ parts, AllUnbroken part) :
    AllUnbroken ([Line.blank].intercalate parts) := by
  induction parts with
  | nil => exact .nil
  | cons first others ih =>
    obtain ⟨hfirst, hothers⟩ := List.forall_mem_cons.1 h
    cases others with
    | nil => simpa using hfirst
    | cons second others =>
      rw [List.intercalate_cons_cons]
      exact (hfirst.append blank).append (ih hothers)

end AllUnbroken

mutual
theorem Statement.unbroken_lines (depth : Nat) : (statement : Statement) →
    (∀ text ∈ statement.strings, Unbroken text) → AllUnbroken (statement.lines depth)
  | .ifThen condition branch, h => by
    simp only [Statement.strings, List.forall_mem_append] at h
    rw [Statement.lines]
    exact .block _
      ((Unbroken.append (by decide) (condition.unbroken_render h.1)).append (by decide))
      (unbroken_statementLines (depth + 1) branch h.2)
  | .raise value, h => by
    rw [Statement.lines]
    exact .single ((Unbroken.append (by decide) (value.unbroken_render h)).append (by decide))
  | .giveBack value, h => by
    rw [Statement.lines]
    exact .single ((Unbroken.append (by decide) (value.unbroken_render h)).append (by decide))

theorem unbroken_statementLines (depth : Nat) : (statements : List Statement) →
    (∀ text ∈ statementStrings statements, Unbroken text) →
      AllUnbroken (statementLines depth statements)
  | [], _ => .nil
  | statement :: statements, h => by
    simp only [statementStrings, List.forall_mem_append] at h
    rw [statementLines]
    exact (statement.unbroken_lines depth h.1).append
      (unbroken_statementLines depth statements h.2)
end

theorem Method.unbroken_lines (depth : Nat) (definition : Method)
    (h : ∀ text ∈ (Member.method definition).strings, Unbroken text) :
    AllUnbroken (definition.lines depth) := by
  simp only [Member.strings, List.forall_mem_append, List.forall_mem_cons] at h
  obtain ⟨⟨⟨⟨hannotations, htypeParameters⟩, hreturnType, hname, -⟩, hparameters⟩, hbody⟩ := h
  refine .append ?_ (.block _ ?_ (unbroken_statementLines _ _ hbody))
  · intro line hline
    obtain ⟨mark, hmark, rfl⟩ := List.mem_map.1 hline
    exact .append (by decide) (hannotations mark hmark)
  · have htypes : Unbroken (if definition.typeParameters.isEmpty then ""
        else "<" ++ ", ".intercalate definition.typeParameters ++ "> ") := by
      split
      · decide
      · exact (Unbroken.append (by decide) (.intercalate (by decide) htypeParameters)).append
          (by decide)
    exact (((((unbroken_renderModifiers _).append htypes).append hreturnType).append
      (by decide)).append hname).append (unbroken_renderParameters hparameters)

theorem Member.unbroken_lines {className : String} (hclass : Unbroken className) (depth : Nat)
    (member : Member) (h : ∀ text ∈ member.strings, Unbroken text) :
    AllUnbroken (member.lines className depth) := by
  cases member with
  | field modifiers type name initializer =>
    simp only [strings, List.forall_mem_append, List.forall_mem_cons] at h
    obtain ⟨⟨htype, hname, -⟩, hinitializer⟩ := h
    have hhead : Unbroken (renderModifiers modifiers ++ type ++ " " ++ name) :=
      (((unbroken_renderModifiers _).append htype).append (by decide)).append hname
    cases initializer with
    | none => exact .single ((hhead.append (b := "") (by decide)).append (by decide))
    | some expression =>
      have hvalue := expression.unbroken_render (by simpa using hinitializer)
      exact .single ((hhead.append (.append (by decide) hvalue)).append (by decide))
  | constructor modifiers parameters body =>
    simp only [strings, List.forall_mem_append] at h
    exact .block _ (((unbroken_renderModifiers _).append hclass).append
      (unbroken_renderParameters h.1)) (unbroken_statementLines _ _ h.2)
  | method definition => exact definition.unbroken_lines depth h

theorem ClassDefinition.unbroken_lines (depth : Nat) (definition : ClassDefinition)
    (h : ∀ text ∈ definition.strings, Unbroken text) : AllUnbroken (definition.lines depth) := by
  simp only [strings, List.forall_mem_cons, List.forall_mem_flatMap] at h
  obtain ⟨hname, hmembers⟩ := h
  refine .append (.cons ?_ (.intercalate fun part hpart => ?_)) (.single unbroken_closingBrace)
  · exact (((unbroken_renderModifiers _).append (by decide)).append hname).append (by decide)
  · obtain ⟨member, hmember, rfl⟩ := List.mem_map.1 hpart
    exact member.unbroken_lines hname _ (hmembers member hmember)

/-- **No line is broken when no string of the file is.** -/
theorem SourceFile.unbroken_lines (file : SourceFile)
    (h : ∀ text ∈ file.strings, Unbroken text) : AllUnbroken file.lines := by
  simp only [strings, List.forall_mem_append, List.forall_mem_flatMap, Option.mem_toList] at h
  obtain ⟨⟨hpackage, himports⟩, hclasses⟩ := h
  refine .append (.append ?_ ?_) (.intercalate fun part hpart => ?_)
  · cases hname : file.packageName? with
    | none => exact .nil
    | some name =>
      exact .cons ((Unbroken.append (by decide) (hpackage name hname)).append (by decide)) .blank
  · cases file.imports.isEmpty with
    | true => exact .nil
    | false =>
      refine AllUnbroken.append (fun line hline => ?_) .blank
      obtain ⟨name, hname, rfl⟩ := List.mem_map.1 hline
      exact (Unbroken.append (by decide) (himports name (mem_sortedNames.1 hname))).append
        (by decide)
  · obtain ⟨definition, hmem, rfl⟩ := List.mem_map.1 hpart
    exact definition.unbroken_lines 0 (hclasses definition hmem)

/-! ## Replacing line feeds -/

/-- Replacing a single character. -/
theorem replaceChars_eq_flatMap (c : Char) (replacement cs : List Char) :
    replaceChars c [] replacement cs =
      cs.flatMap fun c' => if c' = c then replacement else [c'] := by
  induction cs with
  | nil => rw [replaceChars, List.flatMap_nil]
  | cons first rest ih =>
    rw [replaceChars, List.flatMap_cons]
    split
    · next others h =>
      obtain ⟨hfirst, hothers⟩ := List.cons.inj (stripPattern?_eq_some h)
      rw [if_pos hfirst, ← ih, hothers]
      rfl
    · next h =>
      have hfirst : first ≠ c := by
        rintro rfl
        simp [stripPattern?] at h
      rw [if_neg hfirst, ih]
      rfl

/-- Line feeds with a carriage return before each. -/
theorem replaceAll_newLine (text : String) :
    replaceAll "\n" "\r\n" text =
      String.ofList (text.toList.flatMap fun c => if c = '\n' then ['\r', '\n'] else [c]) := by
  have hpattern : "\n".toList = ['\n'] := by decide
  have hreplacement : "\r\n".toList = ['\r', '\n'] := by decide
  rw [replaceAll, hpattern, hreplacement]
  exact congrArg String.ofList (replaceChars_eq_flatMap _ _ _)

theorem replaceAll_newLine_append (a b : String) :
    replaceAll "\n" "\r\n" (a ++ b) = replaceAll "\n" "\r\n" a ++ replaceAll "\n" "\r\n" b := by
  rw [replaceAll_newLine, replaceAll_newLine, replaceAll_newLine, String.toList_append,
    List.flatMap_append, String.ofList_append]

/-- Where no line is broken nothing is replaced. -/
theorem replaceAll_newLine_of_unbroken {text : String} (h : Unbroken text) :
    replaceAll "\n" "\r\n" text = text := by
  have hsame : text.toList.flatMap (fun c => if c = '\n' then ['\r', '\n'] else [c]) =
      text.toList.flatMap fun c => [c] := by
    refine List.flatMap_congr fun c hc => if_neg (h c hc).1
  rw [replaceAll_newLine, hsame, List.flatMap_singleton', String.ofList_toList]

/-- The spaces before a line. -/
theorem unbroken_spaces (n : Nat) : Unbroken (String.ofList (List.replicate n ' ')) := by
  intro c hc
  rw [String.toList_ofList] at hc
  rw [List.eq_of_mem_replicate hc]
  decide

/-- **Replacing line feeds in lines that are not broken** replaces their ends. -/
theorem replaceAll_render (indentWidth : Nat) {lines : List Line} (h : AllUnbroken lines) :
    replaceAll "\n" "\r\n" (String.join (lines.map (·.render ⟨.lf, indentWidth⟩))) =
      String.join (lines.map (·.render ⟨.crlf, indentWidth⟩)) := by
  induction lines with
  | nil =>
    rw [List.map_nil, List.map_nil]
    decide +kernel
  | cons line lines ih =>
    obtain ⟨hline, hlines⟩ := List.forall_mem_cons.1 h
    have hend : replaceAll "\n" "\r\n" NewLine.lf.text = NewLine.crlf.text := by decide +kernel
    rw [List.map_cons, List.map_cons, String.join_cons, String.join_cons,
      replaceAll_newLine_append, ih hlines, Line.render, Line.render, replaceAll_newLine_append,
      hend, replaceAll_newLine_of_unbroken ((unbroken_spaces _).append hline)]

/-! ## The layout of a file -/

/-- **What the layout of a file depends on.** The file has lines with depths and texts, whatever the
layout: what the printer writes is each line's text behind as many indentations as it is deep, with
the chosen end, and it is not indented afterwards. A blank line has depth 0 and no text, and the
depth of every other line is the number of class bodies and blocks that are open around it; none is
open in the end. The lines depend on imports and modifiers as sets only. When no string of the file
holds a line feed or carriage return, no line does, and the file with carriage returns is the one
without in which line feeds are replaced. -/
theorem SourceFile.lines_laid_out (file : SourceFile) :
    (∀ layout, file.render layout = String.join (file.lines.map fun line =>
        String.ofList (List.replicate (line.depth * layout.indentWidth) ' ') ++ line.text
          ++ layout.newLine.text)
      ∧ (file.print.run (.ofLayout layout)).run.2.indentLevel = 0)
    ∧ (Placed 0 file.roles file.lines 0 ∧ file.lines.length = file.roles.length)
    ∧ (∀ place line, file.lines[place]? = some line →
      if file.roles[place]? = some .blank then line = ⟨0, ""⟩
      else IsOpenAround file.roles place line.depth)
    ∧ file.roles.count .closes = file.roles.count .opens
    ∧ (∀ other, file.Alike other → file.lines = other.lines)
    ∧ ((∀ text ∈ file.strings, Unbroken text) →
      (∀ line ∈ file.lines, Unbroken line.text)
      ∧ ∀ indentWidth, file.render ⟨.crlf, indentWidth⟩ =
        replaceAll "\n" "\r\n" (file.render ⟨.lf, indentWidth⟩)) := by
  have hplaced := file.placed
  refine ⟨fun layout => ⟨file.render_eq layout, ?_⟩, ⟨hplaced, hplaced.length_eq⟩,
    fun place line hline => ?_, ?_, fun _ h => h.lines_eq,
    fun h => ⟨file.unbroken_lines h, fun indentWidth => ?_⟩⟩
  · rw [file.run_print]
    rfl
  · split
    · next hrole => exact hplaced.line_eq_blank hrole hline
    · next hrole => exact hplaced.isOpenAround hrole hline
  · simpa using hplaced.count_eq
  · rw [file.render_eq, file.render_eq, replaceAll_render indentWidth (file.unbroken_lines h)]

/-- How often lines are indented, all in all. -/
def totalDepth : List Line → Nat
  | [] => 0
  | line :: lines => line.depth + totalDepth lines

/-- Indentation makes lines longer by as many indentations as they are deep. -/
theorem length_join_render (newLine : NewLine) (indentWidth : Nat) (lines : List Line) :
    (String.join (lines.map (·.render ⟨newLine, indentWidth⟩))).length =
      totalDepth lines * indentWidth
        + (String.join (lines.map (·.render ⟨newLine, 0⟩))).length := by
  induction lines with
  | nil => rw [List.map_nil, List.map_nil, totalDepth, Nat.zero_mul, Nat.zero_add]
  | cons line lines ih =>
    have hline : (line.render ⟨newLine, indentWidth⟩).length =
        line.depth * indentWidth + (line.render ⟨newLine, 0⟩).length := by
      simp [Line.render, Nat.add_assoc]
    rw [List.map_cons, List.map_cons, String.join_cons, String.join_cons, String.length_append,
      String.length_append, ih, hline, totalDepth, Nat.add_mul]
    omega

/-- **Blank lines inside a class body are not indented.** No lines at all would be indented by the
number of bodies around them and give the text of a class with two fields. -/
theorem SourceFile.blank_line_not_indented :
    let field (name : String) : Member := .field [.privateAccess] "int" name none
    let file : SourceFile := ⟨none, [], [⟨[.final], "Pair", [field "first", field "second"]⟩]⟩
    ¬ ∃ lines : List Line,
      (∀ layout, file.render layout = String.join (lines.map (·.render layout)))
      ∧ lines.length = file.roles.length
      ∧ ∀ place line, lines[place]? = some line → IsOpenAround file.roles place line.depth := by
  rintro field file ⟨lines, hrender, hlength, hopen⟩
  have hroles : file.roles = [.opens, .plain, .blank, .plain, .closes] := by decide +kernel
  rw [hroles] at hlength hopen
  -- the depths add up to three, but only two lines are indented
  have hdepths : totalDepth lines = 3 := by
    match lines, hlength with
    | [first, second, third, fourth, fifth], _ =>
      have hfirst := hopen 0 first rfl
      have hsecond := hopen 1 second rfl
      have hthird := hopen 2 third rfl
      have hfourth := hopen 3 fourth rfl
      have hfifth := hopen 4 fifth rfl
      simp [IsOpenAround] at hfirst hsecond hthird hfourth hfifth
      simp [totalDepth, hfirst, hsecond, hthird, hfourth, hfifth]
  have hwidth : (file.render ⟨.lf, 1⟩).length = 2 + (file.render ⟨.lf, 0⟩).length := by
    decide +kernel
  rw [hrender, hrender, length_join_render, hdepths] at hwidth
  omega

end TypeWitness
