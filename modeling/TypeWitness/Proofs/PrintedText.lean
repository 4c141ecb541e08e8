import TypeWitness.Source.Expression

/-! # What the printer writes within a line
Most steps of the printer write a text at the end of what has been written and change nothing else,
whatever the layout and the depth. This is kept when steps follow each other, so an expression is
written as a text that is put together along its syntax.

* `Printing.Writes` — steps write a text.
* `Expression.renderIn` — the text of an expression, by its syntax.
* `Expression.writes_print` — the printer writes an expression as this text. -/

namespace TypeWitness

namespace Printing

/-! ## Steps for several items -/

variable {steps steps' separator : Printing Unit}

/-- Print each of the items with something before it. -/
def eachAfter (separator : Printing Unit) (items : List (Printing Unit)) : Printing Unit :=
  items.forM fun item => do
    separator
    item

/-- Where no item is the first one, each follows a separator. -/
theorem forM_zipIdx_succ (separator : Printing Unit) (items : List (Printing Unit)) (start : Nat) :
    ((items.zipIdx (start + 1)).forM fun (item, index) => do
      if index > 0 then separator
      item) = eachAfter separator items := by
  induction items generalizing start with
  | nil => rfl
  | cons first others ih =>
    rw [List.zipIdx_cons]
    exact congrArg (fun rest => (do separator; first) >>= fun _ => rest) (ih (start + 1))

/-- Behind the first item each further one follows a separator. -/
theorem separated_cons (separator first : Printing Unit) (others : List (Printing Unit)) :
    separated separator (first :: others) = (do first; eachAfter separator others) := by
  rw [separated, List.zipIdx_cons, ← forM_zipIdx_succ separator others 0]
  rfl

theorem separated_singleton (separator first : Printing Unit) :
    separated separator [first] = first := by
  rw [separated_cons]
  exact bind_pure_unit

theorem separated_cons_cons (separator first second : Printing Unit)
    (others : List (Printing Unit)) :
    separated separator (first :: second :: others) = (do
      first
      separator
      separated separator (second :: others)) := by
  rw [separated_cons, separated_cons, ← bind_assoc separator]
  rfl

/-! ## Steps that write a text -/

/-- Steps write a text at the end of what has been written, and change nothing else. -/
def Writes (steps : Printing Unit) (text : String) : Prop :=
  ∀ printer : Printer, steps.run printer = pure ((), { printer with out := printer.out ++ text })

namespace Writes

variable {a b : String}

theorem write (text : String) : Writes (write text) text := fun _ => rfl

theorem nothing : Writes (return) "" := by
  intro printer
  simp

/-- Steps that follow each other write one text behind the other. -/
theorem append (h : Writes steps a) (h' : Writes steps' b) :
    Writes (do steps; steps') (a ++ b) := by
  intro printer
  rw [StateT.run_bind, h printer, pure_bind, h', String.append_assoc]

/-- Steps for each item write one text behind the other. -/
theorem forM {α : Type} {items : List α} {steps : α → Printing Unit} {text : α → String}
    (h : ∀ item ∈ items, Writes (steps item) (text item)) :
    Writes (items.forM steps) (String.join (items.map text)) := by
  induction items with
  | nil => exact nothing
  | cons first others ih =>
    obtain ⟨hfirst, hothers⟩ := List.forall_mem_cons.1 h
    rw [List.map_cons, String.join_cons]
    exact hfirst.append (ih hothers)

/-- Steps for each item write the texts with separators between them. -/
theorem separated {α : Type} {items : List α} {steps : α → Printing Unit} {text : α → String}
    (h : ∀ item ∈ items, Writes (steps item) (text item)) (hseparator : Writes separator a) :
    Writes (separated separator (items.map steps)) (a.intercalate (items.map text)) := by
  induction items with
  | nil => exact nothing
  | cons first others ih =>
    obtain ⟨hfirst, hothers⟩ := List.forall_mem_cons.1 h
    cases others with
    | nil =>
      rw [List.map_singleton, separated_singleton, List.map_singleton, String.intercalate_singleton]
      exact hfirst
    | cons second others =>
      have hrest := hfirst.append (hseparator.append (ih hothers))
      simp only [List.map_cons, separated_cons_cons, String.intercalate_cons_cons,
        String.append_assoc] at hrest ⊢
      exact hrest

theorem inParentheses (h : Writes steps a) :
    Writes (inParentheses steps) ("(" ++ (a ++ ")")) :=
  (write "(").append (h.append (write ")"))

end Writes

end Printing

/-! ## The text of an expression -/

namespace Expression

open Printing

/-- A text, in parentheses when they are needed. -/
def parenthesize (needed : Bool) (text : String) : String :=
  if needed then "(" ++ text ++ ")" else text

mutual
/-- The text of an expression in surroundings that bind as tightly as given. -/
def renderIn (surroundings : Nat) : Expression → String
  | name text => text
  | null => "null"
  | call receiver method arguments =>
    receiver.renderIn tightest ++ "." ++ method ++ "(" ++ renderArguments arguments ++ ")"
  | binary left operator right =>
    parenthesize (operator.precedence < surroundings) <|
      left.renderIn operator.precedence ++ " " ++ operator.sign ++ " "
        ++ right.renderIn (operator.precedence + 1)
  | cast type operand =>
    parenthesize (loosest < surroundings) <| "(" ++ type ++ ") " ++ operand.renderIn tightest
  | create type arguments => "new " ++ type ++ "(" ++ renderArguments arguments ++ ")"

/-- The arguments of a call, set apart by commas. -/
def renderArguments : List Expression → String
  | [] => ""
  | first :: others => first.renderIn loosest ++ renderFurtherArguments others

/-- The arguments after the first, each with the comma before it. -/
def renderFurtherArguments : List Expression → String
  | [] => ""
  | argument :: others => ", " ++ argument.renderIn loosest ++ renderFurtherArguments others
end

/-! ## The printer writes it -/

theorem writes_parenthesized {inside : Printing Unit} {text : String} (h : Writes inside text)
    (needed : Bool) : Writes (parenthesized needed inside) (parenthesize needed text) := by
  cases needed with
  | false =>
    have hnothing := Writes.nothing.append (h.append .nothing)
    rwa [String.empty_append, String.append_empty] at hnothing
  | true =>
    rw [parenthesize, if_pos rfl, String.append_assoc]
    exact h.inParentheses

mutual
/-- **The printer writes an expression** as its text. -/
theorem writes_print (surroundings : Nat) : (expression : Expression) →
    Writes (expression.print surroundings) (expression.renderIn surroundings)
  | name text => .write text
  | null => .write "null"
  | call receiver method arguments => by
    have harguments := (writes_printEach arguments).inParentheses
    have hcall := (receiver.writes_print tightest).append
      ((Writes.write ".").append ((Writes.write method).append harguments))
    simp only [renderIn, String.append_assoc]
    exact hcall
  | binary left operator right => by
    have hbinary := (left.writes_print operator.precedence).append ((Writes.write " ").append
      ((Writes.write operator.sign).append ((Writes.write " ").append
        (right.writes_print (operator.precedence + 1)))))
    simp only [renderIn, String.append_assoc]
    exact writes_parenthesized hbinary _
  | cast type operand => by
    have hcast := (Writes.write "(").append ((Writes.write type).append ((Writes.write ") ").append
      (operand.writes_print tightest)))
    simp only [renderIn, String.append_assoc]
    exact writes_parenthesized hcast _
  | create type arguments => by
    have hcreate := (Writes.write "new ").append ((Writes.write type).append
      (writes_printEach arguments).inParentheses)
    simp only [renderIn, String.append_assoc]
    exact hcreate

theorem writes_printEach : (arguments : List Expression) →
    Writes (separated (write ", ") (printEach arguments)) (renderArguments arguments)
  | [] => .nothing
  | first :: others => by
    rw [printEach, separated_cons]
    exact (first.writes_print loosest).append (writes_printFurther others)

theorem writes_printFurther : (others : List Expression) →
    Writes (eachAfter (write ", ") (printEach others)) (renderFurtherArguments others)
  | [] => .nothing
  | argument :: others => by
    have hargument := (Writes.write ", ").append (argument.writes_print loosest)
    exact hargument.append (writes_printFurther others)
end

/-- The text of an expression that stands by itself. -/
theorem render_eq (expression : Expression) : expression.render = expression.renderIn loosest := by
  rw [render, Printing.text, expression.writes_print loosest]
  exact String.empty_append

end Expression

end TypeWitness
