import TypeWitness.Source.Printer

/-! # Printing expressions
Parentheses are printed only where the surroundings bind more tightly. Operators associate to the
left; a cast binds more tightly than every operator and a call more tightly than a cast. -/

namespace TypeWitness.Expression

open Printing

/-- How tightly surroundings without an operator bind. -/
def loosest : Nat := 0

/-- How tightly the place before a dot and the operand of a cast bind: more than every operator. -/
def tightest : Nat := 3

mutual
/-- Print an expression in surroundings that bind as tightly as given. -/
def print (surroundings : Nat) : Expression → Printing Unit
  | name text => write text
  | null => write "null"
  | call receiver method arguments => do
    receiver.print tightest
    write "."
    write method
    inParentheses (separated (write ", ") (printEach arguments))
  | binary left operator right =>
    parenthesized (operator.precedence < surroundings) do
      left.print operator.precedence
      write " "
      write operator.sign
      write " "
      -- operators associate to the left, so an equal one on the right needs parentheses
      right.print (operator.precedence + 1)
  | cast type operand =>
    parenthesized (loosest < surroundings) do
      write "("
      write type
      write ") "
      operand.print tightest
  | create type arguments => do
    write "new "
    write type
    inParentheses (separated (write ", ") (printEach arguments))

/-- The steps that print each of the arguments of a call. -/
def printEach : List Expression → List (Printing Unit)
  | [] => []
  | argument :: others => argument.print loosest :: printEach others
end

/-- The text of an expression that stands by itself. -/
def render (expression : Expression) : String := (expression.print loosest).text .standard

end TypeWitness.Expression
