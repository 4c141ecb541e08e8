import TypeWitness.Proofs.ExpressionTokens
import TypeWitness.Proofs.TypeGrammar

/-! # The grammar of expressions
Which tokens are read as which expressions is told here by a grammar. From the loosest to the
tightest its levels are disjunctions, comparisons, casts, calls and primary expressions; the
operators of the first two associate to the left.

* `Derives` — the grammar.
* `Derives.exists_cons` — how an expression begins.
* `Derives.opens` — no parenthesis is closed that was not opened. -/

namespace TypeWitness

/-- How tightly the parts of an expression are held together. -/
inductive BindingLevel where
  | disjunction
  | comparison
  | unary
  | call
  | primary
  deriving DecidableEq, Repr

namespace BindingLevel

/-- The number of a level, the loosest level first. -/
def rank : BindingLevel → Nat
  | disjunction => 0
  | comparison => 1
  | unary => 2
  | call => 3
  | primary => 4

end BindingLevel

/-- The level of an expression with the operator outermost, and of its left side. -/
def Operator.level : Operator → BindingLevel
  | same | notSame => .comparison
  | or => .disjunction

/-- The level of the right side of an operator: the next tighter one. -/
def Operator.rightLevel : Operator → BindingLevel
  | same | notSame => .unary
  | or => .comparison

/-- The class that is created: `type | name '<' '>'`, where the name is not that of a primitive
type. -/
inductive DerivesCreated : List TypeToken → String → Prop
  | type {tokens : List TypeToken} {type : TypeExpr} (h : DerivesType tokens type) :
      DerivesCreated tokens type.render
  | diamond {tokens : List TypeToken} {name : String} (h : DerivesName tokens name)
      (hprimitive : isPrimitiveName name = false) :
      DerivesCreated (tokens ++ [.openAngle, .closeAngle]) (name ++ "<>")

namespace Expression

open ExpressionToken

mutual
/-- The expressions of a level:
* `disjunction ::= comparison | disjunction '||' comparison`
* `comparison ::= unary | comparison ('==' | '!=') unary`
* `unary ::= call | '(' type ')' unary`
* `call ::= primary | call '.' identifier '(' arguments ')'`
* `primary ::= identifier | 'null' | 'new' created '(' arguments ')' | '(' disjunction ')'` -/
inductive Derives : BindingLevel → List ExpressionToken → Expression → Prop
  /-- A level takes in the tighter ones. -/
  | tighter {level tight : BindingLevel} {tokens : List ExpressionToken} {expression : Expression}
      (hlevel : level.rank ≤ tight.rank) (h : Derives tight tokens expression) :
      Derives level tokens expression
  | binary {operator : Operator} {leftTokens rightTokens : List ExpressionToken}
      {left right : Expression} (hleft : Derives operator.level leftTokens left)
      (hright : Derives operator.rightLevel rightTokens right) :
      Derives operator.level (leftTokens ++ .operator operator :: rightTokens)
        (.binary left operator right)
  | cast {typeTokens : List TypeToken} {type : TypeExpr} {tokens : List ExpressionToken}
      {operand : Expression} (htype : DerivesType typeTokens type)
      (h : Derives .unary tokens operand) :
      Derives .unary (.openParen :: (typeTokens.map ofType ++ .closeParen :: tokens))
        (.cast type.render operand)
  | call {tokens inside : List ExpressionToken} {receiver : Expression} {method : String}
      {arguments : List Expression} (h : Derives .call tokens receiver)
      (hmethod : isValidIdentifier method = true) (harguments : DerivesArguments inside arguments) :
      Derives .call
        (tokens ++ ofType .dot :: ofType (.identifier method) :: .openParen ::
          (inside ++ [.closeParen]))
        (.call receiver method arguments)
  | name {text : String} (h : isValidIdentifier text = true) :
      Derives .primary [ofType (.identifier text)] (.name text)
  | null : Derives .primary [ofType (.identifier "null")] .null
  | create {typeTokens : List TypeToken} {type : String} {inside : List ExpressionToken}
      {arguments : List Expression} (htype : DerivesCreated typeTokens type)
      (harguments : DerivesArguments inside arguments) :
      Derives .primary
        (ofType (.identifier "new") :: (typeTokens.map ofType ++ .openParen ::
          (inside ++ [.closeParen])))
        (.create type arguments)
  | parenthesized {tokens : List ExpressionToken} {expression : Expression}
      (h : Derives .disjunction tokens expression) :
      Derives .primary (.openParen :: (tokens ++ [.closeParen])) expression

/-- `arguments ::= (disjunction (',' disjunction)*)?` -/
inductive DerivesArguments : List ExpressionToken → List Expression → Prop
  | none : DerivesArguments [] []
  | last {tokens : List ExpressionToken} {expression : Expression}
      (h : Derives .disjunction tokens expression) : DerivesArguments tokens [expression]
  | more {tokens others : List ExpressionToken} {expression : Expression}
      {expressions : List Expression} (h : Derives .disjunction tokens expression)
      (hne : expressions ≠ []) (hothers : DerivesArguments others expressions) :
      DerivesArguments (tokens ++ ofType .comma :: others) (expression :: expressions)
end

/-- A text is read as an expression that the grammar derives from its tokens. -/
def Reads (text : String) (expression : Expression) : Prop :=
  ∃ tokens, scan text.toList = some tokens ∧ Derives .disjunction tokens expression

/-! ## How derived tokens begin -/

/-- Whether an expression may begin with a token. -/
def startsOperand : ExpressionToken → Bool
  | ofType (.identifier _) | openParen => true
  | _ => false

/-- An expression begins with an identifier or an opening parenthesis. -/
theorem Derives.exists_cons {level : BindingLevel} {tokens : List ExpressionToken}
    {expression : Expression} :
    Derives level tokens expression →
      ∃ first others, tokens = first :: others ∧ startsOperand first = true
  | .tighter _ h => h.exists_cons
  | .binary hleft _ => by
    obtain ⟨first, others, rfl, hfirst⟩ := hleft.exists_cons
    exact ⟨first, _, rfl, hfirst⟩
  | .call h _ _ => by
    obtain ⟨first, others, rfl, hfirst⟩ := h.exists_cons
    exact ⟨first, _, rfl, hfirst⟩
  | .cast _ _ | .name _ | .null | .create _ _ | .parenthesized _ => ⟨_, _, rfl, rfl⟩

/-- Whether types are made of a token as well. -/
def isOfType : ExpressionToken → Bool
  | ofType _ => true
  | _ => false

/-- Of the tokens other than those of types the first is no closing parenthesis. -/
def Opens (tokens : List ExpressionToken) : Prop :=
  (tokens.dropWhile isOfType).head? ≠ some .closeParen

theorem Opens.append {tokens others : List ExpressionToken} (h : Opens tokens)
    (hothers : Opens others) : Opens (tokens ++ others) := by
  rw [Opens, List.dropWhile_append]
  split
  · exact hothers
  · next hne =>
    rw [List.head?_append, Option.or_of_isSome (by simpa using hne)]
    exact h

theorem opens_map_ofType (tokens : List TypeToken) : Opens (tokens.map ofType) := by
  induction tokens with
  | nil => simp [Opens]
  | cons token tokens ih => exact ih

/-- An expression closes no parenthesis before it opens one. -/
theorem Derives.opens {level : BindingLevel} {tokens : List ExpressionToken}
    {expression : Expression} : Derives level tokens expression → Opens tokens
  | .tighter _ h => h.opens
  | .binary hleft _ => hleft.opens.append nofun
  | .call h _ _ => h.opens.append nofun
  | @Derives.create typeTokens _ _ _ _ _ =>
    (opens_map_ofType (.identifier "new" :: typeTokens)).append nofun
  | .cast _ _ | .parenthesized _ => nofun
  | .name _ | .null => opens_map_ofType [_]

end Expression

end TypeWitness
