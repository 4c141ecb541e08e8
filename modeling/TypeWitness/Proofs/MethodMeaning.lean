import TypeWitness.Source.Syntax
import TypeWitness.Witness.View

/-! # The meaning of generated methods
Generated methods read their parameters, ask an instance for the witnesses that it keeps, compare
references and end in `return` or `throw`. This file says what such a method does with given
arguments: `Expression.evaluate` gives the value of an expression, `Statement.run` tells how a
statement completes, and `Method.run` starts with the parameters bound to the arguments. Where the
part of Java that is described here gives an expression no value, there is no answer. -/

namespace TypeWitness

/-- A value that a generated method works with. -/
inductive RuntimeValue where
  | null
  | witness (witness : Witness)
  | subject (subject : Instance)
  /-- The outcome of a comparison. -/
  | truth (holds : Bool)
  /-- An object that `new` has just made, which is no other object. -/
  | created (type : String)
  deriving DecidableEq, Repr

namespace RuntimeValue

/-- A witness that may be missing, as an argument. -/
def ofWitness? : Option Witness → RuntimeValue
  | none => null
  | some token => witness token

@[simp] theorem ofWitness?_none : ofWitness? none = null := rfl

@[simp] theorem ofWitness?_some (token : Witness) : ofWitness? (some token) = witness token := rfl

/-- What `==` compares: references by identity, and outcomes of comparisons by value. -/
def isSame : RuntimeValue → RuntimeValue → Bool
  | null, null => true
  | witness a, witness b => a.isSame b
  | subject a, subject b => a.identity == b.identity
  | truth a, truth b => a == b
  | _, _ => false

@[simp] theorem isSame_null_null : isSame null null = true := rfl

@[simp] theorem isSame_witness_null (token : Witness) : isSame (witness token) null = false := rfl

@[simp] theorem isSame_null_witness (token : Witness) : isSame null (witness token) = false := rfl

@[simp] theorem isSame_witness_witness (a b : Witness) :
    isSame (witness a) (witness b) = a.isSame b := rfl

end RuntimeValue

/-- The values of names. -/
abbrev Scope := List (String × RuntimeValue)

/-- The value of an expression. The right side of `||` counts only where the left side does not
hold; a call without arguments asks an instance for a witness, which is `null` when the instance
keeps none; a cast has the value of its operand. -/
def Expression.evaluate (scope : Scope) : Expression → Option RuntimeValue
  | .name text => scope.lookup text
  | .null => some .null
  | .call receiver method [] =>
    match receiver.evaluate scope with
    | some (.subject subject) => some (.ofWitness? (subject.witness? method))
    | _ => none
  | .call _ _ (_ :: _) => none
  | .binary left .same right => do
    let a ← left.evaluate scope
    let b ← right.evaluate scope
    return .truth (a.isSame b)
  | .binary left .notSame right => do
    let a ← left.evaluate scope
    let b ← right.evaluate scope
    return .truth (!a.isSame b)
  | .binary left .or right =>
    match left.evaluate scope with
    | some (.truth true) => some (.truth true)
    | some (.truth false) =>
      match right.evaluate scope with
      | some (.truth holds) => some (.truth holds)
      | _ => none
    | _ => none
  | .cast _ operand => operand.evaluate scope
  | .create type [] => some (.created type)
  | .create _ (_ :: _) => none

namespace Expression

variable {scope : Scope}

/-- A call without arguments has the witness that the instance keeps as its value. -/
theorem evaluate_call {receiver : Expression} {subject : Instance}
    (h : receiver.evaluate scope = some (.subject subject)) (method : String) :
    (call receiver method []).evaluate scope = some (.ofWitness? (subject.witness? method)) := by
  rw [evaluate, h]

/-- `==` compares the values of its sides. -/
theorem evaluate_same {left right : Expression} {a b : RuntimeValue}
    (hleft : left.evaluate scope = some a) (hright : right.evaluate scope = some b) :
    (binary left .same right).evaluate scope = some (.truth (a.isSame b)) := by
  rw [evaluate, hleft, hright]
  rfl

/-- `!=` compares the values of its sides. -/
theorem evaluate_notSame {left right : Expression} {a b : RuntimeValue}
    (hleft : left.evaluate scope = some a) (hright : right.evaluate scope = some b) :
    (binary left .notSame right).evaluate scope = some (.truth (!a.isSame b)) := by
  rw [evaluate, hleft, hright]
  rfl

/-- `||` holds when one of its sides does. -/
theorem evaluate_or {left right : Expression} {p q : Bool}
    (hleft : left.evaluate scope = some (.truth p))
    (hright : right.evaluate scope = some (.truth q)) :
    (binary left .or right).evaluate scope = some (.truth (p || q)) := by
  rw [evaluate, hleft, hright]
  cases p <;> rfl

end Expression

/-- How a statement completes. -/
inductive Completion where
  /-- The statement after it is next. -/
  | next
  | returned (value : RuntimeValue)
  | thrown (value : RuntimeValue)
  deriving DecidableEq, Repr

mutual
/-- How a statement completes in a scope. -/
def Statement.run (scope : Scope) : Statement → Option Completion
  | .ifThen condition branch =>
    match condition.evaluate scope with
    | some (.truth true) => runStatements scope branch
    | some (.truth false) => some .next
    | _ => none
  | .raise value => (value.evaluate scope).map .thrown
  | .giveBack value => (value.evaluate scope).map .returned

/-- How statements complete that are taken in their order. -/
def runStatements (scope : Scope) : List Statement → Option Completion
  | [] => some .next
  | statement :: statements =>
    match statement.run scope with
    | some .next => runStatements scope statements
    | completion => completion
end

/-- A condition that holds lets its branch run, and one that does not hold skips it. -/
theorem Statement.run_ifThen {scope : Scope} {condition : Expression} {holds : Bool}
    (branch : List Statement) (h : condition.evaluate scope = some (.truth holds)) :
    (Statement.ifThen condition branch).run scope =
      if holds then runStatements scope branch else some .next := by
  rw [Statement.run, h]
  cases holds <;> rfl

@[simp] theorem runStatements_nil (scope : Scope) : runStatements scope [] = some .next := by
  rw [runStatements]

/-- After a statement that completes normally the others are taken. -/
theorem runStatements_cons_of_next {scope : Scope} {statement : Statement}
    (statements : List Statement) (h : statement.run scope = some .next) :
    runStatements scope (statement :: statements) = runStatements scope statements := by
  rw [runStatements, h]

/-- After a statement that throws no other is taken. -/
theorem runStatements_cons_of_thrown {scope : Scope} {statement : Statement} {value : RuntimeValue}
    (statements : List Statement) (h : statement.run scope = some (.thrown value)) :
    runStatements scope (statement :: statements) = some (.thrown value) := by
  rw [runStatements, h]

/-- The parameters of a method, in their order, with the arguments as their values. -/
def Method.scope (method : Method) (arguments : List RuntimeValue) : Scope :=
  (method.parameters.map (·.name)).zip arguments

/-- How the body of a method completes for given arguments. -/
def Method.run (method : Method) (arguments : List RuntimeValue) : Option Completion :=
  runStatements (method.scope arguments) method.body

/-- A parameter whose name no other one has is found with its own argument. -/
theorem lookup_zip_of_nodup {names : List String} {values : List RuntimeValue}
    (hnodup : names.Nodup) {name : String} {value : RuntimeValue}
    (hmem : (name, value) ∈ names.zip values) : (names.zip values).lookup name = some value := by
  induction names generalizing values with
  | nil => simp at hmem
  | cons first names ih =>
    cases values with
    | nil => simp at hmem
    | cons own values =>
      rw [List.nodup_cons] at hnodup
      rw [List.zip_cons_cons, List.mem_cons] at hmem
      rcases hmem with heq | hmem
      · cases heq
        simp
        -- the first name is passed over: it is not the name of a later parameter as well
      · have hne : name ≠ first := by
          rintro rfl
          exact hnodup.1 (List.of_mem_zip hmem).1
        rw [List.zip_cons_cons, List.lookup_cons, beq_false_of_ne hne]
        exact ih hnodup.2 hmem

end TypeWitness
