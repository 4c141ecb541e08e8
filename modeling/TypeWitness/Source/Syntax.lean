/-! # Generated source files
The part of Java that generated files are made of: a file holds classes, a class holds members, and
the bodies of members hold statements and expressions. Types are carried as their text. -/

namespace TypeWitness

/-- A modifier of a declaration. -/
inductive Modifier where
  | publicAccess
  | privateAccess
  | static
  | final
  deriving DecidableEq, Repr

/-- The keyword of a modifier. -/
def Modifier.keyword : Modifier → String
  | publicAccess => "public"
  | privateAccess => "private"
  | static => "static"
  | final => "final"

/-- All modifiers, in the order in which they are written. -/
def Modifier.all : List Modifier := [.publicAccess, .privateAccess, .static, .final]

/-- An operator between two expressions. -/
inductive Operator where
  /-- Both sides are the same reference. -/
  | same
  /-- The two sides are different references. -/
  | notSame
  /-- One of the two sides holds. -/
  | or
  deriving DecidableEq, Repr

/-- The sign of an operator. -/
def Operator.sign : Operator → String
  | same => "=="
  | notSame => "!="
  | or => "||"

/-- How tightly an operator binds. -/
def Operator.precedence : Operator → Nat
  | same | notSame => 2
  | or => 1

/-- An expression. -/
inductive Expression where
  | name (text : String)
  | null
  /-- `receiver.method(arguments)` -/
  | call (receiver : Expression) (method : String) (arguments : List Expression)
  | binary (left : Expression) (operator : Operator) (right : Expression)
  /-- `(type) operand` -/
  | cast (type : String) (operand : Expression)
  /-- `new type(arguments)` -/
  | create (type : String) (arguments : List Expression)
  deriving Repr, Inhabited

/-- A statement. -/
inductive Statement where
  /-- `if (condition) { branch }` -/
  | ifThen (condition : Expression) (branch : List Statement)
  /-- `throw value;` -/
  | raise (value : Expression)
  /-- `return value;` -/
  | giveBack (value : Expression)
  deriving Repr, Inhabited

/-- A parameter of a method or constructor. -/
structure Parameter where
  type : String
  name : String
  deriving DecidableEq, Repr

/-- A method. -/
structure Method where
  /-- The annotations, without their `@`. -/
  annotations : List String
  modifiers : List Modifier
  /-- The declarations of the type parameters, bounds included. -/
  typeParameters : List String
  returnType : String
  name : String
  parameters : List Parameter
  body : List Statement
  deriving Repr

/-- A member of a class. -/
inductive Member where
  | field (modifiers : List Modifier) (type name : String) (initializer : Option Expression)
  | constructor (modifiers : List Modifier) (parameters : List Parameter) (body : List Statement)
  | method (method : Method)
  deriving Repr

/-- A class. -/
structure ClassDefinition where
  modifiers : List Modifier
  name : String
  members : List Member
  deriving Repr

/-- A source file. -/
structure SourceFile where
  /-- The package, unless it is the default one. -/
  packageName? : Option String
  /-- The imported classes; order and repetitions do not matter. -/
  imports : List String
  classes : List ClassDefinition
  deriving Repr

end TypeWitness
