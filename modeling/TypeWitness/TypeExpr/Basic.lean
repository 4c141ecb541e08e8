/-! # Type expressions
Types as they are written in source: `int`, `Class<T>`, `java.util.Map<K, ? extends V>`, `long[]`.
A type expression knows nothing of scopes: whether the name `T` denotes a type parameter is decided
against the type that declares it. -/

namespace TypeWitness

/-- A type expression. -/
inductive TypeExpr where
  /-- A primitive type, or `void`. -/
  | primitive (name : String)
  /-- A class or interface with its type arguments; without arguments also the name of a type
  parameter. -/
  | named (name : String) (arguments : List TypeExpr)
  /-- `T[]` -/
  | array (element : TypeExpr)
  /-- `?` -/
  | wildcard
  /-- `? extends T` -/
  | wildcardExtends (bound : TypeExpr)
  /-- `? super T` -/
  | wildcardSuper (bound : TypeExpr)
  deriving BEq, Repr, Inhabited

/-- The names of the primitive types. -/
def primitiveNames : List String :=
  ["boolean", "byte", "char", "double", "float", "int", "long", "short", "void"]

/-- Whether a name is that of a primitive type. -/
def isPrimitiveName (name : String) : Bool := primitiveNames.contains name

/-- Whether a name has no qualifier in front. -/
def isSimpleName (name : String) : Bool := !name.toList.contains '.'

namespace TypeExpr

/-- The type arguments of a class or interface type. -/
def arguments : TypeExpr → List TypeExpr
  | named _ arguments => arguments
  | _ => []

@[simp] theorem arguments_named (name : String) (args : List TypeExpr) :
    (named name args).arguments = args := rfl

/-- Whether the type is a class or interface type with at least one type argument. -/
def isParameterized (type : TypeExpr) : Bool := !type.arguments.isEmpty

@[simp] theorem isParameterized_named (name : String) (args : List TypeExpr) :
    (named name args).isParameterized = !args.isEmpty := rfl

/-- The primitive type's name, when the type is primitive. -/
def primitiveName? : TypeExpr → Option String
  | primitive name => some name
  | _ => none

/-- The name by which the type could refer to a type parameter: a bare name without qualifier and
without arguments. -/
def simpleName? : TypeExpr → Option String
  | named name [] => if isSimpleName name then some name else none
  | _ => none

mutual
/-- The bare names that occur anywhere in the type, from left to right. -/
def simpleNames : TypeExpr → List String
  | primitive _ => []
  | named name [] => if isSimpleName name then [name] else []
  | named _ (first :: rest) => simpleNamesOfAll (first :: rest)
  | array element => element.simpleNames
  | wildcard => []
  | wildcardExtends bound => bound.simpleNames
  | wildcardSuper bound => bound.simpleNames

/-- The bare names in a list of types. -/
def simpleNamesOfAll : List TypeExpr → List String
  | [] => []
  | type :: types => type.simpleNames ++ simpleNamesOfAll types
end

end TypeExpr

end TypeWitness
