import TypeWitness.TypeExpr.Printer

/-! # Owning types
The generic types whose parameters are to be recovered: where they are declared, who sees them, and
their type parameters with bounds. A parameter is identified by its index in the declaration. -/

namespace TypeWitness

/-- Who may use a declaration. -/
inductive Visibility where
  /-- Everybody. -/
  | everywhere
  /-- The declarations of the same package only. -/
  | package
  deriving DecidableEq, Repr, Inhabited

/-- Whether a declaration is public. -/
def Visibility.isPublic : Visibility → Bool
  | everywhere => true
  | package => false

/-- A type parameter with the types that bound it. -/
structure TypeParameter where
  name : String
  bounds : List TypeExpr
  deriving BEq, Repr

/-- The parameter as it is declared: `T`, or `T extends A & B`. -/
def TypeParameter.declaration (parameter : TypeParameter) : String :=
  match parameter.bounds with
  | [] => parameter.name
  | bounds => parameter.name ++ " extends " ++ " & ".intercalate (bounds.map TypeExpr.render)

/-- The full name of a class in a package; the default package puts nothing in front. -/
def qualify (packageName simpleName : String) : String :=
  if packageName.isEmpty then simpleName else packageName ++ "." ++ simpleName

@[simp] theorem qualify_empty (simpleName : String) : qualify "" simpleName = simpleName := by
  simp [qualify]

/-- A type that declares type parameters. -/
structure OwningType where
  packageName : String
  simpleName : String
  visibility : Visibility
  parameters : List TypeParameter
  deriving BEq, Repr

namespace OwningType

/-- The full name of the type. -/
def qualifiedName (owner : OwningType) : String := qualify owner.packageName owner.simpleName

/-- The number of type parameters. -/
def arity (owner : OwningType) : Nat := owner.parameters.length

/-- The index of the first type parameter with the given name. -/
def parameterIndex? (owner : OwningType) (name : String) : Option Nat :=
  owner.parameters.findIdx? (·.name == name)

/-- An index that a name resolves to is an index of the declaration. -/
theorem parameterIndex?_lt {owner : OwningType} {name : String} {index : Nat}
    (h : owner.parameterIndex? name = some index) : index < owner.arity := by
  obtain ⟨hlt, _⟩ := List.findIdx?_eq_some_iff_getElem.1 h
  exact hlt

end OwningType

end TypeWitness
