import TypeWitness.Declaration.Owner

/-! # Container declarations
A type that asks for a container class to be generated: a map from keys of one type to values of
another, with keys told apart by identity. -/

namespace TypeWitness

/-- A container to be generated beside the type that declares it. -/
structure ContainerDeclaration where
  declaringType : OwningType
  className : String
  keyType : TypeExpr
  valueType : TypeExpr
  deriving BEq, Repr

/-- The full name of the container class, which lives in the package of the declaring type. -/
def ContainerDeclaration.qualifiedClassName (container : ContainerDeclaration) : String :=
  qualify container.declaringType.packageName container.className

end TypeWitness
