import TypeWitness.Declaration.Container
import TypeWitness.Generation.Holder

/-! # Container classes
A container class wraps a map from any object to any object that compares keys by identity. Its
methods take and return the declared types; since nothing else reaches the map, what they get out of
it has the type of what they put in. -/

namespace TypeWitness

namespace ContainerDeclaration

/-- The field that holds the map. -/
def storeField : Member :=
  .field [.privateAccess, .final] "Map<Object, Object>" "map"
    (some (.create "IdentityHashMap<>" []))

/-- A method of the container that passes its parameters on to the map. -/
def delegate (options : GenerationOptions) (container : ContainerDeclaration) (name : String)
    (parameters : List Parameter) : Member :=
  let valueType := container.valueType.render
  .method {
    annotations := options.castAnnotations
    modifiers := if container.declaringType.visibility.isPublic then [.publicAccess] else []
    typeParameters := container.declaringType.parameters.map (·.declaration)
    returnType := valueType
    name
    parameters
    body := [.giveBack (.cast valueType
      (.call (.name "map") name (parameters.map fun parameter => .name parameter.name)))] }

/-- The container class. -/
def classDefinition (options : GenerationOptions) (container : ContainerDeclaration) :
    ClassDefinition :=
  let key : Parameter := ⟨container.keyType.render, "key"⟩
  let value : Parameter := ⟨container.valueType.render, "value"⟩
  { modifiers :=
      (if container.declaringType.visibility.isPublic then [.publicAccess] else []) ++ [.final]
    name := container.className
    members := [
      storeField,
      container.delegate options "put" [key, value],
      container.delegate options "get" [key]] }

/-- The source file of the container class. -/
def file (options : GenerationOptions) (container : ContainerDeclaration) : SourceFile where
  packageName? := packageName? container.declaringType.packageName
  imports := ["java.util.IdentityHashMap", "java.util.Map"]
  classes := [container.classDefinition options]

end ContainerDeclaration

end TypeWitness
