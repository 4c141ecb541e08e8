import TypeWitness.Files.Path
import TypeWitness.Generation.Collection
import TypeWitness.Generation.ContainerClass

/-! # Generated files
From a manifest to the files that are generated from it, one for each class. The files come in the
order of their classes' names, whatever the order of the manifest. -/

namespace TypeWitness

/-- A generated file. -/
structure OutputTarget where
  /-- The full name of the generated class. -/
  name : String
  /-- Where the file lies below the output directory. -/
  path : String
  /-- The full names of the declarations that the class was generated from. -/
  originating : List String
  contents : String
  deriving DecidableEq, Repr, Inhabited

/-- Targets are put in the order of their names, then of what they were generated from, then of
their contents. -/
def OutputTarget.order : OutputTarget → OutputTarget → Ordering :=
  compareLex (compareOn (·.name)) <|
  compareLex (compareOn (·.originating)) (compareOn (·.contents))

/-- The file of a package's holder. -/
def PackageGroup.target (options : GenerationOptions) (group : PackageGroup) : OutputTarget where
  name := qualify group.packageName options.holderName
  path := Path.ofClass group.packageName options.holderName
  originating := group.types.map (·.owner.qualifiedName)
  contents := (group.holderFile options).render options.layout

/-- The file of a container class. -/
def ContainerDeclaration.target (options : GenerationOptions) (container : ContainerDeclaration) :
    OutputTarget where
  name := container.qualifiedClassName
  path := Path.ofClass container.declaringType.packageName container.className
  originating := [container.declaringType.qualifiedName]
  contents := (container.file options).render options.layout

/-- What a run generates. -/
structure Generation where
  targets : List OutputTarget
  diagnostics : List Diagnostic

/-- Keep the first target of each name in a list where targets of one name stand together, given the
target kept last, and report the others. -/
def dropClashes : Option OutputTarget → List OutputTarget → Generation
  | _, [] => ⟨[], []⟩
  | winner?, target :: targets =>
    match winner?.filter (·.name == target.name) with
    | some winner =>
      let rest := dropClashes (some winner) targets
      let problem := Problem.clashingTarget target.name target.originating winner.originating
      { rest with diagnostics := problem.diagnostic target.name :: rest.diagnostics }
    | none =>
      let rest := dropClashes (some target) targets
      { rest with targets := target :: rest.targets }

/-- Generate all files that a manifest asks for. -/
def Manifest.generate (options : GenerationOptions) (manifest : Manifest) : Generation :=
  let collection := manifest.collect
  let grouping := groupAccessors collection.accessors collection.rejected
  let targets :=
    grouping.packages.map (·.target options) ++ collection.containers.map (·.target options)
  let kept := dropClashes none (targets.mergeSort fun a b => (a.order b).isLE)
  ⟨kept.targets, collection.diagnostics ++ grouping.diagnostics ++ kept.diagnostics⟩

end TypeWitness
