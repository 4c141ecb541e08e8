import TypeWitness.Generation.CastPlan

/-! # Holders
The casts of a package are static methods of one class, its holder, of which there are no
instances. -/

namespace TypeWitness

/-- The holder class of a package. -/
def PackageGroup.holderClass (options : GenerationOptions) (group : PackageGroup) :
    ClassDefinition where
  modifiers := (if group.hasPublicType then [.publicAccess] else []) ++ [.final]
  name := options.holderName
  members :=
    .constructor [.privateAccess] [] [] ::
      (group.types.flatMap (CastPlan.ofGroup options)).map fun plan => .method (plan.method options)

/-- The package of a generated file, unless it is the default one. -/
def packageName? (name : String) : Option String := if name.isEmpty then none else some name

/-- The source file of a package's holder. -/
def PackageGroup.holderFile (options : GenerationOptions) (group : PackageGroup) : SourceFile where
  packageName? := packageName? group.packageName
  imports := []
  classes := [group.holderClass options]

end TypeWitness
