import TypeWitness.Declaration.Accessor
import TypeWitness.Diagnostic.Problem
import TypeWitness.Text.Sorting

/-! # Accessors by package and type
Token accessors are put together by package and by owning type, each level in the order of its
names. A type is accepted as a whole: one accessor that is wrong takes out its type, but no other.
-/

namespace TypeWitness

/-- The indices below a bound that have a property, in increasing order. -/
def indicesBelow (bound : Nat) (p : Nat → Bool) : List Nat := (List.range bound).filter p

@[simp] theorem mem_indicesBelow {bound index : Nat} {p : Nat → Bool} :
    index ∈ indicesBelow bound p ↔ index < bound ∧ p index = true := by
  simp [indicesBelow]

/-- A type with token accessors that are all in order. -/
structure TypeGroup where
  owner : OwningType
  /-- The accessors in the order of their names. -/
  accessors : List TokenAccessor
  deriving BEq, Repr

namespace TypeGroup

/-- The type parameters that some accessor witnesses. -/
def recoverable (group : TypeGroup) : List Nat :=
  let witnessed := group.accessors.flatMap (·.witnessed)
  indicesBelow group.owner.arity witnessed.contains

/-- The names of the type parameters that no accessor witnesses. -/
def erasedParameters (group : TypeGroup) : List String :=
  let recoverable := group.recoverable
  group.owner.parameters.zipIdx.filterMap fun (parameter, index) =>
    if recoverable.contains index then none else some parameter.name

end TypeGroup

/-- The types of a package that casts are generated for. -/
structure PackageGroup where
  packageName : String
  /-- The types in the order of their names. -/
  types : List TypeGroup
  deriving BEq, Repr

/-- Whether some type of the package is public. -/
def PackageGroup.hasPublicType (group : PackageGroup) : Bool :=
  group.types.any (·.owner.visibility.isPublic)

/-! ## Accepting a type -/

/-- The problem of an accessor by itself. -/
def TokenAccessor.problem? (accessor : TokenAccessor) : Option Problem :=
  if !accessor.returnType.isParameterized then
    some (.notParameterized accessor.elementName accessor.returnType.render)
  else if accessor.witnessed.isEmpty then
    some (.witnessesNothing accessor.elementName accessor.returnType.render
      accessor.owner.qualifiedName)
  else none

/-- The problems of the accessors of a type, in their order. `seen` holds the token names so far,
each with the accessor it was derived from; of accessors that derive the same token name all but the
first are wrong. -/
def accessorProblems (seen : List (String × String)) : List TokenAccessor → List Diagnostic
  | [] => []
  | accessor :: accessors =>
    let token := accessor.tokenName.upper
    match accessor.problem?, seen.lookup token with
    | some problem, _ =>
      problem.diagnostic accessor.elementName :: accessorProblems seen accessors
    | none, some previous =>
      (Problem.duplicateToken previous accessor.name token).diagnostic accessor.elementName
        :: accessorProblems seen accessors
    | none, none => accessorProblems ((token, accessor.name) :: seen) accessors

/-- What grouping makes of accessors. -/
structure Grouping where
  packages : List PackageGroup
  diagnostics : List Diagnostic

/-- The group of a type, given its accessors in the order of their names, and what is wrong with
them. -/
def groupType (accessors : List TokenAccessor) : Option TypeGroup × List Diagnostic :=
  match accessors, accessorProblems [] accessors with
  | first :: _, [] => (some ⟨first.owner, accessors⟩, [])
  | _, problems => (none, problems)

/-! ## All types -/

/-- The accessors of one type among those of its package, in the order of their names. -/
def accessorsOf (simpleName : String) (accessors : List TokenAccessor) : List TokenAccessor :=
  (accessors.filter (·.owner.simpleName == simpleName)).mergeSort fun a b => a.name ≤ b.name

/-- Group the accessors of one package. -/
def groupPackage (packageName : String) (accessors : List TokenAccessor) : Grouping :=
  let own := accessors.filter (·.owner.packageName == packageName)
  let results := (sortedNames (own.map (·.owner.simpleName))).map fun simpleName =>
    groupType (accessorsOf simpleName own)
  let types := results.filterMap Prod.fst
  ⟨if types.isEmpty then [] else [⟨packageName, types⟩], results.flatMap Prod.snd⟩

/-- Group accessors, but for those of rejected types, which have been reported before. -/
def groupAccessors (accessors : List TokenAccessor) (rejected : List String) : Grouping :=
  let kept := accessors.filter fun accessor => !rejected.contains accessor.owner.qualifiedName
  let results := (sortedNames (kept.map (·.owner.packageName))).map fun packageName =>
    groupPackage packageName kept
  ⟨results.flatMap (·.packages), results.flatMap (·.diagnostics)⟩

end TypeWitness
