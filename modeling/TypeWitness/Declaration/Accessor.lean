import TypeWitness.Declaration.Owner
import TypeWitness.Text.CaseMapping

/-! # Token accessors
A token accessor is a method without parameters that hands out a type token: its return type names,
as direct type arguments, the parameters of the owning type that the token witnesses. -/

namespace TypeWitness

/-- The name of a token, derived from the name of its accessor, in its two spellings. -/
structure TokenName where
  upper : String
  lower : String
  deriving DecidableEq, Repr

/-- The name of an accessor without a leading `get`, unless nothing else is left of it. -/
def accessorBase (accessor : String) : String :=
  match accessor.toList with
  | 'g' :: 'e' :: 't' :: c :: rest => String.ofList (c :: rest)
  | _ => accessor

/-- The token name that an accessor derives. -/
def TokenName.ofAccessor (accessor : String) : TokenName :=
  ⟨capitalize (accessorBase accessor), decapitalize (accessorBase accessor)⟩

/-- A method that hands out a type token. -/
structure TokenAccessor where
  owner : OwningType
  name : String
  returnType : TypeExpr
  /-- The method's own type parameters, which hide the owner's. -/
  ownParameters : List String
  deriving BEq, Repr

namespace TokenAccessor

/-- The accessor as diagnostics name it. -/
def elementName (accessor : TokenAccessor) : String :=
  accessor.owner.qualifiedName ++ "#" ++ accessor.name

/-- The name of the token that the accessor hands out. -/
def tokenName (accessor : TokenAccessor) : TokenName := TokenName.ofAccessor accessor.name

/-- The index of the owner's parameter that a type stands for. Only a bare name stands for one, and
a type parameter of the method hides the owner's parameter of the same name. -/
def resolve? (accessor : TokenAccessor) (type : TypeExpr) : Option Nat := do
  let name ← type.simpleName?
  if accessor.ownParameters.contains name then none else accessor.owner.parameterIndex? name

/-- The direct type arguments that stand for a parameter of the owner: the position of the argument
and the index of the parameter, in the order of the arguments. -/
def binds (accessor : TokenAccessor) : List (Nat × Nat) :=
  accessor.returnType.arguments.zipIdx.filterMap fun (argument, position) =>
    (accessor.resolve? argument).map (position, ·)

/-- The parameters of the owner that the token witnesses, each once, in the order in which they
first occur. -/
def witnessed (accessor : TokenAccessor) : List Nat :=
  (accessor.binds.map Prod.snd).eraseDups

/-- A type that resolves to a parameter resolves to one that the owner has. -/
theorem resolve?_lt {accessor : TokenAccessor} {type : TypeExpr} {index : Nat}
    (h : accessor.resolve? type = some index) : index < accessor.owner.arity := by
  simp only [resolve?, Option.bind_eq_bind, Option.bind_eq_some_iff] at h
  obtain ⟨name, _, h⟩ := h
  split at h
  · simp at h
  · exact OwningType.parameterIndex?_lt h

/-- The parameters in the bindings are parameters that the owner has. -/
theorem lt_of_mem_binds {accessor : TokenAccessor} {bind : Nat × Nat}
    (h : bind ∈ accessor.binds) : bind.2 < accessor.owner.arity := by
  simp only [binds, List.mem_filterMap, Option.map_eq_some_iff] at h
  obtain ⟨_, _, _, hresolve, rfl⟩ := h
  exact resolve?_lt hresolve

end TokenAccessor

end TypeWitness
