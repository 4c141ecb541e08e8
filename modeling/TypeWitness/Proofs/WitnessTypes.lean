import TypeWitness.Generation.CastPlan
import TypeWitness.Proofs.TypeSpelling

/-! # The types of witnesses
Erasing an accessor's own type parameters from its return type leaves a type that can be written,
with the same name and as many type arguments, and without mentions of the erased names. Arguments
that stand for parameters of the owner stay as they are.

* `TypeExpr.wellFormed_erase` — what is left of a type argument can be written.
* `TypeExpr.not_mem_of_mem_simpleNames_erase` — erased names are not mentioned any more.
* `TokenAccessor.witnessType_bind` — bound type arguments stay as they are. -/

namespace TypeWitness

namespace TypeExpr

/-! ## One type argument -/

theorem eraseAll_eq (names : List String) (types : List TypeExpr) :
    eraseAll names types = types.map (·.erase names) := by
  induction types with
  | nil => rfl
  | cons type types ih => rw [eraseAll, ih, List.map_cons]

theorem simpleNamesOfAll_eq (types : List TypeExpr) :
    simpleNamesOfAll types = types.flatMap (·.simpleNames) := by
  induction types with
  | nil => rfl
  | cons type types ih => rw [simpleNamesOfAll, ih, List.flatMap_cons]

/-- The names in a type with arguments are those in its arguments. -/
theorem simpleNames_named {name : String} {arguments : List TypeExpr} (h : arguments ≠ []) :
    (named name arguments).simpleNames = arguments.flatMap (·.simpleNames) := by
  obtain ⟨first, rest, rfl⟩ := List.exists_cons_of_ne_nil h
  rw [simpleNames, simpleNamesOfAll_eq]

/-- A type argument with arguments of its own is kept; the names are erased inside it. -/
theorem erase_named {names : List String} {name : String} {arguments : List TypeExpr}
    (h : arguments ≠ []) :
    (named name arguments).erase names = named name (arguments.map (·.erase names)) := by
  obtain ⟨first, rest, rfl⟩ := List.exists_cons_of_ne_nil h
  rw [erase, eraseAll_eq]

/-- **What becomes of a type argument**: it becomes a wildcard; or it is kept as it is and mentions
no erased name; or it has arguments of its own, in which the names are erased. -/
theorem erase_cases (names : List String) (type : TypeExpr) :
    type.erase names = wildcard
    ∨ type.erase names = type ∧ (∀ name ∈ type.simpleNames, name ∉ names)
    ∨ ∃ name arguments, type = named name arguments ∧ arguments ≠ []
      ∧ type.erase names = named name (arguments.map (·.erase names)) := by
  -- a type that is no name is kept or becomes a wildcard as a whole
  have hother : ∀ other : TypeExpr,
      (if other.simpleNames.any names.contains then wildcard else other) = wildcard
      ∨ (if other.simpleNames.any names.contains then wildcard else other) = other
        ∧ ∀ name ∈ other.simpleNames, name ∉ names := by
    intro other
    split
    · exact .inl rfl
    · next hnone => exact .inr ⟨rfl, by simpa using hnone⟩
  cases type with
  | named name arguments =>
    cases arguments with
    | nil =>
      rw [erase]
      split
      · exact .inl rfl
      · next hnot =>
        refine .inr (.inl ⟨rfl, fun name' hmem => ?_⟩)
        rw [simpleNames] at hmem
        split at hmem
        · rw [List.mem_singleton.1 hmem]
          simpa using hnot
        · cases hmem
    | cons first rest =>
      have hne : first :: rest ≠ [] := List.cons_ne_nil _ _
      exact .inr (.inr ⟨name, first :: rest, rfl, hne, erase_named hne⟩)
  | primitive name => exact (hother (.primitive name)).imp_right .inl
  | array element => exact (hother (.array element)).imp_right .inl
  | wildcard => exact .inl rfl
  | wildcardExtends bound => exact (hother (.wildcardExtends bound)).imp_right .inl
  | wildcardSuper bound => exact (hother (.wildcardSuper bound)).imp_right .inl

/-- To prove something of all types, prove it of each type from its type arguments. -/
@[elab_as_elim]
theorem argumentsInduction {motive : TypeExpr → Prop}
    (step : ∀ type, (∀ argument ∈ type.arguments, motive argument) → motive type)
    (type : TypeExpr) : motive type := by
  induction type using TypeExpr.induction with
  | named name arguments ih => exact step _ ih
  | _ => exact step _ nofun

/-- **What is left of a type argument can be written.** -/
theorem wellFormed_erase (names : List String) (type : TypeExpr)
    (h : type.wellFormed .argument = true) : (type.erase names).wellFormed .argument = true := by
  induction type using argumentsInduction with
  | step type ih =>
    rcases erase_cases names type with
      hwildcard | ⟨hkept, -⟩ | ⟨name, arguments, rfl, -, hinside⟩
    · rw [hwildcard]
      rfl
    · rwa [hkept]
    · rw [wellFormed, wellFormedArguments_eq, Bool.and_eq_true, List.all_eq_true] at h
      rw [hinside, wellFormed, wellFormedArguments_eq, Bool.and_eq_true, List.all_map,
        List.all_eq_true]
      exact ⟨h.1, fun argument hmem => ih argument hmem (h.2 argument hmem)⟩

/-- **Erased names are not mentioned any more.** -/
theorem not_mem_of_mem_simpleNames_erase (names : List String) (type : TypeExpr) {name : String}
    (h : name ∈ (type.erase names).simpleNames) : name ∉ names := by
  induction type using argumentsInduction with
  | step type ih =>
    rcases erase_cases names type with
      hwildcard | ⟨hkept, hnone⟩ | ⟨_, arguments, rfl, hne, hinside⟩
    · rw [hwildcard] at h
      cases h
    · rw [hkept] at h
      exact hnone name h
    · rw [hinside, simpleNames_named (mt List.map_eq_nil_iff.1 hne), List.flatMap_map,
        List.mem_flatMap] at h
      obtain ⟨argument, hmem, hname⟩ := h
      exact ih argument hmem hname

end TypeExpr

/-! ## Return types of accessors -/

namespace TokenAccessor

variable {accessor : TokenAccessor}

/-- An accessor without problems returns a type with type arguments. -/
theorem exists_returnType_of_problem? (h : accessor.problem? = none) :
    ∃ name arguments, accessor.returnType = .named name arguments ∧ arguments ≠ [] := by
  unfold problem? at h
  split at h
  · cases h
  · next hparameterized =>
    cases hreturn : accessor.returnType with
    | named name arguments =>
      rw [hreturn] at hparameterized
      exact ⟨name, arguments, rfl, by simpa using hparameterized⟩
    | _ => simp [hreturn, TypeExpr.isParameterized, TypeExpr.arguments] at hparameterized

/-- The type of the witnesses has the name and the arguments of the return type, with the accessor's
own type parameters erased from the arguments. -/
theorem witnessType_of_named {name : String} {arguments : List TypeExpr}
    (h : accessor.returnType = .named name arguments) :
    accessor.witnessType = .named name (arguments.map (·.erase accessor.ownParameters)) := by
  rw [witnessType, h, TypeExpr.eraseArguments, TypeExpr.eraseAll_eq]

/-- The type of the witnesses can be written. -/
theorem wellFormed_witnessType {name : String} {arguments : List TypeExpr}
    (h : accessor.returnType = .named name arguments)
    (hreturn : accessor.returnType.wellFormed .whole = true) :
    accessor.witnessType.wellFormed .whole = true := by
  rw [h, TypeExpr.wellFormed, TypeExpr.wellFormedArguments_eq, Bool.and_eq_true,
    List.all_eq_true] at hreturn
  rw [witnessType_of_named h, TypeExpr.wellFormed, TypeExpr.wellFormedArguments_eq,
    Bool.and_eq_true, List.all_map, List.all_eq_true]
  exact ⟨hreturn.1, fun argument hmem =>
    TypeExpr.wellFormed_erase accessor.ownParameters argument (hreturn.2 argument hmem)⟩

/-- A type argument that stands for a parameter of the owner is its bare name, which the method does
not hide. -/
theorem exists_parameter_of_resolve? {type : TypeExpr} {index : Nat}
    (h : accessor.resolve? type = some index) :
    ∃ parameter, accessor.owner.parameters[index]? = some parameter
      ∧ type = .named parameter.name [] ∧ parameter.name ∉ accessor.ownParameters := by
  simp only [resolve?, Option.bind_eq_bind, Option.bind_eq_some_iff] at h
  obtain ⟨name, hname, h⟩ := h
  split at h
  · cases h
  · next hown =>
    obtain ⟨hlt, hfound, -⟩ := List.findIdx?_eq_some_iff_getElem.1 h
    refine ⟨accessor.owner.parameters[index], List.getElem?_eq_getElem hlt, ?_⟩
    rw [beq_iff_eq.1 hfound]
    refine ⟨?_, by simpa using hown⟩
    unfold TypeExpr.simpleName? at hname
    split at hname
    · split at hname <;> cases hname
      rfl
    · cases hname

/-- **Bound type arguments stay as they are** in the type of the witnesses. -/
theorem witnessType_bind {name : String} {arguments : List TypeExpr}
    (hreturn : accessor.returnType = .named name arguments) {position index : Nat}
    (h : (position, index) ∈ accessor.binds) :
    ∃ parameter, accessor.owner.parameters[index]? = some parameter
      ∧ (arguments.map (·.erase accessor.ownParameters))[position]? =
        some (.named parameter.name []) := by
  rw [binds, hreturn, TypeExpr.arguments_named, List.mem_filterMap] at h
  obtain ⟨⟨argument, position'⟩, hmem, h⟩ := h
  obtain ⟨index', hresolve, heq⟩ := Option.map_eq_some_iff.1 h
  cases heq
  obtain ⟨parameter, hparameter, rfl, hnot⟩ := exists_parameter_of_resolve? hresolve
  refine ⟨parameter, hparameter, ?_⟩
  have hposition := List.mem_zipIdx_iff_getElem?.1 hmem
  simp only [List.getElem?_map, hposition, Option.map_some]
  rw [TypeExpr.erase, if_neg (by simpa using hnot)]

end TokenAccessor

end TypeWitness
