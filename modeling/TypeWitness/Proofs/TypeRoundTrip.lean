import TypeWitness.Proofs.TypeSpelling

/-! # Reading and writing type expressions
Writing a type and reading it are inverse to each other. The types that can be written are told here
by what stands right inside what: names are made of identifiers, primitive types do not stand as
type arguments, and wildcards stand nowhere else.

* `TypeExpr.wellFormed_iff_parts` — the types that can be written in a place, told part by part.
* `TypeExpr.parse_render_writable` — the types that can be written are those that are read, and each
  of them is read from its own text. -/

namespace TypeWitness.TypeExpr

/-! ## Types told part by part -/

/-- The types right inside a type. -/
def inside : TypeExpr → List TypeExpr
  | named _ arguments => arguments
  | array element => [element]
  | wildcardExtends bound => [bound]
  | wildcardSuper bound => [bound]
  | primitive _ | wildcard => []

/-- A type is another one or stands somewhere inside it. -/
inductive Occurs (part : TypeExpr) : TypeExpr → Prop
  | here : Occurs part part
  | inside {outer inner : TypeExpr} (hmem : inner ∈ outer.inside) (h : Occurs part inner) :
      Occurs part outer

/-- What holds of all parts of a type holds of the type and of all parts of what is inside it. -/
theorem forall_occurs_iff {p : TypeExpr → Prop} {type : TypeExpr} :
    (∀ part, Occurs part type → p part) ↔
      p type ∧ ∀ inner ∈ type.inside, ∀ part, Occurs part inner → p part := by
  constructor
  · exact fun h => ⟨h _ .here, fun inner hmem part hpart => h part (.inside hmem hpart)⟩
  · rintro ⟨hhere, hinside⟩ part hpart
    cases hpart with
    | here => exact hhere
    | inside hmem h => exact hinside _ hmem part h

/-- Whether a type is a wildcard, with or without a bound. -/
def isWildcard : TypeExpr → Bool
  | wildcard | wildcardExtends _ | wildcardSuper _ => true
  | primitive _ | named .. | array _ => false

/-- What a type asks of its own name and of the types right inside it. The name of a primitive type
is one of the known ones. Any other name is none of these, and is made of identifiers with dots
between them. Type arguments are not primitive, and elements and bounds are no wildcards. -/
def IsAllowed : TypeExpr → Prop
  | primitive name => isPrimitiveName name = true
  | named name arguments =>
    (∃ parts : List String, parts ≠ [] ∧ (∀ part ∈ parts, isIdentifierText part.toList = true)
      ∧ name = ".".intercalate parts)
    ∧ isPrimitiveName name = false
    ∧ ∀ argument ∈ arguments, argument.primitiveName? = none
  | array element => element.isWildcard = false
  | wildcard => True
  | wildcardExtends bound => bound.isWildcard = false
  | wildcardSuper bound => bound.isWildcard = false

/-- A type can be written when it is no wildcard and all its parts are allowed. -/
structure Writable (type : TypeExpr) : Prop where
  root : type.isWildcard = false
  parts : ∀ part, Occurs part type → part.IsAllowed

/-- **The types that can be written in a place** are those with allowed parts only, other than
wildcards by themselves and primitive types as type arguments. -/
theorem wellFormed_iff_parts (type : TypeExpr) :
    (type.wellFormed .whole = true ↔
      type.isWildcard = false ∧ ∀ part, Occurs part type → part.IsAllowed)
    ∧ (type.wellFormed .argument = true ↔
      type.primitiveName? = none ∧ ∀ part, Occurs part type → part.IsAllowed) := by
  induction type using TypeExpr.induction with
  | primitive name =>
    rw [forall_occurs_iff]
    simp [wellFormed, isWildcard, primitiveName?, IsAllowed, inside]
  | named name arguments ih =>
    have harguments : wellFormedArguments arguments = true ↔
        (∀ argument ∈ arguments, argument.primitiveName? = none)
        ∧ ∀ argument ∈ arguments, ∀ part, Occurs part argument → part.IsAllowed := by
      rw [wellFormedArguments_eq, List.all_eq_true,
        forall₂_congr fun argument hmem => (ih argument hmem).2]
      simp only [imp_and, forall_and]
    rw [forall_occurs_iff]
    simp [wellFormed, isWildcard, primitiveName?, IsAllowed, inside, harguments,
      isQualifiedName_iff, and_assoc]
  | array element ih =>
    rw [forall_occurs_iff]
    simp [wellFormed, isWildcard, primitiveName?, IsAllowed, inside, ih.1]
  | wildcard =>
    rw [forall_occurs_iff]
    simp [wellFormed, isWildcard, primitiveName?, IsAllowed, inside]
  | wildcardExtends bound ih =>
    rw [forall_occurs_iff]
    simp [wellFormed, isWildcard, primitiveName?, IsAllowed, inside, ih.1]
  | wildcardSuper bound ih =>
    rw [forall_occurs_iff]
    simp [wellFormed, isWildcard, primitiveName?, IsAllowed, inside, ih.1]

theorem writable_iff {type : TypeExpr} : type.Writable ↔ type.wellFormed .whole = true := by
  rw [(wellFormed_iff_parts type).1]
  exact ⟨fun h => ⟨h.root, h.parts⟩, fun h => ⟨h.1, h.2⟩⟩

/-! ## There and back -/

/-- **Reading and writing are inverse.** A type that is read is read again from its own text, and so
is every type that can be written. Such types have different texts, and they are all the types that
are ever read. -/
theorem parse_render_writable :
    (∀ text type, parse text = .ok type → parse type.render = .ok type)
    ∧ (∀ type : TypeExpr, type.Writable → parse type.render = .ok type)
    ∧ (∀ type type' : TypeExpr, type.Writable → type'.Writable → type.render = type'.render →
      type = type')
    ∧ ∀ type : TypeExpr, type.Writable ↔ ∃ text, parse text = .ok type := by
  have hread : ∀ {text type}, parse text = .ok type → type.Writable := fun h =>
    writable_iff.2 (parse_eq_ok_iff.1 h).1
  have hback : ∀ type : TypeExpr, type.Writable → parse type.render = .ok type := fun type h =>
    parse_render (writable_iff.1 h)
  refine ⟨fun text type h => hback type (hread h), hback, fun type type' h h' heq => ?_,
    fun type => ⟨fun h => ⟨_, hback type h⟩, fun ⟨text, h⟩ => hread h⟩⟩
  have htype := hback type h
  rw [heq, hback type' h'] at htype
  exact (Except.ok.inj htype).symm

theorem parse_render_writable_map :
    let type : TypeExpr := .named "java.util.Map"
      [.wildcardExtends (.array (.primitive "int")), .array (.named "T" [.wildcard])]
    type.Writable ∧ type.render = "java.util.Map<? extends int[], T<?>[]>"
    ∧ parse "java.util.Map<? extends int[], T<?>[]>" = .ok type := by
  intro type
  have hwritable : type.Writable := writable_iff.2 (by decide +kernel)
  have hrender : type.render = "java.util.Map<? extends int[], T<?>[]>" := by decide +kernel
  exact ⟨hwritable, hrender, hrender ▸ parse_render_writable.2.1 type hwritable⟩

end TypeWitness.TypeExpr
