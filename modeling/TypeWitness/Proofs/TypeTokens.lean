import TypeWitness.Proofs.Identifiers
import TypeWitness.Proofs.TextParts
import TypeWitness.TypeExpr.Parser

/-! # The tokens of a type expression
Every type that can be written is spelled by one list of tokens. Which types these are depends on
the place: primitive types cannot stand as type arguments, and wildcards can stand nowhere else. A
name is written as identifiers with dots between them.

* `TypeExpr.wellFormed` — the types that can be written in a place.
* `TypeExpr.tokens` — the tokens that spell a type.
* `nameTokens_append` — a name grows by a dot and an identifier. -/

namespace TypeWitness

/-! ## Names -/

/-- Whether a text is read as a single identifier. -/
def isIdentifierText : List Char → Bool
  | [] => false
  | c :: rest =>
    !isBlank c && (TypeToken.mark? c).isNone && isIdentifierStart c && rest.all isIdentifierPart

/-- Whether a name consists of identifiers with dots between them. -/
def isQualifiedName (name : String) : Bool :=
  (Path.splitAt '.' name.toList).all isIdentifierText

/-- The tokens of identifiers with dots between them. -/
def partTokens : List (List Char) → List TypeToken
  | [] => []
  | first :: others =>
    .identifier (String.ofList first) ::
      others.flatMap fun part => [.dot, .identifier (String.ofList part)]

/-- The tokens that spell a name. -/
def nameTokens (name : String) : List TypeToken := partTokens (Path.splitAt '.' name.toList)

/-- A name is its first identifier with the others behind it, each with its dot. -/
theorem ofList_parts {name : String} {first : List Char} {others : List (List Char)}
    (h : Path.splitAt '.' name.toList = first :: others) :
    String.ofList first ++ String.ofList (others.flatMap ('.' :: ·)) = name := by
  apply String.toList_injective
  rw [String.toList_append, String.toList_ofList, String.toList_ofList, ← eq_of_splitAt h]

/-- The first of the identifiers behind a name belongs to the name as well. -/
theorem append_part (name : String) (part : List Char) (parts : List (List Char)) :
    name ++ "." ++ String.ofList part ++ String.ofList (parts.flatMap ('.' :: ·)) =
      name ++ String.ofList ((part :: parts).flatMap ('.' :: ·)) := by
  apply String.toList_injective
  simp

theorem dot_not_mem_of_isIdentifierText {cs : List Char} (h : isIdentifierText cs = true) :
    '.' ∉ cs := by
  cases cs with
  | nil => exact List.not_mem_nil
  | cons c rest =>
    simp only [isIdentifierText, Bool.and_eq_true, List.all_eq_true] at h
    obtain ⟨⟨-, hstart⟩, hrest⟩ := h
    refine dot_not_mem_of_forall fun c' hmem => ?_
    cases List.mem_cons.1 hmem with
    | inl heq => exact heq ▸ isIdentifierPart_of_start hstart
    | inr hmem => exact hrest c' hmem

/-- A single identifier is a name. -/
theorem isQualifiedName_of_isIdentifierText {name : String}
    (h : isIdentifierText name.toList = true) : isQualifiedName name = true := by
  rw [isQualifiedName, splitAt_of_not_mem (dot_not_mem_of_isIdentifierText h)]
  simpa using h

theorem nameTokens_of_isIdentifierText {name : String} (h : isIdentifierText name.toList = true) :
    nameTokens name = [.identifier name] := by
  rw [nameTokens, splitAt_of_not_mem (dot_not_mem_of_isIdentifierText h)]
  simp [partTokens]

theorem splitAt_append_part {name part : String} (h : isIdentifierText part.toList = true) :
    Path.splitAt '.' (name ++ "." ++ part).toList =
      Path.splitAt '.' name.toList ++ [part.toList] := by
  have hlist : (name ++ "." ++ part).toList = name.toList ++ '.' :: part.toList := by
    rw [String.toList_append, String.toList_append, List.append_assoc]
    rfl
  rw [hlist, splitAt_append, splitAt_of_not_mem (dot_not_mem_of_isIdentifierText h)]

/-- **A name is made of one or more identifiers with dots between them.** -/
theorem isQualifiedName_iff {name : String} :
    isQualifiedName name = true ↔ ∃ parts : List String, parts ≠ []
      ∧ (∀ part ∈ parts, isIdentifierText part.toList = true)
      ∧ name = ".".intercalate parts := by
  rw [isQualifiedName, List.all_eq_true]
  constructor
  · intro h
    refine ⟨(Path.splitAt '.' name.toList).map String.ofList, by simp [splitAt_ne_nil], ?_, ?_⟩
    · simpa using h
    · obtain ⟨first, others, hparts⟩ := List.exists_cons_of_ne_nil (splitAt_ne_nil name.toList)
      apply String.toList_injective
      rw [String.toList_intercalate, List.map_map]
      simp only [Function.comp_def, String.toList_ofList, List.map_id']
      rw [hparts, show ".".toList = ['.'] from rfl, intercalate_cons, ← eq_of_splitAt hparts]
  · rintro ⟨parts, hne, hparts, rfl⟩
    rw [String.toList_intercalate, show ".".toList = ['.'] from rfl, splitAt_intercalate]
    · simpa using hparts
    · simpa using hne
    · simpa using fun part hmem => dot_not_mem_of_isIdentifierText (hparts part hmem)

/-- A name may be continued by a dot and an identifier. -/
theorem isQualifiedName_append {name part : String} (hname : isQualifiedName name = true)
    (hpart : isIdentifierText part.toList = true) :
    isQualifiedName (name ++ "." ++ part) = true := by
  rw [isQualifiedName] at hname
  rw [isQualifiedName, splitAt_append_part hpart, List.all_append, hname, Bool.true_and]
  simpa using hpart

/-- **A name grows by a dot and an identifier.** -/
theorem nameTokens_append {name part : String} (h : isIdentifierText part.toList = true) :
    nameTokens (name ++ "." ++ part) = nameTokens name ++ [.dot, .identifier part] := by
  rw [nameTokens, nameTokens, splitAt_append_part h]
  obtain ⟨first, others, hparts⟩ := List.exists_cons_of_ne_nil (splitAt_ne_nil name.toList)
  rw [hparts, List.cons_append, partTokens, partTokens, List.flatMap_append, List.cons_append]
  simp

theorem isIdentifierText_of_isPrimitiveName {name : String} (h : isPrimitiveName name = true) :
    isIdentifierText name.toList = true := by
  have hall : ∀ name ∈ primitiveNames, isIdentifierText name.toList = true := by decide
  exact hall name (List.contains_iff_mem.1 h)

/-! ## Types -/

/-- Where a type stands. -/
inductive TypePlace where
  /-- By itself, as an element of arrays or as a bound. -/
  | whole
  /-- As a type argument. -/
  | argument
  deriving DecidableEq, Repr

namespace TypeExpr

/-- To prove something of all types, prove it of each type from the types inside it. -/
@[elab_as_elim]
theorem induction {motive : TypeExpr → Prop} (primitive : ∀ name, motive (.primitive name))
    (named : ∀ name arguments, (∀ argument ∈ arguments, motive argument) →
      motive (.named name arguments))
    (array : ∀ element, motive element → motive (.array element))
    (wildcard : motive .wildcard)
    (wildcardExtends : ∀ bound, motive bound → motive (.wildcardExtends bound))
    (wildcardSuper : ∀ bound, motive bound → motive (.wildcardSuper bound)) :
    ∀ type, motive type
  | .primitive name => primitive name
  | .named name arguments => named name arguments fun argument _ =>
      induction primitive named array wildcard wildcardExtends wildcardSuper argument
  | .array element => array element
      (induction primitive named array wildcard wildcardExtends wildcardSuper element)
  | .wildcard => wildcard
  | .wildcardExtends bound => wildcardExtends bound
      (induction primitive named array wildcard wildcardExtends wildcardSuper bound)
  | .wildcardSuper bound => wildcardSuper bound
      (induction primitive named array wildcard wildcardExtends wildcardSuper bound)

mutual
/-- Whether a type can be written in a place. -/
def wellFormed (place : TypePlace) : TypeExpr → Bool
  | primitive name => place == .whole && isPrimitiveName name
  | named name arguments =>
    isQualifiedName name && !isPrimitiveName name && wellFormedArguments arguments
  | array element => element.wellFormed .whole
  | wildcard => place == .argument
  | wildcardExtends bound => place == .argument && bound.wellFormed .whole
  | wildcardSuper bound => place == .argument && bound.wellFormed .whole

/-- Whether types can be written as type arguments. -/
def wellFormedArguments : List TypeExpr → Bool
  | [] => true
  | type :: types => type.wellFormed .argument && wellFormedArguments types
end

mutual
/-- The tokens that spell a type. -/
def tokens : TypeExpr → List TypeToken
  | primitive name => [.identifier name]
  | named name [] => nameTokens name
  | named name (first :: rest) =>
    nameTokens name ++ .openAngle :: (first.tokens ++ (tokensOfRest rest ++ [.closeAngle]))
  | array element => element.tokens ++ [.openBracket, .closeBracket]
  | wildcard => [.question]
  | wildcardExtends bound => .question :: .identifier "extends" :: bound.tokens
  | wildcardSuper bound => .question :: .identifier "super" :: bound.tokens

/-- The tokens of the arguments after the first, each with its comma. -/
def tokensOfRest : List TypeExpr → List TypeToken
  | [] => []
  | type :: types => .comma :: (type.tokens ++ tokensOfRest types)
end

theorem wellFormedArguments_eq (types : List TypeExpr) :
    wellFormedArguments types = types.all (·.wellFormed .argument) := by
  induction types with
  | nil => rfl
  | cons type types ih => rw [wellFormedArguments, ih, List.all_cons]

end TypeExpr

end TypeWitness
