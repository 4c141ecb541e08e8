import Mathlib.Data.List.Forall2
import TypeWitness.Generation.Collection
import TypeWitness.Proofs.WitnessTypes

/-! # Which type arguments are erased
A mention of an accessor's own type parameter makes the type of the witnesses unusable up to the
innermost type argument around it. So it is enough that this argument becomes a wildcard. The type
of the witnesses is this one when all mentions that stand inside arrays or bounds stand right there.
Where such a mention is hidden in further type arguments, the array or the bounded wildcard around
these becomes a wildcard as a whole.

* `TypeExpr.eraseInnermost` — the type with the innermost arguments around mentions erased.
* `TypeExpr.erase_eq_iff` — when nothing else is erased from a type argument.
* `TypeExpr.coarsens_erase` — no less is erased.
* `TokenAccessor.erases_innermost_iff` — both for the type of the witnesses. -/

namespace TypeWitness

namespace TypeExpr

/-! ## The innermost arguments around mentions -/

/-- Whether a type mentions one of the names outside of type arguments that stand inside it. -/
def mentionsDirectly (names : List String) : TypeExpr → Bool
  | named name [] => isSimpleName name && names.contains name
  | array element => element.mentionsDirectly names
  | wildcardExtends bound => bound.mentionsDirectly names
  | wildcardSuper bound => bound.mentionsDirectly names
  | primitive _ | named _ (_ :: _) | wildcard => false

mutual
/-- The type in which every type argument, at any depth, is a wildcard if it mentions one of the
names directly. These are the innermost type arguments around the mentions. -/
def eraseInnermost (names : List String) : TypeExpr → TypeExpr
  | primitive name => primitive name
  | named name arguments => named name (eraseInnermostAll names arguments)
  | array element => array (element.eraseInnermost names)
  | wildcard => wildcard
  | wildcardExtends bound => wildcardExtends (bound.eraseInnermost names)
  | wildcardSuper bound => wildcardSuper (bound.eraseInnermost names)

/-- What becomes of type arguments. -/
def eraseInnermostAll (names : List String) : List TypeExpr → List TypeExpr
  | [] => []
  | type :: types =>
    (if type.mentionsDirectly names then wildcard else type.eraseInnermost names)
      :: eraseInnermostAll names types
end

/-- What becomes of a type argument. -/
def eraseArgument (names : List String) (type : TypeExpr) : TypeExpr :=
  if type.mentionsDirectly names then wildcard else type.eraseInnermost names

theorem eraseInnermostAll_eq (names : List String) (types : List TypeExpr) :
    eraseInnermostAll names types = types.map (·.eraseArgument names) := by
  induction types with
  | nil => rfl
  | cons type types ih =>
    rw [eraseInnermostAll, ih, List.map_cons]
    rfl

theorem eraseInnermost_named (names : List String) (name : String) (arguments : List TypeExpr) :
    (named name arguments).eraseInnermost names =
      named name (arguments.map (·.eraseArgument names)) := by
  rw [eraseInnermost, eraseInnermostAll_eq]

/-- A type with arguments mentions nothing directly. -/
theorem eraseArgument_named {names : List String} {name : String} {arguments : List TypeExpr}
    (h : arguments ≠ []) :
    (named name arguments).eraseArgument names =
      named name (arguments.map (·.eraseArgument names)) := by
  obtain ⟨first, rest, rfl⟩ := List.exists_cons_of_ne_nil h
  exact eraseInnermost_named names name (first :: rest)

/-- What is mentioned directly is mentioned. -/
theorem exists_mention_of_mentionsDirectly {names : List String} {type : TypeExpr}
    (h : type.mentionsDirectly names = true) : ∃ name ∈ type.simpleNames, name ∈ names := by
  induction type using TypeExpr.induction with
  | primitive name => cases h
  | named name arguments =>
    cases arguments with
    | nil =>
      rw [mentionsDirectly, Bool.and_eq_true, List.contains_iff_mem] at h
      rw [simpleNames, if_pos h.1]
      exact ⟨name, List.mem_singleton_self _, h.2⟩
    | cons first rest => cases h
  | array element ih => exact ih h
  | wildcard => cases h
  | wildcardExtends bound ih => exact ih h
  | wildcardSuper bound ih => exact ih h

/-- A type without mentions stays as it is. -/
theorem eraseInnermost_of_no_mention {names : List String} (type : TypeExpr)
    (h : ∀ name ∈ type.simpleNames, name ∉ names) : type.eraseInnermost names = type := by
  induction type using TypeExpr.induction with
  | primitive name => rfl
  | named name arguments ih =>
    by_cases hnil : arguments = []
    · rw [hnil, eraseInnermost_named, List.map_nil]
    · rw [simpleNames_named hnil] at h
      have hall : ∀ argument ∈ arguments, argument.eraseArgument names = argument := by
        intro argument hmem
        have hnone : ∀ name ∈ argument.simpleNames, name ∉ names :=
          fun name hname => h name (List.mem_flatMap.2 ⟨argument, hmem, hname⟩)
        rw [eraseArgument, if_neg, ih argument hmem hnone]
        intro hdirect
        obtain ⟨name, hname, hmention⟩ := exists_mention_of_mentionsDirectly hdirect
        exact hnone name hname hmention
      rw [eraseInnermost_named, List.map_congr_left hall, List.map_id']
  | array element ih => rw [eraseInnermost, ih h]
  | wildcard => rfl
  | wildcardExtends bound ih => rw [eraseInnermost, ih h]
  | wildcardSuper bound ih => rw [eraseInnermost, ih h]

/-! ## When only innermost arguments are erased -/

/-- A type is another one, or is nested in its type arguments and in theirs. -/
inductive NestedIn (part : TypeExpr) : TypeExpr → Prop
  | here : NestedIn part part
  | inside {outer inner : TypeExpr} (hmem : inner ∈ outer.arguments) (h : NestedIn part inner) :
      NestedIn part outer

/-- What holds of all types nested in a type holds of it and of those nested in its arguments. -/
theorem forall_nestedIn_iff {p : TypeExpr → Prop} {type : TypeExpr} :
    (∀ part, NestedIn part type → p part) ↔
      p type ∧ ∀ argument ∈ type.arguments, ∀ part, NestedIn part argument → p part := by
  constructor
  · exact fun h => ⟨h _ .here, fun argument hmem part hpart => h part (.inside hmem hpart)⟩
  · rintro ⟨hhere, hinside⟩ part hpart
    cases hpart with
    | here => exact hhere
    | inside hmem h => exact hinside _ hmem part h

/-- A type that takes no arguments itself mentions names in no other way than directly: not hidden
in type arguments inside an array or a bound, and not by a name that is no bare one. -/
def ShowsMentions (names : List String) (type : TypeExpr) : Prop :=
  type.arguments = [] →
    ((∃ name ∈ type.simpleNames, name ∈ names) → type.mentionsDirectly names = true)
    ∧ ∀ name ∈ names, type = named name [] → isSimpleName name = true

/-- Nothing but a wildcard becomes one as a whole. -/
theorem eq_wildcard_of_eraseInnermost {names : List String} {type : TypeExpr}
    (h : type.eraseInnermost names = wildcard) : type = wildcard := by
  cases type with
  | wildcard => rfl
  | _ => cases h

/-- A type that is erased as soon as it mentions a name is erased rightly when such mentions are
direct. -/
theorem ite_wildcard_eq_iff {names : List String} {type : TypeExpr} :
    (if type.simpleNames.any names.contains then wildcard else type) = type.eraseArgument names ↔
      ((∃ name ∈ type.simpleNames, name ∈ names) → type.mentionsDirectly names = true) := by
  have hany : type.simpleNames.any names.contains = true ↔
      ∃ name ∈ type.simpleNames, name ∈ names := by simp
  by_cases hmention : ∃ name ∈ type.simpleNames, name ∈ names
  · rw [if_pos (hany.2 hmention)]
    constructor
    · intro heq _
      cases hdirect : type.mentionsDirectly names with
      | true => rfl
      | false =>
        -- a wildcard mentions nothing
        rw [eraseArgument, if_neg (by rw [hdirect]; exact Bool.false_ne_true)] at heq
        rw [eq_wildcard_of_eraseInnermost heq.symm] at hmention
        obtain ⟨name, hname, -⟩ := hmention
        cases hname
    · intro h
      rw [eraseArgument, if_pos (h hmention)]
  · rw [if_neg (mt hany.1 hmention), eraseArgument,
      if_neg fun hdirect => hmention (exists_mention_of_mentionsDirectly hdirect),
      eraseInnermost_of_no_mention type fun name hname hmem => hmention ⟨name, hname, hmem⟩]
    exact ⟨fun _ h => absurd h hmention, fun _ => rfl⟩

/-- A name by itself is erased rightly when it is a bare name. -/
theorem erase_bare_eq_iff {names : List String} {name : String} :
    (named name []).erase names = (named name []).eraseArgument names ↔
      (name ∈ names → isSimpleName name = true) := by
  rw [erase, eraseArgument, mentionsDirectly, eraseInnermost_named, List.map_nil]
  by_cases hmem : name ∈ names <;> by_cases hsimple : isSimpleName name = true <;>
    simp [hmem, hsimple]

/-- **When only innermost arguments are erased**: all types nested in a type argument that take no
arguments themselves mention names directly. -/
theorem erase_eq_iff (names : List String) (type : TypeExpr) :
    type.erase names = type.eraseArgument names ↔
      ∀ part, NestedIn part type → part.ShowsMentions names := by
  -- a type that is no name is the only one nested in it
  have hother : ∀ other : TypeExpr, other.arguments = [] → (∀ name, other ≠ named name []) →
      ((if other.simpleNames.any names.contains then wildcard else other) =
          other.eraseArgument names ↔
        ∀ part, NestedIn part other → part.ShowsMentions names) := by
    intro other hnil hname
    rw [ite_wildcard_eq_iff, forall_nestedIn_iff, hnil]
    exact ⟨fun h => ⟨fun _ => ⟨h, fun name _ heq => absurd heq (hname name)⟩,
        fun _ hmem => absurd hmem List.not_mem_nil⟩,
      fun h => (h.1 hnil).1⟩
  induction type using TypeExpr.induction with
  | named name arguments ih =>
    rw [forall_nestedIn_iff, arguments_named]
    by_cases hnil : arguments = []
    · subst hnil
      rw [erase_bare_eq_iff]
      constructor
      · refine fun h => ⟨fun _ => ⟨?_, fun name' hmem heq => ?_⟩,
          fun _ hmem => absurd hmem List.not_mem_nil⟩
        · rintro ⟨name', hname, hmem⟩
          rw [simpleNames] at hname
          split at hname
          · next hsimple =>
            rw [List.mem_singleton.1 hname] at hmem
            rw [mentionsDirectly, hsimple, Bool.true_and]
            exact List.contains_iff_mem.2 hmem
          · cases hname
        · cases heq
          exact h hmem
      · exact fun h hmem => (h.1 rfl).2 name hmem rfl
    · rw [erase_named hnil, eraseArgument_named hnil, named.injEq, eq_self, true_and,
        List.map_inj_left, forall₂_congr ih]
      exact ⟨fun h => ⟨fun hnone => absurd hnone hnil, h⟩, fun h => h.2⟩
  | primitive name => exact hother (.primitive name) rfl fun _ heq => by cases heq
  | array element => exact hother (.array element) rfl fun _ heq => by cases heq
  | wildcard => exact hother .wildcard rfl fun _ heq => by cases heq
  | wildcardExtends bound => exact hother (.wildcardExtends bound) rfl fun _ heq => by cases heq
  | wildcardSuper bound => exact hother (.wildcardSuper bound) rfl fun _ heq => by cases heq

/-! ## Nothing less is erased -/

/-- A type is another one in which further type arguments are wildcards. -/
inductive Coarsens : TypeExpr → TypeExpr → Prop
  | same (type : TypeExpr) : Coarsens type type
  | whole (type : TypeExpr) : Coarsens type .wildcard
  | inside (name : String) {arguments arguments' : List TypeExpr}
      (h : List.Forall₂ Coarsens arguments arguments') :
      Coarsens (.named name arguments) (.named name arguments')

/-- **Nothing less is erased** than the innermost arguments around mentions. -/
theorem coarsens_erase (names : List String) (type : TypeExpr) :
    Coarsens (type.eraseArgument names) (type.erase names) := by
  induction type using argumentsInduction with
  | step type ih =>
    rcases erase_cases names type with
      hwildcard | ⟨hkept, hnone⟩ | ⟨name, arguments, rfl, hne, hinside⟩
    · rw [hwildcard]
      exact .whole _
    · have hsame : type.eraseArgument names = type := by
        rw [eraseArgument, if_neg, eraseInnermost_of_no_mention type hnone]
        intro hdirect
        obtain ⟨name, hname, hmem⟩ := exists_mention_of_mentionsDirectly hdirect
        exact hnone name hname hmem
      rw [hkept, hsame]
      exact .same type
    · rw [hinside, eraseArgument_named hne]
      refine .inside name ?_
      rw [List.forall₂_map_left_iff, List.forall₂_map_right_iff]
      exact List.forall₂_same.2 ih

end TypeExpr

/-! ## Types of witnesses -/

/-- **Which type arguments are erased from the type of the witnesses.** It is the return type with
the innermost arguments around mentions of the accessor's own type parameters erased, and nothing
else, exactly when all types nested in its arguments show their mentions. In any case it differs
from this type only in that further type arguments are wildcards. -/
theorem TokenAccessor.erases_innermost_iff {accessor : TokenAccessor} {name : String}
    {arguments : List TypeExpr} (h : accessor.returnType = .named name arguments) :
    (accessor.witnessType = accessor.returnType.eraseInnermost accessor.ownParameters ↔
      ∀ argument ∈ arguments, ∀ part, TypeExpr.NestedIn part argument →
        part.ShowsMentions accessor.ownParameters)
    ∧ TypeExpr.Coarsens (accessor.returnType.eraseInnermost accessor.ownParameters)
      accessor.witnessType := by
  rw [witnessType_of_named h, h, TypeExpr.eraseInnermost_named]
  constructor
  · rw [TypeExpr.named.injEq, eq_self, true_and, List.map_inj_left]
    exact forall₂_congr fun argument _ =>
      TypeExpr.erase_eq_iff accessor.ownParameters argument
  · refine .inside name ?_
    rw [List.forall₂_map_left_iff, List.forall₂_map_right_iff]
    exact List.forall₂_same.2 fun argument _ =>
      TypeExpr.coarsens_erase accessor.ownParameters argument

/-- A type with a token accessor that has a type parameter `T` of its own and returns the given
type. -/
def entryDeclaration (returnType : String) : TypeDeclaration where
  name := "Entry"
  packageName := "model"
  visibility := .everywhere
  typeParameters := [⟨"A", []⟩, ⟨"B", []⟩]
  superclass? := none
  markers := []
  members := [⟨"getEntry", .method, some returnType, [], [⟨"T", []⟩], [.typeToken]⟩]

/-- An own type parameter under a bound and an array, with nothing else around it. -/
theorem TokenAccessor.erases_innermost_iff_nested :
    let type (argument : TypeExpr) : TypeExpr :=
      .named "Token" [.named "A" [], .named "List" [argument]]
    let accessor : TokenAccessor :=
      ⟨(entryDeclaration "Token<A, List<? extends T[]>>").owner, "getEntry",
        type (.wildcardExtends (.array (.named "T" []))), ["T"]⟩
    accessor.returnType = type (.wildcardExtends (.array (.named "T" [])))
    ∧ accessor.witnessType = type .wildcard
    ∧ accessor.witnessType = accessor.returnType.eraseInnermost accessor.ownParameters
    ∧ ∀ part, TypeExpr.NestedIn part (.wildcardExtends (.array (.named "T" []))) →
      part.ShowsMentions accessor.ownParameters := by
  intro type accessor
  have hreturn : accessor.returnType = type (.wildcardExtends (.array (.named "T" []))) := rfl
  have hinnermost : accessor.witnessType =
      accessor.returnType.eraseInnermost accessor.ownParameters := rfl
  obtain ⟨hiff, -⟩ := erases_innermost_iff hreturn
  have hshown := hiff.1 hinnermost _ (List.mem_cons_of_mem _ List.mem_cons_self)
  exact ⟨hreturn, rfl, hinnermost, fun part hpart => hshown part (.inside List.mem_cons_self hpart)⟩

/-- **A bounded wildcard is erased as a whole** although the own type parameter that it mentions is
an argument of the bound. With it goes the parameter of the owner next to it. -/
theorem TokenAccessor.erases_around_innermost :
    ∃ accessor ∈
      (⟨[entryDeclaration "Token<A, ? extends Map<T, B>>"]⟩ : Manifest).collect.accessors,
      accessor.returnType.isParameterized = true
      ∧ accessor.ownParameters = ["T"]
      ∧ accessor.witnessType.render = "Token<A, ?>"
      ∧ (accessor.returnType.eraseInnermost accessor.ownParameters).render =
        "Token<A, ? extends Map<?, B>>"
      ∧ accessor.witnessType ≠ accessor.returnType.eraseInnermost accessor.ownParameters := by
  have hexists : ∃ accessor ∈
      (⟨[entryDeclaration "Token<A, ? extends Map<T, B>>"]⟩ : Manifest).collect.accessors,
      accessor.returnType.isParameterized = true
      ∧ accessor.ownParameters = ["T"]
      ∧ accessor.witnessType.render = "Token<A, ?>"
      ∧ (accessor.returnType.eraseInnermost accessor.ownParameters).render =
        "Token<A, ? extends Map<?, B>>" := by decide +kernel
  obtain ⟨accessor, hmem, hparameterized, hown, herased, hinnermost⟩ := hexists
  refine ⟨accessor, hmem, hparameterized, hown, herased, hinnermost, fun heq => ?_⟩
  rw [heq, hinnermost] at herased
  revert herased
  decide

end TypeWitness
