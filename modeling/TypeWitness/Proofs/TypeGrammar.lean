import TypeWitness.Proofs.TypeSpelling

/-! # The grammar of type expressions
Which tokens are read as which types is told here by a grammar, without the reader. A name is made
of identifiers with dots between them. A head is a name that may have type arguments unless it is
that of a primitive type, and a type is a head with any number of pairs of brackets behind it. A
type argument is a type other than a bare primitive one, or a wildcard, which may have a bound.

* `derivesType_iff` — the grammar derives from tokens the types that they spell.
* `TypeState.run_unplaced` — the reader goes by tokens, and not by where they stand.
* `TypeExpr.parse_grammar` — a text is read as the type that the grammar derives from its tokens. -/

namespace TypeWitness

open TypeExpr

/-! ## The grammar -/

/-- `name ::= identifier ('.' identifier)*` -/
inductive DerivesName : List TypeToken → String → Prop
  | single (name : String) : DerivesName [.identifier name] name
  | dotted {tokens : List TypeToken} {name : String} (h : DerivesName tokens name) (part : String) :
      DerivesName (tokens ++ [.dot, .identifier part]) (name ++ "." ++ part)

/-- `dims ::= ('[' ']')*` -/
inductive DerivesDimensions : List TypeToken → Nat → Prop
  | none : DerivesDimensions [] 0
  | more {tokens : List TypeToken} {count : Nat} (h : DerivesDimensions tokens count) :
      DerivesDimensions (tokens ++ [.openBracket, .closeBracket]) (count + 1)

/-- The array type over an element type with the given number of dimensions. -/
def TypeExpr.withDimensions (element : TypeExpr) : Nat → TypeExpr
  | 0 => element
  | count + 1 => .array (element.withDimensions count)

mutual
/-- `type ::= head dims` -/
inductive DerivesType : List TypeToken → TypeExpr → Prop
  | dimensions {tokens dims : List TypeToken} {element : TypeExpr} {count : Nat}
      (h : DerivesHead tokens element) (hdims : DerivesDimensions dims count) :
      DerivesType (tokens ++ dims) (element.withDimensions count)

/-- `head ::= name` for the name of a primitive type, and
`head ::= name ('<' argument (',' argument)* '>')?` for any other name. -/
inductive DerivesHead : List TypeToken → TypeExpr → Prop
  | primitive {tokens : List TypeToken} {name : String} (hname : DerivesName tokens name)
      (hprimitive : isPrimitiveName name = true) : DerivesHead tokens (.primitive name)
  | bare {tokens : List TypeToken} {name : String} (hname : DerivesName tokens name)
      (hprimitive : isPrimitiveName name = false) : DerivesHead tokens (.named name [])
  | parameterized {tokens inside : List TypeToken} {name : String} {arguments : List TypeExpr}
      (hname : DerivesName tokens name) (hprimitive : isPrimitiveName name = false)
      (h : DerivesArguments inside arguments) :
      DerivesHead (tokens ++ .openAngle :: (inside ++ [.closeAngle])) (.named name arguments)

/-- `argument (',' argument)*` -/
inductive DerivesArguments : List TypeToken → List TypeExpr → Prop
  | last {tokens : List TypeToken} {type : TypeExpr} (h : DerivesArgument tokens type) :
      DerivesArguments tokens [type]
  | more {tokens others : List TypeToken} {type : TypeExpr} {types : List TypeExpr}
      (h : DerivesArgument tokens type) (hothers : DerivesArguments others types) :
      DerivesArguments (tokens ++ .comma :: others) (type :: types)

/-- `argument ::= type | '?' | '?' 'extends' type | '?' 'super' type`, where the type by itself is
no bare primitive type. -/
inductive DerivesArgument : List TypeToken → TypeExpr → Prop
  | type {tokens : List TypeToken} {type : TypeExpr} (h : DerivesType tokens type)
      (hprimitive : type.primitiveName? = .none) : DerivesArgument tokens type
  | wildcard : DerivesArgument [.question] .wildcard
  | wildcardExtends {tokens : List TypeToken} {bound : TypeExpr} (h : DerivesType tokens bound) :
      DerivesArgument (.question :: .identifier "extends" :: tokens) (.wildcardExtends bound)
  | wildcardSuper {tokens : List TypeToken} {bound : TypeExpr} (h : DerivesType tokens bound) :
      DerivesArgument (.question :: .identifier "super" :: tokens) (.wildcardSuper bound)
end

/-! ## What the grammar derives is spelled by its tokens -/

/-- All identifiers among tokens can be read as such. -/
def IdentifiersReadable (tokens : List TypeToken) : Prop :=
  ∀ name, .identifier name ∈ tokens → isIdentifierText name.toList = true

theorem identifiersReadable_append {tokens others : List TypeToken} :
    IdentifiersReadable (tokens ++ others) ↔
      IdentifiersReadable tokens ∧ IdentifiersReadable others := by
  simp only [IdentifiersReadable, List.mem_append, or_imp, forall_and]

theorem IdentifiersReadable.of_cons {token : TypeToken} {tokens : List TypeToken}
    (h : IdentifiersReadable (token :: tokens)) : IdentifiersReadable tokens :=
  fun name hname => h name (List.mem_cons_of_mem _ hname)

/-- A derived name is spelled by its tokens. -/
theorem DerivesName.spelled {tokens : List TypeToken} {name : String} (h : DerivesName tokens name)
    (hreadable : IdentifiersReadable tokens) :
    isQualifiedName name = true ∧ nameTokens name = tokens := by
  induction h with
  | single name =>
    have hname := hreadable name (List.mem_singleton_self _)
    exact ⟨isQualifiedName_of_isIdentifierText hname, nameTokens_of_isIdentifierText hname⟩
  | dotted _ part ih =>
    rw [identifiersReadable_append] at hreadable
    obtain ⟨hname, htokens⟩ := ih hreadable.1
    have hpart := hreadable.2 part (by simp)
    exact ⟨isQualifiedName_append hname hpart, by rw [nameTokens_append hpart, htokens]⟩

/-- Brackets behind a type spell the array type over it. -/
theorem DerivesDimensions.spelled {dims : List TypeToken} {count : Nat}
    (h : DerivesDimensions dims count) {element : TypeExpr}
    (helement : element.wellFormed .whole = true) :
    (element.withDimensions count).wellFormed .whole = true
    ∧ (element.withDimensions count).tokens = element.tokens ++ dims := by
  induction h with
  | none => exact ⟨helement, (List.append_nil _).symm⟩
  | more _ ih =>
    rw [withDimensions, wellFormed, TypeExpr.tokens, ih.2, List.append_assoc]
    exact ⟨ih.1, rfl⟩

/-- The tokens of type arguments with commas between them. -/
def argumentTokens : List TypeExpr → List TypeToken
  | [] => []
  | first :: rest => first.tokens ++ tokensOfRest rest

theorem argumentTokens_cons (type : TypeExpr) {types : List TypeExpr} (h : types ≠ []) :
    argumentTokens (type :: types) = type.tokens ++ .comma :: argumentTokens types := by
  obtain ⟨first, rest, rfl⟩ := List.exists_cons_of_ne_nil h
  rw [argumentTokens, tokensOfRest, argumentTokens]

theorem tokens_named {name : String} {arguments : List TypeExpr} (h : arguments ≠ []) :
    (named name arguments).tokens =
      nameTokens name ++ .openAngle :: (argumentTokens arguments ++ [.closeAngle]) := by
  obtain ⟨first, rest, rfl⟩ := List.exists_cons_of_ne_nil h
  rw [TypeExpr.tokens, argumentTokens, List.append_assoc]

mutual
/-- A derived type can be written by itself, and is spelled by its tokens. -/
theorem DerivesType.spelled {tokens : List TypeToken} {type : TypeExpr} :
    DerivesType tokens type → IdentifiersReadable tokens →
      type.wellFormed .whole = true ∧ type.tokens = tokens
  | .dimensions hhead hdims, hreadable => by
    obtain ⟨hreadable, -⟩ := identifiersReadable_append.1 hreadable
    obtain ⟨hwhole, htokens⟩ := hhead.spelled hreadable
    obtain ⟨hdimensions, hall⟩ := hdims.spelled hwhole
    exact ⟨hdimensions, by rw [hall, htokens]⟩

/-- So can a derived head. -/
theorem DerivesHead.spelled {tokens : List TypeToken} {type : TypeExpr} :
    DerivesHead tokens type → IdentifiersReadable tokens →
      type.wellFormed .whole = true ∧ type.tokens = tokens
  | .primitive hname hprimitive, hreadable => by
    obtain ⟨-, htokens⟩ := hname.spelled hreadable
    rw [nameTokens_of_isIdentifierText (isIdentifierText_of_isPrimitiveName hprimitive)] at htokens
    exact ⟨by simp [wellFormed, hprimitive], htokens⟩
  | .bare hname hprimitive, hreadable => by
    obtain ⟨hqualified, htokens⟩ := hname.spelled hreadable
    rw [TypeExpr.tokens]
    exact ⟨by simp [wellFormed, wellFormedArguments, hqualified, hprimitive], htokens⟩
  | .parameterized hname hprimitive harguments, hreadable => by
    obtain ⟨hbefore, hbehind⟩ := identifiersReadable_append.1 hreadable
    obtain ⟨hqualified, htokens⟩ := hname.spelled hbefore
    obtain ⟨hinside, -⟩ := identifiersReadable_append.1 hbehind.of_cons
    obtain ⟨hne, hall, hspelled⟩ := harguments.spelled hinside
    rw [tokens_named hne, htokens, hspelled]
    refine ⟨?_, rfl⟩
    simpa [wellFormed, wellFormedArguments_eq, hqualified, hprimitive] using hall

/-- There is at least one derived type argument, and each can be written as one. -/
theorem DerivesArguments.spelled {tokens : List TypeToken} {types : List TypeExpr} :
    DerivesArguments tokens types → IdentifiersReadable tokens →
      types ≠ [] ∧ (∀ type ∈ types, type.wellFormed .argument = true)
      ∧ argumentTokens types = tokens
  | .last hargument, hreadable => by
    obtain ⟨hwritten, htokens⟩ := hargument.spelled hreadable
    refine ⟨List.cons_ne_nil _ _, by simpa using hwritten, ?_⟩
    rw [argumentTokens, tokensOfRest, List.append_nil, htokens]
  | .more hargument hothers, hreadable => by
    obtain ⟨hbefore, hbehind⟩ := identifiersReadable_append.1 hreadable
    obtain ⟨hwritten, htokens⟩ := hargument.spelled hbefore
    obtain ⟨hne, hall, hspelled⟩ := hothers.spelled hbehind.of_cons
    refine ⟨List.cons_ne_nil _ _, List.forall_mem_cons.2 ⟨hwritten, hall⟩, ?_⟩
    rw [argumentTokens_cons _ hne, htokens, hspelled]

/-- A derived type argument can be written as one, and is spelled by its tokens. -/
theorem DerivesArgument.spelled {tokens : List TypeToken} {type : TypeExpr} :
    DerivesArgument tokens type → IdentifiersReadable tokens →
      type.wellFormed .argument = true ∧ type.tokens = tokens
  | .type htype hprimitive, hreadable => by
    obtain ⟨hwhole, htokens⟩ := htype.spelled hreadable
    exact ⟨wellFormed_argument_of_whole hwhole hprimitive, htokens⟩
  | .wildcard, _ => ⟨rfl, by rw [TypeExpr.tokens]⟩
  | .wildcardExtends hbound, hreadable => by
    obtain ⟨hwhole, htokens⟩ := hbound.spelled hreadable.of_cons.of_cons
    exact ⟨by simp [wellFormed, hwhole], by rw [TypeExpr.tokens, htokens]⟩
  | .wildcardSuper hbound, hreadable => by
    obtain ⟨hwhole, htokens⟩ := hbound.spelled hreadable.of_cons.of_cons
    exact ⟨by simp [wellFormed, hwhole], by rw [TypeExpr.tokens, htokens]⟩
end

/-! ## The grammar derives what can be written -/

/-- A name grows by identifiers, each with its dot. -/
theorem DerivesName.append_parts {tokens : List TypeToken} {name : String}
    (h : DerivesName tokens name) (parts : List (List Char)) :
    DerivesName
      (tokens ++ parts.flatMap fun part => [.dot, .identifier (String.ofList part)])
      (name ++ String.ofList (parts.flatMap ('.' :: ·))) := by
  induction parts generalizing tokens name with
  | nil => simpa using h
  | cons part parts ih =>
    have hparts := ih (h.dotted (String.ofList part))
    rwa [List.append_assoc, append_part] at hparts

/-- Every name is derived from the tokens that spell it. -/
theorem derivesName_nameTokens (name : String) : DerivesName (nameTokens name) name := by
  obtain ⟨first, others, hparts⟩ := List.exists_cons_of_ne_nil (splitAt_ne_nil name.toList)
  rw [nameTokens, hparts, partTokens]
  have hderives := (DerivesName.single (String.ofList first)).append_parts others
  rwa [ofList_parts hparts] at hderives

/-- A head is a type. -/
theorem DerivesHead.toType {tokens : List TypeToken} {type : TypeExpr}
    (h : DerivesHead tokens type) : DerivesType tokens type := by
  have htype := DerivesType.dimensions h .none
  rwa [List.append_nil] at htype

/-- One more pair of brackets makes an array type. -/
theorem DerivesType.array {tokens : List TypeToken} {type : TypeExpr}
    (h : DerivesType tokens type) :
    DerivesType (tokens ++ [.openBracket, .closeBracket]) (.array type) := by
  cases h with
  | dimensions hhead hdims =>
    rw [List.append_assoc]
    exact .dimensions hhead hdims.more

/-- Type arguments are derived when each of them is. -/
theorem derivesArguments_of_forall {types : List TypeExpr} (hne : types ≠ [])
    (h : ∀ type ∈ types, DerivesArgument type.tokens type) :
    DerivesArguments (argumentTokens types) types := by
  induction types with
  | nil => exact absurd rfl hne
  | cons type types ih =>
    rw [List.forall_mem_cons] at h
    by_cases hlast : types = []
    · subst hlast
      rw [argumentTokens, tokensOfRest, List.append_nil]
      exact .last h.1
    · rw [argumentTokens_cons _ hlast]
      exact .more h.1 (ih hlast h.2)

/-- A type that can be written is derived from the tokens that spell it, by itself or as a type
argument. -/
theorem derives_tokens (type : TypeExpr) :
    (type.wellFormed .whole = true → DerivesType type.tokens type)
    ∧ (type.wellFormed .argument = true → DerivesArgument type.tokens type) := by
  -- what can stand by itself and is not primitive can be an argument too
  have hargument : ∀ type : TypeExpr, type.primitiveName? = none →
      type.wellFormed .argument = type.wellFormed .whole →
      (type.wellFormed .whole = true → DerivesType type.tokens type) →
      (type.wellFormed .whole = true → DerivesType type.tokens type)
      ∧ (type.wellFormed .argument = true → DerivesArgument type.tokens type) :=
    fun type hprimitive hplace h => ⟨h, fun hwritten => .type (h (hplace ▸ hwritten)) hprimitive⟩
  induction type using TypeExpr.induction with
  | primitive name =>
    refine ⟨fun h => ?_, nofun⟩
    rw [wellFormed, Bool.and_eq_true] at h
    rw [TypeExpr.tokens]
    exact (DerivesHead.primitive (.single name) h.2).toType
  | named name arguments ih =>
    refine hargument _ rfl (by rw [wellFormed, wellFormed]) fun h => ?_
    rw [wellFormed, Bool.and_eq_true, Bool.and_eq_true, Bool.not_eq_true', wellFormedArguments_eq,
      List.all_eq_true] at h
    obtain ⟨⟨-, hprimitive⟩, harguments⟩ := h
    by_cases hnil : arguments = []
    · subst hnil
      rw [TypeExpr.tokens]
      exact (DerivesHead.bare (derivesName_nameTokens name) hprimitive).toType
    · rw [tokens_named hnil]
      exact (DerivesHead.parameterized (derivesName_nameTokens name) hprimitive
        (derivesArguments_of_forall hnil fun type hmem =>
          (ih type hmem).2 (harguments type hmem))).toType
  | array element ih =>
    refine hargument _ rfl (by rw [wellFormed, wellFormed]) fun h => ?_
    rw [wellFormed] at h
    rw [TypeExpr.tokens]
    exact (ih.1 h).array
  | wildcard =>
    refine ⟨nofun, fun _ => ?_⟩
    rw [TypeExpr.tokens]
    exact .wildcard
  | wildcardExtends bound ih =>
    refine ⟨nofun, fun h => ?_⟩
    rw [wellFormed, Bool.and_eq_true] at h
    rw [TypeExpr.tokens]
    exact .wildcardExtends (ih.1 h.2)
  | wildcardSuper bound ih =>
    refine ⟨nofun, fun h => ?_⟩
    rw [wellFormed, Bool.and_eq_true] at h
    rw [TypeExpr.tokens]
    exact .wildcardSuper (ih.1 h.2)

/-- **The grammar derives from tokens the types that they spell.** -/
theorem derivesType_iff {tokens : List TypeToken} (hreadable : IdentifiersReadable tokens)
    {type : TypeExpr} :
    DerivesType tokens type ↔ type.wellFormed .whole = true ∧ type.tokens = tokens := by
  refine ⟨fun h => h.spelled hreadable, ?_⟩
  rintro ⟨hwhole, rfl⟩
  exact (derives_tokens type).1 hwhole

/-! ## The reader goes by tokens -/

/-- The error without the place in the text where it was noticed. -/
def TypeError.unplaced : TypeError → TypeError
  | .empty => .empty
  | .strayCharacter char _ => .strayCharacter char 0
  | .expected what _ => .expected what 0
  | .primitiveArgument name => .primitiveArgument name
  | .trailing _ => .trailing 0

/-- Two computations in a row agree up to what is made of errors when each one does. -/
theorem mapError_bind_congr {ε ε' α β : Type} {f : ε → ε'} {first second : Except ε α}
    {next next' : α → Except ε β} (h : first.mapError f = second.mapError f)
    (hnext : ∀ value, (next value).mapError f = (next' value).mapError f) :
    (first >>= next).mapError f = (second >>= next').mapError f := by
  cases first with
  | error error =>
    cases second with
    | error error' => exact congrArg Except.error (Except.error.inj h)
    | ok value' => cases h
  | ok value =>
    cases second with
    | error error' => cases h
    | ok value' =>
      cases h
      exact hnext value

namespace TypeState

variable {type : TypeExpr} {stack : List TypeFrame} {token : TypeToken} {offset offset' : Nat}

/-- Where the token stands tells the place of an error and nothing else. -/
theorem settle_unplaced :
    (settle type stack ⟨token, offset⟩).mapError TypeError.unplaced =
      (settle type stack ⟨token, offset'⟩).mapError TypeError.unplaced := by
  induction stack generalizing type with
  | nil => rfl
  | cons frame stack ih =>
    cases frame with
    | argument name before =>
      rw [settle, settle]
      cases type.primitiveName? with
      | some primitive => rfl
      | none => cases token <;> rfl
    | extendsBound => exact ih
    | superBound => exact ih

theorem continueType_unplaced :
    (continueType type stack ⟨token, offset⟩).mapError TypeError.unplaced =
      (continueType type stack ⟨token, offset'⟩).mapError TypeError.unplaced := by
  cases token with
  | openBracket => rfl
  | _ => exact settle_unplaced

/-- A step goes by its token. -/
theorem step_unplaced (state : TypeState) {first second : PlacedToken}
    (h : first.token = second.token) :
    (state.step first).mapError TypeError.unplaced =
      (state.step second).mapError TypeError.unplaced := by
  obtain ⟨phase, stack⟩ := state
  obtain ⟨token, offset⟩ := first
  obtain ⟨_, offset'⟩ := second
  cases h
  cases phase with
  | start =>
    simp only [step]
    split <;> rfl
  | namePart name => cases token <;> rfl
  | afterName name =>
    simp only [step]
    split
    · rfl
    · split
      · exact settle_unplaced
      · rfl
    · exact continueType_unplaced
  | afterQuestion =>
    simp only [step]
    split
    · rfl
    · rfl
    · exact settle_unplaced
  | bracket element => cases token <;> rfl
  | afterType type => exact continueType_unplaced

/-- The end of the text tells the place of an error and nothing else. -/
theorem settleEnd_unplaced :
    (settleEnd type offset stack).mapError TypeError.unplaced =
      (settleEnd type offset' stack).mapError TypeError.unplaced := by
  induction stack generalizing type with
  | nil => rfl
  | cons frame stack ih =>
    cases frame with
    | argument name before =>
      rw [settleEnd, settleEnd]
      cases type.primitiveName? <;> rfl
    | extendsBound => exact ih
    | superBound => exact ih

theorem finish_unplaced (state : TypeState) (offset offset' : Nat) :
    (state.finish offset).mapError TypeError.unplaced =
      (state.finish offset').mapError TypeError.unplaced := by
  obtain ⟨phase, stack⟩ := state
  cases phase with
  | start => rfl
  | namePart name => rfl
  | bracket element => rfl
  | afterName name => exact settleEnd_unplaced
  | afterQuestion => exact settleEnd_unplaced
  | afterType type => exact settleEnd_unplaced

/-- **The reader goes by tokens**, and not by where they stand. -/
theorem run_unplaced {placed placed' : List PlacedToken}
    (h : placed.map (·.token) = placed'.map (·.token)) (state : TypeState) (offset offset' : Nat) :
    (state.run offset placed).mapError TypeError.unplaced =
      (state.run offset' placed').mapError TypeError.unplaced := by
  induction placed generalizing placed' state with
  | nil =>
    rw [List.map_nil, eq_comm, List.map_eq_nil_iff] at h
    rw [h]
    exact finish_unplaced state offset offset'
  | cons first placed ih =>
    obtain ⟨second, others, rfl, hsecond, hothers⟩ := List.map_eq_cons_iff.1 h.symm
    rw [run, run]
    exact mapError_bind_congr (step_unplaced state (Eq.symm hsecond)) fun next =>
      ih hothers.symm next

end TypeState

/-! ## Texts -/

/-- **The grammar derives one type only** from tokens. -/
theorem DerivesType.unique {tokens : List TypeToken} (hreadable : IdentifiersReadable tokens)
    {type type' : TypeExpr} (h : DerivesType tokens type) (h' : DerivesType tokens type') :
    type = type' := by
  obtain ⟨hwhole, htokens⟩ := (derivesType_iff hreadable).1 h
  obtain ⟨hwhole', htokens'⟩ := (derivesType_iff hreadable).1 h'
  -- the reader reads the same tokens, wherever they stand, as the one and as the other
  have hplaced : (tokens.map (PlacedToken.mk · 0)).map (·.token) = tokens := by
    simp [Function.comp_def]
  have hrun := run_tokens hwhole (hplaced.trans htokens.symm) 0
  rw [run_tokens hwhole' (hplaced.trans htokens'.symm) 0] at hrun
  exact (Except.ok.inj hrun).symm

namespace TypeExpr

/-- Texts that are made of the same tokens get the same answer, but for the places of errors. -/
theorem parse_unplaced {text other : String} {tokens : List TypeToken}
    (h : Tokenizes text.toList tokens) (h' : Tokenizes other.toList tokens) :
    (parse text).mapError TypeError.unplaced = (parse other).mapError TypeError.unplaced := by
  obtain ⟨placed, hscan, hplaced⟩ := h.scans 0
  obtain ⟨placed', hscan', hplaced'⟩ := h'.scans 0
  rw [parse, parse, hscan, hscan']
  have htokens := hplaced.trans hplaced'.symm
  cases placed with
  | nil =>
    rw [List.map_nil, eq_comm, List.map_eq_nil_iff] at htokens
    subst htokens
    rfl
  | cons first placed =>
    obtain ⟨first', others, rfl, -, -⟩ := List.map_eq_cons_iff.1 htokens.symm
    exact TypeState.run_unplaced htokens _ _ _

/-- **A text is read as the type that the grammar derives from its tokens**, and refused when there
is none. A text is made of one list of tokens only, and the grammar derives one type only from it;
the answer depends on nothing but these tokens, and so does the error, its place apart. -/
theorem parse_grammar (text : String) :
    (∀ type, parse text = .ok type ↔
      ∃ tokens, Tokenizes text.toList tokens ∧ DerivesType tokens type)
    ∧ ∀ tokens, Tokenizes text.toList tokens →
      (∀ tokens', Tokenizes text.toList tokens' → tokens' = tokens)
      ∧ (∀ type type', DerivesType tokens type → DerivesType tokens type' → type = type')
      ∧ ∀ other : String, Tokenizes other.toList tokens →
        (parse text).mapError TypeError.unplaced = (parse other).mapError TypeError.unplaced := by
  constructor
  · intro type
    rw [parse_eq_ok_iff]
    constructor
    · rintro ⟨hwhole, hscans⟩
      have htokens := tokenizes_iff_scans.2 hscans
      exact ⟨type.tokens, htokens,
        (derivesType_iff fun _ => htokens.isIdentifierText).2 ⟨hwhole, rfl⟩⟩
    · rintro ⟨tokens, htokens, hderives⟩
      obtain ⟨hwhole, rfl⟩ := (derivesType_iff fun _ => htokens.isIdentifierText).1 hderives
      exact ⟨hwhole, htokens.scans⟩
  · intro tokens htokens
    refine ⟨fun tokens' htokens' => htokens'.unique htokens, fun type type' h h' => ?_,
      fun other hother => parse_unplaced htokens hother⟩
    exact h.unique (fun _ => htokens.isIdentifierText) h'

theorem parse_grammar_map :
    let tokens : List TypeToken := [.identifier "Map", .openAngle, .question, .comma,
      .identifier "T", .openBracket, .closeBracket, .closeAngle]
    let type : TypeExpr := .named "Map" [.wildcard, .array (.named "T" [])]
    Tokenizes "Map<?, T[]>".toList tokens
    ∧ Tokenizes " Map < ?,T [ ] >".toList tokens
    ∧ DerivesType tokens type
    ∧ parse "Map<?, T[]>" = .ok type
    ∧ (parse "Map<?, T[]>").mapError TypeError.unplaced =
      (parse " Map < ?,T [ ] >").mapError TypeError.unplaced := by
  intro tokens type
  have htokens : Tokenizes "Map<?, T[]>".toList tokens := by decide +kernel
  have hother : Tokenizes " Map < ?,T [ ] >".toList tokens := by decide +kernel
  have hderives : DerivesType tokens type :=
    (DerivesHead.parameterized (.single "Map") (by decide)
      (.more .wildcard (.last (.type (DerivesHead.toType (.bare (.single "T") (by decide))).array
        rfl)))).toType
  obtain ⟨hparse, honly⟩ := parse_grammar "Map<?, T[]>"
  exact ⟨htokens, hother, hderives, (hparse type).2 ⟨tokens, htokens, hderives⟩,
    (honly tokens htokens).2.2 _ hother⟩

end TypeExpr

end TypeWitness
