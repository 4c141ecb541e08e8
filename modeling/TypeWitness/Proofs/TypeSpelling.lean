import TypeWitness.Proofs.TypeReading

/-! # What the reader has read
Every state of the reader tells the tokens that were read so far, and holds only types that can be
written in their places. So a type that is read is spelled by the tokens of its text, and by no
others; together with the way over the tokens of a type this says which texts are read as which
types.

* `TypeState.step_spec` — what one step keeps.
* `TypeState.run_spec` — what a run keeps.
* `TypeExpr.parse_eq_ok_iff` — the texts of a type.
* `TypeExpr.parse_render` — what is written is read back. -/

namespace TypeWitness

open TypeExpr

/-! ## Tokens of open types -/

/-- The tokens of type arguments, each with the comma behind it. -/
def tokensBefore (types : List TypeExpr) : List TypeToken :=
  types.flatMap fun type => type.tokens ++ [.comma]

/-- The tokens of a type with arguments, the last one apart. -/
theorem tokens_named_append (name : String) (before : List TypeExpr) (last : TypeExpr) :
    (named name (before ++ [last])).tokens =
      nameTokens name ++ .openAngle :: (tokensBefore before ++ last.tokens ++ [.closeAngle]) := by
  have hrest : ∀ first : TypeExpr, ∀ types : List TypeExpr,
      first.tokens ++ tokensOfRest (types ++ [last]) =
        tokensBefore (first :: types) ++ last.tokens := by
    intro first types
    induction types generalizing first with
    | nil => simp [tokensOfRest, tokensBefore]
    | cons type types ih =>
      rw [List.cons_append, tokensOfRest, ih]
      simp [tokensBefore]
  cases before with
  | nil => simp [tokens, tokensOfRest, tokensBefore]
  | cons first types =>
    rw [List.cons_append, tokens, ← hrest]
    simp

namespace TypeFrame

/-- The tokens that opened a type. -/
def tokens : TypeFrame → List TypeToken
  | argument name before => nameTokens name ++ .openAngle :: tokensBefore before
  | extendsBound => [.question, .identifier "extends"]
  | superBound => [.question, .identifier "super"]

/-- Whether type arguments are being read. -/
def isArgument : TypeFrame → Bool
  | argument .. => true
  | _ => false

end TypeFrame

/-- Whether the innermost open type is one whose type arguments are being read. -/
def insideArguments (stack : List TypeFrame) : Bool := stack.head?.any (·.isArgument)

/-- The tokens that opened all open types, the outermost first. -/
def stackTokens (stack : List TypeFrame) : List TypeToken := stack.reverse.flatMap (·.tokens)

/-- Whether open types can be completed: wildcards stand inside type arguments, and what was read of
the type arguments can be written there. -/
def stackWellFormed : List TypeFrame → Bool
  | [] => true
  | .argument name before :: stack =>
    isQualifiedName name && !isPrimitiveName name && before.all (·.wellFormed .argument)
      && stackWellFormed stack
  | .extendsBound :: stack => insideArguments stack && stackWellFormed stack
  | .superBound :: stack => insideArguments stack && stackWellFormed stack

@[simp] theorem stackTokens_cons (frame : TypeFrame) (stack : List TypeFrame) :
    stackTokens (frame :: stack) = stackTokens stack ++ frame.tokens := by
  simp [stackTokens]

/-- Whether a type can be written inside the open types. -/
def Fits (type : TypeExpr) (stack : List TypeFrame) : Prop :=
  type.wellFormed .whole = true
  ∨ type.wellFormed .argument = true ∧ insideArguments stack = true

/-- A type that can be written by itself can be an argument unless it is primitive. -/
theorem TypeExpr.wellFormed_argument_of_whole {type : TypeExpr}
    (h : type.wellFormed .whole = true) (hprimitive : type.primitiveName? = none) :
    type.wellFormed .argument = true := by
  cases type with
  | primitive name => cases hprimitive
  | named name arguments => rwa [wellFormed] at h ⊢
  | array element => rwa [wellFormed] at h ⊢
  | wildcard => rfl
  | wildcardExtends bound => cases h
  | wildcardSuper bound => cases h

namespace TypeState

/-! ## One step -/

/-- Whether a state holds only types that can be written in their places. -/
def wellFormed (state : TypeState) : Bool :=
  stackWellFormed state.stack &&
    match state.phase with
    | .start => true
    | .namePart name => isQualifiedName name
    | .afterName name => isQualifiedName name
    | .afterQuestion => insideArguments state.stack
    | .bracket element => element.wellFormed .whole
    | .afterType type => type.wellFormed .whole

/-- The tokens that were read of the innermost type. -/
def phaseTokens : TypePhase → List TypeToken
  | .start => []
  | .namePart name => nameTokens name ++ [.dot]
  | .afterName name => nameTokens name
  | .afterQuestion => [.question]
  | .bracket element => element.tokens ++ [.openBracket]
  | .afterType type => type.tokens

/-- The tokens that were read. -/
def tokens (state : TypeState) : List TypeToken :=
  stackTokens state.stack ++ phaseTokens state.phase

/-- A state is reached over the given tokens when it tells them and holds only types that can be
written in their places. -/
def ReachedOver (tokens : List TypeToken) (state : TypeState) : Prop :=
  state.wellFormed = true ∧ state.tokens = tokens

/-- A complete type is taken in by the innermost open type. -/
theorem settle_spec {type : TypeExpr} {stack : List TypeFrame}
    (hstack : stackWellFormed stack = true) (htype : Fits type stack) {token : PlacedToken}
    {next : TypeState} (h : settle type stack token = .ok next) :
    ReachedOver (stackTokens stack ++ type.tokens ++ [token.token]) next := by
  -- wildcards around the type are completed one by one, up to a list of type arguments
  induction stack generalizing type with
  | nil => cases h
  | cons frame stack ih =>
    cases frame with
    | argument name before =>
      rw [stackWellFormed, Bool.and_eq_true, Bool.and_eq_true, Bool.and_eq_true] at hstack
      obtain ⟨⟨⟨hname, hprimitive⟩, hbefore⟩, hstack⟩ := hstack
      rw [settle] at h
      split at h
      · cases h
      · next hnone =>
        have hargument : type.wellFormed .argument = true := by
          rcases htype with hwhole | ⟨hargument, -⟩
          · exact wellFormed_argument_of_whole hwhole hnone
          · exact hargument
        have hall : (before ++ [type]).all (·.wellFormed .argument) = true := by
          rw [List.all_append, hbefore, Bool.true_and]
          simpa using hargument
        split at h
        · next hcomma =>
          cases h
          constructor
          · simp [wellFormed, stackWellFormed, hname, hprimitive, hall, hstack]
          · simp [tokens, phaseTokens, TypeFrame.tokens, tokensBefore, hcomma]
        · next hclose =>
          cases h
          constructor
          · simp [wellFormed, TypeExpr.wellFormed, wellFormedArguments_eq, hname, hprimitive, hall,
              hstack]
          · simp [tokens, phaseTokens, TypeFrame.tokens, tokens_named_append, hclose]
        · cases h
    | extendsBound =>
      rw [stackWellFormed, Bool.and_eq_true] at hstack
      have hwhole := htype.resolve_right fun hinside => Bool.false_ne_true hinside.2
      have hfits : Fits (.wildcardExtends type) stack := .inr ⟨hwhole, hstack.1⟩
      have hnext := ih hstack.2 hfits h
      simpa [TypeExpr.tokens, TypeFrame.tokens] using hnext
    | superBound =>
      rw [stackWellFormed, Bool.and_eq_true] at hstack
      have hwhole := htype.resolve_right fun hinside => Bool.false_ne_true hinside.2
      have hfits : Fits (.wildcardSuper type) stack := .inr ⟨hwhole, hstack.1⟩
      have hnext := ih hstack.2 hfits h
      simpa [TypeExpr.tokens, TypeFrame.tokens] using hnext

/-- A type that is no wildcard is continued to an array or taken in. -/
theorem continueType_spec {type : TypeExpr} {stack : List TypeFrame}
    (hstack : stackWellFormed stack = true) (htype : type.wellFormed .whole = true)
    {token : PlacedToken} {next : TypeState} (h : continueType type stack token = .ok next) :
    ReachedOver (stackTokens stack ++ type.tokens ++ [token.token]) next := by
  rw [continueType] at h
  split at h
  · next hopen =>
    cases h
    constructor
    · simp [wellFormed, hstack, htype]
    · simp [tokens, phaseTokens, hopen]
  · exact settle_spec hstack (.inl htype) h

/-- The type that a name stands for can be written by itself, and is spelled by the name. -/
theorem typeOfName_spec {name : String} (h : isQualifiedName name = true) :
    (typeOfName name).wellFormed .whole = true ∧ (typeOfName name).tokens = nameTokens name := by
  cases hprimitive : isPrimitiveName name with
  | true =>
    rw [typeOfName_of_primitive hprimitive, TypeExpr.tokens,
      nameTokens_of_isIdentifierText (isIdentifierText_of_isPrimitiveName hprimitive)]
    exact ⟨hprimitive, rfl⟩
  | false =>
    rw [typeOfName_of_not_primitive hprimitive, TypeExpr.tokens]
    refine ⟨?_, rfl⟩
    rw [TypeExpr.wellFormed, h, hprimitive]
    rfl

/-- A name is continued, opens a list of type arguments, or is a complete type. -/
theorem step_afterName_spec {name : String} {stack : List TypeFrame} {token : PlacedToken}
    {next : TypeState} (hstack : stackWellFormed stack = true) (hname : isQualifiedName name = true)
    (h : step ⟨.afterName name, stack⟩ token = .ok next) :
    ReachedOver (tokens ⟨.afterName name, stack⟩ ++ [token.token]) next := by
  obtain ⟨htype, hspelled⟩ := typeOfName_spec hname
  simp only [step] at h
  split at h
  · next heq =>
    cases h
    constructor
    · simp [wellFormed, hstack, hname]
    · simp [tokens, phaseTokens, heq]
  · next heq =>
    split at h
    · next hprimitive =>
      rw [← typeOfName_of_primitive hprimitive] at h
      have hnext := settle_spec hstack (.inl htype) h
      rwa [hspelled] at hnext
    · next hprimitive =>
      cases h
      constructor
      · simp [wellFormed, stackWellFormed, hstack, hname, hprimitive]
      · simp [tokens, phaseTokens, TypeFrame.tokens, tokensBefore, heq]
  · have hnext := continueType_spec hstack htype h
    rwa [hspelled] at hnext

/-- **What one step keeps.** The next state tells one more token. -/
theorem step_spec {state next : TypeState} {token : PlacedToken} (hstate : state.wellFormed = true)
    (htoken : ∀ name, token.token = .identifier name → isIdentifierText name.toList = true)
    (h : state.step token = .ok next) : ReachedOver (state.tokens ++ [token.token]) next := by
  -- the cases are the phases, and in each the tokens that it goes on with
  obtain ⟨phase, stack⟩ := state
  rw [wellFormed, Bool.and_eq_true] at hstate
  obtain ⟨hstack, hphase⟩ := hstate
  cases phase with
  | start =>
    simp only [step] at h
    split at h
    · next name heq =>
      cases h
      have hname := htoken name heq
      constructor
      · simp [wellFormed, hstack, isQualifiedName_of_isIdentifierText hname]
      · simp [tokens, phaseTokens, heq, nameTokens_of_isIdentifierText hname]
    · next heq =>
      cases h
      constructor
      · simp [wellFormed, hstack, insideArguments, TypeFrame.isArgument]
      · simp [tokens, phaseTokens, heq]
    · cases h
  | namePart name =>
    simp only [step] at h
    split at h
    · next part heq =>
      cases h
      have hpart := htoken part heq
      constructor
      · simp [wellFormed, hstack, isQualifiedName_append hphase hpart]
      · simp [tokens, phaseTokens, heq, nameTokens_append hpart]
    · cases h
  | afterName name => exact step_afterName_spec hstack hphase h
  | afterQuestion =>
    have hinside : insideArguments stack = true := hphase
    simp only [step] at h
    split at h
    · next heq =>
      cases h
      constructor
      · simp [wellFormed, stackWellFormed, hstack, hinside]
      · simp [tokens, phaseTokens, TypeFrame.tokens, heq]
    · next heq =>
      cases h
      constructor
      · simp [wellFormed, stackWellFormed, hstack, hinside]
      · simp [tokens, phaseTokens, TypeFrame.tokens, heq]
    · exact settle_spec hstack (.inr ⟨rfl, hinside⟩) h
  | bracket element =>
    simp only [step] at h
    split at h
    · next heq =>
      cases h
      constructor
      · simpa [wellFormed, TypeExpr.wellFormed, hstack] using hphase
      · simp [tokens, phaseTokens, TypeExpr.tokens, heq]
    · cases h
  | afterType type => exact continueType_spec hstack hphase h

/-! ## A whole run -/

/-- A type that is still inside others is not complete. -/
theorem settleEnd_spec {type type' : TypeExpr} {stack : List TypeFrame} {offset : Nat}
    (hstack : stackWellFormed stack = true) (h : settleEnd type offset stack = .ok type') :
    stack = [] ∧ type' = type := by
  induction stack generalizing type with
  | nil =>
    cases h
    exact ⟨rfl, rfl⟩
  | cons frame stack ih =>
    -- inside type arguments there is an open type, so nothing is complete there
    have hinner : ∀ {type : TypeExpr}, insideArguments stack = true →
        stackWellFormed stack = true → settleEnd type offset stack ≠ .ok type' := by
      intro type hinside hstack h
      rw [(ih hstack h).1] at hinside
      cases hinside
    cases frame with
    | argument name before =>
      rw [settleEnd] at h
      split at h <;> cases h
    | extendsBound =>
      rw [stackWellFormed, Bool.and_eq_true] at hstack
      exact absurd h (hinner hstack.1 hstack.2)
    | superBound =>
      rw [stackWellFormed, Bool.and_eq_true] at hstack
      exact absurd h (hinner hstack.1 hstack.2)

/-- What is read when the text ends is spelled by all tokens that were read. -/
theorem finish_spec {state : TypeState} {type : TypeExpr} {offset : Nat}
    (hstate : state.wellFormed = true) (h : state.finish offset = .ok type) :
    type.wellFormed .whole = true ∧ type.tokens = state.tokens := by
  obtain ⟨phase, stack⟩ := state
  rw [wellFormed, Bool.and_eq_true] at hstate
  obtain ⟨hstack, hphase⟩ := hstate
  cases phase with
  | start => cases h
  | namePart name => cases h
  | bracket element => cases h
  | afterName name =>
    obtain ⟨rfl, rfl⟩ := settleEnd_spec hstack h
    exact typeOfName_spec hphase
  | afterQuestion =>
    obtain ⟨rfl, rfl⟩ := settleEnd_spec hstack h
    cases hphase
  | afterType type =>
    obtain ⟨rfl, rfl⟩ := settleEnd_spec hstack h
    exact ⟨hphase, rfl⟩

/-- **What a run keeps.** The type that is read is spelled by all tokens, those read before the run
and those read in it. -/
theorem run_spec {state : TypeState} {placed : List PlacedToken} {type : TypeExpr} {offset : Nat}
    (hstate : state.wellFormed = true)
    (hplaced : ∀ name, .identifier name ∈ placed.map (·.token) →
      isIdentifierText name.toList = true)
    (h : state.run offset placed = .ok type) :
    type.wellFormed .whole = true ∧ type.tokens = state.tokens ++ placed.map (·.token) := by
  induction placed generalizing state with
  | nil =>
    rw [List.map_nil, List.append_nil]
    exact finish_spec hstate h
  | cons token placed ih =>
    rw [run] at h
    cases hstep : state.step token with
    | error error =>
      rw [hstep] at h
      cases h
    | ok next =>
      rw [hstep] at h
      have htoken : ∀ name, token.token = .identifier name → isIdentifierText name.toList = true :=
        fun name heq => hplaced name (List.mem_cons.2 (.inl heq.symm))
      obtain ⟨hnext, hread⟩ := step_spec hstate htoken hstep
      obtain ⟨htype, hspelled⟩ :=
        ih hnext (fun name hmem => hplaced name (List.mem_cons_of_mem _ hmem)) h
      refine ⟨htype, ?_⟩
      rw [hspelled, hread, List.append_assoc]
      rfl

end TypeState

/-! ## Reading and writing -/

namespace TypeExpr

open TypeState

/-- The tokens of a type are read as the type. -/
theorem run_tokens {type : TypeExpr} (h : type.wellFormed .whole = true)
    {placed : List PlacedToken} (hplaced : placed.map (·.token) = type.tokens) (offset : Nat) :
    TypeState.initial.run offset placed = .ok type := by
  have hrun := reads_tokens type h [] nofun placed hplaced offset []
  rw [List.append_nil] at hrun
  exact hrun.trans (finish_behind h offset)

/-- **The texts of a type.** A text is read as a type exactly when the type can be written by itself
and the text is cut into the tokens of the type. -/
theorem parse_eq_ok_iff {text : String} {type : TypeExpr} :
    parse text = .ok type ↔ type.wellFormed .whole = true ∧ Scans text.toList type.tokens := by
  rw [parse]
  constructor
  · intro h
    split at h
    · cases h
    · next placed hscan =>
      have htokens := tokenizes_of_scan hscan
      cases placed with
      | nil => cases h
      | cons token placed =>
        obtain ⟨htype, hspelled⟩ := run_spec rfl (fun _ => htokens.isIdentifierText) h
        rw [show TypeState.initial.tokens = [] from rfl, List.nil_append] at hspelled
        exact ⟨htype, hspelled ▸ htokens.scans⟩
  · rintro ⟨htype, hscans⟩
    obtain ⟨placed, hscan, hplaced⟩ := hscans 0
    have hrun := run_tokens htype hplaced (byteLength text.toList)
    rw [hscan]
    cases placed with
    | nil => cases hrun
    | cons token placed => exact hrun

/-- **What is written is read back.** -/
theorem parse_render {type : TypeExpr} (h : type.wellFormed .whole = true) :
    parse type.render = .ok type := by
  have hscans := scans_render type h isBoundary_nil scans_nil
  rw [List.append_nil, List.append_nil] at hscans
  exact parse_eq_ok_iff.2 ⟨h, hscans⟩

end TypeExpr

end TypeWitness
