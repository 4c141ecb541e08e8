import TypeWitness.Proofs.TokenPlaces

/-! # The places of errors in type expressions
The reader takes in tokens as long as they can be the beginning of a type. From every state there
are tokens that complete a type, so what was taken in so far begins some text that is accepted. The
token at which the reader fails cannot stand there, whatever follows.

* `TypeState.step_error` — a step fails at its token.
* `TypeState.run_error_cases` — where the reader was when it failed.
* `TypeState.exists_completion` — every state can be completed.
* `TypeExpr.parse_error_places` — where errors are reported. -/

namespace TypeWitness

/-- The place that an error of the reader points at. -/
def TypeError.place? : TypeError → Option Nat
  | expected _ offset => some offset
  | trailing offset => some offset
  | empty | strayCharacter _ _ | primitiveArgument _ => none

namespace TypeState

/-! ## Where a step fails -/

/-- The text may end in a state, with a type that does not depend on where it ends. -/
def Completes (state : TypeState) : Prop := ∃ type, ∀ offset, state.finish offset = .ok type

/-- An error of the reader points at the place where it is noticed, if at any. It is that of further
input only if the type was complete. -/
def PointsAt (offset : Nat) (complete : Prop) : TypeError → Prop
  | .expected _ place => place = offset
  | .trailing place => place = offset ∧ complete
  | .primitiveArgument _ => True
  | .empty | .strayCharacter _ _ => False

theorem PointsAt.eq_offset {offset place : Nat} {complete : Prop} {error : TypeError}
    (h : PointsAt offset complete error) (hplace : error.place? = some place) :
    place = offset ∧ (error = .trailing place → complete) := by
  cases error with
  | expected what place =>
    cases hplace
    exact ⟨h, nofun⟩
  | trailing place =>
    cases hplace
    exact ⟨h.1, fun _ => h.2⟩
  | empty | strayCharacter | primitiveArgument => cases hplace

variable {type : TypeExpr} {stack : List TypeFrame} {token : PlacedToken} {error : TypeError}

theorem settle_error (h : settle type stack token = .error error) :
    PointsAt token.offset (∃ whole, ∀ offset, settleEnd type offset stack = .ok whole) error := by
  induction stack generalizing type with
  | nil =>
    cases h
    exact ⟨rfl, type, fun _ => rfl⟩
  | cons frame stack ih =>
    cases frame with
    | argument name before =>
      rw [settle] at h
      split at h
      · cases h
        exact trivial
      · split at h <;> cases h
        exact rfl
    | extendsBound => exact ih h
    | superBound => exact ih h

theorem continueType_error (h : continueType type stack token = .error error) :
    PointsAt token.offset (∃ whole, ∀ offset, settleEnd type offset stack = .ok whole) error := by
  rw [continueType] at h
  split at h
  · cases h
  · exact settle_error h

/-- **A step fails at its token.** -/
theorem step_error {state : TypeState} (h : state.step token = .error error) :
    PointsAt token.offset state.Completes error := by
  obtain ⟨phase, stack⟩ := state
  cases phase with
  | start =>
    simp only [step] at h
    split at h <;> cases h
    exact rfl
  | namePart name =>
    simp only [step] at h
    split at h <;> cases h
    exact rfl
  | afterName name =>
    simp only [step] at h
    split at h
    · cases h
    · split at h
      · next hprimitive =>
        rw [← typeOfName_of_primitive hprimitive] at h
        exact settle_error h
      · cases h
    · exact continueType_error h
  | afterQuestion =>
    simp only [step] at h
    split at h
    · cases h
    · cases h
    · exact settle_error h
  | bracket element =>
    simp only [step] at h
    split at h <;> cases h
    exact rfl
  | afterType type => exact continueType_error h

theorem settleEnd_error {offset : Nat} (h : settleEnd type offset stack = .error error) :
    PointsAt offset False error := by
  induction stack generalizing type with
  | nil => cases h
  | cons frame stack ih =>
    cases frame with
    | argument name before =>
      rw [settleEnd] at h
      split at h <;> cases h
      · exact trivial
      · exact rfl
    | extendsBound => exact ih h
    | superBound => exact ih h

/-- At the end the reader fails where the text ends, and never for further input. -/
theorem finish_error {state : TypeState} {offset : Nat} (h : state.finish offset = .error error) :
    PointsAt offset False error := by
  obtain ⟨phase, stack⟩ := state
  cases phase with
  | start | namePart | bracket =>
    cases h
    exact rfl
  | afterName | afterQuestion | afterType => exact settleEnd_error h

/-! ## Where the reader was when it failed -/

/-- A step leads to the same state wherever its token stands. -/
theorem step_eq_ok_of_token_eq {state next : TypeState} {first second : PlacedToken}
    (hstep : state.step first = .ok next) (h : first.token = second.token) :
    state.step second = .ok next := by
  have heq := state.step_unplaced h
  rw [hstep] at heq
  cases hsecond : state.step second with
  | error error =>
    rw [hsecond] at heq
    cases heq
  | ok other =>
    rw [hsecond] at heq
    cases heq
    rfl

/-- **Where the reader was when it failed**: in a state that it got to over the tokens so far, and
before a token or at the end. -/
theorem run_error_cases {state : TypeState} {placed : List PlacedToken} {offset : Nat}
    (h : state.run offset placed = .error error) :
    (∃ before token after middle, placed = before ++ token :: after
      ∧ Reads state (before.map (·.token)) middle ∧ middle.step token = .error error)
    ∨ ∃ last, Reads state (placed.map (·.token)) last ∧ last.finish offset = .error error := by
  induction placed generalizing state with
  | nil => exact .inr ⟨state, .nil state, h⟩
  | cons token placed ih =>
    rw [run] at h
    cases hstep : state.step token with
    | error found =>
      rw [hstep] at h
      cases h
      exact .inl ⟨[], token, placed, state, rfl, .nil state, hstep⟩
    | ok next =>
      rw [hstep] at h
      have hcons : ∀ {tokens last}, Reads next tokens last →
          Reads state (token.token :: tokens) last :=
        .cons fun offset => step_eq_ok_of_token_eq hstep rfl
      rcases ih h with ⟨before, other, after, middle, rfl, hreads, herror⟩ | ⟨last, hreads, herror⟩
      · exact .inl ⟨token :: before, other, after, middle, rfl, hcons hreads, herror⟩
      · exact .inr ⟨last, hcons hreads, herror⟩

/-! ## Every state can be completed -/

/-- Some tokens lead from a state to one in which the text may end. -/
def Completable (state : TypeState) : Prop :=
  ∃ tokens last, IdentifiersReadable tokens ∧ Reads state tokens last ∧ last.Completes

/-- A state can be completed when a step leads from it to one that can. -/
theorem Completable.cons {state next : TypeState} (token : TypeToken)
    (htoken : IdentifiersReadable [token]) (hstep : ∀ offset, state.step ⟨token, offset⟩ = .ok next)
    (h : next.Completable) : state.Completable := by
  obtain ⟨tokens, last, hreadable, hreads, hcompletes⟩ := h
  exact ⟨token :: tokens, last, identifiersReadable_append.2 ⟨htoken, hreadable⟩,
    .cons hstep hreads, hcompletes⟩

/-- A token that is no identifier needs none to be readable. -/
theorem identifiersReadable_of_ne {token : TypeToken} (h : ∀ name, token ≠ .identifier name) :
    IdentifiersReadable [token] :=
  fun name hname => absurd (List.mem_singleton.1 hname).symm (h name)

/-- A type that is no bare primitive one is completed by closing the types that are open around
it. -/
theorem completable_of_settles {state : TypeState} (type : TypeExpr)
    (hprimitive : type.primitiveName? = none)
    (hclose : ∀ offset, state.step ⟨.closeAngle, offset⟩ = settle type stack ⟨.closeAngle, offset⟩)
    (hend : ∀ offset, state.finish offset = settleEnd type offset stack) : state.Completable := by
  induction stack generalizing type state with
  | nil =>
    exact ⟨[], state, fun _ hname => absurd hname List.not_mem_nil, .nil state, type, hend⟩
  | cons frame stack ih =>
    cases frame with
    | argument name before =>
      have hstep : ∀ offset, state.step ⟨.closeAngle, offset⟩ =
          .ok ⟨.afterType (.named name (before ++ [type])), stack⟩ := by
        intro offset
        rw [hclose, settle, hprimitive]
      exact .cons .closeAngle (identifiersReadable_of_ne fun _ => TypeToken.noConfusion) hstep
        (ih _ rfl (fun _ => rfl) fun _ => rfl)
    | extendsBound => exact ih _ rfl hclose hend
    | superBound => exact ih _ rfl hclose hend

/-- An array is completed by its bracket and by closing what is open. -/
theorem completable_bracket (element : TypeExpr) (stack : List TypeFrame) :
    Completable ⟨.bracket element, stack⟩ :=
  .cons .closeBracket (identifiersReadable_of_ne fun _ => TypeToken.noConfusion) (fun _ => rfl)
    (completable_of_settles (.array element) rfl (fun _ => rfl) fun _ => rfl)

/-- A name may be that of a primitive type, but an array of it may stand everywhere. -/
theorem completable_afterName (name : String) (stack : List TypeFrame) :
    Completable ⟨.afterName name, stack⟩ :=
  .cons .openBracket (identifiersReadable_of_ne fun _ => TypeToken.noConfusion) (fun _ => rfl)
    (completable_bracket _ stack)

/-- **Every state can be completed.** -/
theorem exists_completion (state : TypeState) : state.Completable := by
  have hreadable : IdentifiersReadable [.identifier "x"] := by
    intro name hname
    cases List.mem_singleton.1 hname
    decide +kernel
  obtain ⟨phase, stack⟩ := state
  cases phase with
  | start => exact .cons _ hreadable (fun _ => rfl) (completable_afterName "x" stack)
  | namePart name => exact .cons _ hreadable (fun _ => rfl) (completable_afterName _ stack)
  | afterName name => exact completable_afterName name stack
  | afterQuestion => exact completable_of_settles .wildcard rfl (fun _ => rfl) fun _ => rfl
  | bracket element => exact completable_bracket element stack
  | afterType type =>
    exact .cons .openBracket (identifiersReadable_of_ne fun _ => TypeToken.noConfusion)
      (fun _ => rfl) (completable_bracket type stack)

end TypeState

/-! ## Texts -/

open TypeState

/-- A text of these tokens is accepted. -/
def Accepted (tokens : List TypeToken) : Prop :=
  ∃ (text : String) (type : TypeExpr), Tokenizes text.toList tokens
    ∧ TypeExpr.parse text = .ok type

namespace TypeExpr

variable {text : String} {tokens : List TypeToken} {last : TypeState}

/-- What is read from a text over whose tokens the reader gets to a state. -/
theorem parse_of_reads (h : Tokenizes text.toList tokens) (hne : tokens ≠ [])
    (hreads : Reads .initial tokens last) :
    parse text = last.finish (byteLength text.toList) := by
  obtain ⟨placed, hscan, hplaced⟩ := h.scans 0
  rw [parse, hscan]
  cases placed with
  | nil => exact absurd hplaced.symm hne
  | cons first placed =>
    have hrun := hreads (first :: placed) hplaced (byteLength text.toList) []
    rwa [List.append_nil] at hrun

/-- The reader is in no state in which the text may end before it has taken in a token. -/
theorem ne_nil_of_completes (hreads : Reads .initial tokens last) (hcompletes : last.Completes) :
    tokens ≠ [] := by
  rintro rfl
  obtain ⟨type, hfinish⟩ := hcompletes
  have hrun := hreads [] rfl 0 []
  rw [List.append_nil, TypeState.run, TypeState.run, hfinish] at hrun
  cases hrun

/-- All texts of some tokens are accepted when the reader gets over them to a state in which a text
may end. -/
theorem exists_type_of_completes (hreads : Reads .initial tokens last)
    (hcompletes : last.Completes) :
    ∃ type, ∀ text : String, Tokenizes text.toList tokens → parse text = .ok type := by
  have hne := ne_nil_of_completes hreads hcompletes
  obtain ⟨type, hfinish⟩ := hcompletes
  refine ⟨type, fun text h => ?_⟩
  rw [parse_of_reads h hne hreads, hfinish]

/-- There is such a text. -/
theorem accepted_of_completes (hreadable : IdentifiersReadable tokens)
    (hreads : Reads .initial tokens last) (hcompletes : last.Completes) : Accepted tokens := by
  obtain ⟨type, hparse⟩ := exists_type_of_completes hreads hcompletes
  have htext : Tokenizes (String.ofList (spell tokens)).toList tokens := by
    rw [String.toList_ofList]
    exact tokenizes_spell hreadable
  exact ⟨_, type, htext, hparse _ htext⟩

/-- **What the reader gets over begins a text that is accepted.** -/
theorem accepted_beginning (hreadable : IdentifiersReadable tokens)
    (hreads : Reads .initial tokens last) : ∃ others, Accepted (tokens ++ others) := by
  obtain ⟨others, state, hothers, hcompletion, hcompletes⟩ := last.exists_completion
  exact ⟨others, accepted_of_completes (identifiersReadable_append.2 ⟨hreadable, hothers⟩)
    (hreads.append hcompletion) hcompletes⟩

/-- **Where the reader fails no text goes on.** -/
theorem not_accepted_of_step {token : PlacedToken} {error : TypeError}
    (hreads : Reads .initial tokens last) (hstep : last.step token = .error error)
    (others : List TypeToken) : ¬ Accepted (tokens ++ token.token :: others) := by
  rintro ⟨text, type, htext, hparse⟩
  obtain ⟨placed, hscan, hplaced⟩ := htext.scans 0
  obtain ⟨before, rest, rfl, hbefore, hrest⟩ := List.map_eq_append_iff.1 hplaced
  obtain ⟨same, after, rfl, hsame, -⟩ := List.map_eq_cons_iff.1 hrest
  -- the reader is in the same state before the same token
  have hrun := hreads before hbefore (byteLength text.toList) (same :: after)
  have hparse' : TypeState.initial.run (byteLength text.toList) (before ++ same :: after) =
      .ok type := by
    rw [parse, hscan] at hparse
    cases before with
    | nil => exact hparse
    | cons first before => exact hparse
  rw [hparse', TypeState.run] at hrun
  cases hfound : last.step same with
  | error found =>
    rw [hfound] at hrun
    cases hrun
  | ok next =>
    rw [step_eq_ok_of_token_eq hfound hsame] at hstep
    cases hstep

/-- How the place of an error is told by the tokens of the text: by as many of them as begin before
it. These begin a text that is accepted, and make one up if only what follows is wrong. With the
next token, which is the one at the place, they begin no such text. -/
structure OffendsAt (text : String) (placed : List PlacedToken) (error : TypeError)
    (place count : Nat) : Prop where
  count_eq : count = placed.countP (·.offset < place)
  place_eq : place = (placed[count]?.map (·.offset)).getD (byteLength text.toList)
  beginning : ∃ others, Accepted ((placed.map (·.token)).take count ++ others)
  complete : error = .trailing place → Accepted ((placed.map (·.token)).take count)
    ∧ ∃ type, ∀ other : String, Tokenizes other.toList ((placed.map (·.token)).take count) →
      parse other = .ok type
  offends : count < placed.length →
    ∀ others, ¬ Accepted ((placed.map (·.token)).take (count + 1) ++ others)

/-- The reader fails at a token. -/
theorem offendsAt_of_step {before after : List PlacedToken} {token : PlacedToken}
    {middle : TypeState} {error : TypeError} {place : Nat}
    (hplaced : PlacedFrom 0 text.toList (before ++ token :: after))
    (hreads : Reads .initial (before.map (·.token)) middle)
    (hstep : middle.step token = .error error) (hplace : error.place? = some place) :
    OffendsAt text (before ++ token :: after) error place before.length := by
  obtain ⟨rfl, hcomplete⟩ := (step_error hstep).eq_offset hplace
  have htake : ((before ++ token :: after).map (·.token)).take before.length =
      before.map (·.token) := by
    rw [List.map_append, List.take_left' (List.length_map _)]
  have htakeNext : ((before ++ token :: after).map (·.token)).take (before.length + 1) =
      before.map (·.token) ++ [token.token] := by
    rw [List.map_append, List.map_cons, List.take_append, List.length_map,
      List.take_of_length_le (by simp), Nat.add_sub_cancel_left, List.take_succ_cons,
      List.take_zero]
  have hreadable : IdentifiersReadable (before.map (·.token)) := by
    have hall : IdentifiersReadable ((before ++ token :: after).map (·.token)) :=
      fun _ => hplaced.tokenizes.isIdentifierText
    rw [List.map_append, identifiersReadable_append] at hall
    exact hall.1
  refine ⟨hplaced.countP_offset_lt.symm, ?_, ?_, fun htrailing => ?_, fun _ others => ?_⟩
  · rw [List.getElem?_append_right (Nat.le_refl _), Nat.sub_self]
    rfl
  · rw [htake]
    exact accepted_beginning hreadable hreads
  · rw [htake]
    exact ⟨accepted_of_completes hreadable hreads (hcomplete htrailing),
      exists_type_of_completes hreads (hcomplete htrailing)⟩
  · rw [htakeNext, List.append_assoc]
    exact not_accepted_of_step hreads hstep others

/-- The reader fails at the end. -/
theorem offendsAt_of_finish {placed : List PlacedToken} {error : TypeError} {place : Nat}
    (hplaced : PlacedFrom 0 text.toList placed)
    (hreads : Reads .initial (placed.map (·.token)) last)
    (hfinish : last.finish (byteLength text.toList) = .error error)
    (hplace : error.place? = some place) :
    OffendsAt text placed error place placed.length := by
  obtain ⟨rfl, hcomplete⟩ := (finish_error hfinish).eq_offset hplace
  have htake : (placed.map (·.token)).take placed.length = placed.map (·.token) :=
    List.take_of_length_le (Nat.le_of_eq (List.length_map _))
  refine ⟨hplaced.countP_offset_lt_byteLength.symm, ?_, ?_, fun htrailing => ?_, fun hlt => ?_⟩
  · rw [List.getElem?_eq_none (Nat.le_refl _)]
    rfl
  · rw [htake]
    exact accepted_beginning (fun _ => hplaced.tokenizes.isIdentifierText) hreads
  · exact (hcomplete htrailing).elim
  · exact absurd hlt (Nat.lt_irrefl _)

/-- The reader itself reports no stray characters. -/
theorem ofTokens_ne_stray (offset : Nat) (placed : List PlacedToken) (c : Char) (place : Nat) :
    ofTokens offset placed ≠ .error (.strayCharacter c place) := by
  intro h
  cases placed with
  | nil => cases h
  | cons token placed =>
    rcases run_error_cases h with ⟨_, _, _, _, _, _, hstep⟩ | ⟨_, _, hfinish⟩
    · exact step_error hstep
    · exact finish_error hfinish

/-- **The character that is reported is the first stray one.** -/
theorem parse_eq_stray_iff {c : Char} {offset : Nat} :
    parse text = .error (.strayCharacter c offset) ↔ IsFirstStray text.toList c offset := by
  rw [← @scan_eq_error_iff text.toList ⟨c, offset⟩, parse]
  cases TypeToken.scan 0 text.toList with
  | error stray =>
    constructor
    · intro h
      cases h
      rfl
    · intro h
      cases h
      rfl
  | ok placed =>
    refine ⟨fun h => absurd h (ofTokens_ne_stray _ _ _ _), fun h => ?_⟩
    cases h

/-- A character is reported whenever there is a stray one. -/
theorem exists_firstStray_iff {cs : List Char} :
    (∃ c offset, IsFirstStray cs c offset) ↔
      ∃ before c after, cs = before ++ c :: after ∧ IsStray before c := by
  constructor
  · rintro ⟨c, offset, before, after, heq, -, hstray, -⟩
    exact ⟨before, c, after, heq, hstray⟩
  · rintro ⟨before, c, after, heq, hstray⟩
    cases hscan : TypeToken.scan 0 cs with
    | ok placed => exact absurd hstray (noStrayIn_iff_scan.2 ⟨placed, hscan⟩ before c after heq)
    | error stray => exact ⟨stray.char, stray.offset, scan_eq_error_iff.1 hscan⟩

/-- **Errors of the reader stand at the first token that offends.** -/
theorem exists_offendsAt {error : TypeError} {place : Nat} (h : parse text = .error error)
    (hplace : error.place? = some place) :
    ∃ placed count, PlacedFrom 0 text.toList placed ∧ OffendsAt text placed error place count := by
  rw [parse] at h
  cases hscan : TypeToken.scan 0 text.toList with
  | error stray =>
    rw [hscan] at h
    cases h
    cases hplace
  | ok placed =>
    rw [hscan] at h
    have hplaced := placedFrom_of_scan hscan
    cases placed with
    | nil =>
      cases h
      cases hplace
    | cons first placed =>
      rcases run_error_cases h with
        ⟨before, token, after, middle, heq, hreads, hstep⟩ | ⟨last, hreads, hfinish⟩
      · rw [heq] at hplaced
        exact ⟨_, _, hplaced, offendsAt_of_step hplaced hreads hstep hplace⟩
      · exact ⟨_, _, hplaced, offendsAt_of_finish hplaced hreads hfinish hplace⟩

/-- **Errors point at what is wrong.** When something else is needed at a place, or the text goes on
there behind a type, the place is that of a token or the end of the text. The tokens before it begin
a text that is accepted, and make one up if the type was complete; with the token at the place they
do not. A character is reported exactly when it is the first one that begins no token where one is
needed, and one is reported whenever there is such a character. -/
theorem parse_error_places (text : String) :
    (∀ error place, parse text = .error error → error.place? = some place →
      ∃ placed count, PlacedFrom 0 text.toList placed ∧ OffendsAt text placed error place count)
    ∧ (∀ c offset, parse text = .error (.strayCharacter c offset) ↔
      IsFirstStray text.toList c offset)
    ∧ ((∃ c offset, parse text = .error (.strayCharacter c offset)) ↔
      ∃ before c after, text.toList = before ++ c :: after ∧ IsStray before c) := by
  refine ⟨fun _ _ => exists_offendsAt, fun _ _ => parse_eq_stray_iff, ?_⟩
  simp only [parse_eq_stray_iff, exists_firstStray_iff]

/-- A letter of two bytes stands before the token that offends. -/
theorem parse_error_places_map :
    ∃ error placed count, parse "Map<é, >" = .error error
      ∧ PlacedFrom 0 "Map<é, >".toList placed ∧ OffendsAt "Map<é, >" placed error 8 count := by
  have hplace : (((parse "Map<é, >").map fun _ => none).tryCatch
      fun error => .ok error.place?).toOption = some (some 8) := by decide +kernel
  cases hparse : parse "Map<é, >" with
  | ok type =>
    rw [hparse] at hplace
    cases hplace
  | error error =>
    rw [hparse] at hplace
    obtain ⟨placed, count, h⟩ :=
      (parse_error_places "Map<é, >").1 error 8 hparse (Option.some.inj hplace)
    exact ⟨error, placed, count, rfl, h⟩

end TypeExpr

end TypeWitness
