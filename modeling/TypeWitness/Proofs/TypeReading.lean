import TypeWitness.Proofs.TypeScanning

/-! # Reading the tokens of a type
The reader is followed over the tokens of a type, from the state before it to the state behind it.
A name or a wildcard may still be continued, so the state behind a type depends on how it ends.

* `TypeState.step_behind` — how a type argument is taken in by the type around it.
* `TypeExpr.reads_tokens` — over the tokens of a type the reader gets behind it. -/

namespace TypeWitness

open TypeExpr

namespace TypeState

/-- The reader gets from one state to another over some tokens, wherever these stand. -/
def Reads (state : TypeState) (tokens : List TypeToken) (next : TypeState) : Prop :=
  ∀ placed : List PlacedToken, placed.map (·.token) = tokens → ∀ offset rest,
    state.run offset (placed ++ rest) = next.run offset rest

theorem Reads.nil (state : TypeState) : Reads state [] state := by
  intro placed hplaced offset rest
  rw [List.map_eq_nil_iff.1 hplaced, List.nil_append]

theorem Reads.append {state middle next : TypeState} {tokens tokens' : List TypeToken}
    (h : Reads state tokens middle) (h' : Reads middle tokens' next) :
    Reads state (tokens ++ tokens') next := by
  intro placed hplaced offset rest
  obtain ⟨before, after, rfl, hbefore, hafter⟩ := List.map_eq_append_iff.1 hplaced
  rw [List.append_assoc, h before hbefore, h' after hafter]

/-- A step that does not depend on where its token stands. -/
theorem Reads.cons {state middle next : TypeState} {token : TypeToken} {tokens : List TypeToken}
    (hstep : ∀ offset, state.step ⟨token, offset⟩ = .ok middle) (h : Reads middle tokens next) :
    Reads state (token :: tokens) next := by
  intro placed hplaced offset rest
  obtain ⟨⟨_, place⟩, others, rfl, rfl, hothers⟩ := List.map_eq_cons_iff.1 hplaced
  rw [List.cons_append, run, hstep place]
  exact h others hothers offset rest

/-- The state behind a type: all of the type was read, but for what may still continue it. -/
def behind : TypeExpr → List TypeFrame → TypeState
  | .primitive name, stack => ⟨.afterName name, stack⟩
  | .named name [], stack => ⟨.afterName name, stack⟩
  | .named name (first :: rest), stack => ⟨.afterType (.named name (first :: rest)), stack⟩
  | .array element, stack => ⟨.afterType (.array element), stack⟩
  | .wildcard, stack => ⟨.afterQuestion, stack⟩
  | .wildcardExtends bound, stack => behind bound (.extendsBound :: stack)
  | .wildcardSuper bound, stack => behind bound (.superBound :: stack)

theorem typeOfName_of_primitive {name : String} (h : isPrimitiveName name = true) :
    typeOfName name = .primitive name := if_pos h

theorem typeOfName_of_not_primitive {name : String} (h : isPrimitiveName name = false) :
    typeOfName name = .named name [] := if_neg (by rw [h]; exact Bool.false_ne_true)

/-- Behind a type argument a comma or a closing bracket is met by the type as a whole. -/
theorem step_behind (type : TypeExpr) {place : TypePlace} (h : type.wellFormed place = true)
    {token : TypeToken} (htoken : token = .comma ∨ token = .closeAngle) (offset : Nat)
    (stack : List TypeFrame) :
    (behind type stack).step ⟨token, offset⟩ = settle type stack ⟨token, offset⟩ := by
  induction type using TypeExpr.induction generalizing place stack with
  | primitive name =>
    rw [wellFormed, Bool.and_eq_true] at h
    rcases htoken with rfl | rfl <;>
      simp only [behind, step, continueType, typeOfName_of_primitive h.2]
  | named name arguments =>
    rw [wellFormed, Bool.and_eq_true, Bool.and_eq_true, Bool.not_eq_true'] at h
    cases arguments with
    | nil =>
      rcases htoken with rfl | rfl <;>
        simp only [behind, step, continueType, typeOfName_of_not_primitive h.1.2]
    | cons first rest => rcases htoken with rfl | rfl <;> rfl
  | array element => rcases htoken with rfl | rfl <;> rfl
  | wildcard => rcases htoken with rfl | rfl <;> rfl
  | wildcardExtends bound ih =>
    -- the token is met by the bound, which hands it on to the wildcard around it
    rw [wellFormed, Bool.and_eq_true] at h
    rw [behind, ih h.2, settle]
  | wildcardSuper bound ih =>
    rw [wellFormed, Bool.and_eq_true] at h
    rw [behind, ih h.2, settle]

/-- Behind a type that is no wildcard an array may begin. -/
theorem step_behind_openBracket {type : TypeExpr} (h : type.wellFormed .whole = true) (offset : Nat)
    (stack : List TypeFrame) :
    (behind type stack).step ⟨.openBracket, offset⟩ = .ok ⟨.bracket type, stack⟩ := by
  cases type with
  | primitive name =>
    rw [wellFormed, Bool.and_eq_true] at h
    simp only [behind, step, continueType, typeOfName_of_primitive h.2]
  | named name arguments =>
    rw [wellFormed, Bool.and_eq_true, Bool.and_eq_true, Bool.not_eq_true'] at h
    cases arguments with
    | nil => simp only [behind, step, continueType, typeOfName_of_not_primitive h.1.2]
    | cons first rest => rfl
  | array element => rfl
  | wildcard => cases h
  | wildcardExtends bound => cases h
  | wildcardSuper bound => cases h

/-- Behind a type that is no wildcard the text may end. -/
theorem finish_behind {type : TypeExpr} (h : type.wellFormed .whole = true) (offset : Nat) :
    (behind type []).finish offset = .ok type := by
  cases type with
  | primitive name =>
    rw [wellFormed, Bool.and_eq_true] at h
    simp only [behind, finish, settleEnd, typeOfName_of_primitive h.2]
  | named name arguments =>
    rw [wellFormed, Bool.and_eq_true, Bool.and_eq_true, Bool.not_eq_true'] at h
    cases arguments with
    | nil => simp only [behind, finish, settleEnd, typeOfName_of_not_primitive h.1.2]
    | cons first rest => rfl
  | array element => rfl
  | wildcard => cases h
  | wildcardExtends bound => cases h
  | wildcardSuper bound => cases h

/-- Over further parts of a name the reader gets behind the name with these parts. -/
theorem reads_parts (name : String) (parts : List (List Char)) (stack : List TypeFrame) :
    Reads ⟨.afterName name, stack⟩
      (parts.flatMap fun part => [.dot, .identifier (String.ofList part)])
      ⟨.afterName (name ++ String.ofList (parts.flatMap ('.' :: ·))), stack⟩ := by
  induction parts generalizing name with
  | nil =>
    rw [List.flatMap_nil, List.flatMap_nil, String.ofList_nil, String.append_empty]
    exact Reads.nil _
  | cons part parts ih =>
    rw [List.flatMap_cons, ← append_part]
    exact .cons (fun _ => rfl) (.cons (fun _ => rfl) (ih _))

/-- Over a name the reader gets behind it. -/
theorem reads_name (name : String) (stack : List TypeFrame) :
    Reads ⟨.start, stack⟩ (nameTokens name) ⟨.afterName name, stack⟩ := by
  obtain ⟨first, others, hparts⟩ := List.exists_cons_of_ne_nil (splitAt_ne_nil name.toList)
  rw [nameTokens, hparts, partTokens]
  refine .cons (fun _ => rfl) ?_
  have hreads := reads_parts (String.ofList first) others stack
  rwa [ofList_parts hparts] at hreads

/-- A type argument is no primitive type. -/
theorem primitiveName?_of_argument {type : TypeExpr} (h : type.wellFormed .argument = true) :
    type.primitiveName? = none := by
  cases type <;> first | rfl | cases h

/-- Over the rest of the type arguments, from behind one of them, the reader gets to the end of the
list. -/
theorem reads_rest (name : String) {type : TypeExpr} (htype : type.wellFormed .argument = true)
    {types : List TypeExpr} (htypes : ∀ type ∈ types, type.wellFormed .argument = true)
    (stack : List TypeFrame)
    (hreads : ∀ type ∈ types, ∀ before,
      Reads ⟨.start, .argument name before :: stack⟩ type.tokens
        (behind type (.argument name before :: stack)))
    (before : List TypeExpr) :
    Reads (behind type (.argument name before :: stack)) (tokensOfRest types ++ [.closeAngle])
      ⟨.afterType (.named name (before ++ type :: types)), stack⟩ := by
  -- the argument that was read is taken in by the comma or the bracket behind it
  induction types generalizing type before with
  | nil =>
    refine .cons (fun offset => ?_) (.nil _)
    rw [step_behind type htype (.inr rfl), settle, primitiveName?_of_argument htype]
  | cons next types ih =>
    rw [List.forall_mem_cons] at htypes hreads
    rw [tokensOfRest, List.cons_append, List.append_assoc]
    have hnext := ih htypes.1 htypes.2 hreads.2 (before ++ [type])
    rw [List.append_assoc, List.singleton_append] at hnext
    refine .cons (fun offset => ?_) ((hreads.1 (before ++ [type])).append hnext)
    rw [step_behind type htype (.inl rfl), settle, primitiveName?_of_argument htype]

end TypeState

open TypeState

/-- **Over the tokens of a type the reader gets behind it.** A type argument is read inside a list
of type arguments. -/
theorem TypeExpr.reads_tokens (type : TypeExpr) {place : TypePlace}
    (h : type.wellFormed place = true) (stack : List TypeFrame)
    (hstack : place = .argument → ∃ name before outer, stack = .argument name before :: outer) :
    Reads ⟨.start, stack⟩ type.tokens (behind type stack) := by
  have hwhole : TypePlace.whole ≠ .argument := by decide
  induction type using TypeExpr.induction generalizing place stack with
  | primitive name => exact .cons (fun _ => rfl) (.nil _)
  | named name arguments ih =>
    rw [wellFormed, Bool.and_eq_true, Bool.and_eq_true, Bool.not_eq_true', wellFormedArguments_eq,
      List.all_eq_true] at h
    obtain ⟨⟨-, hprimitive⟩, harguments⟩ := h
    cases arguments with
    | nil =>
      rw [tokens, behind]
      exact reads_name name stack
    | cons first rest =>
      have hreads : ∀ type ∈ first :: rest, ∀ before,
          Reads ⟨.start, .argument name before :: stack⟩ type.tokens
            (behind type (.argument name before :: stack)) :=
        fun type htype before => ih type htype (harguments type htype) _
          fun _ => ⟨name, before, stack, rfl⟩
      rw [List.forall_mem_cons] at harguments hreads
      rw [tokens, behind]
      -- the name, the opening bracket, the first argument, and the others up to the closing one
      refine (reads_name name stack).append (.cons (fun offset => ?_) ((hreads.1 []).append
        (reads_rest name harguments.1 harguments.2 stack hreads.2 [])))
      simp only [step, hprimitive, Bool.false_eq_true, if_false]
  | array element ih =>
    rw [wellFormed] at h
    rw [tokens, behind]
    exact (ih h stack fun heq => absurd heq hwhole).append
      (.cons (fun offset => step_behind_openBracket h offset stack) (.cons (fun _ => rfl) (.nil _)))
  | wildcard =>
    rw [wellFormed, beq_iff_eq] at h
    obtain ⟨name, before, outer, rfl⟩ := hstack h
    exact .cons (fun _ => rfl) (.nil _)
  | wildcardExtends bound ih =>
    rw [wellFormed, Bool.and_eq_true, beq_iff_eq] at h
    obtain ⟨name, before, outer, rfl⟩ := hstack h.1
    rw [tokens, behind]
    exact .cons (fun _ => rfl) (.cons (fun _ => rfl) (ih h.2 _ fun heq => absurd heq hwhole))
  | wildcardSuper bound ih =>
    rw [wellFormed, Bool.and_eq_true, beq_iff_eq] at h
    obtain ⟨name, before, outer, rfl⟩ := hstack h.1
    rw [tokens, behind]
    exact .cons (fun _ => rfl) (.cons (fun _ => rfl) (ih h.2 _ fun heq => absurd heq hwhole))

end TypeWitness
