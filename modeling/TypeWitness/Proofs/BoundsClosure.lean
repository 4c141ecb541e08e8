import TypeWitness.Generation.CastPlan

/-! # The closure over bounds
One parameter leads to another when a bound of the first mentions the second. Bounds are followed
for as many steps as there are parameters. A step that finds nothing new ends the search, and every
other step finds a parameter that was missing, so in the end no bound leads out of the closure.

* `OwningType.followBounds_closed` — the search ends with a closed set.
* `OwningType.closeOverBounds_closed` — so the closure is closed.
* `OwningType.mem_closeOverBounds_of_mem` — it has all parameters that it starts from.
* `neededFirst` — the parameters that a cast starts from. -/

namespace TypeWitness

namespace OwningType

variable {owner : OwningType}

/-! ## Edges -/

/-- Whether a bound of one parameter mentions another one. -/
def Leads (owner : OwningType) (parameter other : Nat) : Prop :=
  ∃ declaration, owner.parameters[parameter]? = some declaration
    ∧ ∃ bound ∈ declaration.bounds, ∃ name ∈ bound.simpleNames,
      owner.parameterIndex? name = some other

theorem mem_mentioned_iff {type : TypeExpr} {parameter : Nat} :
    parameter ∈ owner.mentioned type ↔
      ∃ name ∈ type.simpleNames, owner.parameterIndex? name = some parameter := by
  rw [mentioned, List.mem_filterMap]

/-- What a type mentions are parameters that the owner has. -/
theorem lt_of_mem_mentioned {type : TypeExpr} {parameter : Nat}
    (h : parameter ∈ owner.mentioned type) : parameter < owner.arity := by
  obtain ⟨name, -, hname⟩ := mem_mentioned_iff.1 h
  exact parameterIndex?_lt hname

theorem mem_mentionedByBounds_iff {parameter other : Nat} :
    other ∈ owner.mentionedByBounds parameter ↔ owner.Leads parameter other := by
  rw [mentionedByBounds, Leads]
  cases owner.parameters[parameter]? with
  | none => simp
  | some declaration => simp [mem_mentioned_iff]

/-- Bounds lead to parameters that the owner has. -/
theorem Leads.lt {parameter other : Nat} (h : owner.Leads parameter other) :
    other < owner.arity := by
  obtain ⟨_, _, _, _, _, _, hname⟩ := h
  exact parameterIndex?_lt hname

/-! ## The search -/

/-- The parameters that were not reached. -/
def missing (owner : OwningType) (reached : List Nat) : List Nat :=
  (List.range owner.arity).filter (!reached.contains ·)

/-- The parameters that one step finds. -/
def found (owner : OwningType) (latest reached : List Nat) : List Nat :=
  ((latest.flatMap owner.mentionedByBounds).filter (!reached.contains ·)).eraseDups

theorem mem_found_iff {latest reached : List Nat} {parameter : Nat} :
    parameter ∈ owner.found latest reached ↔
      (∃ other ∈ latest, owner.Leads other parameter) ∧ parameter ∉ reached := by
  simp only [found, List.mem_eraseDups, List.mem_filter, List.mem_flatMap,
    mem_mentionedByBounds_iff, Bool.not_eq_true', List.contains_eq_mem, decide_eq_false_iff_not]

theorem followBounds_succ (steps : Nat) (latest reached : List Nat) :
    owner.followBounds (steps + 1) latest reached =
      owner.followBounds steps (owner.found latest reached)
        (owner.found latest reached ++ reached) := rfl

/-- What was reached stays reached. -/
theorem mem_followBounds_of_mem (steps : Nat) {latest reached : List Nat} {parameter : Nat}
    (h : parameter ∈ reached) : parameter ∈ owner.followBounds steps latest reached := by
  induction steps generalizing latest reached with
  | zero => exact h
  | succ steps ih =>
    rw [followBounds_succ]
    exact ih (List.mem_append_right _ h)

/-- Nothing is found from nothing. -/
theorem followBounds_nil (steps : Nat) (reached : List Nat) :
    owner.followBounds steps [] reached = reached := by
  induction steps with
  | zero => rfl
  | succ steps ih => exact ih

/-- A step that finds something leaves less missing. -/
theorem length_missing_lt {latest reached : List Nat} (h : owner.found latest reached ≠ []) :
    (owner.missing (owner.found latest reached ++ reached)).length <
      (owner.missing reached).length := by
  obtain ⟨parameter, hparameter⟩ := List.exists_mem_of_ne_nil _ h
  obtain ⟨⟨other, -, hleads⟩, hnew⟩ := mem_found_iff.1 hparameter
  have hmissing : parameter ∈ owner.missing reached :=
    List.mem_filter.2 ⟨List.mem_range.2 hleads.lt, by simpa using hnew⟩
  -- what is missing afterwards is what was missing before and has not been found
  have hfilter : owner.missing (owner.found latest reached ++ reached) =
      (owner.missing reached).filter (!(owner.found latest reached).contains ·) := by
    rw [missing, missing, List.filter_filter]
    refine List.filter_congr fun index _ => ?_
    rw [List.contains_append, Bool.not_or]
  rw [hfilter, List.length_filter_lt_length_iff_exists]
  exact ⟨parameter, hmissing, by simpa using hparameter⟩

/-- **The search ends with a closed set.** The invariant is that bounds lead out of what was reached
from the latest parameters only; and there are enough steps for all that is missing. -/
theorem followBounds_closed {steps : Nat} {latest reached : List Nat}
    (hlatest : ∀ parameter ∈ reached, parameter ∉ latest →
      ∀ other, owner.Leads parameter other → other ∈ reached)
    (hsteps : (owner.missing reached).length ≤ steps)
    {parameter other : Nat} (hmem : parameter ∈ owner.followBounds steps latest reached)
    (hleads : owner.Leads parameter other) : other ∈ owner.followBounds steps latest reached := by
  induction steps generalizing latest reached with
  | zero =>
    -- without steps left nothing is missing, so the other parameter was reached
    have hnil : owner.missing reached = [] := List.length_eq_zero_iff.1 (Nat.le_zero.1 hsteps)
    have hall := List.filter_eq_nil_iff.1 hnil other (List.mem_range.2 hleads.lt)
    simpa [followBounds] using hall
  | succ steps ih =>
    rw [followBounds_succ] at hmem ⊢
    by_cases hfound : owner.found latest reached = []
    · -- the step finds nothing, so the latest parameters lead to what was reached already
      rw [hfound, List.nil_append, followBounds_nil] at hmem ⊢
      by_cases hnew : other ∈ reached
      · exact hnew
      · by_cases hin : parameter ∈ latest
        · have hmem := mem_found_iff.2 ⟨⟨parameter, hin, hleads⟩, hnew⟩
          rw [hfound] at hmem
          cases hmem
        · exact hlatest parameter hmem hin other hleads
    · -- the latest parameters have been followed, so only what they led to is left to follow
      have hless := length_missing_lt hfound
      refine ih ?_ (by omega) hmem
      intro parameter hreached hnotFound other hleads
      rw [List.mem_append] at hreached ⊢
      have hreached := hreached.resolve_left hnotFound
      by_cases hnew : other ∈ reached
      · exact .inr hnew
      · by_cases hin : parameter ∈ latest
        · exact .inl (mem_found_iff.2 ⟨⟨parameter, hin, hleads⟩, hnew⟩)
        · exact .inr (hlatest parameter hreached hin other hleads)

/-! ## The closure -/

theorem mem_closeOverBounds_iff {parameters : List Nat} {parameter : Nat} :
    parameter ∈ owner.closeOverBounds parameters ↔
      parameter < owner.arity
      ∧ parameter ∈ owner.followBounds owner.arity parameters parameters := by
  rw [closeOverBounds, mem_indicesBelow, List.contains_iff_mem]

/-- **The closure is closed**: bounds lead from its parameters to its parameters. -/
theorem closeOverBounds_closed {parameters : List Nat} {parameter other : Nat}
    (hmem : parameter ∈ owner.closeOverBounds parameters) (hleads : owner.Leads parameter other) :
    other ∈ owner.closeOverBounds parameters := by
  rw [mem_closeOverBounds_iff] at hmem ⊢
  refine ⟨hleads.lt, followBounds_closed (fun _ h hnot => absurd h hnot) ?_ hmem.2 hleads⟩
  have hle := List.length_filter_le (!parameters.contains ·) (List.range owner.arity)
  rwa [List.length_range] at hle

/-- The closure has all parameters that it starts from. -/
theorem mem_closeOverBounds_of_mem {parameters : List Nat} {parameter : Nat}
    (h : parameter ∈ parameters) (hlt : parameter < owner.arity) :
    parameter ∈ owner.closeOverBounds parameters :=
  mem_closeOverBounds_iff.2 ⟨hlt, mem_followBounds_of_mem _ h⟩

end OwningType

/-! ## Where a cast begins to follow bounds -/

section NeededFirst

variable {owner : OwningType} {accessors : List TokenAccessor} {parameter : Nat}

theorem mem_pinnedParameters_lt (h : parameter ∈ pinnedParameters owner accessors) :
    parameter < owner.arity := (mem_indicesBelow.1 h).1

/-- What a cast over accessors needs before bounds are followed: the parameters that the witnesses
pin and those that their types mention. -/
def neededFirst (owner : OwningType) (accessors : List TokenAccessor) : List Nat :=
  (pinnedParameters owner accessors
    ++ accessors.flatMap fun accessor => owner.mentioned accessor.witnessType).eraseDups

theorem mem_neededFirst_iff :
    parameter ∈ neededFirst owner accessors ↔
      parameter ∈ pinnedParameters owner accessors
      ∨ ∃ accessor ∈ accessors, parameter ∈ owner.mentioned accessor.witnessType := by
  rw [neededFirst, List.mem_eraseDups, List.mem_append, List.mem_flatMap]

/-- They are parameters that the owner has. -/
theorem lt_of_mem_neededFirst (h : parameter ∈ neededFirst owner accessors) :
    parameter < owner.arity := by
  rcases mem_neededFirst_iff.1 h with h | ⟨accessor, -, h⟩
  · exact mem_pinnedParameters_lt h
  · exact OwningType.lt_of_mem_mentioned h

/-- What is needed first is needed. -/
theorem mem_neededParameters_of_first (h : parameter ∈ neededFirst owner accessors) :
    parameter ∈ neededParameters owner accessors :=
  OwningType.mem_closeOverBounds_of_mem h (lt_of_mem_neededFirst h)

end NeededFirst

end TypeWitness
