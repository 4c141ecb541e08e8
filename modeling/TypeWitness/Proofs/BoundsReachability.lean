import Mathlib.Data.List.Nodup
import Mathlib.Data.List.Perm.Subperm
import Mathlib.Logic.Function.Iterate
import Mathlib.Logic.Relation
import Mathlib.Order.Bounds.Defs
import TypeWitness.Proofs.BoundsClosure

/-! # What bounds lead to
The closure over bounds has the parameters that bounds lead to from the ones it starts with, over
any number of others. A search that keeps the parameters whose bounds are still to be followed on a
stack finds the same ones. It puts a parameter on the stack only when it is reached for the first
time, so cycles do not hold it up: it follows each parameter of the closure once, and then the stack
is empty.

* `OwningType.mem_closeOverBounds_iff_reachable` — the closure is what can be reached.
* `BoundsSearch.Sound.next` — what one step of the search preserves.
* `OwningType.search_pending_eq_nil_iff` — when the search ends.
* `CastPlan.isLeast_quantified_build` — the parameters that a cast declares are the least closed set
  with those that it needs.
* `OwningType.closeOverBounds_search` — all of this for one type. -/

namespace TypeWitness

namespace OwningType

variable {owner : OwningType}

/-! ## Reachable parameters -/

/-- Whether bounds lead to a parameter from one of the given ones, over any number of others. -/
def ReachableFrom (owner : OwningType) (start : List Nat) (parameter : Nat) : Prop :=
  ∃ first ∈ start, Relation.ReflTransGen owner.Leads first parameter

theorem ReachableFrom.of_mem {start : List Nat} {parameter : Nat} (h : parameter ∈ start) :
    owner.ReachableFrom start parameter :=
  ⟨parameter, h, .refl⟩

theorem ReachableFrom.tail {start : List Nat} {parameter other : Nat}
    (h : owner.ReachableFrom start parameter) (hleads : owner.Leads parameter other) :
    owner.ReachableFrom start other := by
  obtain ⟨first, hfirst, hpath⟩ := h
  exact ⟨first, hfirst, hpath.tail hleads⟩

/-- What holds of the given parameters, and of those that bounds lead to from parameters of which it
holds, holds of all that can be reached. -/
theorem ReachableFrom.of_closed {start : List Nat} {p : Nat → Prop}
    (hstart : ∀ parameter ∈ start, p parameter)
    (hclosed : ∀ parameter, p parameter → ∀ other, owner.Leads parameter other → p other)
    {parameter : Nat} (h : owner.ReachableFrom start parameter) : p parameter := by
  obtain ⟨first, hfirst, hpath⟩ := h
  induction hpath with
  | refl => exact hstart first hfirst
  | tail _ hleads ih => exact hclosed _ ih _ hleads

/-- Following bounds finds only what can be reached. -/
theorem reachableFrom_of_mem_followBounds {start : List Nat} {steps : Nat}
    {latest reached : List Nat}
    (hlatest : ∀ parameter ∈ latest, owner.ReachableFrom start parameter)
    (hreached : ∀ parameter ∈ reached, owner.ReachableFrom start parameter)
    {parameter : Nat} (h : parameter ∈ owner.followBounds steps latest reached) :
    owner.ReachableFrom start parameter := by
  induction steps generalizing latest reached with
  | zero => exact hreached parameter h
  | succ steps ih =>
    have hfound : ∀ other ∈ owner.found latest reached, owner.ReachableFrom start other := by
      intro other hother
      obtain ⟨⟨before, hbefore, hleads⟩, -⟩ := mem_found_iff.1 hother
      exact (hlatest before hbefore).tail hleads
    rw [followBounds_succ] at h
    refine ih hfound (fun other hother => ?_) h
    rcases List.mem_append.1 hother with hother | hother
    · exact hfound other hother
    · exact hreached other hother

/-- **The closure is what can be reached** from parameters that the owner has. -/
theorem mem_closeOverBounds_iff_reachable {start : List Nat}
    (hstart : ∀ parameter ∈ start, parameter < owner.arity) {parameter : Nat} :
    parameter ∈ owner.closeOverBounds start ↔ owner.ReachableFrom start parameter := by
  constructor
  · intro h
    have hmem := (mem_closeOverBounds_iff.1 h).2
    exact reachableFrom_of_mem_followBounds (fun _ => .of_mem) (fun _ => .of_mem) hmem
  · intro h
    refine h.of_closed (fun first hfirst => ?_) fun _ hmem _ => closeOverBounds_closed hmem
    exact mem_closeOverBounds_of_mem hfirst (hstart first hfirst)

/-- The closure is in increasing order. -/
theorem pairwise_closeOverBounds (owner : OwningType) (start : List Nat) :
    (owner.closeOverBounds start).Pairwise (· < ·) :=
  List.pairwise_lt_range.filter _

end OwningType

/-! ## The search with a stack -/

/-- A search along bounds that is under way. -/
structure BoundsSearch where
  /-- The parameters whose bounds are to be followed, the next one first. -/
  pending : List Nat
  /-- The parameters that have been reached. -/
  reached : List Nat

namespace BoundsSearch

variable {owner : OwningType} {start : List Nat} {search : BoundsSearch} {followed : Nat}

/-- The search from the given parameters; the last one is followed first. -/
def begin (owner : OwningType) (start : List Nat) : BoundsSearch :=
  let start := indicesBelow owner.arity start.contains
  ⟨start.reverse, start⟩

/-- The parameters that the bounds of one mention and that have not been reached. -/
def fresh (owner : OwningType) (parameter : Nat) (reached : List Nat) : List Nat :=
  indicesBelow owner.arity fun other =>
    (owner.mentionedByBounds parameter).contains other && !reached.contains other

/-- Follow the bounds of the next parameter. What is reached for the first time is to be followed
before all that was pending. -/
def next (owner : OwningType) : BoundsSearch → BoundsSearch
  | ⟨[], reached⟩ => ⟨[], reached⟩
  | ⟨parameter :: pending, reached⟩ =>
    let fresh := fresh owner parameter reached
    ⟨fresh.reverse ++ pending, fresh ++ reached⟩

theorem mem_fresh_iff {parameter other : Nat} {reached : List Nat} :
    other ∈ fresh owner parameter reached ↔ owner.Leads parameter other ∧ other ∉ reached := by
  simp only [fresh, mem_indicesBelow, Bool.and_eq_true, Bool.not_eq_true', List.contains_eq_mem,
    decide_eq_true_eq, decide_eq_false_iff_not, OwningType.mem_mentionedByBounds_iff]
  exact ⟨fun h => h.2, fun h => ⟨h.1.lt, h⟩⟩

/-- What is known of a search from the given parameters that has followed a number of them. -/
structure Sound (owner : OwningType) (start : List Nat) (followed : Nat) (search : BoundsSearch) :
    Prop where
  nodup : search.reached.Nodup
  mem_of_start : ∀ parameter ∈ start, parameter ∈ search.reached
  reachable : ∀ parameter ∈ search.reached, owner.ReachableFrom start parameter
  mem_of_pending : ∀ parameter ∈ search.pending, parameter ∈ search.reached
  /-- The bounds of a parameter that is not pending lead to parameters that were reached. -/
  closed : ∀ parameter ∈ search.reached, parameter ∉ search.pending →
    ∀ other, owner.Leads parameter other → other ∈ search.reached
  length_eq : search.reached.length = search.pending.length + followed

theorem Sound.begin (hstart : ∀ parameter ∈ start, parameter < owner.arity) :
    Sound owner start 0 (begin owner start) where
  nodup := List.nodup_range.filter _
  mem_of_start parameter hmem :=
    mem_indicesBelow.2 ⟨hstart parameter hmem, List.contains_iff_mem.2 hmem⟩
  reachable _ hmem := .of_mem (List.contains_iff_mem.1 (mem_indicesBelow.1 hmem).2)
  mem_of_pending _ hmem := List.mem_reverse.1 hmem
  closed _ hmem hnot := absurd (List.mem_reverse.2 hmem) hnot
  length_eq := List.length_reverse.symm

/-- **What one step preserves.** It follows one more parameter. -/
theorem Sound.next (h : Sound owner start followed search) (hpending : search.pending ≠ []) :
    Sound owner start (followed + 1) (next owner search) := by
  obtain ⟨pending, reached⟩ := search
  obtain ⟨parameter, pending, rfl⟩ := List.exists_cons_of_ne_nil hpending
  have hparameter : parameter ∈ reached := h.mem_of_pending parameter List.mem_cons_self
  refine ⟨?_, ?_, ?_, ?_, ?_, ?_⟩
  · refine List.Nodup.append (List.nodup_range.filter _) h.nodup fun other hfresh hreached => ?_
    exact (mem_fresh_iff.1 hfresh).2 hreached
  · exact fun first hfirst => List.mem_append_right _ (h.mem_of_start first hfirst)
  · intro other hother
    rcases List.mem_append.1 hother with hfresh | hreached
    · exact (h.reachable parameter hparameter).tail (mem_fresh_iff.1 hfresh).1
    · exact h.reachable other hreached
  · intro other hother
    rcases List.mem_append.1 hother with hfresh | hmem
    · exact List.mem_append_left _ (List.mem_reverse.1 hfresh)
    · exact List.mem_append_right _ (h.mem_of_pending other (List.mem_cons_of_mem _ hmem))
  · intro before hbefore hnot other hleads
    simp only [BoundsSearch.next, List.mem_append, List.mem_reverse, not_or] at hbefore hnot ⊢
    have hreached := hbefore.resolve_left hnot.1
    by_cases hother : other ∈ reached
    · exact .inr hother
    · by_cases heq : before = parameter
      · exact .inl (mem_fresh_iff.2 ⟨heq ▸ hleads, hother⟩)
      · -- it was followed before, so its bounds led to what was reached
        have hfollowed : before ∉ parameter :: pending := by
          rw [List.mem_cons, not_or]
          exact ⟨heq, hnot.2⟩
        exact .inr (h.closed before hreached hfollowed other hleads)
  · have hlength := h.length_eq
    simp only [BoundsSearch.next, List.length_append, List.length_reverse, List.length_cons]
      at hlength ⊢
    omega

/-- A search that has nothing to follow has reached the closure. -/
theorem Sound.mem_reached_iff (h : Sound owner start followed search)
    (hstart : ∀ parameter ∈ start, parameter < owner.arity) (hend : search.pending = [])
    {parameter : Nat} : parameter ∈ search.reached ↔ parameter ∈ owner.closeOverBounds start := by
  rw [OwningType.mem_closeOverBounds_iff_reachable hstart]
  refine ⟨h.reachable parameter, fun hreachable => ?_⟩
  exact hreachable.of_closed h.mem_of_start fun before hbefore =>
    h.closed before hbefore (hend ▸ List.not_mem_nil)

/-- What is pending and what was followed is in the closure, each once. -/
theorem Sound.length_le (h : Sound owner start followed search)
    (hstart : ∀ parameter ∈ start, parameter < owner.arity) :
    search.pending.length + followed ≤ (owner.closeOverBounds start).length := by
  rw [← h.length_eq]
  refine (List.subperm_of_subset h.nodup fun parameter hmem => ?_).length_le
  exact (OwningType.mem_closeOverBounds_iff_reachable hstart).2 (h.reachable parameter hmem)

/-- **The search ends** when it has followed each parameter of the closure. -/
theorem Sound.pending_eq_nil_iff (h : Sound owner start followed search)
    (hstart : ∀ parameter ∈ start, parameter < owner.arity) :
    search.pending = [] ↔ (owner.closeOverBounds start).length = followed := by
  constructor
  · intro hend
    have hperm : search.reached.Perm (owner.closeOverBounds start) :=
      (List.perm_ext_iff_of_nodup h.nodup (List.nodup_range.filter _)).2
        fun _ => h.mem_reached_iff hstart hend
    rw [← hperm.length_eq, h.length_eq, hend, List.length_nil, Nat.zero_add]
  · intro hlength
    have hle := h.length_le hstart
    exact List.eq_nil_of_length_eq_zero (by omega)

end BoundsSearch

/-! ## Its steps -/

namespace OwningType

variable {owner : OwningType} {start : List Nat}

/-- The search along bounds after a number of steps. -/
def search (owner : OwningType) (start : List Nat) (steps : Nat) : BoundsSearch :=
  (BoundsSearch.next owner)^[steps] (.begin owner start)

theorem search_succ (steps : Nat) :
    owner.search start (steps + 1) = (owner.search start steps).next owner :=
  Function.iterate_succ_apply' _ _ _

/-- As long as the closure has parameters left, each step follows one. -/
theorem sound_search (hstart : ∀ parameter ∈ start, parameter < owner.arity) {steps : Nat}
    (hle : steps ≤ (owner.closeOverBounds start).length) :
    (owner.search start steps).Sound owner start steps := by
  induction steps with
  | zero => exact .begin hstart
  | succ steps ih =>
    have hsound := ih (by omega)
    rw [search_succ]
    refine hsound.next fun hend => ?_
    have hlength := (hsound.pending_eq_nil_iff hstart).1 hend
    omega

/-- Steps of a search that has ended change nothing. -/
theorem search_add_of_pending_eq_nil {steps : Nat} (h : (owner.search start steps).pending = [])
    (more : Nat) : owner.search start (steps + more) = owner.search start steps := by
  induction more with
  | zero => rfl
  | succ more ih =>
    rw [← Nat.add_assoc, search_succ, ih]
    -- with nothing pending there is no bound to follow
    generalize owner.search start steps = search at h ⊢
    obtain ⟨pending, reached⟩ := search
    obtain rfl : pending = [] := h
    rfl

/-- From as many steps on as the closure has parameters, the search has ended with the closure. -/
theorem search_of_length_le (hstart : ∀ parameter ∈ start, parameter < owner.arity) {steps : Nat}
    (hle : (owner.closeOverBounds start).length ≤ steps) :
    (owner.search start steps).pending = []
    ∧ ∀ parameter, parameter ∈ (owner.search start steps).reached ↔
      parameter ∈ owner.closeOverBounds start := by
  have hsound := sound_search hstart (Nat.le_refl _)
  have hend := (hsound.pending_eq_nil_iff hstart).2 rfl
  obtain ⟨more, rfl⟩ := Nat.exists_eq_add_of_le hle
  rw [search_add_of_pending_eq_nil hend]
  exact ⟨hend, fun _ => hsound.mem_reached_iff hstart hend⟩

/-- **When the search ends**: after as many steps as the closure has parameters. -/
theorem search_pending_eq_nil_iff (hstart : ∀ parameter ∈ start, parameter < owner.arity)
    (steps : Nat) :
    (owner.search start steps).pending = [] ↔
      (owner.closeOverBounds start).length ≤ steps := by
  refine ⟨fun hend => Nat.le_of_not_lt fun hlt => ?_, fun hle => (search_of_length_le hstart hle).1⟩
  have hlength := ((sound_search hstart (Nat.le_of_lt hlt)).pending_eq_nil_iff hstart).1 hend
  omega

end OwningType

/-! ## The parameters of a cast -/

/-- Whether bounds lead from the parameters of a set to parameters of the set only. -/
def OwningType.ClosedUnderBounds (owner : OwningType) (parameters : Set Nat) : Prop :=
  ∀ parameter ∈ parameters, ∀ other, owner.Leads parameter other → other ∈ parameters

namespace CastPlan

/-- Whether a set has all parameters that a cast over accessors needs. -/
structure Suffices (plan : CastPlan) (accessors : List TokenAccessor) (parameters : Set Nat) :
    Prop where
  pinned : ∀ parameter ∈ plan.pinned, parameter ∈ parameters
  mentioned : ∀ accessor ∈ accessors, ∀ parameter ∈ plan.owner.mentioned accessor.witnessType,
    parameter ∈ parameters
  closed : plan.owner.ClosedUnderBounds parameters

/-- **The parameters that a cast declares** when it declares no more than it needs: the least set
that suffices. -/
theorem isLeast_quantified_build (name : String) (owner : OwningType)
    (accessors : List TokenAccessor) :
    IsLeast {parameters | (build name owner accessors .wildcard).Suffices accessors parameters}
      {parameter | parameter ∈ (build name owner accessors .wildcard).quantified} := by
  have hquantified : ∀ parameter, parameter ∈ (build name owner accessors .wildcard).quantified ↔
      owner.ReachableFrom (neededFirst owner accessors) parameter :=
    fun _ => OwningType.mem_closeOverBounds_iff_reachable fun _ => lt_of_mem_neededFirst
  refine ⟨⟨fun parameter h => ?_, fun accessor haccessor parameter h => ?_,
    fun parameter h other hleads => ?_⟩, fun parameters hparameters parameter h => ?_⟩
  · exact (hquantified parameter).2 (.of_mem (mem_neededFirst_iff.2 (.inl h)))
  · have hfirst := mem_neededFirst_iff.2 (.inr ⟨accessor, haccessor, h⟩)
    exact (hquantified parameter).2 (.of_mem hfirst)
  · exact (hquantified other).2 (((hquantified parameter).1 h).tail hleads)
  · refine ((hquantified parameter).1 h).of_closed (fun first hfirst => ?_) hparameters.closed
    rcases mem_neededFirst_iff.1 hfirst with hpinned | ⟨accessor, haccessor, hmentioned⟩
    · exact hparameters.pinned first hpinned
    · exact hparameters.mentioned accessor haccessor first hmentioned

end CastPlan

/-! ## The closure -/

/-- **What the closure over bounds is.** From parameters that the owner has it is what can be
reached. The search with a stack ends after as many steps as the closure has parameters, and no
earlier, with the closure. So the parameters that a cast declares, when it declares no more than it
needs, are in increasing order the least set that suffices. -/
theorem OwningType.closeOverBounds_search (owner : OwningType) {start : List Nat}
    (hstart : ∀ parameter ∈ start, parameter < owner.arity) :
    (∀ parameter, parameter ∈ owner.closeOverBounds start ↔ owner.ReachableFrom start parameter)
    ∧ (∀ steps, (owner.search start steps).pending = [] ↔
      (owner.closeOverBounds start).length ≤ steps)
    ∧ (∀ steps, (owner.search start steps).pending = [] →
      ∀ parameter, parameter ∈ (owner.search start steps).reached ↔
        parameter ∈ owner.closeOverBounds start)
    ∧ ∀ name accessors,
      let plan := CastPlan.build name owner accessors .wildcard
      plan.quantified.Pairwise (· < ·)
      ∧ IsLeast {parameters | plan.Suffices accessors parameters}
        {parameter | parameter ∈ plan.quantified} := by
  have hends := search_pending_eq_nil_iff hstart
  refine ⟨fun _ => mem_closeOverBounds_iff_reachable hstart, hends, fun steps hend => ?_,
    fun name accessors => ⟨?_, CastPlan.isLeast_quantified_build name owner accessors⟩⟩
  · exact (search_of_length_le hstart ((hends steps).1 hend)).2
  · exact owner.pairwise_closeOverBounds _

/-- A type whose parameters have bounds that lead in circles; the name `K` is used twice. -/
def circularOwner : OwningType where
  packageName := "model"
  simpleName := "Circle"
  visibility := .everywhere
  parameters := [
    ⟨"K", [.named "Comparable" [.named "K" []]]⟩,
    ⟨"V", [.named "List" [.named "W" []]]⟩,
    ⟨"W", [.named "Map" [.named "K" [], .array (.named "V" [])]]⟩,
    ⟨"K", [.named "V" []]⟩]

/-- From `V` the second `K` is not reached. -/
theorem OwningType.closeOverBounds_search_circular :
    let accessor : TokenAccessor :=
      ⟨circularOwner, "getValue", .named "Token" [.named "V" []], []⟩
    let plan := CastPlan.build "cast" circularOwner [accessor] .wildcard
    (∀ parameter ∈ [1], parameter < circularOwner.arity)
    ∧ circularOwner.closeOverBounds [1] = [0, 1, 2]
    ∧ (∀ parameter, parameter ∈ [0, 1, 2] ↔ circularOwner.ReachableFrom [1] parameter)
    ∧ (∀ steps, (circularOwner.search [1] steps).pending = [] ↔ 3 ≤ steps)
    ∧ (∀ steps, (circularOwner.search [1] steps).pending = [] →
      ∀ parameter, parameter ∈ (circularOwner.search [1] steps).reached ↔
        parameter ∈ [0, 1, 2])
    ∧ plan.quantified = [0, 1, 2]
    ∧ IsLeast {parameters | plan.Suffices [accessor] parameters}
      {parameter | parameter ∈ plan.quantified} := by
  intro accessor plan
  have hstart : ∀ parameter ∈ [1], parameter < circularOwner.arity := by decide
  have hclosure : circularOwner.closeOverBounds [1] = [0, 1, 2] := by decide +kernel
  have hquantified : plan.quantified = [0, 1, 2] := by decide +kernel
  obtain ⟨hreachable, hends, hreached, hplans⟩ := closeOverBounds_search circularOwner hstart
  rw [hclosure] at hreachable hends hreached
  exact ⟨hstart, hclosure, hreachable, hends, hreached, hquantified,
    (hplans "cast" [accessor]).2⟩

end TypeWitness
