import TypeWitness.Proofs.CastAgreement

/-! # The outcome of a narrowing
A narrowing goes through its checks in their order and stops at the first one that fails, with the
first reason that this check has. When no check fails, its bindings have been performed one after
the other, so that of those to one slot the last one counts.

* `WitnessCheck.run_eq_error_iff`, `runChecks_eq_error_iff` — the first failure is the one reported.
* `Narrowing.apply_eq_ok_iff` — what comes out is the initial slots with all bindings performed.
* `getElem?_performAll` — of the bindings to a slot the last one counts.
* `Narrowing.apply_exact` — which views and mismatches a narrowing gives. -/

namespace TypeWitness

/-! ## The first item that fails -/

/-- An item that a property does not hold of, behind items that it does hold of. -/
def IsFirstFailure {α : Type} (p : α → Prop) (items : List α) (item : α) : Prop :=
  ∃ before after, items = before ++ item :: after ∧ (∀ other ∈ before, p other) ∧ ¬ p item

theorem not_isFirstFailure_nil {α : Type} {p : α → Prop} {item : α} :
    ¬ IsFirstFailure p [] item := by
  rintro ⟨before, after, h, -⟩
  simp at h

/-- The first failure is the first item, or it is the first failure behind it. -/
theorem isFirstFailure_cons {α : Type} {p : α → Prop} {first item : α} {items : List α} :
    IsFirstFailure p (first :: items) item ↔
      first = item ∧ ¬ p first ∨ p first ∧ IsFirstFailure p items item := by
  constructor
  · rintro ⟨before, after, heq, hbefore, hitem⟩
    -- with nothing before it the failure is the first item
    cases before with
    | nil =>
      obtain ⟨rfl, -⟩ := List.cons_eq_cons.1 heq
      exact .inl ⟨rfl, hitem⟩
    | cons other before =>
      obtain ⟨rfl, rfl⟩ := List.cons_eq_cons.1 heq
      rw [List.forall_mem_cons] at hbefore
      exact .inr ⟨hbefore.1, before, after, rfl, hbefore.2, hitem⟩
  · rintro (⟨rfl, hfirst⟩ | ⟨hfirst, before, after, rfl, hbefore, hitem⟩)
    · exact ⟨[], items, rfl, nofun, hfirst⟩
    · exact ⟨first :: before, after, rfl, List.forall_mem_cons.2 ⟨hfirst, hbefore⟩, hitem⟩

/-! ## Failures -/

/-- Why a check fails for a witness: the first of its tests that the witness does not pass. -/
inductive WitnessCheck.FailsWith (check : WitnessCheck) (subject : Instance) :
    Option Witness → MismatchCause → Prop
  | missing : FailsWith check subject none (.missingWitness check.accessor)
  | unknown {witness : Witness} (hkept : subject.witness? check.accessor = none) :
    FailsWith check subject (some witness) (.unknownAccessor check.accessor)
  | notIdentical {witness kept : Witness} (hkept : subject.witness? check.accessor = some kept)
    (hsame : kept.isSame witness = false) :
    FailsWith check subject (some witness) (.notIdentical check.accessor)
  | malformed {witness kept : Witness} {bind : Nat × Nat}
    (hkept : subject.witness? check.accessor = some kept) (hsame : kept.isSame witness = true)
    (hbind : IsFirstFailure (fun bind => bind.1 < kept.arguments.length) check.binds bind) :
    FailsWith check subject (some witness) (.malformedWitness check.accessor bind.1)

/-- Slots cannot be bound because of the first type argument that the witness does not have. -/
theorem Witness.bindSlots_eq_error_iff {witness : Witness} {accessor : String}
    {binds : List (Nat × Nat)} {slots : List (Slot TypeTag)} {cause : MismatchCause} :
    witness.bindSlots accessor binds slots = .error cause ↔
      ∃ bind, IsFirstFailure (fun bind => bind.1 < witness.arguments.length) binds bind
        ∧ cause = .malformedWitness accessor bind.1 := by
  induction binds generalizing slots with
  | nil => simp [bindSlots, not_isFirstFailure_nil]
  | cons first binds ih =>
    obtain ⟨position, parameter⟩ := first
    simp only [isFirstFailure_cons]
    -- the slots play no part in whether there is a type argument, so any will do for `ih`
    cases htag : witness.arguments[position]? with
    | none =>
      have hout : ¬ position < witness.arguments.length :=
        Nat.not_lt.2 (List.getElem?_eq_none_iff.1 htag)
      simp only [bindSlots, htag]
      constructor
      · intro h
        cases h
        exact ⟨_, .inl ⟨rfl, hout⟩, rfl⟩
      · rintro ⟨bind, ⟨rfl, -⟩ | ⟨hin, -⟩, rfl⟩
        · rfl
        · exact absurd hin hout
    | some tag =>
      obtain ⟨hin, -⟩ := List.getElem?_eq_some_iff.1 htag
      simp only [bindSlots, htag, ih]
      constructor
      · rintro ⟨bind, hbind, rfl⟩
        exact ⟨bind, .inr ⟨hin, hbind⟩, rfl⟩
      · rintro ⟨bind, ⟨-, hout⟩ | ⟨-, hbind⟩, rfl⟩
        · exact absurd hin hout
        · exact ⟨bind, hbind, rfl⟩

/-- **A check reports the first of its tests that fails.** -/
theorem WitnessCheck.run_eq_error_iff {check : WitnessCheck} {subject : Instance}
    {witness? : Option Witness} {slots : List (Slot TypeTag)} {cause : MismatchCause} :
    check.run subject witness? slots = .error cause ↔
      check.FailsWith subject witness? cause := by
  constructor
  · -- the branches of a check are its tests in their order, and each but the last has one failure
    intro h
    unfold run at h
    split at h
    · cases h
      exact .missing
    · split at h
      · next hkept =>
        cases h
        exact .unknown hkept
      · next hkept =>
        split at h
        · next hsame =>
          obtain rfl := Witness.isSame_iff.1 hsame
          obtain ⟨bind, hbind, rfl⟩ := Witness.bindSlots_eq_error_iff.1 h
          exact .malformed hkept hsame hbind
        · next hsame =>
          cases h
          exact .notIdentical hkept (eq_false_of_ne_true hsame)
  · intro h
    cases h with
    | missing => rfl
    | unknown hkept => simp only [run, hkept]
    | notIdentical hkept hsame => simp [run, hkept, hsame]
    | malformed hkept hsame hbind =>
      obtain rfl := Witness.isSame_iff.1 hsame
      simp only [run, hkept, if_pos hsame]
      exact Witness.bindSlots_eq_error_iff.2 ⟨_, hbind, rfl⟩

/-- A check does not fail exactly for the witnesses that pass it. -/
theorem WitnessCheck.not_passes_iff {check : WitnessCheck} {subject : Instance}
    {witness? : Option Witness} :
    ¬ check.Passes subject witness? ↔ ∃ cause, check.FailsWith subject witness? cause := by
  have hfails : ∀ cause, check.FailsWith subject witness? cause ↔
      check.run subject witness? [] = .error cause := fun cause => run_eq_error_iff.symm
  -- which slots a check starts from does not matter, so it may start from none
  rw [← check.exists_run_eq_ok_iff subject witness? []]
  simp only [hfails]
  cases check.run subject witness? [] <;> simp

/-- **Checks report the first one that fails**, with its own reason. -/
theorem runChecks_eq_error_iff {subject : Instance} {entries : List (WitnessCheck × Option Witness)}
    {slots : List (Slot TypeTag)} {cause : MismatchCause} :
    runChecks subject entries slots = .error cause ↔
      ∃ entry, IsFirstFailure (fun entry => entry.1.Passes subject entry.2) entries entry
        ∧ entry.1.FailsWith subject entry.2 cause := by
  induction entries generalizing slots with
  | nil => simp [runChecks, not_isFirstFailure_nil]
  | cons first entries ih =>
    obtain ⟨check, witness?⟩ := first
    have hpasses := check.exists_run_eq_ok_iff subject witness? slots
    simp only [isFirstFailure_cons, runChecks]
    -- the first check either ends the run or hands its slots on to the rest
    cases hrun : check.run subject witness? slots with
    | error reason =>
      have hfails := WitnessCheck.run_eq_error_iff.1 hrun
      have hnot := WitnessCheck.not_passes_iff.2 ⟨reason, hfails⟩
      constructor
      · intro h
        cases h
        exact ⟨_, .inl ⟨rfl, hnot⟩, hfails⟩
      · rintro ⟨entry, ⟨rfl, -⟩ | ⟨hpasses, -⟩, hcause⟩
        · -- a check has one outcome, so it is this reason that was given
          have hrun' : check.run subject witness? slots = .error cause :=
            WitnessCheck.run_eq_error_iff.2 hcause
          rw [hrun, Except.error.injEq] at hrun'
          exact congrArg Except.error hrun'
        · exact absurd hpasses hnot
    | ok slots' =>
      have hpasses := hpasses.1 ⟨slots', hrun⟩
      change runChecks subject entries slots' = .error cause ↔ _
      rw [ih]
      constructor
      · rintro ⟨entry, hentry, hcause⟩
        exact ⟨entry, .inr ⟨hpasses, hentry⟩, hcause⟩
      · rintro ⟨entry, ⟨-, hnot⟩ | ⟨-, hentry⟩, hcause⟩
        · exact absurd hpasses hnot
        · exact ⟨entry, hentry, hcause⟩

/-! ## Bindings -/

/-- One binding of a narrowing: a slot is bound to a type argument of a witness. -/
structure Binding where
  /-- The accessor of the witness. -/
  accessor : String
  /-- The place of the type argument in the witness. -/
  position : Nat
  /-- The type parameter whose slot is bound. -/
  parameter : Nat
  deriving DecidableEq, Repr

namespace Binding

/-- The type argument that a slot is bound to, taken from the witness that an instance keeps. -/
def tag? (subject : Instance) (binding : Binding) : Option TypeTag :=
  (subject.witness? binding.accessor).bind (·.arguments[binding.position]?)

/-- What becomes of the slot. -/
def slot (subject : Instance) (binding : Binding) : Slot TypeTag :=
  match binding.tag? subject with
  | some tag => .bound tag
  | none => .unknown

theorem slot_of_tag? {subject : Instance} {binding : Binding} {tag : TypeTag}
    (h : binding.tag? subject = some tag) : binding.slot subject = .bound tag := by
  rw [slot, h]

/-- Perform bindings one after the other. -/
def performAll (subject : Instance) (bindings : List Binding) (slots : List (Slot TypeTag)) :
    List (Slot TypeTag) :=
  bindings.foldl (fun slots binding => slots.set binding.parameter (binding.slot subject)) slots

@[simp] theorem performAll_nil (subject : Instance) (slots : List (Slot TypeTag)) :
    performAll subject [] slots = slots := rfl

@[simp] theorem performAll_cons (subject : Instance) (binding : Binding) (bindings : List Binding)
    (slots : List (Slot TypeTag)) :
    performAll subject (binding :: bindings) slots =
      performAll subject bindings (slots.set binding.parameter (binding.slot subject)) := rfl

theorem performAll_append (subject : Instance) (bindings bindings' : List Binding)
    (slots : List (Slot TypeTag)) :
    performAll subject (bindings ++ bindings') slots =
      performAll subject bindings' (performAll subject bindings slots) := List.foldl_append

@[simp] theorem length_performAll (subject : Instance) (bindings : List Binding)
    (slots : List (Slot TypeTag)) : (performAll subject bindings slots).length = slots.length := by
  induction bindings generalizing slots with
  | nil => rfl
  | cons binding bindings ih => rw [performAll_cons, ih, List.length_set]

/-- The last binding to a slot. -/
def lastTo? (parameter : Nat) (bindings : List Binding) : Option Binding :=
  (bindings.filter (·.parameter == parameter)).getLast?

theorem lastTo?_cons (parameter : Nat) (binding : Binding) (bindings : List Binding) :
    lastTo? parameter (binding :: bindings) =
      (lastTo? parameter bindings).or
        (if binding.parameter = parameter then some binding else none) := by
  by_cases h : binding.parameter = parameter
  · simp [lastTo?, h, List.getLast?_cons, Option.or_some]
  · simp [lastTo?, h]

theorem mem_of_lastTo? {parameter : Nat} {binding : Binding} {bindings : List Binding}
    (h : lastTo? parameter bindings = some binding) :
    binding ∈ bindings ∧ binding.parameter = parameter := by
  simpa using List.mem_of_getLast? h

theorem lastTo?_eq_none_iff {parameter : Nat} {bindings : List Binding} :
    lastTo? parameter bindings = none ↔ ∀ binding ∈ bindings, binding.parameter ≠ parameter := by
  simp [lastTo?]

/-- **Of the bindings to a slot the last one counts**, and a slot without bindings is left alone. -/
theorem getElem?_performAll (subject : Instance) (bindings : List Binding)
    (slots : List (Slot TypeTag)) (index : Nat) :
    (performAll subject bindings slots)[index]? =
      slots[index]?.map fun before =>
        ((lastTo? index bindings).map (·.slot subject)).getD before := by
  -- the bindings that come later win over the first one, which is part of the slots for `ih`
  induction bindings generalizing slots with
  | nil => simp [lastTo?]
  | cons binding bindings ih =>
    rw [performAll_cons, ih, lastTo?_cons]
    by_cases h : binding.parameter = index
    · -- this binding counts unless a later one does
      subst h
      rw [if_pos rfl, List.getElem?_set_self']
      cases slots[binding.parameter]? <;> cases lastTo? binding.parameter bindings <;> rfl
    · rw [if_neg h, List.getElem?_set_ne h, Option.or_none]

end Binding

/-- The bindings of a check. -/
def WitnessCheck.bindings (check : WitnessCheck) : List Binding :=
  check.binds.map fun (position, parameter) => ⟨check.accessor, position, parameter⟩

/-- Binding slots to type arguments of the witness that an instance keeps performs bindings. -/
theorem Witness.bindSlots_eq_ok {subject : Instance} {accessor : String} {kept : Witness}
    (hkept : subject.witness? accessor = some kept) {binds : List (Nat × Nat)}
    {slots result : List (Slot TypeTag)}
    (h : kept.bindSlots accessor binds slots = .ok result) :
    result = Binding.performAll subject
      (binds.map fun (position, parameter) => ⟨accessor, position, parameter⟩) slots := by
  induction binds generalizing slots with
  | nil =>
    cases h
    rfl
  | cons bind binds ih =>
    obtain ⟨position, parameter⟩ := bind
    rw [bindSlots] at h
    split at h
    · cases h
    · next tag htag =>
      have hslot : Binding.slot subject ⟨accessor, position, parameter⟩ = .bound tag :=
        Binding.slot_of_tag? (by rw [Binding.tag?, hkept, Option.bind_some, htag])
      rw [List.map_cons, Binding.performAll_cons, hslot]
      exact ih h

/-- A check that succeeds performs its bindings. -/
theorem WitnessCheck.run_eq_ok {check : WitnessCheck} {subject : Instance}
    {witness? : Option Witness} {slots result : List (Slot TypeTag)}
    (h : check.run subject witness? slots = .ok result) :
    result = Binding.performAll subject check.bindings slots := by
  unfold run at h
  split at h
  · cases h
  · split at h
    · cases h
    · next hkept =>
      split at h
      · next hsame =>
        obtain rfl := Witness.isSame_iff.1 hsame
        exact Witness.bindSlots_eq_ok hkept h
      · cases h

/-- Checks that succeed perform their bindings. -/
theorem runChecks_eq_ok {subject : Instance} {entries : List (WitnessCheck × Option Witness)}
    {slots result : List (Slot TypeTag)} (h : runChecks subject entries slots = .ok result) :
    result = Binding.performAll subject (entries.flatMap (·.1.bindings)) slots := by
  induction entries generalizing slots with
  | nil =>
    cases h
    rfl
  | cons entry entries ih =>
    obtain ⟨check, witness?⟩ := entry
    rw [runChecks] at h
    cases hrun : check.run subject witness? slots with
    | error cause =>
      rw [hrun] at h
      cases h
    | ok middle =>
      rw [hrun] at h
      rw [List.flatMap_cons, Binding.performAll_append, ← WitnessCheck.run_eq_ok hrun]
      exact ih h

/-! ## Narrowings -/

namespace Narrowing

variable {narrowing : Narrowing} {subject : Instance} {view : View}
  {witnesses : List (Option Witness)}

/-- What a narrowing asks of witnesses: there is one for each check, and each passes its own. -/
def Accepts (narrowing : Narrowing) (subject : Instance) (witnesses : List (Option Witness)) :
    Prop :=
  witnesses.length = narrowing.checks.length
  ∧ ∀ entry ∈ narrowing.checks.zip witnesses, entry.1.Passes subject entry.2

/-- Why a narrowing fails: the number of witnesses is wrong, or it is right and some check is the
first to fail. -/
inductive FailsWith (narrowing : Narrowing) (subject : Instance)
    (witnesses : List (Option Witness)) : MismatchCause → Prop
  | witnessCount (hlength : witnesses.length ≠ narrowing.checks.length) :
    FailsWith narrowing subject witnesses
      (.witnessCount narrowing.checks.length witnesses.length)
  | check {entry : WitnessCheck × Option Witness} {cause : MismatchCause}
    (hlength : witnesses.length = narrowing.checks.length)
    (hentry : IsFirstFailure (fun entry => entry.1.Passes subject entry.2)
      (narrowing.checks.zip witnesses) entry)
    (hcause : entry.1.FailsWith subject entry.2 cause) :
    FailsWith narrowing subject witnesses cause

/-- The bindings of a narrowing, in the order of its checks and in each in the order of its
bindings. -/
def bindings (narrowing : Narrowing) : List Binding := narrowing.checks.flatMap (·.bindings)

/-- **What comes out of a narrowing** that accepts its witnesses: the initial slots with all
bindings performed. -/
theorem apply_eq_ok_iff {result : View} :
    narrowing.apply view witnesses = .ok result ↔
      narrowing.Accepts view.subject witnesses
      ∧ result = ⟨view.subject,
        Binding.performAll view.subject narrowing.bindings (narrowing.initialSlots view)⟩ := by
  rw [Accepts, ← narrowing.exists_apply_eq_ok_iff view witnesses]
  -- there is at most one result, so it is enough to say what it is
  have hresult : ∀ {result}, narrowing.apply view witnesses = .ok result →
      result = ⟨view.subject,
        Binding.performAll view.subject narrowing.bindings (narrowing.initialSlots view)⟩ := by
    intro result h
    rw [apply] at h
    split at h
    · next slots houtcome =>
      cases h
      rw [outcome] at houtcome
      split at houtcome
      · next hlength =>
        have hchecks : (narrowing.checks.zip witnesses).map Prod.fst = narrowing.checks :=
          List.map_fst_zip (Nat.le_of_eq hlength.symm)
        rw [runChecks_eq_ok houtcome, bindings, ← hchecks, List.flatMap_map, hchecks]
      · cases houtcome
    · cases h
  constructor
  · exact fun h => ⟨⟨result, h⟩, hresult h⟩
  · rintro ⟨⟨result', h⟩, rfl⟩
    rwa [← hresult h]

/-- **A narrowing reports its first failure**, under its own name. -/
theorem apply_eq_error_iff {mismatch : Mismatch} :
    narrowing.apply view witnesses = .error mismatch ↔
      mismatch.operation = narrowing.name
      ∧ narrowing.FailsWith view.subject witnesses mismatch.cause := by
  have houtcome : ∀ cause, narrowing.outcome view witnesses = .error cause ↔
      narrowing.FailsWith view.subject witnesses cause := by
    intro cause
    rw [outcome]
    split
    · next hlength =>
      rw [runChecks_eq_error_iff]
      constructor
      · rintro ⟨entry, hentry, hcause⟩
        exact .check hlength hentry hcause
      · intro h
        cases h with
        | witnessCount hlength' => exact absurd hlength hlength'
        | check _ hentry hcause => exact ⟨_, hentry, hcause⟩
    · next hlength =>
      constructor
      · intro h
        cases h
        exact .witnessCount hlength
      · intro h
        cases h with
        | witnessCount => rfl
        | check hlength' => exact absurd hlength' hlength
  obtain ⟨operation, cause⟩ := mismatch
  rw [← houtcome, apply]
  cases narrowing.outcome view witnesses with
  | ok slots => simp
  | error cause' => simp [eq_comm]

/-- The slots before any check, one by one. -/
theorem getElem?_initialSlots {index : Nat} (h : index < narrowing.arity) :
    (narrowing.initialSlots view)[index]? =
      some (if narrowing.passthrough then view.slots[index]?.getD .unknown else .unknown) := by
  rw [initialSlots]
  split
  · -- the view is cut off or filled up, so a slot is either its own or one that was added
    rw [Slot.resize]
    by_cases hlt : index < view.slots.length
    · rw [List.getElem?_append_left (by simp; omega), List.getElem?_take_of_lt h,
        List.getElem?_eq_getElem hlt, Option.getD_some]
    · rw [List.getElem?_append_right (by simp; omega), Slot.allUnknown, List.getElem?_replicate,
        if_pos (by simp; omega), List.getElem?_eq_none (Nat.not_lt.1 hlt), Option.getD_none]
  · rw [Slot.allUnknown, List.getElem?_replicate, if_pos h]

/-- A narrowing that accepts its witnesses finds the type arguments for all of its bindings. -/
theorem Accepts.exists_tag (h : narrowing.Accepts subject witnesses) {binding : Binding}
    (hbinding : binding ∈ narrowing.bindings) : ∃ tag, binding.tag? subject = some tag := by
  obtain ⟨check, hcheck, hbinding⟩ := List.mem_flatMap.1 hbinding
  obtain ⟨⟨position, parameter⟩, hbind, rfl⟩ := List.mem_map.1 hbinding
  -- there is a witness for every check
  have hchecks : (narrowing.checks.zip witnesses).map Prod.fst = narrowing.checks :=
    List.map_fst_zip (Nat.le_of_eq h.1.symm)
  rw [← hchecks] at hcheck
  obtain ⟨entry, hentry, rfl⟩ := List.mem_map.1 hcheck
  obtain ⟨witness, kept, -, hkept, -, hpositions⟩ := h.2 entry hentry
  have htag := List.getElem?_eq_getElem (hpositions _ hbind)
  exact ⟨_, by rw [Binding.tag?, hkept, Option.bind_some, htag]⟩

/-- **The exact behaviour of a narrowing.** It accepts the witnesses that are as many as its checks
and pass one by one: each is there, is the very witness that the instance keeps under the accessor,
and has a type argument at every position that is looked at. For all other witnesses it gives the
first failure, under its own name. What comes out of it shows the same instance with a slot for each
type parameter: the last binding to a slot decides what it is bound to, and a slot without bindings
is that of the view when slots are passed through, as far as the view has it, and unknown
otherwise. -/
theorem apply_exact (narrowing : Narrowing) (view : View) (witnesses : List (Option Witness)) :
    ((∃ result, narrowing.apply view witnesses = .ok result) ↔
      witnesses.length = narrowing.checks.length
      ∧ ∀ entry ∈ narrowing.checks.zip witnesses, ∃ witness kept,
        entry.2 = some witness ∧ view.subject.witness? entry.1.accessor = some kept
        ∧ kept.isSame witness = true
        ∧ ∀ bind ∈ entry.1.binds, bind.1 < kept.arguments.length)
    ∧ (∀ mismatch, narrowing.apply view witnesses = .error mismatch ↔
      mismatch.operation = narrowing.name
      ∧ narrowing.FailsWith view.subject witnesses mismatch.cause)
    ∧ ∀ result, narrowing.apply view witnesses = .ok result →
      result.subject = view.subject
      ∧ result.slots.length = narrowing.arity
      ∧ ∀ index < narrowing.arity,
        (∀ binding, Binding.lastTo? index narrowing.bindings = some binding →
          ∃ tag, binding.tag? view.subject = some tag
            ∧ result.slots[index]? = some (.bound tag))
        ∧ ((∀ binding ∈ narrowing.bindings, binding.parameter ≠ index) →
          result.slots[index]? =
            some (if narrowing.passthrough then view.slots[index]?.getD .unknown
              else .unknown)) := by
  refine ⟨narrowing.exists_apply_eq_ok_iff view witnesses, fun mismatch => apply_eq_error_iff, ?_⟩
  intro result h
  obtain ⟨haccepts, rfl⟩ := apply_eq_ok_iff.1 h
  refine ⟨rfl, by simp, fun index hlt => ?_⟩
  simp only [Binding.getElem?_performAll, getElem?_initialSlots hlt, Option.map_some]
  constructor
  · intro binding hlast
    obtain ⟨tag, htag⟩ := haccepts.exists_tag (Binding.mem_of_lastTo? hlast).1
    exact ⟨tag, htag, by rw [hlast, Option.map_some, Option.getD_some, Binding.slot_of_tag? htag]⟩
  · intro hnone
    rw [Binding.lastTo?_eq_none_iff.2 hnone, Option.map_none, Option.getD_none]

end Narrowing

end TypeWitness
