import TypeWitness.Proofs.FreshNames
import TypeWitness.Proofs.MethodMeaning

/-! # A cast and its narrowing agree
A cast plan gives a generated method and a narrowing at run time. Both take the same witnesses, and
both refuse them for the same reasons:

* `Narrowing.exists_apply_eq_ok_iff` — a narrowing accepts witnesses when every one of them is the
  very witness that the instance keeps under its accessor.
* `CastPlan.run_method_eq` — the method throws for the witnesses that the narrowing refuses, and
  returns the instance of the new view for all others. -/

namespace TypeWitness

/-! ## What a narrowing accepts -/

/-- Whether an instance keeps a given witness under an accessor. -/
def Instance.keeps (subject : Instance) (accessor : String) (witness? : Option Witness) : Bool :=
  match witness?, subject.witness? accessor with
  | some witness, some kept => kept.isSame witness
  | _, _ => false

/-- An instance keeps a witness that is the very one under the accessor. -/
theorem Instance.keeps_eq_true_iff {subject : Instance} {accessor : String}
    {witness? : Option Witness} :
    subject.keeps accessor witness? = true ↔ ∃ witness kept, witness? = some witness
      ∧ subject.witness? accessor = some kept ∧ kept.isSame witness = true := by
  unfold Instance.keeps
  cases witness? with
  | none => simp
  | some witness => cases subject.witness? accessor <;> simp

/-- What a check asks of a witness: that the instance keeps it, and that it has a type argument at
every position that the check looks at. -/
def WitnessCheck.Passes (check : WitnessCheck) (subject : Instance) (witness? : Option Witness) :
    Prop :=
  ∃ witness kept, witness? = some witness ∧ subject.witness? check.accessor = some kept
    ∧ kept.isSame witness = true ∧ ∀ bind ∈ check.binds, bind.1 < kept.arguments.length

/-- Slots can be bound when the witness has all the type arguments that are asked for. -/
theorem Witness.exists_bindSlots_eq_ok_iff (witness : Witness) (accessor : String)
    (binds : List (Nat × Nat)) (slots : List (Slot TypeTag)) :
    (∃ slots', witness.bindSlots accessor binds slots = .ok slots') ↔
      ∀ bind ∈ binds, bind.1 < witness.arguments.length := by
  induction binds generalizing slots with
  | nil => simp [Witness.bindSlots]
  | cons bind binds ih =>
    obtain ⟨position, parameter⟩ := bind
    rw [List.forall_mem_cons]
    cases htag : witness.arguments[position]? with
    | none =>
      have hout := List.getElem?_eq_none_iff.1 htag
      simp only [Witness.bindSlots, htag]
      constructor
      · rintro ⟨_, h⟩
        cases h
      · rintro ⟨h, -⟩
        omega
    | some tag =>
      -- this position exists, and whatever the slots are now, the other ones decide
      obtain ⟨hin, -⟩ := List.getElem?_eq_some_iff.1 htag
      simp only [Witness.bindSlots, htag, ih]
      exact ⟨fun h => ⟨hin, h⟩, fun h => h.2⟩

/-- A check succeeds when the witness passes it. -/
theorem WitnessCheck.exists_run_eq_ok_iff (check : WitnessCheck) (subject : Instance)
    (witness? : Option Witness) (slots : List (Slot TypeTag)) :
    (∃ slots', check.run subject witness? slots = .ok slots') ↔ check.Passes subject witness? := by
  simp only [WitnessCheck.run, WitnessCheck.Passes]
  cases witness? with
  | none => simp
  | some witness =>
    cases hkept : subject.witness? check.accessor with
    | none => simp
    | some kept =>
      by_cases hsame : kept.isSame witness = true
      · obtain rfl := Witness.isSame_iff.1 hsame
        simp [hsame, Witness.exists_bindSlots_eq_ok_iff]
      · simp [hsame]

/-- Checks succeed one after the other when every witness passes its own. -/
theorem exists_runChecks_eq_ok_iff (subject : Instance)
    (checks : List (WitnessCheck × Option Witness)) (slots : List (Slot TypeTag)) :
    (∃ slots', runChecks subject checks slots = .ok slots') ↔
      ∀ entry ∈ checks, entry.1.Passes subject entry.2 := by
  induction checks generalizing slots with
  | nil => simp [runChecks]
  | cons entry checks ih =>
    obtain ⟨check, witness?⟩ := entry
    have hcheck := check.exists_run_eq_ok_iff subject witness? slots
    rw [List.forall_mem_cons, ← hcheck, runChecks]
    cases hrun : check.run subject witness? slots with
    | error cause =>
      constructor
      · rintro ⟨_, h⟩
        cases h
      · rintro ⟨⟨_, h⟩, -⟩
        cases h
    | ok slots' =>
      -- the other checks start from what this one has bound, which `ih` leaves open
      change (∃ slots'', runChecks subject checks slots' = .ok slots'') ↔ _
      rw [ih]
      exact ⟨fun h => ⟨⟨slots', rfl⟩, h⟩, fun h => h.2⟩

namespace Narrowing

/-- A narrowing shows the instance that it was given. -/
theorem subject_of_apply_eq_ok {narrowing : Narrowing} {view result : View}
    {witnesses : List (Option Witness)} (h : narrowing.apply view witnesses = .ok result) :
    result.subject = view.subject := by
  rw [apply] at h
  split at h
  · cases h
    rfl
  · cases h

/-- **What a narrowing accepts.** There is a witness for each check, and every witness passes. -/
theorem exists_apply_eq_ok_iff (narrowing : Narrowing) (view : View)
    (witnesses : List (Option Witness)) :
    (∃ result, narrowing.apply view witnesses = .ok result) ↔
      witnesses.length = narrowing.checks.length
      ∧ ∀ entry ∈ narrowing.checks.zip witnesses, entry.1.Passes view.subject entry.2 := by
  -- a view is made whenever there are slots for it
  have houtcome : (∃ result, narrowing.apply view witnesses = .ok result) ↔
      ∃ slots, narrowing.outcome view witnesses = .ok slots := by
    rw [apply]
    cases narrowing.outcome view witnesses <;> simp
  rw [houtcome, outcome]
  by_cases hlength : witnesses.length = narrowing.checks.length
  · rw [if_pos hlength, exists_runChecks_eq_ok_iff]
    exact ⟨fun h => ⟨hlength, h⟩, fun h => h.2⟩
  · rw [if_neg hlength]
    constructor
    · rintro ⟨_, h⟩
      cases h
    · exact fun h => absurd h.1 hlength

end Narrowing

/-! ## What a method accepts -/

/-- The exception that refuses a witness. -/
def RuntimeValue.castException : RuntimeValue := .created "ClassCastException"

namespace CastPlan

variable {scope : Scope} {instanceName : String} {subject : Instance}

/-- The condition of a refusal fails exactly for a witness that the instance keeps. -/
theorem isSame_null_or_not_isSame (subject : Instance) (accessor : String)
    (witness? : Option Witness) :
    ((RuntimeValue.ofWitness? witness?).isSame .null
        || !(RuntimeValue.ofWitness? (subject.witness? accessor)).isSame (.ofWitness? witness?)) =
      !subject.keeps accessor witness? := by
  unfold Instance.keeps
  generalize subject.witness? accessor = kept?
  cases witness? <;> cases kept? <;> simp

/-- A refusal throws unless the instance keeps the witness. -/
theorem run_refuse (hinstance : scope.lookup instanceName = some (.subject subject))
    (parameter : WitnessParameter) {witness? : Option Witness}
    (hparameter : scope.lookup parameter.name = some (.ofWitness? witness?)) :
    (refuse instanceName parameter).run scope =
      if subject.keeps parameter.accessor witness? then some .next
      else some (.thrown .castException) := by
  have hname : (Expression.name parameter.name).evaluate scope = some (.ofWitness? witness?) := by
    rw [Expression.evaluate, hparameter]
  have hnull : Expression.null.evaluate scope = some .null := by rw [Expression.evaluate]
  have hcall : (Expression.call (.name instanceName) parameter.accessor []).evaluate scope =
      some (.ofWitness? (subject.witness? parameter.accessor)) :=
    Expression.evaluate_call (by rw [Expression.evaluate, hinstance]) _
  -- both sides of `||` have a value, also where the left one decides alone
  have hcondition := Expression.evaluate_or
    (Expression.evaluate_same hname hnull)
    (Expression.evaluate_notSame hcall hname)
  rw [isSame_null_or_not_isSame] at hcondition
  rw [refuse, Statement.run_ifThen _ hcondition]
  cases subject.keeps parameter.accessor witness? with
  | false => simp [runStatements, Statement.run, Expression.evaluate, RuntimeValue.castException]
  | true => rfl

/-- Refusals let pass the witnesses that the instance keeps, and the first other one makes them
throw. -/
theorem runStatements_refusals (hinstance : scope.lookup instanceName = some (.subject subject))
    (arguments : List (WitnessParameter × Option Witness))
    (harguments : ∀ entry ∈ arguments, scope.lookup entry.1.name = some (.ofWitness? entry.2))
    (statements : List Statement) :
    runStatements scope (arguments.map (fun entry => refuse instanceName entry.1) ++ statements) =
      if arguments.all fun entry => subject.keeps entry.1.accessor entry.2 then
        runStatements scope statements
      else some (.thrown .castException) := by
  induction arguments with
  | nil => rfl
  | cons entry arguments ih =>
    rw [List.forall_mem_cons] at harguments
    have hrefuse := run_refuse hinstance entry.1 harguments.1
    rw [List.map_cons, List.cons_append]
    by_cases hkeeps : subject.keeps entry.1.accessor entry.2 = true
    · rw [if_pos hkeeps] at hrefuse
      rw [runStatements_cons_of_next _ hrefuse, ih harguments.2, List.all_cons, hkeeps,
        Bool.true_and]
    · rw [if_neg hkeeps] at hrefuse
      rw [runStatements_cons_of_thrown _ hrefuse, List.all_cons, eq_false_of_ne_true hkeeps]
      rfl

/-- A method whose parameters have different names returns the instance when that keeps all the
witnesses, and throws otherwise. -/
theorem run_method_of_nodup (options : GenerationOptions) (plan : CastPlan)
    (hnodup : plan.parameterNames.Nodup) (subject : Instance) (witnesses : List (Option Witness))
    (hlength : witnesses.length = plan.witnesses.length) :
    (plan.method options).run (.subject subject :: witnesses.map .ofWitness?) =
      if (plan.witnesses.zip witnesses).all fun entry => subject.keeps entry.1.accessor entry.2 then
        some (.returned (.subject subject))
      else some (.thrown .castException) := by
  have hscope : (plan.method options).scope (.subject subject :: witnesses.map .ofWitness?) =
      plan.parameterNames.zip (.subject subject :: witnesses.map .ofWitness?) := by
    simp [Method.scope, method, parameterNames, Function.comp_def]
  -- no other parameter has its name, so each one is found with its own argument
  have hinstance : (plan.parameterNames.zip
      (.subject subject :: witnesses.map RuntimeValue.ofWitness?)).lookup plan.instanceName =
        some (.subject subject) :=
    lookup_zip_of_nodup hnodup (by simp [parameterNames])
  have harguments : ∀ entry ∈ plan.witnesses.zip witnesses, (plan.parameterNames.zip
      (.subject subject :: witnesses.map RuntimeValue.ofWitness?)).lookup entry.1.name =
        some (.ofWitness? entry.2) := by
    intro entry hentry
    refine lookup_zip_of_nodup hnodup ?_
    rw [parameterNames, List.zip_cons_cons, List.zip_map]
    exact List.mem_cons_of_mem _ (List.mem_map_of_mem hentry)
  have hparameters : plan.witnesses.map (refuse plan.instanceName) =
      (plan.witnesses.zip witnesses).map fun entry => refuse plan.instanceName entry.1 := by
    have hfirst : (plan.witnesses.zip witnesses).map Prod.fst = plan.witnesses :=
      List.map_fst_zip (by omega)
    conv_lhs => rw [← hfirst, List.map_map]
    rfl
  rw [Method.run, hscope, method, hparameters, runStatements_refusals hinstance _ harguments]
  congr 1
  simp [runStatements, Statement.run, Expression.evaluate, hinstance]

/-! ## Agreement -/

/-- When the witness that is kept has all the type arguments that are looked at, a check asks for no
more than that the instance keeps the witness. -/
theorem passes_iff_keeps {check : WitnessCheck} {subject : Instance}
    (hpositions : ∀ kept, subject.witness? check.accessor = some kept →
      ∀ bind ∈ check.binds, bind.1 < kept.arguments.length) (witness? : Option Witness) :
    check.Passes subject witness? ↔ subject.keeps check.accessor witness? = true := by
  rw [WitnessCheck.Passes, Instance.keeps_eq_true_iff]
  constructor
  · rintro ⟨witness, kept, hwitness, hkept, hsame, -⟩
    exact ⟨witness, kept, hwitness, hkept, hsame⟩
  · rintro ⟨witness, kept, hwitness, hkept, hsame⟩
    exact ⟨witness, kept, hwitness, hkept, hsame, hpositions kept hkept⟩

/-- **A cast and its narrowing agree.** Take an instance, any view of it, and a witness or `null`
for every witness parameter, where the witnesses that the instance keeps have the type arguments
that the cast looks at. The body of the generated method throws a `ClassCastException` exactly for
the witnesses that the narrowing refuses; for all others it returns the very instance that the new
view shows. -/
theorem run_method_eq (options : GenerationOptions) (group : TypeGroup) (plan : CastPlan)
    (hplan : plan ∈ ofGroup options group) (view : View) (witnesses : List (Option Witness))
    (hlength : witnesses.length = plan.witnesses.length)
    (hpositions : ∀ check ∈ plan.narrowing.checks, ∀ kept,
      view.subject.witness? check.accessor = some kept →
        ∀ bind ∈ check.binds, bind.1 < kept.arguments.length) :
    (plan.method options).run (.subject view.subject :: witnesses.map .ofWitness?) =
      match plan.narrowing.apply view witnesses with
      | .ok result => some (.returned (.subject result.subject))
      | .error _ => some (.thrown .castException) := by
  rw [run_method_of_nodup options plan (nodup_parameterNames hplan) _ _ hlength]
  have haccepts := plan.narrowing.exists_apply_eq_ok_iff view witnesses
  -- the checks are those of the witnesses in the same order, so they are compared one by one
  have hpasses : (∀ entry ∈ plan.narrowing.checks.zip witnesses,
        entry.1.Passes view.subject entry.2) ↔
      (plan.witnesses.zip witnesses).all
        (fun entry => view.subject.keeps entry.1.accessor entry.2) = true := by
    rw [narrowing, List.zip_map_left, List.forall_mem_map, List.all_eq_true]
    refine forall₂_congr fun entry hentry => ?_
    exact passes_iff_keeps (hpositions _ (List.mem_map_of_mem (List.of_mem_zip hentry).1)) _
  rw [hpasses] at haccepts
  cases happly : plan.narrowing.apply view witnesses with
  | ok result =>
    rw [if_pos (haccepts.1 ⟨result, happly⟩).2, ← Narrowing.subject_of_apply_eq_ok happly]
  | error mismatch =>
    rw [if_neg]
    intro hkeeps
    obtain ⟨result, hresult⟩ := haccepts.2 ⟨by simpa [narrowing] using hlength, hkeeps⟩
    rw [happly] at hresult
    cases hresult

/-- The type `Relation<T1, T2>` with an accessor for each parameter. The accessor of `T2` derives
the name `o`, which is then not free for the instance. -/
def relationGroup : TypeGroup :=
  let owner : OwningType := ⟨"demo", "Relation", .everywhere, [⟨"T1", []⟩, ⟨"T2", []⟩]⟩
  ⟨owner, [⟨owner, "getO", .named "Class" [.named "T2" []], []⟩,
    ⟨owner, "getType1", .named "Class" [.named "T1" []], []⟩]⟩

/-- An instance of `Relation<Integer, String>`. -/
def relation : Instance := ⟨0, [("getO", ⟨1, [⟨"String"⟩]⟩), ("getType1", ⟨2, [⟨"Integer"⟩]⟩)]⟩

/-- The cast of `Relation` returns the instance for its own two witnesses, and throws when the
second one is `null`. -/
theorem run_method_relation :
    let cast := (full .standard relationGroup).method .standard
    cast.run [.subject relation, .witness ⟨1, [⟨"String"⟩]⟩, .witness ⟨2, [⟨"Integer"⟩]⟩] =
        some (.returned (.subject relation))
      ∧ cast.run [.subject relation, .witness ⟨1, [⟨"String"⟩]⟩, .null] =
        some (.thrown .castException) := by
  have hchecks : (full .standard relationGroup).narrowing.checks =
      [⟨"getO", [(0, 1)]⟩, ⟨"getType1", [(0, 0)]⟩] := by decide
  have hpositions : ∀ check ∈ (full .standard relationGroup).narrowing.checks, ∀ kept,
      relation.witness? check.accessor = some kept →
        ∀ bind ∈ check.binds, bind.1 < kept.arguments.length := by
    simp [hchecks, relation, Instance.witness?, List.lookup_cons]
  constructor
  · exact (run_method_eq .standard relationGroup _ List.mem_cons_self ⟨relation, []⟩
      [some ⟨1, [⟨"String"⟩]⟩, some ⟨2, [⟨"Integer"⟩]⟩] (by decide) hpositions).trans rfl
  · exact (run_method_eq .standard relationGroup _ List.mem_cons_self ⟨relation, []⟩
      [some ⟨1, [⟨"String"⟩]⟩, none] (by decide) hpositions).trans rfl

end CastPlan

end TypeWitness
