import Mathlib.Data.List.Dedup
import Mathlib.Data.List.Perm.Subperm
import Mathlib.Order.Bounds.Defs
import TypeWitness.Generation.CastPlan

/-! # Fresh names
The names of the parameters of a cast are told apart by underscores. `freshName` searches the row
`base`, `base_`, `base__`, … and stops after as many steps as there are taken names. The members of
that row differ, so a free one is among those that it looks at:

* `freshName_spec` — the answer is the first member of the row that is not taken.
* `freshName_isLeast` — the search ends there by itself, however many steps it may take.
* `nodup_parameterNames` — the parameters of a cast have pairwise different names. -/

namespace TypeWitness

/-! ## The row of candidates -/

/-- A name followed by a number of underscores. -/
def underscored (base : String) (count : Nat) : String :=
  base ++ String.ofList (List.replicate count '_')

@[simp] theorem underscored_zero (base : String) : underscored base 0 = base := by
  simp [underscored]

/-- One more underscore leads to the next candidate. -/
theorem push_underscored (base : String) (count : Nat) :
    (underscored base count).push '_' = underscored base (count + 1) := by
  apply String.toList_injective
  simp [underscored, List.replicate_succ', String.toList_push]

/-- The candidates are pairwise different, as their lengths are. -/
theorem underscored_injective (base : String) : Function.Injective (underscored base) := by
  intro i j h
  have hlength := congrArg String.length h
  simpa [underscored] using hlength

/-- As many candidates as lead a row of taken ones are no more than there are taken names, each
counted once. -/
theorem le_of_underscored_mem {base : String} {taken : List String} {count : Nat}
    (h : ∀ i < count, underscored base i ∈ taken) : count ≤ taken.dedup.length := by
  have hnodup : ((List.range count).map (underscored base)).Nodup :=
    List.nodup_range.map (underscored_injective base)
  -- different names among the taken ones are no more than these
  have hsub : (List.range count).map (underscored base) ⊆ taken.dedup := by
    intro name hname
    obtain ⟨i, hi, rfl⟩ := List.mem_map.1 hname
    exact List.mem_dedup.2 (h i (List.mem_range.1 hi))
  simpa using (List.subperm_of_subset hnodup hsub).length_le

/-! ## The search -/

/-- The search skips taken candidates only, and it stops at a free one unless its steps run out. -/
theorem extend_underscored (base : String) (taken : List String) (steps start : Nat) :
    ∃ skipped ≤ steps,
      freshName.extend taken steps (underscored base start) = underscored base (start + skipped)
      ∧ (∀ i, start ≤ i → i < start + skipped → underscored base i ∈ taken)
      ∧ (skipped = steps ∨ underscored base (start + skipped) ∉ taken) := by
  -- each step looks at one candidate, and what is left of the row begins one underscore later
  induction steps generalizing start with
  | zero => exact ⟨0, Nat.le_refl 0, rfl, fun i h h' => absurd h' (by omega), Or.inl rfl⟩
  | succ steps ih =>
    by_cases htaken : underscored base start ∈ taken
    · obtain ⟨skipped, hle, heq, hskipped, hend⟩ := ih (start + 1)
      have hnext : start + 1 + skipped = start + (skipped + 1) := by omega
      rw [hnext] at heq hskipped hend
      refine ⟨skipped + 1, by omega, ?_, ?_, ?_⟩
      · rw [freshName.extend, if_pos (by simpa using htaken), push_underscored, heq]
      · intro i hstart hi
        rcases Nat.eq_or_lt_of_le hstart with rfl | hlt
        · exact htaken
        · exact hskipped i hlt hi
      · rcases hend with rfl | hfree
        · exact Or.inl rfl
        · exact Or.inr hfree
    · refine ⟨0, by omega, ?_, fun i h h' => absurd h' (by omega), Or.inr htaken⟩
      rw [freshName.extend, if_neg (by simpa using htaken), Nat.add_zero]

/-- **The fresh name is the first free candidate.** It carries no more underscores than there are
taken names, each counted once. -/
theorem freshName_spec (base : String) (taken : List String) :
    ∃ count ≤ taken.dedup.length,
      freshName base taken = underscored base count
      ∧ underscored base count ∉ taken
      ∧ ∀ i < count, underscored base i ∈ taken := by
  obtain ⟨count, hle, heq, hskipped, hend⟩ := extend_underscored base taken taken.length 0
  rw [underscored_zero, Nat.zero_add] at heq
  rw [Nat.zero_add] at hskipped hend
  have hbefore : ∀ i < count, underscored base i ∈ taken :=
    fun i hi => hskipped i (Nat.zero_le i) hi
  have hfree : underscored base count ∉ taken := by
    rcases hend with hlast | hfree
    · -- with all steps used, one more taken candidate would be one too many
      intro htaken
      have hall : ∀ i < count + 1, underscored base i ∈ taken := by
        intro i hi
        rcases Nat.lt_succ_iff_lt_or_eq.1 hi with hlt | rfl
        · exact hbefore i hlt
        · exact htaken
      have hcount := le_of_underscored_mem hall
      have hdedup := (List.dedup_sublist taken).length_le
      omega
    · exact hfree
  exact ⟨count, le_of_underscored_mem hbefore, heq, hfree, hbefore⟩

/-- However many steps the search may take, it takes as many as there are candidates before the
first free one, or all that it may. -/
theorem extend_eq_underscored_min {base : String} {taken : List String} {count : Nat}
    (hfree : underscored base count ∉ taken) (hbefore : ∀ i < count, underscored base i ∈ taken)
    (steps : Nat) :
    freshName.extend taken steps base = underscored base (min steps count) := by
  obtain ⟨skipped, hle, heq, hskipped, hend⟩ := extend_underscored base taken steps 0
  rw [underscored_zero, Nat.zero_add] at heq
  rw [Nat.zero_add] at hskipped hend
  rw [heq]
  congr 1
  -- the free candidate is not skipped
  have hcount : skipped ≤ count :=
    Nat.le_of_not_lt fun hlt => hfree (hskipped count (Nat.zero_le _) hlt)
  rcases hend with rfl | hstop
  · exact (Nat.min_eq_left hcount).symm
  · have hskip : count ≤ skipped := Nat.le_of_not_lt fun hlt => hstop (hbefore skipped hlt)
    omega

/-- **The search for a fresh name ends with the least free candidate.** It appends at most as many
underscores as there are taken names, each counted once, and it would append no more with more
steps. -/
theorem freshName_isLeast (base : String) (taken : List String) :
    ∃ count ≤ taken.dedup.length,
      IsLeast {count | underscored base count ∉ taken} count
      ∧ freshName base taken = underscored base count
      ∧ ∀ steps, freshName.extend taken steps base = underscored base (min steps count) := by
  obtain ⟨count, hle, heq, hfree, hbefore⟩ := freshName_spec base taken
  have hleast : IsLeast {count | underscored base count ∉ taken} count :=
    ⟨hfree, fun other hother => Nat.le_of_not_lt fun hlt => hother (hbefore other hlt)⟩
  exact ⟨count, hle, hleast, heq, extend_eq_underscored_min hfree hbefore⟩

/-- A fresh name is not taken. -/
theorem freshName_not_mem (base : String) (taken : List String) :
    freshName base taken ∉ taken := by
  obtain ⟨count, _, heq, hfree, _⟩ := freshName_spec base taken
  rw [heq]
  exact hfree

/-! ## The parameters of a cast -/

@[simp] theorem length_witnessNames (taken : List String) (accessors : List TokenAccessor) :
    (witnessNames taken accessors).length = accessors.length := by
  induction accessors generalizing taken with
  | nil => rfl
  | cons accessor accessors ih => simp [witnessNames, ih]

/-- Names of witness parameters avoid the names that are taken from the start. -/
theorem not_mem_taken_of_mem_witnessNames {taken : List String} {accessors : List TokenAccessor}
    {name : String} (h : name ∈ witnessNames taken accessors) : name ∉ taken := by
  induction accessors generalizing taken with
  | nil => simp [witnessNames] at h
  | cons accessor accessors ih =>
    rw [witnessNames, List.mem_cons] at h
    rcases h with rfl | h
    · exact freshName_not_mem _ _
    · exact fun htaken => ih h (List.mem_append_left _ htaken)

/-- Names of witness parameters are pairwise different. -/
theorem nodup_witnessNames (taken : List String) (accessors : List TokenAccessor) :
    (witnessNames taken accessors).Nodup := by
  induction accessors generalizing taken with
  | nil => simp [witnessNames]
  | cons accessor accessors ih =>
    rw [witnessNames, List.nodup_cons]
    -- a name is taken before the next ones are chosen, so these avoid it
    refine ⟨fun hmem => ?_, ih _⟩
    exact not_mem_taken_of_mem_witnessNames hmem (by simp)

namespace CastPlan

/-- The names of the parameters of a cast: the instance, then the witnesses. -/
def parameterNames (plan : CastPlan) : List String :=
  plan.instanceName :: plan.witnesses.map (·.name)

/-- The witnesses of a cast carry the names that were chosen for them. -/
theorem map_name_witnesses_build (name : String) (owner : OwningType)
    (accessors : List TokenAccessor) (style : SignatureStyle) :
    (build name owner accessors style).witnesses.map (·.name) = witnessNames [] accessors := by
  simp only [build, List.map_map]
  exact List.map_snd_zip (by simp)

/-- A cast takes a witness for each accessor, in the order of the accessors. -/
theorem map_accessor_witnesses_build (name : String) (owner : OwningType)
    (accessors : List TokenAccessor) (style : SignatureStyle) :
    (build name owner accessors style).witnesses.map (·.accessor) = accessors.map (·.name) := by
  -- every accessor has got a name, so none is lost when they are paired
  have hfst : (accessors.zip (witnessNames [] accessors)).map Prod.fst = accessors :=
    List.map_fst_zip (by simp)
  conv_rhs => rw [← hfst, List.map_map]
  simp only [build, List.map_map]
  rfl

/-- **The parameters of a cast have pairwise different names.** -/
theorem nodup_parameterNames_build (name : String) (owner : OwningType)
    (accessors : List TokenAccessor) (style : SignatureStyle) :
    (build name owner accessors style).parameterNames.Nodup := by
  rw [parameterNames, map_name_witnesses_build, List.nodup_cons]
  exact ⟨freshName_not_mem "o" _, nodup_witnessNames [] accessors⟩

/-- Every cast of a type is built from some of its accessors. -/
theorem exists_build_of_mem_ofGroup {options : GenerationOptions} {group : TypeGroup}
    {plan : CastPlan} (h : plan ∈ ofGroup options group) :
    ∃ name accessors, accessors.Sublist group.accessors
      ∧ plan = build name group.owner accessors options.signatureStyle := by
  rw [ofGroup, List.mem_cons] at h
  rcases h with rfl | h
  · exact ⟨options.castName, group.accessors, List.Sublist.refl _, rfl⟩
  · split at h
    · obtain ⟨accessor, haccessor, rfl⟩ := List.mem_map.1 h
      exact ⟨_, [accessor], List.singleton_sublist.2 haccessor, rfl⟩
    · simp at h

/-- The casts of a type are one with a witness for every accessor and, when there are several, one
for each of them. -/
theorem map_name_accessors_ofGroup (options : GenerationOptions) (group : TypeGroup) :
    (ofGroup options group).map (fun plan => (plan.name, plan.witnesses.map (·.accessor))) =
      (options.castName, group.accessors.map (·.name)) ::
        if group.accessors.length > 1 then
          group.accessors.map fun accessor =>
            (options.partialCastPrefix ++ accessor.tokenName.upper, [accessor.name])
        else [] := by
  rw [ofGroup, List.map_cons, full, map_accessor_witnesses_build]
  congr 1
  split
  · rw [List.map_map]
    refine List.map_congr_left fun accessor _ => ?_
    rw [Function.comp_apply, single, map_accessor_witnesses_build, List.map_singleton]
    rfl
  · rfl

/-- The parameters of every cast of a type have pairwise different names. -/
theorem nodup_parameterNames {options : GenerationOptions} {group : TypeGroup}
    {plan : CastPlan} (h : plan ∈ ofGroup options group) : plan.parameterNames.Nodup := by
  obtain ⟨name, accessors, -, rfl⟩ := exists_build_of_mem_ofGroup h
  exact nodup_parameterNames_build name group.owner accessors options.signatureStyle

end CastPlan

end TypeWitness
