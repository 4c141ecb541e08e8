import TypeWitness.Output.MemoryStore
import TypeWitness.Output.Workers
import TypeWitness.Proofs.TargetPaths

/-! # Emission into memory
Several workers hand files to a store in memory, in an order that nobody knows. Of the files of one
name the first that comes is taken, and the others are refused without any change. So it depends on
the order which of them the store holds, but not that it holds one for each name; and where names
differ, as those of generated files do, nothing depends on it at all.

* `emitInOrder_zipIdx` — a single worker is one of the orders.
* `MemoryStore.find?_writeInOrder` — what a store holds after some files.
* `MemoryStore.lookup_writeInOrder` — what became of each file.
* `MemoryStore.emission_complete` — what becomes of files, in whichever order they come. -/

namespace TypeWitness

/-! ## A single worker -/

/-- A note at another place does not count. -/
theorem Emission.ofNotes_cons {notes : List (Nat × Except WriteError Unit)}
    {items : List (OutputTarget × Nat)} {place : Nat} (hplace : ∀ item ∈ items, item.2 ≠ place)
    (result : Except WriteError Unit) :
    Emission.ofNotes ((place, result) :: notes) items = Emission.ofNotes notes items := by
  induction items with
  | nil => rfl
  | cons item items ih =>
    rw [List.forall_mem_cons] at hplace
    rw [ofNotes, ofNotes, ih hplace.2, List.lookup_cons, beq_false_of_ne hplace.1]

/-- **A single worker takes the files in their own order.** -/
theorem emitInOrder_zipIdx {m : Type → Type} [Monad m] [LawfulMonad m]
    (write : OutputTarget → m (Except WriteError Unit)) (targets : List OutputTarget) :
    emitInOrder write targets targets.zipIdx = emit write targets := by
  rw [emitInOrder]
  generalize 0 = start
  induction targets generalizing start with
  | nil => simp [writeInOrder, emit, Emission.ofNotes]
  | cons target targets ih =>
    have hplace : ∀ item ∈ targets.zipIdx (start + 1), item.2 ≠ start := by
      intro item hitem heq
      have hle := List.le_snd_of_mem_zipIdx hitem
      omega
    simp only [List.zipIdx_cons, writeInOrder, emit, Emission.ofNotes, bind_assoc, pure_bind,
      List.lookup_cons_self, Emission.ofNotes_cons hplace, ← ih (start + 1)]

namespace MemoryStore

/-! ## One file -/

/-- What the store in memory makes of one more file. -/
theorem write_apply (target : OutputTarget) (store : MemoryStore) :
    write target store =
      if (store.find? target.name).isSome then (.error (.duplicate target.name), store)
      else (.ok (), ⟨store.targets ++ [target]⟩) := by
  rw [write, insert]
  cases store.find? target.name <;> rfl

/-- A file that is added is found by its name, unless another one is. -/
theorem find?_append (store : MemoryStore) (target : OutputTarget) (name : String) :
    find? ⟨store.targets ++ [target]⟩ name =
      (store.find? name).or (if target.name == name then some target else none) := by
  rw [find?, find?, List.find?_append, List.find?_cons, List.find?_nil]
  cases target.name == name <;> rfl

/-! ## Several files -/

/-- The items of a list are found by their names, when names tell them apart. -/
theorem find?_eq_some_iff_of_nodup {α : Type} {name : α → String} {items : List α}
    (h : (items.map name).Nodup) {item : α} :
    items.find? (name · == name item) = some item ↔ item ∈ items := by
  refine ⟨List.mem_of_find?_eq_some, fun hitem => ?_⟩
  cases hfind : items.find? (name · == name item) with
  | none =>
    have hnone := List.find?_eq_none.1 hfind item hitem
    simp at hnone
  | some found =>
    have hname : name found = name item := by simpa using List.find?_some hfind
    rw [List.inj_on_of_nodup_map h (List.mem_of_find?_eq_some hfind) hitem hname]

/-- Whether a file is the first one of its name in an order. -/
def comesFirst (order : List (OutputTarget × Nat)) (item : OutputTarget × Nat) : Bool :=
  order.find? (·.1.name == item.1.name) == some item

/-- A file that comes before is the first one of its own name only. -/
theorem comesFirst_cons {first item : OutputTarget × Nat} (hne : first ≠ item)
    (order : List (OutputTarget × Nat)) :
    comesFirst (first :: order) item =
      (!(first.1.name == item.1.name) && comesFirst order item) := by
  rw [comesFirst, List.find?_cons]
  cases first.1.name == item.1.name with
  | false => rfl
  | true => simpa using hne

section Order

variable {order : List (OutputTarget × Nat)} {store : MemoryStore}

theorem writeInOrder_cons (item : OutputTarget × Nat) (order : List (OutputTarget × Nat))
    (store : MemoryStore) :
    writeInOrder write (item :: order) store =
      let first := write item.1 store
      let rest := writeInOrder write order first.2
      ((item.2, first.1) :: rest.1, rest.2) := rfl

/-- **What a store holds after some files**: what it held before, and the first one of each other
name. -/
theorem find?_writeInOrder (order : List (OutputTarget × Nat)) (store : MemoryStore)
    (name : String) :
    (writeInOrder write order store).2.find? name =
      (store.find? name).or ((order.map (·.1)).find? (·.name == name)) := by
  induction order generalizing store with
  | nil => exact (Option.or_none).symm
  | cons item order ih =>
    rw [writeInOrder_cons, List.map_cons, List.find?_cons, write_apply]
    split
    · next htaken =>
      -- the file is refused, and it is not the first one of its name anyway
      rw [ih]
      cases hname : item.1.name == name with
      | false => rfl
      | true =>
        rw [eq_of_beq hname] at htaken
        rw [Option.or_of_isSome htaken, Option.or_of_isSome htaken]
    · rw [ih, find?_append, Option.or_assoc]
      cases item.1.name == name <;> rfl

/-- **What became of each file**: it was taken when its name was free and it was the first one of
its name, and refused otherwise. -/
theorem lookup_writeInOrder (hplaces : (order.map (·.2)).Nodup) (store : MemoryStore)
    {item : OutputTarget × Nat} (hitem : item ∈ order) :
    (writeInOrder write order store).1.lookup item.2 =
      some (if (store.find? item.1.name).isNone && comesFirst order item then .ok ()
        else .error (.duplicate item.1.name)) := by
  induction order generalizing store with
  | nil => cases hitem
  | cons first order ih =>
    rw [List.map_cons, List.nodup_cons] at hplaces
    rw [writeInOrder_cons, write_apply]
    cases hitem with
    | head =>
      have hfirst : comesFirst (item :: order) item = true := by simp [comesFirst]
      rw [hfirst, Bool.and_true]
      cases hstore : store.find? item.1.name <;> simp
    | tail _ hitem =>
      have hplace : item.2 ≠ first.2 := fun heq => hplaces.1 (heq ▸ List.mem_map_of_mem hitem)
      dsimp only
      rw [List.lookup_cons, beq_false_of_ne hplace]
      dsimp only
      rw [ih hplaces.2 _ hitem]
      have hne : first ≠ item := fun heq => hplace (heq ▸ rfl)
      rw [comesFirst_cons hne]
      cases hname : first.1.name == item.1.name with
      | false => split <;> simp [find?_append, hname]
      | true =>
        -- its name is taken by now
        rw [eq_of_beq hname]
        split
        · next htaken => simp [Option.isNone_eq_false_iff.2 htaken]
        · simp [find?_append, eq_of_beq hname]

/-- A store keeps one file for each name. -/
theorem nodup_names_writeInOrder (h : (store.targets.map (·.name)).Nodup)
    (order : List (OutputTarget × Nat)) :
    ((writeInOrder write order store).2.targets.map (·.name)).Nodup := by
  induction order generalizing store with
  | nil => exact h
  | cons item order ih =>
    rw [writeInOrder_cons, write_apply]
    split
    · exact ih h
    · next hfree =>
      refine ih ?_
      have hunused : item.1.name ∉ store.targets.map (·.name) := by
        simpa [find?, List.find?_isSome] using hfree
      rw [List.map_append, List.nodup_append_comm]
      exact List.nodup_cons.2 ⟨hunused, h⟩

end Order

/-- What a store with one file for each name holds. -/
theorem mem_targets_iff {store : MemoryStore} (h : (store.targets.map (·.name)).Nodup)
    {target : OutputTarget} : target ∈ store.targets ↔ store.find? target.name = some target :=
  (find?_eq_some_iff_of_nodup h).symm

/-- A store with one file for each name gives them out in strictly increasing order. -/
theorem pairwise_sortedTargets {store : MemoryStore} (h : (store.targets.map (·.name)).Nodup) :
    store.sortedTargets.Pairwise fun a b => a.name < b.name := by
  have hperm : store.sortedTargets.Perm store.targets := List.mergeSort_perm _ _
  have hne : store.sortedTargets.Pairwise fun a b => a.name ≠ b.name :=
    List.pairwise_map.1 ((hperm.map _).nodup_iff.2 h)
  refine ((pairwise_mergeSort_by_name (·.name) store.targets).and hne).imp ?_
  intro a b hab
  exact String.not_le.1 fun hba => hab.2 (String.le_antisymm hab.1 hba)

end MemoryStore

/-! ## The account of an emission -/

/-- The report of a file that is refused because its name is taken. -/
def OutputTarget.refusal (target : OutputTarget) : Diagnostic :=
  (Problem.writeFailed target.path (WriteError.duplicate target.name).message).diagnostic
    target.name

/-- The account of files that were either taken or refused because their names were. -/
theorem Emission.ofNotes_eq {notes : List (Nat × Except WriteError Unit)}
    {items : List (OutputTarget × Nat)} {isTaken : OutputTarget × Nat → Bool}
    (h : ∀ item ∈ items, notes.lookup item.2 =
      some (if isTaken item then .ok () else .error (.duplicate item.1.name))) :
    Emission.ofNotes notes items =
      ⟨(items.filter isTaken).map (·.1.name), (items.filter (!isTaken ·)).map (·.1.name),
        (items.filter (!isTaken ·)).map (·.1.refusal)⟩ := by
  induction items with
  | nil => rfl
  | cons item items ih =>
    rw [List.forall_mem_cons] at h
    rw [ofNotes, h.1, ih h.2, List.filter_cons, List.filter_cons]
    cases isTaken item <;> rfl

namespace MemoryStore

section InOrder

variable {targets : List OutputTarget} {order : List (OutputTarget × Nat)}

/-- The store keeps one file for each name, in whichever order files come. -/
theorem nodup_names_emitInOrder :
    ((emitInOrder write targets order empty).2.targets.map (·.name)).Nodup :=
  have hempty : (empty.targets.map (·.name)).Nodup := List.nodup_nil
  nodup_names_writeInOrder hempty order

/-- **What the store gives out**: the first file of each name. -/
theorem mem_sortedTargets_emitInOrder {target : OutputTarget} :
    target ∈ (emitInOrder write targets order empty).2.sortedTargets ↔
      (order.map (·.1)).find? (·.name == target.name) = some target := by
  rw [sortedTargets, List.mem_mergeSort, mem_targets_iff nodup_names_emitInOrder]
  exact Eq.congr_left (find?_writeInOrder order empty target.name)

/-- **The account of all files**: the first file of each name was taken, and no other one. -/
theorem account_emitInOrder (horder : order.Perm targets.zipIdx) :
    (emitInOrder write targets order empty).1 =
      ⟨(targets.zipIdx.filter (comesFirst order)).map (·.1.name),
        (targets.zipIdx.filter (!comesFirst order ·)).map (·.1.name),
        (targets.zipIdx.filter (!comesFirst order ·)).map (·.1.refusal)⟩ := by
  have hplaces : (order.map (·.2)).Nodup := by
    rw [(horder.map _).nodup_iff, List.zipIdx_map_snd]
    exact List.nodup_range'
  exact Emission.ofNotes_eq fun item hitem =>
    lookup_writeInOrder hplaces empty (horder.mem_iff.2 hitem)

theorem map_name_zipIdx : targets.zipIdx.map (·.1.name) = targets.map (·.name) := by
  conv_rhs => rw [← List.zipIdx_map_fst 0 targets, List.map_map]
  rfl

/-- **Files whose names increase are all taken**, and the store gives them out as they are, in
whichever order they come. -/
theorem emitInOrder_of_increasing (horder : order.Perm targets.zipIdx)
    (hincreasing : targets.Pairwise fun a b => a.name < b.name) :
    (emitInOrder write targets order empty).1 = ⟨targets.map (·.name), [], []⟩
    ∧ (emitInOrder write targets order empty).2.sortedTargets = targets := by
  have hnames : (targets.map (·.name)).Nodup :=
    List.pairwise_map.2 (hincreasing.imp String.ne_of_lt)
  have hdistinct : (order.map (·.1.name)).Nodup := by
    rwa [(horder.map _).nodup_iff, map_name_zipIdx]
  constructor
  · have hfirst : ∀ item ∈ targets.zipIdx, comesFirst order item = true := fun item hitem =>
      beq_iff_eq.2 ((find?_eq_some_iff_of_nodup hdistinct).2 (horder.mem_iff.2 hitem))
    have hnone : targets.zipIdx.filter (!comesFirst order ·) = [] :=
      List.filter_eq_nil_iff.2 fun item hitem => by simp [hfirst item hitem]
    rw [account_emitInOrder horder, List.filter_eq_self.2 hfirst, hnone, map_name_zipIdx]
    rfl
  · have hsorted : (emitInOrder write targets order empty).2.sortedTargets.Pairwise
        fun a b => a.name < b.name := pairwise_sortedTargets nodup_names_emitInOrder
    have htargets : (order.map (·.1)).Perm targets := by
      simpa using horder.map (·.1)
    have hmem : ∀ target, target ∈ (emitInOrder write targets order empty).2.sortedTargets ↔
        target ∈ targets := by
      intro target
      rw [mem_sortedTargets_emitInOrder, ← htargets.mem_iff]
      exact find?_eq_some_iff_of_nodup ((htargets.map _).nodup_iff.2 hnames)
    -- lists in strictly increasing order are told by their members
    have hnodup := List.pairwise_map.2 (hsorted.imp String.ne_of_lt)
    have hperm := (List.perm_ext_iff_of_nodup (.of_map _ hnodup) (.of_map _ hnames)).2 hmem
    exact hperm.eq_of_pairwise (fun _ _ _ _ hab hba => (String.lt_asymm hab hba).elim) hsorted
      hincreasing

end InOrder

/-- **What becomes of files that workers hand to a new store in memory**, in whichever order they
come; a single worker takes them in their own order. Of the files of one name the first is taken,
and each later one is refused as a duplicate and changes nothing. The store gives out the files that
were taken in strictly increasing order of their names: the first one of each name. The names of all
files are accounted for in the order of the files, and each file that was refused is reported once,
in that order, with the code 4001. The files generated from a manifest are all taken, nothing is
reported, and the store gives them out as they were generated. -/
theorem emission_complete (targets : List OutputTarget) {order : List (OutputTarget × Nat)}
    (horder : order.Perm targets.zipIdx) :
    let outcome := emitInOrder write targets order empty
    let refused := targets.zipIdx.filter (!comesFirst order ·)
    emit write targets empty = emitInOrder write targets targets.zipIdx empty
    ∧ (∀ before item after, order = before ++ item :: after →
      let store := (writeInOrder write before empty).2
      write item.1 store =
        if item.1.name ∈ before.map (·.1.name) then (.error (.duplicate item.1.name), store)
        else (.ok (), ⟨store.targets ++ [item.1]⟩))
    ∧ outcome.2.sortedTargets.Pairwise (fun a b => a.name < b.name)
    ∧ (∀ target, target ∈ outcome.2.sortedTargets ↔
      (order.map (·.1)).find? (·.name == target.name) = some target)
    ∧ outcome.1.written = (targets.zipIdx.filter (comesFirst order)).map (·.1.name)
    ∧ outcome.1.failed = refused.map (·.1.name)
    ∧ outcome.1.diagnostics = refused.map (·.1.refusal)
    ∧ (∀ diagnostic ∈ outcome.1.diagnostics, diagnostic.code = 4001)
    ∧ ∀ (manifest : Manifest) (options : GenerationOptions),
      targets = (manifest.generate options).targets →
      outcome.1 = ⟨targets.map (·.name), [], []⟩ ∧ outcome.2.sortedTargets = targets := by
  intro outcome refused
  have haccount : outcome.1 = ⟨(targets.zipIdx.filter (comesFirst order)).map (·.1.name),
      refused.map (·.1.name), refused.map (·.1.refusal)⟩ := account_emitInOrder horder
  refine ⟨(congrFun (emitInOrder_zipIdx write targets) empty).symm,
    fun before item after _ => ?_, pairwise_sortedTargets nodup_names_emitInOrder,
    fun target => mem_sortedTargets_emitInOrder, ?_, ?_, ?_, ?_, ?_⟩
  · have htaken : ((writeInOrder write before empty).2.find? item.1.name).isSome = true ↔
        item.1.name ∈ before.map (·.1.name) := by
      rw [find?_writeInOrder]
      simp [find?, empty]
    dsimp only
    rw [write_apply]
    exact if_congr htaken rfl rfl
  · rw [haccount]
  · rw [haccount]
  · rw [haccount]
  · rw [haccount]
    intro diagnostic hdiagnostic
    obtain ⟨item, -, rfl⟩ := List.mem_map.1 hdiagnostic
    exact Problem.diagnostic_code _ _
  · intro manifest options htargets
    have hincreasing : targets.Pairwise fun a b => a.name < b.name :=
      htargets ▸ (Manifest.keepsLeast_generate options).increasing
    exact emitInOrder_of_increasing horder hincreasing

/-- Of two files of one name the one that comes first is taken, though it stands behind the other
one; and generated files that come in the opposite order are all taken. -/
theorem emission_complete_repeated :
    let early : OutputTarget := ⟨"model.Holder", "model/Holder.java", [], "early"⟩
    let other : OutputTarget := ⟨"model.Cast", "model/Cast.java", [], "other"⟩
    let late : OutputTarget := ⟨"model.Holder", "model/Holder.java", [], "late"⟩
    let order := [(late, 2), (early, 0), (other, 1)]
    let outcome := emitInOrder write [early, other, late] order empty
    let generated := (Manifest.generate .standard ⟨[relationDeclaration]⟩).targets
    let outcome' := emitInOrder write generated generated.zipIdx.reverse empty
    order.Perm [early, other, late].zipIdx
    ∧ outcome.1.written = ["model.Cast", "model.Holder"]
    ∧ outcome.1.failed = ["model.Holder"] ∧ outcome.1.diagnostics = [early.refusal]
    ∧ late ∈ outcome.2.sortedTargets ∧ early ∉ outcome.2.sortedTargets
    ∧ generated.zipIdx.reverse.Perm generated.zipIdx
    ∧ generated ≠ [] ∧ outcome'.1.failed = [] ∧ outcome'.2.sortedTargets = generated := by
  intro early other late order outcome generated outcome'
  have horder : order.Perm [early, other, late].zipIdx := by decide
  obtain ⟨-, -, -, hmem, hwritten, hfailed, hdiagnostics, -, -⟩ := emission_complete _ horder
  have hreverse : generated.zipIdx.reverse.Perm generated.zipIdx := List.reverse_perm _
  obtain ⟨-, -, -, -, -, -, -, -, hgenerated⟩ := emission_complete generated hreverse
  obtain ⟨haccount, hsorted⟩ := hgenerated ⟨[relationDeclaration]⟩ .standard rfl
  have hsome : generated ≠ [] := by
    have hcontainer : ("model", "RelationMap") ∈
        (Manifest.collect ⟨[relationDeclaration]⟩).containers.map fun container =>
          (container.declaringType.packageName, container.className) := by
      decide +kernel
    obtain ⟨target, htarget, -⟩ :=
      Manifest.exists_target_of_container isValidIdentifier_standard hcontainer
    exact List.ne_nil_of_mem htarget
  refine ⟨horder, hwritten.trans (by decide), hfailed.trans (by decide),
    hdiagnostics.trans (by rfl), (hmem late).2 (by decide), fun hearly => ?_, hreverse, hsome, ?_,
    hsorted⟩
  · exact absurd ((hmem early).1 hearly) (by decide)
  · rw [haccount]

end MemoryStore

end TypeWitness
