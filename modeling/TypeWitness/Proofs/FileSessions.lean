import TypeWitness.Proofs.FileTreeLaws

/-! # Sessions of a store on disk
A store on disk is asked for one file after the other, some of which it may not be able to write.
It remembers the names of the files that it has written, and no others: a name is refused once its
file is there, and a file that could not be written leaves nothing behind, neither a part of it nor
its name.

* `FileStore.mem_claimed_calls` — the names that a store remembers.
* `FileStore.write_after_calls` — what a call does, whatever calls came before it. -/

namespace TypeWitness

open Function (update)

variable {σ Place : Type}

namespace FileStore

/-! ## One call -/

section Call

variable (access : FileAccess (StateM σ)) {store : FileStore} {target : OutputTarget}

/-- A name that is taken is refused. -/
theorem write_of_mem (htaken : target.name ∈ store.claimed) (state : σ) :
    write access target store state = ((.error (.duplicate target.name), store), state) := by
  rw [write, take?_of_mem htaken]
  rfl

/-- A call for a name that is free goes as it would go on a new store. -/
theorem write_of_not_mem (hfree : target.name ∉ store.claimed) (state : σ) :
    let call := write access target store state
    let fresh := write access target (ofRoot store.root) state
    call.1.1 = fresh.1.1 ∧ call.2 = fresh.2 := by
  have hnew : target.name ∉ (ofRoot store.root).claimed := List.not_mem_nil
  rw [write_apply access hfree, write_apply access hnew]
  exact ⟨rfl, rfl⟩

/-- A call never changes the directory that files are written to. -/
theorem root_write (target : OutputTarget) (store : FileStore) (state : σ) :
    (write access target store state).1.2.root = store.root := by
  by_cases htaken : target.name ∈ store.claimed
  · rw [write_of_mem access htaken]
  · rw [write_apply access htaken]
    dsimp only
    cases (writeFile access (destination store.root target) target.contents state).1 <;> rfl

/-- A call takes a name when it succeeds, and no other name. -/
theorem mem_claimed_write {name : String} (state : σ) :
    name ∈ (write access target store state).1.2.claimed ↔
      name ∈ store.claimed
      ∨ target.name = name ∧ (write access target store state).1.1 = .ok () := by
  by_cases htaken : target.name ∈ store.claimed
  · rw [write_of_mem access htaken]
    simp
  · rw [write_apply access htaken]
    dsimp only
    cases (writeFile access (destination store.root target) target.contents state).1 with
    | error error => simp [claim]
    | ok => simp [claim, or_comm, eq_comm]

end Call

/-! ## Several calls -/

section Calls

variable (access : FileAccess (StateM σ))

theorem calls_cons (target : OutputTarget) (targets : List OutputTarget) (store : FileStore)
    (state : σ) :
    (target :: targets).mapM (write access) store state =
      let first := write access target store state
      let rest := targets.mapM (write access) first.1.2 first.2
      ((first.1.1 :: rest.1.1, rest.1.2), rest.2) := by
  rw [List.mapM_cons]
  rfl

theorem length_calls (calls : List OutputTarget) (store : FileStore) (state : σ) :
    (calls.mapM (write access) store state).1.1.length = calls.length := by
  induction calls generalizing store state with
  | nil => rfl
  | cons target calls ih =>
    rw [calls_cons, List.length_cons, List.length_cons, ih]

theorem root_calls (calls : List OutputTarget) (store : FileStore) (state : σ) :
    (calls.mapM (write access) store state).1.2.root = store.root := by
  induction calls generalizing store state with
  | nil => rfl
  | cons target calls ih =>
    rw [calls_cons]
    exact (ih _ _).trans (root_write access target store state)

/-- **The names that a store remembers** are those of the calls that succeeded. -/
theorem mem_claimed_calls (calls : List OutputTarget) (store : FileStore) (state : σ)
    (name : String) :
    let session := calls.mapM (write access) store state
    name ∈ session.1.2.claimed ↔
      name ∈ store.claimed
      ∨ ∃ call ∈ calls.zip session.1.1, call.1.name = name ∧ call.2 = .ok () := by
  induction calls generalizing store state with
  | nil =>
    have hsession : ([].mapM (write access) store) state = (([], store), state) := rfl
    rw [hsession]
    simp
  | cons target calls ih =>
    dsimp only at ih ⊢
    rw [calls_cons]
    dsimp only
    rw [ih, mem_claimed_write, List.zip_cons_cons, List.exists_mem_cons_iff, or_assoc]

end Calls

/-- **What a call does, whatever calls came before it**, over a file system any step of which may
fail. It is refused as a duplicate exactly when an earlier call for the name succeeded, and changes
nothing then. When it fails otherwise, all files are as they were, so no temporary file is left, and
the store is as it was: any later call for the name goes as it would go on a new store. When it
succeeds, its path leads to a file with the contents that were asked for, and no other file has
changed. -/
theorem write_after_calls [DecidableEq Place] {access : FileAccess (StateM σ)}
    {view : PlaceView σ Place} (h : access.Careful view) (root : String)
    (calls : List OutputTarget) (target : OutputTarget) (state : σ) :
    let session := calls.mapM (write access) (ofRoot root) state
    let results := session.1.1
    let store := session.1.2
    let before := session.2
    let outcome := write access target store before
    let result := outcome.1.1
    let after := outcome.2
    results.length = calls.length
    ∧ (result = .error (.duplicate target.name) ↔
      ∃ call ∈ calls.zip results, call.1.name = target.name ∧ call.2 = .ok ())
    ∧ (∀ name, result = .error (.duplicate name) →
      name = target.name ∧ outcome.1.2 = store ∧ after = before)
    ∧ (∀ error, result = .error error → (∀ name, error ≠ .duplicate name) →
      view.files after = view.files before ∧ view.Keeps before after ∧ outcome.1.2 = store
      ∧ ∀ (retry : OutputTarget) (later : σ), retry.name = target.name →
        let again := write access retry outcome.1.2 later
        let fresh := write access retry (ofRoot root) later
        again.1.1 = fresh.1.1 ∧ again.2 = fresh.2)
    ∧ (result = .ok () → view.Keeps before after
      ∧ ∃ place, view.place? after (destination root target) = some place
        ∧ view.files after = update (view.files before) place (some target.contents)) := by
  intro session results store before outcome result after
  have hroot : store.root = root := root_calls access calls (ofRoot root) state
  have hclaimed : target.name ∈ store.claimed ↔
      ∃ call ∈ calls.zip results, call.1.name = target.name ∧ call.2 = .ok () := by
    have hmem := mem_claimed_calls access calls (ofRoot root) state target.name
    exact hmem.trans (or_iff_right List.not_mem_nil)
  refine ⟨length_calls access calls (ofRoot root) state, ?_⟩
  rw [← hclaimed]
  by_cases htaken : target.name ∈ store.claimed
  · have hrefused : outcome = ((.error (.duplicate target.name), store), before) :=
      write_of_mem access htaken before
    have hresult : result = .error (.duplicate target.name) := congrArg (·.1.1) hrefused
    refine ⟨iff_of_true hresult htaken, fun name hname => ?_, fun error herror hother => ?_,
      fun hok => ?_⟩
    · cases hresult.symm.trans hname
      exact ⟨rfl, congrArg (·.1.2) hrefused, congrArg (·.2) hrefused⟩
    · cases hresult.symm.trans herror
      exact absurd rfl (hother target.name)
    · cases hresult.symm.trans hok
  · have hwrites := h.writeFile (destination root target) target.contents before
    have hduplicate :=
      writeFile_ne_duplicate access (destination root target) target.contents before
    have hwritten : outcome =
        let written := writeFile access (destination root target) target.contents before
        ((written.1, store.claim target written.1), written.2) := by
      rw [← hroot]
      exact write_apply access htaken before
    have hresult : result =
        (writeFile access (destination root target) target.contents before).1 :=
      congrArg (·.1.1) hwritten
    have hafter : after =
        (writeFile access (destination root target) target.contents before).2 :=
      congrArg (·.2) hwritten
    rw [← hresult] at hduplicate
    refine ⟨iff_of_false (hduplicate _) htaken, fun name hname => absurd hname (hduplicate name),
      fun error herror _ => ?_, fun hok => ?_⟩
    · have hkept := hwrites.error error (hresult.symm.trans herror)
      have hstore : outcome.1.2 = store := by
        rw [hwritten]
        dsimp only
        rw [← hresult, herror]
        rfl
      rw [← hafter] at hkept
      refine ⟨hkept.files, hkept.keeps, hstore, fun retry later hname => ?_⟩
      rw [hstore, ← hroot]
      exact write_of_not_mem access (hname ▸ htaken) later
    · obtain ⟨place, hplace, hbecomes⟩ := hwrites.ok (hresult.symm.trans hok)
      rw [← hafter] at hplace hbecomes
      exact ⟨hbecomes.keeps, place, hplace, hbecomes.files⟩

/-- A file stands where a directory is wanted, so the first call fails; the second one for the same
name succeeds, and the third one is refused. -/
theorem write_after_calls_retried :
    let tree := FileTree.entry "taken" (.file "old") .empty
    let blocked : OutputTarget := ⟨"model.Cast", "taken/Cast.java", [], "first"⟩
    let retry : OutputTarget := ⟨"model.Cast", "Cast.java", [], "second"⟩
    let session (calls : List OutputTarget) :=
      calls.mapM (write FileTree.access) (ofRoot "/") tree
    let call (calls : List OutputTarget) (target : OutputTarget) :=
      write FileTree.access target (session calls).1.2 (session calls).2
    FileTree.access.Careful FileTree.view.places
    ∧ (call [] blocked).1.1 = .error (.createDirectory "/taken" .alreadyExists)
    ∧ FileTree.view.files (call [] blocked).2 = FileTree.view.files (session []).2
    ∧ (call [blocked] retry).1.1 = .ok ()
    ∧ FileTree.view.files (call [blocked] retry).2 =
      update (FileTree.view.files (session [blocked]).2) ["Cast.java"] (some "second")
    ∧ (call [blocked, retry] blocked).1.1 = .error (.duplicate "model.Cast") := by
  dsimp only
  have hcareful := FileTree.lawful.careful
  have hfirst := write_after_calls hcareful "/" []
    ⟨"model.Cast", "taken/Cast.java", [], "first"⟩ (.entry "taken" (.file "old") .empty)
  have hsecond := write_after_calls hcareful "/" [⟨"model.Cast", "taken/Cast.java", [], "first"⟩]
    ⟨"model.Cast", "Cast.java", [], "second"⟩ (.entry "taken" (.file "old") .empty)
  have hthird := write_after_calls hcareful "/" [⟨"model.Cast", "taken/Cast.java", [], "first"⟩,
    ⟨"model.Cast", "Cast.java", [], "second"⟩] ⟨"model.Cast", "taken/Cast.java", [], "first"⟩
    (.entry "taken" (.file "old") .empty)
  -- the calls are never opened outside `decide`, which is why all three stay in one form
  dsimp only at hfirst hsecond hthird
  obtain ⟨-, -, -, hfailed, -⟩ := hfirst
  obtain ⟨-, -, -, -, hwritten⟩ := hsecond
  obtain ⟨-, hduplicate, -⟩ := hthird
  obtain ⟨hkept, -⟩ := hfailed (.createDirectory "/taken" .alreadyExists) (by decide +kernel) nofun
  obtain ⟨-, place, hplace, hfiles⟩ := hwritten (by decide +kernel)
  have hdestination : ["Cast.java"] = place :=
    (by decide +kernel : _ = _).trans (FileView.place?_eq_some_iff.1 hplace).2
  refine ⟨hcareful, by decide +kernel, hkept, by decide +kernel, ?_, hduplicate.2 ?_⟩
  · rw [hdestination]
    exact hfiles
  · refine ⟨(⟨"model.Cast", "Cast.java", [], "second"⟩, .ok ()), ?_, rfl, rfl⟩
    decide +kernel

end FileStore

end TypeWitness
