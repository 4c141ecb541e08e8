import Mathlib.Logic.Function.Basic
import TypeWitness.Output.FileStore

/-! # Replacing files
A file is replaced by way of a temporary one: the text goes into the temporary file, which then
takes the place of the file, or is removed when a step fails. Where a path leads may depend on the
state of the file system, since there may be links on its way; what is needed is that the temporary
file is alone at its place, and that it stays there until it is renamed or removed.

* `FileAccess.Careful` — what is asked of a file system.
* `FileAccess.Careful.replaceFile` — a file is replaced completely or not at all.
* `FileAccess.Careful.writeFile` — the same for a file whose directories may be missing. -/

namespace TypeWitness

open Function (update)

variable {σ Place : Type}

/-! ## Careful file systems -/

/-- What can be seen of the states of a file system. -/
structure PlaceView (σ Place : Type) where
  /-- The text of the file at a place, if there is one. -/
  files : σ → Place → Option String
  /-- The place that a path leads to, if it can be followed. -/
  place? : σ → String → Option Place
  /-- What else is kept from a state to a later one, such as that no directory goes. -/
  Keeps : σ → σ → Prop
  keeps_refl : ∀ state, Keeps state state
  keeps_trans : ∀ {a b c}, Keeps a b → Keeps b c → Keeps a c

/-- The files are the given ones afterwards, and what else is to be kept is kept. -/
structure PlaceView.Becomes (view : PlaceView σ Place) (before after : σ)
    (files : Place → Option String) : Prop where
  files : view.files after = files
  keeps : view.Keeps before after

/-- What is asked of a file system. Each operation may fail. -/
structure FileAccess.Careful [DecidableEq Place] (access : FileAccess (StateM σ))
    (view : PlaceView σ Place) : Prop where
  createDirectories : ∀ path state,
    view.Becomes state (access.createDirectories path state).2 (view.files state)
  createTemporary_error : ∀ {directory state error after},
    access.createTemporary directory state = (.error error, after) →
    view.Becomes state after (view.files state)
  /-- A temporary file is put where nothing is. -/
  createTemporary_ok : ∀ {directory state temporary after},
    access.createTemporary directory state = (.ok temporary, after) →
    ∃ place, view.place? after temporary = some place ∧ view.files state place = none
      ∧ view.Becomes state after (update (view.files state) place (some ""))
  /-- Text may have been put into a file in part. -/
  writeText_error : ∀ {path text state error after place},
    access.writeText path text state = (.error error, after) →
    view.place? state path = some place → view.files state place ≠ none →
    view.place? after path = some place
    ∧ ∃ part, view.Becomes state after (update (view.files state) place (some part))
  writeText_ok : ∀ {path text state after place},
    access.writeText path text state = (.ok (), after) →
    view.place? state path = some place → view.files state place ≠ none →
    view.place? after path = some place
    ∧ view.Becomes state after (update (view.files state) place (some text))
  rename_error : ∀ {source destination state error after place},
    access.rename source destination state = (.error error, after) →
    view.place? state source = some place →
    view.place? after source = some place ∧ view.Becomes state after (view.files state)
  rename_ok : ∀ {source destination state after place text},
    access.rename source destination state = (.ok (), after) →
    view.place? state source = some place → view.files state place = some text →
    ∃ target, view.place? after destination = some target
      ∧ view.Becomes state after (update (update (view.files state) place none) target (some text))
  remove : ∀ {path state place},
    view.place? state path = some place → view.files state place ≠ none →
    view.Becomes state (access.remove path state).2 (update (view.files state) place none)

namespace PlaceView

variable {view : PlaceView σ Place} {a b c : σ} {files files' : Place → Option String}

theorem Becomes.refl (view : PlaceView σ Place) (state : σ) :
    view.Becomes state state (view.files state) := ⟨rfl, view.keeps_refl state⟩

theorem Becomes.trans (h : view.Becomes a b files) (h' : view.Becomes b c files') :
    view.Becomes a c files' :=
  ⟨h'.files, view.keeps_trans h.keeps h'.keeps⟩

/-- Text has been written to a file completely, or nothing has changed. -/
structure Writes {ε : Type} [DecidableEq Place] (view : PlaceView σ Place) (path text : String)
    (before : σ) (outcome : Except ε Unit × σ) : Prop where
  error : ∀ error, outcome.1 = .error error → view.Becomes before outcome.2 (view.files before)
  ok : outcome.1 = .ok () → ∃ place, view.place? outcome.2 path = some place
    ∧ view.Becomes before outcome.2 (update (view.files before) place (some text))

section Writes

variable {ε : Type} [DecidableEq Place] {path text : String} {before state : σ}

theorem Writes.of_error {error : ε} {later : σ}
    (h : view.Becomes before later (view.files before)) :
    view.Writes path text before ((.error error : Except ε Unit), later) where
  error _ _ := h
  ok hok := by cases hok

theorem Writes.of_ok {place : Place} {later : σ} (hplace : view.place? later path = some place)
    (h : view.Becomes before later (update (view.files before) place (some text))) :
    view.Writes path text before ((.ok () : Except ε Unit), later) where
  error _ herror := by cases herror
  ok _ := ⟨place, hplace, h⟩

/-- What happens first may be anything that changes no file. -/
theorem Writes.after {outcome : Except ε Unit × σ}
    (hfirst : view.Becomes before state (view.files before))
    (h : view.Writes path text state outcome) : view.Writes path text before outcome where
  error error herror := by
    have hsecond := h.error error herror
    rw [hfirst.files] at hsecond
    exact hfirst.trans hsecond
  ok hok := by
    obtain ⟨place, hplace, hsecond⟩ := h.ok hok
    rw [hfirst.files] at hsecond
    exact ⟨place, hplace, hfirst.trans hsecond⟩

end Writes

end PlaceView

/-! ## Runs -/

/-- A program runs on from the state that the one before it leaves. -/
theorem bind_apply {α β : Type} (program : StateM σ α) (next : α → StateM σ β) (state : σ) :
    (program >>= next) state = next (program state).1 (program state).2 := rfl

namespace FileStore

variable (access : FileAccess (StateM σ))

/-- The steps in which a file is replaced. -/
theorem replaceFile_apply (directory path text : String) (state : σ) :
    replaceFile access directory path text state =
      match access.createTemporary directory state with
      | (.error error, created) => (.error error, created)
      | (.ok temporary, created) =>
        match access.writeText temporary text created with
        | (.error error, filled) => (.error error, (access.remove temporary filled).2)
        | (.ok (), filled) =>
          match access.rename temporary path filled with
          | (.error error, moved) => (.error error, (access.remove temporary moved).2)
          | (.ok (), moved) => (.ok (), moved) := by
  rw [replaceFile, bind_apply]
  rcases access.createTemporary directory state with ⟨_ | temporary, created⟩
  · rfl
  dsimp only
  rw [bind_apply]
  rcases access.writeText temporary text created with ⟨_ | _, filled⟩
  · rfl
  dsimp only
  rw [bind_apply]
  rcases access.rename temporary path filled with ⟨_ | _, moved⟩ <;> rfl

/-- The steps in which a file is written. -/
theorem writeFile_apply (path text : String) (state : σ) :
    writeFile access path text state =
      let directory := (Path.parent? path).getD "."
      match access.createDirectories directory state with
      | (.error error, created) => (.error (.createDirectory directory error), created)
      | (.ok (), created) =>
        match replaceFile access directory path text created with
        | (.error error, replaced) => (.error (.write path error), replaced)
        | (.ok (), replaced) => (.ok (), replaced) := by
  rw [writeFile, bind_apply]
  dsimp only
  rcases access.createDirectories _ state with ⟨_ | _, created⟩
  · rfl
  dsimp only
  rw [bind_apply]
  rcases replaceFile access _ path text created with ⟨_ | _, replaced⟩ <;> rfl

end FileStore

/-! ## One file -/

namespace FileAccess.Careful

variable [DecidableEq Place] {access : FileAccess (StateM σ)} {view : PlaceView σ Place}

/-- **A file is replaced completely or not at all**, and the temporary file is gone. -/
theorem replaceFile (h : access.Careful view) (directory path text : String) (state : σ) :
    view.Writes path text state (FileStore.replaceFile access directory path text state) := by
  rw [FileStore.replaceFile_apply]
  split
  · next hcreate => exact .of_error (h.createTemporary_error hcreate)
  · next temporary created hcreate =>
    obtain ⟨place, hplace, hfree, hcreated⟩ := h.createTemporary_ok hcreate
    have hthere : view.files created place ≠ none := by
      rw [hcreated.files, Function.update_self]
      simp
    -- removing the temporary file brings back what was there before
    have hremove : ∀ {later : σ} {part : String}, view.place? later temporary = some place →
        view.Becomes created later (update (view.files created) place (some part)) →
        view.Becomes state (access.remove temporary later).2 (view.files state) := by
      intro later part hkept hlater
      have hsome : view.files later place ≠ none := by
        rw [hlater.files, Function.update_self]
        simp
      have hremoved := h.remove hkept hsome
      rw [hlater.files, hcreated.files, Function.update_idem, Function.update_idem, ← hfree,
        Function.update_eq_self] at hremoved
      exact hcreated.trans (hlater.trans hremoved)
    split
    · next hwrite =>
      obtain ⟨hkept, part, hwritten⟩ := h.writeText_error hwrite hplace hthere
      exact .of_error (hremove hkept hwritten)
    · next filled hwrite =>
      obtain ⟨hkept, hfilled⟩ := h.writeText_ok hwrite hplace hthere
      split
      · next hrename =>
        obtain ⟨hstill, hmoved⟩ := h.rename_error hrename hkept
        rw [hfilled.files] at hmoved
        exact .of_error (hremove hstill (hfilled.trans hmoved))
      · next moved hrename =>
        have htext : view.files filled place = some text := by
          rw [hfilled.files, Function.update_self]
        obtain ⟨target, htarget, hmoved⟩ := h.rename_ok hrename hkept htext
        rw [hfilled.files, hcreated.files, Function.update_idem, Function.update_idem, ← hfree,
          Function.update_eq_self] at hmoved
        exact .of_ok htarget (hcreated.trans (hfilled.trans hmoved))

/-- **A file is written completely or not at all**, with the directories above it. -/
theorem writeFile (h : access.Careful view) (path text : String) (state : σ) :
    view.Writes path text state (FileStore.writeFile access path text state) := by
  rw [FileStore.writeFile_apply]
  generalize (Path.parent? path).getD "." = directory
  have hdirectories := h.createDirectories directory state
  dsimp only
  split
  · next hcreate =>
    rw [hcreate] at hdirectories
    exact .of_error hdirectories
  · next created hcreate =>
    rw [hcreate] at hdirectories
    have hreplaced := h.replaceFile directory path text created
    refine .after hdirectories ?_
    split
    · next error replaced hreplace =>
      rw [hreplace] at hreplaced
      exact .of_error (hreplaced.error error rfl)
    · next replaced hreplace =>
      rw [hreplace] at hreplaced
      obtain ⟨place, hplace, hbecomes⟩ := hreplaced.ok rfl
      exact .of_ok hplace hbecomes

end FileAccess.Careful

end TypeWitness
