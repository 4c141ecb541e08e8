import TypeWitness.Proofs.FileReplacement
import TypeWitness.Proofs.PathComponents

/-! # Writing files over a lawful file system
What a store on disk needs of a file system is little: directories come and never go, a temporary
file has an unused name, a file gets another path at once or not at all, and what fails does
nothing. Any step may fail. Over every such file system a file is written completely or not at all,
and no other file changes.

* `FileAccess.Lawful` — what is asked of a file system.
* `FileAccess.Lawful.careful` — without links, that is all that a careful file system is asked for.
* `FileAccess.Lawful.writeFile` — a file is written completely or not at all.
* `FileAccess.Lawful.emit` — what becomes of files that are written one after the other. -/

namespace TypeWitness

open Function (update)

variable {σ : Type}

/-! ## Lawful file systems -/

/-- What can be seen of the states of a file system without links. -/
structure FileView (σ : Type) where
  /-- The text of the file at a place, if there is one. -/
  files : σ → List String → Option String
  /-- Whether a path can be followed to the place it leads to. -/
  Reaches : σ → String → Prop

/-- The files are the given ones afterwards, and all paths that could be followed still can be. -/
structure FileView.Becomes (view : FileView σ) (before after : σ)
    (files : List String → Option String) : Prop where
  files : view.files after = files
  reaches : ∀ path, view.Reaches before path → view.Reaches after path

/-- What is asked of a file system. Each operation may fail. -/
structure FileAccess.Lawful (access : FileAccess (StateM σ)) (view : FileView σ) : Prop where
  readText? : ∀ {state path}, view.Reaches state path →
    (access.readText? path state).1 = view.files state (Path.place path)
  isDirectory : ∀ path state,
    view.Becomes state (access.isDirectory path state).2 (view.files state)
  createDirectory : ∀ path state,
    view.Becomes state (access.createDirectory path state).2 (view.files state)
  createTemporary_error : ∀ {directory state error after},
    access.createTemporary directory state = (.error error, after) →
    view.Becomes state after (view.files state)
  createTemporary_ok : ∀ {directory state temporary after},
    access.createTemporary directory state = (.ok temporary, after) →
    view.files state (Path.place temporary) = none ∧ view.Reaches after temporary
    ∧ view.Becomes state after (update (view.files state) (Path.place temporary) (some ""))
  /-- Text may have been put into a file in part. -/
  writeText_error : ∀ {path text state error after},
    access.writeText path text state = (.error error, after) →
    view.files state (Path.place path) ≠ none →
    ∃ part, view.Becomes state after (update (view.files state) (Path.place path) (some part))
  writeText_ok : ∀ {path text state after},
    access.writeText path text state = (.ok (), after) →
    view.Becomes state after (update (view.files state) (Path.place path) (some text))
  rename_error : ∀ {source destination state error after},
    access.rename source destination state = (.error error, after) →
    view.Becomes state after (view.files state)
  rename_ok : ∀ {source destination state after},
    access.rename source destination state = (.ok (), after) →
    view.Reaches after destination
    ∧ ∃ text, view.files state (Path.place source) = some text
      ∧ view.Becomes state after (update (update (view.files state) (Path.place source) none)
        (Path.place destination) (some text))
  remove : ∀ {path state}, view.Reaches state path → view.files state (Path.place path) ≠ none →
    view.Becomes state (access.remove path state).2
      (update (view.files state) (Path.place path) none)

namespace FileView

variable {view : FileView σ} {a b c : σ} {files files' : List String → Option String}

theorem Becomes.refl (view : FileView σ) (state : σ) :
    view.Becomes state state (view.files state) := ⟨rfl, fun _ h => h⟩

theorem Becomes.trans (h : view.Becomes a b files) (h' : view.Becomes b c files') :
    view.Becomes a c files' :=
  ⟨h'.files, fun path hpath => h'.reaches path (h.reaches path hpath)⟩

/-! ## Programs that change no file -/

/-- A program that changes no file. -/
def Keeps (view : FileView σ) {α : Type} (program : StateM σ α) : Prop :=
  ∀ state, view.Becomes state (program state).2 (view.files state)

theorem keeps_pure {α : Type} (value : α) : view.Keeps (pure value : StateM σ α) :=
  fun state => .refl view state

theorem Keeps.bind {α β : Type} {program : StateM σ α} {next : α → StateM σ β}
    (h : view.Keeps program) (hnext : ∀ value, view.Keeps (next value)) :
    view.Keeps (program >>= next) := by
  intro state
  have hfirst := h state
  have hsecond := hnext (program state).1 (program state).2
  rw [hfirst.files] at hsecond
  rw [bind_apply]
  exact hfirst.trans hsecond

end FileView

namespace FileAccess.Lawful

variable {access : FileAccess (StateM σ)} {view : FileView σ}

theorem keeps_forgive (h : access.Lawful view) (path : String) (error : FileError) :
    view.Keeps (access.forgive path error) := by
  refine FileView.Keeps.bind (h.isDirectory path) fun isDirectory => ?_
  split <;> exact FileView.keeps_pure _

/-- Directories are created without a change to files. -/
theorem keeps_createDirectoriesUpTo (h : access.Lawful view) (depth : Nat) (path : String) :
    view.Keeps (access.createDirectoriesUpTo depth path) := by
  induction depth generalizing path with
  | zero => exact FileView.keeps_pure _
  | succ depth ih =>
    rw [createDirectoriesUpTo]
    split
    · exact FileView.keeps_pure _
    · refine FileView.Keeps.bind (h.createDirectory path) fun created => ?_
      split
      · exact FileView.keeps_pure _
      · -- the directory above is created first, and then this one once more
        refine FileView.Keeps.bind (ih _) fun above => ?_
        split
        · exact FileView.keeps_pure _
        · refine FileView.Keeps.bind (h.createDirectory path) fun createdAgain => ?_
          split
          · exact FileView.keeps_pure _
          · exact h.keeps_forgive path _
      · exact h.keeps_forgive path _

theorem keeps_createDirectories (h : access.Lawful view) (path : String) :
    view.Keeps (access.createDirectories path) :=
  h.keeps_createDirectoriesUpTo (path.length + 1) path

end FileAccess.Lawful

/-! ## One file -/

/-- Text has been written to a file completely, or nothing has changed. -/
structure FileView.Writes {ε : Type} (view : FileView σ) (path text : String) (before : σ)
    (outcome : Except ε Unit × σ) : Prop where
  error : ∀ error, outcome.1 = .error error →
    view.Becomes before outcome.2 (view.files before)
  ok : outcome.1 = .ok () → view.Reaches outcome.2 path
    ∧ view.Becomes before outcome.2 (update (view.files before) (Path.place path) (some text))

/-! ### Places -/

namespace FileView

open Classical in
/-- A path leads to its place when it can be followed, and no path goes. -/
noncomputable def places (view : FileView σ) : PlaceView σ (List String) where
  files := view.files
  place? state path := if view.Reaches state path then some (Path.place path) else none
  Keeps before after := ∀ path, view.Reaches before path → view.Reaches after path
  keeps_refl _ _ h := h
  keeps_trans h h' path hpath := h' path (h path hpath)

variable {view : FileView σ} {before after : σ} {path : String}

theorem place?_eq_some_iff {place : List String} :
    view.places.place? before path = some place ↔
      view.Reaches before path ∧ Path.place path = place := by
  rw [places, Option.ite_none_right_eq_some, Option.some.injEq]

theorem Becomes.places {files : List String → Option String}
    (h : view.Becomes before after files) : view.places.Becomes before after files :=
  ⟨h.files, h.reaches⟩

theorem Becomes.of_places {files : List String → Option String}
    (h : view.places.Becomes before after files) : view.Becomes before after files :=
  ⟨h.files, h.keeps⟩

end FileView

namespace FileAccess.Lawful

variable {access : FileAccess (StateM σ)} {view : FileView σ}

/-- **A lawful file system is careful.** -/
theorem careful (h : access.Lawful view) : access.Careful view.places where
  createDirectories path state := (h.keeps_createDirectories path state).places
  createTemporary_error hcreate := (h.createTemporary_error hcreate).places
  createTemporary_ok hcreate := by
    obtain ⟨hfree, hreaches, hbecomes⟩ := h.createTemporary_ok hcreate
    exact ⟨_, FileView.place?_eq_some_iff.2 ⟨hreaches, rfl⟩, hfree, hbecomes.places⟩
  writeText_error hwrite hplace hthere := by
    obtain ⟨hreaches, rfl⟩ := FileView.place?_eq_some_iff.1 hplace
    obtain ⟨part, hbecomes⟩ := h.writeText_error hwrite hthere
    exact ⟨FileView.place?_eq_some_iff.2 ⟨hbecomes.reaches _ hreaches, rfl⟩, part, hbecomes.places⟩
  writeText_ok hwrite hplace _ := by
    obtain ⟨hreaches, rfl⟩ := FileView.place?_eq_some_iff.1 hplace
    have hbecomes := h.writeText_ok hwrite
    exact ⟨FileView.place?_eq_some_iff.2 ⟨hbecomes.reaches _ hreaches, rfl⟩, hbecomes.places⟩
  rename_error hrename hplace := by
    obtain ⟨hreaches, rfl⟩ := FileView.place?_eq_some_iff.1 hplace
    have hbecomes := h.rename_error hrename
    exact ⟨FileView.place?_eq_some_iff.2 ⟨hbecomes.reaches _ hreaches, rfl⟩, hbecomes.places⟩
  rename_ok hrename hplace htext := by
    obtain ⟨-, rfl⟩ := FileView.place?_eq_some_iff.1 hplace
    obtain ⟨hreaches, found, hfound, hbecomes⟩ := h.rename_ok hrename
    cases hfound.symm.trans htext
    exact ⟨_, FileView.place?_eq_some_iff.2 ⟨hreaches, rfl⟩, hbecomes.places⟩
  remove hplace hthere := by
    obtain ⟨hreaches, rfl⟩ := FileView.place?_eq_some_iff.1 hplace
    exact (h.remove hreaches hthere).places

/-- **A file is written completely or not at all**, with the directories above it. -/
theorem writeFile (h : access.Lawful view) (path text : String) (state : σ) :
    view.Writes path text state (FileStore.writeFile access path text state) where
  error error herror :=
    .of_places ((h.careful.writeFile path text state).error error herror)
  ok hok := by
    obtain ⟨place, hplace, hbecomes⟩ := (h.careful.writeFile path text state).ok hok
    obtain ⟨hreaches, rfl⟩ := FileView.place?_eq_some_iff.1 hplace
    exact ⟨hreaches, .of_places hbecomes⟩

end FileAccess.Lawful

/-- No file is refused as a duplicate by the file system. -/
theorem FileStore.writeFile_ne_duplicate (access : FileAccess (StateM σ)) (path text : String)
    (state : σ) (name : String) :
    (writeFile access path text state).1 ≠ .error (.duplicate name) := by
  rw [writeFile_apply]
  dsimp only
  split
  · exact nofun
  · split <;> exact nofun

/-! ## Several files -/

/-- The store with the name of a file taken that has been written. -/
def FileStore.claim (store : FileStore) (target : OutputTarget) : Except WriteError Unit → FileStore
  | .ok () => { store with claimed := target.name :: store.claimed }
  | .error _ => store

/-- A store writes a file whose name has not been taken. -/
theorem FileStore.write_apply (access : FileAccess (StateM σ)) {store : FileStore}
    {target : OutputTarget} (hfree : target.name ∉ store.claimed) (state : σ) :
    FileStore.write access target store state =
      let outcome := writeFile access (destination store.root target) target.contents state
      ((outcome.1, store.claim target outcome.1), outcome.2) := by
  have htaken := take?_of_not_mem hfree
  simp only [write, htaken, release_of_take? htaken, bind_apply]
  rcases writeFile access (destination store.root target) target.contents state with ⟨_ | _, after⟩
  · rfl
  · rfl

/-- What has become of a file in the end: it was written, or nothing has changed for a reason of the
file system that is reported. -/
structure FileView.Stored (view : FileView σ) (root : String) (before : σ) (emission : Emission)
    (after : σ) (target : OutputTarget) : Prop where
  written : target.name ∉ emission.failed →
    view.Reaches after (FileStore.destination root target)
    ∧ view.files after (Path.place (FileStore.destination root target)) = some target.contents
  failed : target.name ∈ emission.failed →
    view.files after (Path.place (FileStore.destination root target)) =
      view.files before (Path.place (FileStore.destination root target))
    ∧ ∃ error : WriteError, (∀ name, error ≠ .duplicate name)
      ∧ (Problem.writeFailed target.path error.message).diagnostic target.name
        ∈ emission.diagnostics

/-- What has become of files that were written one after the other below a directory. -/
structure FileView.Stores (view : FileView σ) (root : String) (targets : List OutputTarget)
    (before : σ) (emission : Emission) (after : σ) : Prop where
  reaches : ∀ path, view.Reaches before path → view.Reaches after path
  others : ∀ place, (∀ target ∈ targets, place ≠ Path.place (FileStore.destination root target)) →
    view.files after place = view.files before place
  stored : ∀ target ∈ targets, view.Stored root before emission after target
  names : ∀ name ∈ emission.failed, ∃ target ∈ targets, target.name = name

namespace FileView

variable {view : FileView σ} {path text : String} {before after : σ}

/-- Writing one file changes no other. -/
theorem Writes.others {ε : Type} {outcome : Except ε Unit × σ}
    (h : view.Writes path text before outcome) {place : List String}
    (hplace : place ≠ Path.place path) : view.files outcome.2 place = view.files before place := by
  cases hresult : outcome.1 with
  | error error => rw [(h.error error hresult).files]
  | ok => rw [(h.ok hresult).2.files, Function.update_of_ne hplace]

theorem Writes.reaches {ε : Type} {outcome : Except ε Unit × σ}
    (h : view.Writes path text before outcome) {other : String}
    (hother : view.Reaches before other) :
    view.Reaches outcome.2 other := by
  cases hresult : outcome.1 with
  | error error => exact (h.error error hresult).reaches other hother
  | ok => exact (h.ok hresult).2.reaches other hother

section Cons

variable {root : String} {target : OutputTarget} {emission : Emission}
  {result : Except WriteError Unit} {state : σ}

/-- What has become of the first file, when nothing is at its destination that comes later. -/
theorem Stored.first
    (hwrite :
      view.Writes (FileStore.destination root target) target.contents before (result, state))
    (hduplicate : ∀ name, result ≠ .error (.duplicate name))
    (hnotFailed : target.name ∉ emission.failed)
    (hreaches : ∀ path, view.Reaches state path → view.Reaches after path)
    (hkept : view.files after (Path.place (FileStore.destination root target)) =
      view.files state (Path.place (FileStore.destination root target))) :
    view.Stored root before (emission.add target result) after target := by
  cases result with
  | error error =>
    refine ⟨fun hwritten => absurd List.mem_cons_self hwritten, fun _ => ⟨?_, error, ?_, ?_⟩⟩
    · rw [hkept, (hwrite.error error rfl).files]
    · rintro name rfl
      exact hduplicate name rfl
    · exact List.mem_cons_self
  | ok =>
    obtain ⟨hdestination, hstate⟩ := hwrite.ok rfl
    refine ⟨fun _ => ⟨hreaches _ hdestination, ?_⟩, fun hfailed => absurd hfailed hnotFailed⟩
    rw [hkept, hstate.files, Function.update_self]

/-- What has become of a file does not change with what was written to other places before. -/
theorem Stored.add {other : OutputTarget} (h : view.Stored root state emission after other)
    (hname : target.name ≠ other.name)
    (hbefore : view.files state (Path.place (FileStore.destination root other)) =
      view.files before (Path.place (FileStore.destination root other))) :
    view.Stored root before (emission.add target result) after other := by
  cases result with
  | error error =>
    refine ⟨fun hwritten => h.written fun hmem => hwritten (List.mem_cons_of_mem _ hmem),
      fun hfailed => ?_⟩
    have hmem := (List.mem_cons.1 hfailed).resolve_left hname.symm
    obtain ⟨hfile, reason, hreason, hreport⟩ := h.failed hmem
    exact ⟨hfile.trans hbefore, reason, hreason, List.mem_cons_of_mem _ hreport⟩
  | ok =>
    refine ⟨h.written, fun hfailed => ?_⟩
    obtain ⟨hfile, hreason⟩ := h.failed hfailed
    exact ⟨hfile.trans hbefore, hreason⟩

/-- **One file more is written**, before others with other names that go to other places. -/
theorem Stores.cons {targets : List OutputTarget}
    (hname : ∀ other ∈ targets, target.name ≠ other.name)
    (hplace : ∀ other ∈ targets, Path.place (FileStore.destination root target) ≠
      Path.place (FileStore.destination root other))
    (hwrite :
      view.Writes (FileStore.destination root target) target.contents before (result, state))
    (hduplicate : ∀ name, result ≠ .error (.duplicate name))
    (h : view.Stores root targets state emission after) :
    view.Stores root (target :: targets) before (emission.add target result) after where
  reaches path hpath := h.reaches path (hwrite.reaches hpath)
  others place hne := by
    rw [List.forall_mem_cons] at hne
    rw [h.others place hne.2, hwrite.others hne.1]
  stored := by
    have hnotFailed : target.name ∉ emission.failed := by
      intro hmem
      obtain ⟨other, hother, heq⟩ := h.names _ hmem
      exact hname other hother heq.symm
    refine List.forall_mem_cons.2 ⟨?_, fun other hother => ?_⟩
    · exact .first hwrite hduplicate hnotFailed h.reaches (h.others _ hplace)
    · have hbefore := hwrite.others (hplace other hother).symm
      exact (h.stored other hother).add (hname other hother) hbefore
  names name hmem := by
    have hnames : name = target.name ∨ name ∈ emission.failed := by
      cases result with
      | error error => exact List.mem_cons.1 hmem
      | ok => exact .inr hmem
    rcases hnames with rfl | hmem
    · exact ⟨target, List.mem_cons_self, rfl⟩
    · obtain ⟨other, hother, heq⟩ := h.names name hmem
      exact ⟨other, List.mem_cons_of_mem _ hother, heq⟩

end Cons

end FileView

namespace FileAccess.Lawful

variable {access : FileAccess (StateM σ)} {view : FileView σ}

/-- **What becomes of files that are written one after the other.** When their names differ and they
go to different places, each one is at its destination in the end or has failed for a reason of the
file system. -/
theorem emit (h : access.Lawful view) {targets : List OutputTarget} {store : FileStore}
    (hfree : ∀ target ∈ targets, target.name ∉ store.claimed)
    (hnames : (targets.map (·.name)).Nodup)
    (hplaces : (targets.map fun target =>
      Path.place (FileStore.destination store.root target)).Nodup) (state : σ) :
    let outcome := TypeWitness.emit (FileStore.write access) targets store state
    view.Stores store.root targets state outcome.1.1 outcome.2 := by
  induction targets generalizing store state with
  | nil =>
    refine ⟨fun _ hpath => hpath, fun _ _ => rfl, ?_, ?_⟩ <;> intro _ hmem <;> cases hmem
  | cons target targets ih =>
    rw [List.forall_mem_cons] at hfree
    rw [List.map_cons, List.nodup_cons, List.mem_map, not_exists] at hnames hplaces
    have hname : ∀ other ∈ targets, target.name ≠ other.name :=
      fun other hother heq => hnames.1 other ⟨hother, heq.symm⟩
    have hplace : ∀ other ∈ targets, Path.place (FileStore.destination store.root target) ≠
        Path.place (FileStore.destination store.root other) :=
      fun other hother heq => hplaces.1 other ⟨hother, heq.symm⟩
    have hrun : TypeWitness.emit (FileStore.write access) (target :: targets) store state =
        let outcome := FileStore.write access target store state
        let rest := TypeWitness.emit (FileStore.write access) targets outcome.1.2 outcome.2
        ((rest.1.1.add target outcome.1.1, rest.1.2), rest.2) := rfl
    rw [hrun, FileStore.write_apply access hfree.1 state]
    have hwrite := h.writeFile (FileStore.destination store.root target) target.contents state
    have hduplicate := FileStore.writeFile_ne_duplicate access
      (FileStore.destination store.root target) target.contents state
    revert hwrite hduplicate
    rcases FileStore.writeFile access (FileStore.destination store.root target) target.contents
      state with ⟨result, middle⟩
    intro hwrite hduplicate
    have hroot : (store.claim target result).root = store.root := by
      cases result <;> rfl
    have hclaimed : ∀ other ∈ targets, other.name ∉ (store.claim target result).claimed := by
      intro other hother
      cases result with
      | error error => exact hfree.2 other hother
      | ok =>
        rw [FileStore.claim, List.mem_cons, not_or]
        exact ⟨(hname other hother).symm, hfree.2 other hother⟩
    have hrest := ih hclaimed hnames.2 (hroot ▸ hplaces.2) middle
    rw [hroot] at hrest
    exact .cons hname hplace hwrite hduplicate hrest

end FileAccess.Lawful

end TypeWitness
