import Mathlib.Data.List.Nodup
import TypeWitness.Proofs.FileTreePlaces
import TypeWitness.Proofs.LawfulAccess

/-! # File trees are lawful
The operations on a file tree do what a store on disk asks of a file system: each of them changes at
most the file it is about, or two of them when a file gets another path, and none of them takes a
directory away.

* `FileTree.unusedName_spec` — names for temporary files are unused.
* `FileTree.createTemporary_ok`, `FileTree.rename_ok` — what operations do when they succeed.
* `FileTree.lawful` — file trees are lawful. -/

namespace TypeWitness

/-- What succeeds has succeeded step by step. -/
theorem exists_of_bind_eq_ok {ε α β : Type} {first : Except ε α} {next : α → Except ε β}
    {result : β} (h : first >>= next = .ok result) :
    ∃ value, first = .ok value ∧ next value = .ok result := by
  cases first with
  | error error => cases h
  | ok value => exact ⟨value, rfl, h⟩

/-! ## Names for temporary files -/

theorem toList_temporaryName (index : Nat) :
    (temporaryName index).toList = ".tmp".toList
      ++ (List.replicate (6 - (toString index).length) '0' ++ Nat.toDigits 10 index) := by
  simp only [temporaryName, String.toList_append, String.toList_ofList, List.append_assoc,
    Nat.toString_eq_repr, Nat.toList_repr]

/-- Zeros in front of a number do not change it. -/
theorem ofDigitChars_replicate (count : Nat) :
    Nat.ofDigitChars 10 (List.replicate count '0') 0 = 0 := by
  induction count with
  | zero => rfl
  | succ count ih => exact ih

/-- **There is a name for each number.** -/
theorem temporaryName_injective : Function.Injective temporaryName := by
  have hvalue : ∀ index, Nat.ofDigitChars 10 ((temporaryName index).toList.drop 4) 0 = index := by
    intro index
    have hdrop : (temporaryName index).toList.drop 4 =
        List.replicate (6 - (toString index).length) '0' ++ Nat.toDigits 10 index := by
      rw [toList_temporaryName]
      rfl
    rw [hdrop, Nat.ofDigitChars_append, ofDigitChars_replicate,
      Nat.ofDigitChars_toDigits (by omega) (by omega)]
  intro a b h
  rw [← hvalue a, h, hvalue b]

theorem mem_temporaryName {index : Nat} {c : Char} (h : c ∈ (temporaryName index).toList) :
    c ∈ ".tmp".toList ∨ c.isDigit = true := by
  rw [toList_temporaryName, List.mem_append, List.mem_append, List.mem_replicate] at h
  rcases h with h | ⟨-, rfl⟩ | h
  · exact .inl h
  · exact .inr rfl
  · exact .inr (Nat.isDigit_of_mem_toDigits (by omega) (by omega) h)

/-- A text that leads from a directory to an entry of that name. -/
structure IsEntryName (name : String) : Prop where
  noNul : '\x00' ∉ name.toList
  noSlash : '/' ∉ name.toList
  ne_empty : name ≠ ""
  ne_dot : name ≠ "."
  ne_dots : name ≠ ".."

theorem isEntryName_temporaryName (index : Nat) : IsEntryName (temporaryName index) := by
  have hne : ∀ text : String, text.length < 4 → temporaryName index ≠ text := by
    rintro text h rfl
    rw [← String.length_toList, toList_temporaryName, List.length_append] at h
    have hlength : ".tmp".toList.length = 4 := by decide
    omega
  refine ⟨fun h => ?_, fun h => ?_, hne _ ?_, hne _ ?_, hne _ ?_⟩
  · rcases mem_temporaryName h with h | h <;> revert h <;> decide
  · rcases mem_temporaryName h with h | h <;> revert h <;> decide
  · decide
  · decide
  · decide

/-- A name put behind a path leads to one place more. -/
theorem IsEntryName.place_join {name : String} (h : IsEntryName name) (path : String) :
    Path.place (Path.join path name) = Path.place path ++ [name] := by
  have hpath := Path.isAbsolute_of_not_mem h.noSlash
  have hstay : ¬ (name = "" ∨ name = ".") := not_or.2 ⟨h.ne_empty, h.ne_dot⟩
  rw [Path.place_join_eq hpath, Path.parts_of_not_mem h.noSlash, List.foldl_cons, List.foldl_nil,
    Path.step, if_neg hstay, if_neg h.ne_dots]

namespace FileTree

/-- The names of the entries of a directory. -/
def names : FileTree → List String
  | .empty => []
  | .entry name _ rest => name :: rest.names

theorem length_names (tree : FileTree) : tree.names.length = tree.size := by
  fun_induction names tree <;> simp [size, *]

theorem mem_names {tree : FileTree} {name : String} (h : tree.child? name ≠ none) :
    name ∈ tree.names := by
  fun_induction child? name tree <;> grind [names]

/-- Some name for a temporary file is unused: there are more numbers than entries. -/
theorem exists_unused (tree : FileTree) :
    ∃ index ∈ List.range (tree.size + 1), tree.child? (temporaryName index) = none := by
  by_contra hnone
  have hused : (List.range (tree.size + 1)).map temporaryName ⊆ tree.names := by
    intro name hname
    obtain ⟨index, hindex, rfl⟩ := List.mem_map.1 hname
    exact mem_names fun hunused => hnone ⟨index, hindex, hunused⟩
  have hnodup : ((List.range (tree.size + 1)).map temporaryName).Nodup :=
    List.nodup_range.map temporaryName_injective
  have hlength := hnodup.length_le_of_subset hused
  rw [List.length_map, List.length_range, length_names] at hlength
  omega

/-- **Names for temporary files are unused.** -/
theorem unusedName_spec (tree : FileTree) :
    ∃ index, tree.unusedName = temporaryName index ∧ tree.child? tree.unusedName = none := by
  obtain ⟨index, hindex, hunused⟩ := tree.exists_unused
  cases hfind : (List.range (tree.size + 1)).find? fun index =>
      (tree.child? (temporaryName index)).isNone with
  | none =>
    have hsome := List.find?_eq_none.1 hfind index hindex
    rw [hunused] at hsome
    exact absurd rfl hsome
  | some found =>
    have hname : tree.unusedName = temporaryName found := by
      rw [unusedName, hfind, Option.getD_some]
    have hfree := List.find?_some hfind
    exact ⟨found, hname, by rw [hname]; exact Option.isNone_iff_eq_none.1 hfree⟩

/-! ## What operations do -/

section Operations

variable {tree after : FileTree} {path : String}

/-- Empty parts at the end of a path do not count. -/
theorem foldl_step_of_isEmpty {parts : List String} (h : ∀ part ∈ parts, part.isEmpty = true)
    (place : List String) : parts.foldl Path.step place = place := by
  induction parts generalizing place with
  | nil => rfl
  | cons part parts ih =>
    rw [List.forall_mem_cons] at h
    have hstay : Path.step place part = place := by
      rw [Path.step, if_pos (.inl (by simpa using h.1))]
    rw [List.foldl_cons, hstay, ih h.2]

/-- Where something new goes. -/
theorem locateNew_ok {refusal : FileError} {location : Location} {asDirectory : Bool}
    (h : tree.locateNew refusal path = .ok (location, asDirectory)) :
    location.LiesIn tree ∧ location.place = Path.place path
    ∧ (asDirectory = false → tree.Reaches path) := by
  obtain ⟨found, hfollow, h⟩ := exists_of_bind_eq_ok h
  dsimp only at h
  split at h
  · cases h
  cases h
  generalize hnames : ((parts path).reverse.dropWhile (·.isEmpty)).reverse = names at hfollow ⊢
  -- the parts that were left out are all empty
  obtain ⟨ending, hending, hempty⟩ : ∃ ending, parts path = names ++ ending
      ∧ ∀ part ∈ ending, part.isEmpty = true := by
    refine ⟨((parts path).reverse.takeWhile (·.isEmpty)).reverse, ?_, ?_⟩
    · rw [← hnames, ← List.reverse_append, List.takeWhile_append_dropWhile, List.reverse_reverse]
    · intro part hpart
      exact List.all_eq_true.1 List.all_takeWhile part (List.mem_reverse.1 hpart)
  obtain ⟨hlies, hplace⟩ := Location.LiesIn.root.follow (follow_eq_ok_iff.1 hfollow).2
  refine ⟨hlies, ?_, fun hfile => ⟨location, ?_⟩⟩
  · rw [hplace, Path.place, hending, List.foldl_append, foldl_step_of_isEmpty hempty]
    rfl
  · have hnil : ending = [] := by
      rw [hending, List.length_append] at hfile
      simpa using hfile
    rw [locate, hending, hnil, List.append_nil, hfollow]

/-- What a directory is created for. -/
theorem createDirectory_ok (h : tree.createDirectory path = .ok after) :
    ∃ place, tree.HasDirectory place.dropLast ∧ tree.lookup? place = none
      ∧ after = tree.insert (.directory .empty) place := by
  obtain ⟨⟨location, asDirectory⟩, hlocate, h⟩ := exists_of_bind_eq_ok h
  obtain ⟨hlies, -, -⟩ := locateNew_ok hlocate
  dsimp only at h
  split at h
  · cases h
  · next hnone =>
    cases h
    exact ⟨location.place, hlies.hasDirectory_above, hlies.found?_eq ▸ hnone, rfl⟩

theorem writeText_ok {text : String} (h : tree.writeText path text = .ok after) :
    (∃ old, tree.lookup? (Path.place path) = some (.file old))
    ∧ tree.HasDirectory (Path.place path).dropLast
    ∧ after = tree.insert (.file text) (Path.place path) := by
  obtain ⟨location, hlocate, h⟩ := exists_of_bind_eq_ok h
  obtain ⟨hlies, hplace⟩ := locate_spec hlocate
  rw [← hplace, ← hlies.found?_eq]
  split at h
  · cases h
  · cases h
  · next old hold =>
    cases h
    exact ⟨⟨old, hold⟩, hlies.hasDirectory_above, rfl⟩

theorem follow_append (location : Location) (parts others : List String) :
    location.follow (parts ++ others) =
      location.follow parts >>= fun next => next.follow others := by
  induction parts generalizing location with
  | nil => rfl
  | cons part parts ih =>
    rw [List.cons_append, Location.follow, Location.follow]
    cases location.enter part with
    | error error => rfl
    | ok next => exact ih next

/-- An empty part stays where it is. -/
theorem follow_empty {location next : Location} (h : location.follow [""] = .ok next) :
    next = location := by
  rw [Location.follow, Location.enter] at h
  split at h
  · cases h
  · cases h
  · rw [if_pos (.inl rfl)] at h
    cases h
    rfl

/-- An entry of a directory is entered by its name. -/
theorem Location.enter_of_name {name : String} (h : IsEntryName name)
    (hlength : name.utf8ByteSize ≤ longestName) {location : Location} {here : FileTree}
    (hhere : location.found? = some (.directory here)) :
    location.enter name = .ok ⟨(name, here) :: location.above, here.child? name⟩ := by
  have hstay : ¬ (name = "" ∨ name = ".") := not_or.2 ⟨h.ne_empty, h.ne_dot⟩
  rw [Location.enter, hhere]
  dsimp only
  rw [if_neg hstay, if_neg h.ne_dots, if_neg (by omega)]

/-- A path that is not too long stays one with a name behind it. -/
theorem IsPath.join {name : String} (hpath : IsPath path) (hname : IsEntryName name)
    (hsize : (Path.join path name).utf8ByteSize ≤ longestPath) : IsPath (Path.join path name) where
  noNul hnul := by
    rcases Path.mem_toList_join hnul with hnul | hnul | hnul
    · exact hpath.noNul hnul
    · exact hname.noNul hnul
    · revert hnul
      decide
  ne_empty hempty := by
    obtain ⟨front, -, -, hparts⟩ :=
      Path.exists_parts_join (Path.isAbsolute_of_not_mem hname.noSlash) hpath.ne_empty
    have hmem : name ∈ parts (Path.join path name) := by
      rw [hparts, Path.parts_of_not_mem hname.noSlash]
      exact List.mem_append_right _ (List.mem_singleton_self name)
    rw [hempty] at hmem
    exact hname.ne_empty (List.mem_singleton.1 hmem)
  size_le := hsize

/-- An entry of a directory can be reached, whether it is there or not. -/
theorem reaches_join {location : Location} {here : FileTree} {name : String}
    (hlocate : tree.locate path = .ok location) (hhere : location.found? = some (.directory here))
    (hname : IsEntryName name) (hlength : name.utf8ByteSize ≤ longestName)
    (hsize : (Path.join path name).utf8ByteSize ≤ longestPath) :
    tree.Reaches (Path.join path name) := by
  obtain ⟨hpath, hfollow⟩ := follow_eq_ok_iff.1 hlocate
  obtain ⟨front, -, hfront, hparts⟩ :=
    Path.exists_parts_join (Path.isAbsolute_of_not_mem hname.noSlash) hpath.ne_empty
  have hreached : (Location.root tree).follow front = .ok location := by
    rcases hfront with hfront | hfront
    · rw [← hfront, hfollow]
    · -- an empty part stays in the directory
      rw [hfront, follow_append] at hfollow
      obtain ⟨next, hnext, hlast⟩ := exists_of_bind_eq_ok hfollow
      rw [hnext, follow_empty hlast]
  have hnew : (Location.root tree).follow (parts (Path.join path name)) =
      .ok ⟨(name, here) :: location.above, here.child? name⟩ := by
    rw [hparts, Path.parts_of_not_mem hname.noSlash, follow_append, hreached]
    exact congrArg (· >>= fun next => next.follow [])
      (Location.enter_of_name hname hlength hhere)
  exact ⟨_, follow_eq_ok_iff.2 ⟨hpath.join hname hsize, hnew⟩⟩

theorem createTemporary_ok {temporary : String}
    (h : tree.createTemporary path = .ok (temporary, after)) :
    tree.Reaches temporary ∧ tree.HasDirectory (Path.place temporary).dropLast
    ∧ tree.lookup? (Path.place temporary) = none
    ∧ after = tree.insert (.file "") (Path.place temporary) := by
  obtain ⟨location, hlocate, h⟩ := exists_of_bind_eq_ok h
  obtain ⟨hlies, hplace⟩ := locate_spec hlocate
  split at h
  · cases h
  · cases h
  · next here hhere =>
    obtain ⟨index, hindex, hunused⟩ := here.unusedName_spec
    have hname : IsEntryName here.unusedName := hindex ▸ isEntryName_temporaryName index
    dsimp only at h
    generalize here.unusedName = name at h hunused hname
    split at h
    · cases h
    · next hlength =>
      cases h
      rw [not_or] at hlength
      rw [hname.place_join, List.dropLast_concat, ← hplace, lookup?_append, ← hlies.found?_eq,
        hhere, Option.bind_some]
      have hfree : (FileEntry.directory here).lookup? [name] = none := by
        rw [FileEntry.lookup?, lookup?_cons, hunused]
        rfl
      exact ⟨reaches_join hlocate hhere hname (by omega) (by omega),
        ⟨here, hlies.found?_eq ▸ hhere⟩, hfree, rfl⟩

theorem rename_ok {destination : String} (h : tree.rename path destination = .ok after) :
    ∃ text, tree.lookup? (Path.place path) = some (.file text)
      ∧ tree.HasDirectory (Path.place path).dropLast
      ∧ tree.Reaches destination ∧ tree.HasDirectory (Path.place destination).dropLast
      ∧ ¬ tree.HasDirectory (Path.place destination)
      ∧ after = (tree.erase (Path.place path)).insert (.file text) (Path.place destination) := by
  unfold rename at h
  split at h
  · cases h
  obtain ⟨⟨target, asDirectory⟩, htarget, h⟩ := exists_of_bind_eq_ok h
  obtain ⟨location, hlocate, h⟩ := exists_of_bind_eq_ok h
  obtain ⟨hlies, hplace, hreaches⟩ := locateNew_ok htarget
  obtain ⟨hlies', hplace'⟩ := locate_spec hlocate
  dsimp only at h
  split at h
  · next _ text hfile =>
    split at h
    · cases h
    · next hfileName =>
      split at h
      · cases h
      · next hdirectory =>
        cases h
        rw [← hplace, ← hplace', ← hlies'.found?_eq]
        refine ⟨text, hfile, hlies'.hasDirectory_above, hreaches (by simpa using hfileName),
          hlies.hasDirectory_above, ?_, rfl⟩
        rintro ⟨below, hbelow⟩
        rw [← hlies.found?_eq] at hbelow
        exact hdirectory below hbelow
  · cases h
  · cases h

end Operations

/-! ## Lawfulness -/

/-- What can be seen of a file tree. -/
def view : FileView FileTree := ⟨text?, Reaches⟩

section Lawful

variable {tree : FileTree} {place : List String}

theorem text?_eq_none (h : tree.lookup? place = none) : tree.text? place = none := by
  rw [text?, h]

theorem exists_file_of_text? {text : String} (h : tree.text? place = some text) :
    tree.lookup? place = some (.file text) := by
  unfold text? at h
  split at h
  · next hfile =>
    cases h
    exact hfile
  · cases h

/-- No directory is where there is nothing. -/
theorem not_hasDirectory_of_none (h : tree.lookup? place = none) : ¬ tree.HasDirectory place := by
  rintro ⟨below, hbelow⟩
  rw [h] at hbelow
  cases hbelow

theorem not_hasDirectory_of_file {text : String} (h : tree.lookup? place = some (.file text)) :
    ¬ tree.HasDirectory place := by
  rintro ⟨below, hbelow⟩
  rw [h] at hbelow
  cases hbelow

/-- What replaces an entry is seen at its place only. -/
theorem Replaces.becomes {value? : Option FileEntry} {after : FileTree}
    (h : Replaces place value? tree after) (hold : ¬ tree.HasDirectory place)
    (hparent : tree.HasDirectory place.dropLast)
    (hvalue : ∀ name rest, value?.bind (·.lookup? (name :: rest)) = none) :
    view.Becomes tree after (Function.update tree.text? place (after.text? place)) where
  files := h.text? hold hparent hvalue
  reaches _ hpath := hpath.of_directories fun _ => h.directories hold

theorem ne_nil_of_not_hasDirectory (h : ¬ tree.HasDirectory place) : place ≠ [] := by
  rintro rfl
  exact h (hasDirectory_nil tree)

theorem becomes_insert_file (text : String) (hold : ¬ tree.HasDirectory place)
    (hparent : tree.HasDirectory place.dropLast) :
    view.Becomes tree (tree.insert (.file text) place)
      (Function.update tree.text? place (some text)) := by
  have hreplaces := replaces_insert (ne_nil_of_not_hasDirectory hold) (.file text) hparent
  have htext : (tree.insert (.file text) place).text? place = some text := by
    rw [text?, hreplaces.lookup?_self]
  rw [← htext]
  exact hreplaces.becomes hold hparent fun _ _ => rfl

theorem becomes_insert_directory (hnone : tree.lookup? place = none)
    (hparent : tree.HasDirectory place.dropLast) :
    view.Becomes tree (tree.insert (.directory .empty) place) tree.text? := by
  have hold := not_hasDirectory_of_none hnone
  have hreplaces := replaces_insert (ne_nil_of_not_hasDirectory hold) (.directory .empty) hparent
  have htext : (tree.insert (.directory .empty) place).text? place = tree.text? place := by
    rw [text?_eq_none hnone, text?, hreplaces.lookup?_self]
  have hbecomes := hreplaces.becomes hold hparent fun name rest => by
    rw [Option.bind_some, FileEntry.lookup?, lookup?_cons]
    rfl
  rwa [htext, Function.update_eq_self] at hbecomes

theorem becomes_erase (hold : ¬ tree.HasDirectory place)
    (hparent : tree.HasDirectory place.dropLast) :
    view.Becomes tree (tree.erase place) (Function.update tree.text? place none) := by
  have hreplaces := replaces_erase (ne_nil_of_not_hasDirectory hold) hparent
  have htext : (tree.erase place).text? place = none := text?_eq_none hreplaces.lookup?_self
  rw [← htext]
  exact hreplaces.becomes hold hparent fun _ _ => rfl

end Lawful

/-- An operation changes a tree when it succeeds, and leaves it as it is otherwise. -/
theorem attempt_apply {α : Type} (operation : FileTree → Except FileError (α × FileTree))
    (tree : FileTree) :
    attempt operation tree = match operation tree with
      | .ok (value, after) => (.ok value, after)
      | .error error => (.error error, tree) := rfl

/-- The same for an operation that gives nothing but a tree. -/
theorem attempt_unit_apply (operation : FileTree → Except FileError FileTree) (tree : FileTree) :
    attempt (fun tree => do return ((), ← operation tree)) tree = match operation tree with
      | .ok after => (.ok (), after)
      | .error error => (.error error, tree) := by
  rw [attempt_apply]
  cases operation tree <;> rfl

theorem snd_access_isDirectory (path : String) (tree : FileTree) :
    (access.isDirectory path tree).2 = tree := by
  dsimp only [access]
  rw [bind_apply]
  generalize FileTree.find? _ path = found
  rcases found with _ | _ | _ <;> rfl

theorem fst_access_readText? (path : String) (tree : FileTree) :
    (access.readText? path tree).1 = match tree.find? path with
      | some (.file text) => some text
      | _ => none := by
  have hrun : access.readText? path tree = (match tree.find? path with
      | some (.file text) => (pure (some text) : StateM FileTree (Option String))
      | _ => pure none) tree := rfl
  rw [hrun]
  rcases tree.find? path with _ | _ | _ <;> rfl

theorem access_createDirectory (path : String) (tree : FileTree) :
    access.createDirectory path tree = match tree.createDirectory path with
      | .ok after => (.ok (), after)
      | .error error => (.error error, tree) :=
  attempt_unit_apply (·.createDirectory path) tree

theorem access_createTemporary (path : String) (tree : FileTree) :
    access.createTemporary path tree = match tree.createTemporary path with
      | .ok (temporary, after) => (.ok temporary, after)
      | .error error => (.error error, tree) := by
  have happly := attempt_apply (·.createTemporary path) tree
  revert happly
  cases tree.createTemporary path with
  | error error => exact id
  | ok result => exact id

theorem access_writeText (path text : String) (tree : FileTree) :
    access.writeText path text tree = match tree.writeText path text with
      | .ok after => (.ok (), after)
      | .error error => (.error error, tree) :=
  attempt_unit_apply (·.writeText path text) tree

theorem access_rename (source destination : String) (tree : FileTree) :
    access.rename source destination tree = match tree.rename source destination with
      | .ok after => (.ok (), after)
      | .error error => (.error error, tree) :=
  attempt_unit_apply (·.rename source destination) tree

/-- **File trees are lawful.** -/
theorem lawful : access.Lawful view where
  readText? {tree path} hpath := by
    obtain ⟨location, hlocation⟩ := hpath
    obtain ⟨hlies, hplace⟩ := locate_spec hlocation
    have hfind : tree.find? path = tree.lookup? (Path.place path) := by
      rw [find?, hlocation, ← hplace, ← hlies.found?_eq]
    rw [fst_access_readText?, hfind]
    rfl
  isDirectory path tree := by
    rw [snd_access_isDirectory]
    exact .refl view tree
  createDirectory path tree := by
    rw [access_createDirectory]
    cases hresult : tree.createDirectory path with
    | error error => exact .refl view tree
    | ok after =>
      obtain ⟨place, hparent, hnone, rfl⟩ := createDirectory_ok hresult
      exact becomes_insert_directory hnone hparent
  createTemporary_error h := by
    rw [access_createTemporary] at h
    split at h
    · cases h
    · cases h
      exact .refl view _
  createTemporary_ok h := by
    rw [access_createTemporary] at h
    split at h
    · next hresult =>
      cases h
      obtain ⟨hreaches, hparent, hnone, rfl⟩ := createTemporary_ok hresult
      have hbecomes := becomes_insert_file "" (not_hasDirectory_of_none hnone) hparent
      exact ⟨text?_eq_none hnone, hbecomes.reaches _ hreaches, hbecomes⟩
    · cases h
  writeText_error h hthere := by
    rw [access_writeText] at h
    split at h
    · cases h
    · cases h
      obtain ⟨part, hpart⟩ := Option.ne_none_iff_exists'.1 hthere
      refine ⟨part, ?_, fun _ hpath => hpath⟩
      rw [← hpart, Function.update_eq_self]
  writeText_ok h := by
    rw [access_writeText] at h
    split at h
    · next hresult =>
      cases h
      obtain ⟨⟨old, hold⟩, hparent, rfl⟩ := writeText_ok hresult
      exact becomes_insert_file _ (not_hasDirectory_of_file hold) hparent
    · cases h
  rename_error h := by
    rw [access_rename] at h
    split at h
    · cases h
    · cases h
      exact .refl view _
  rename_ok {source destination tree after} h := by
    rw [access_rename] at h
    split at h
    · next hresult =>
      cases h
      obtain ⟨text, hsource, hparent, hreaches, habove, hdestination, rfl⟩ := rename_ok hresult
      have hreplaces := replaces_erase
        (ne_nil_of_not_hasDirectory (not_hasDirectory_of_file hsource)) hparent
      have herased := becomes_erase (not_hasDirectory_of_file hsource) hparent
      -- the destination is in a directory and no directory itself, also without the source
      have hdestination' := mt (hreplaces.hasDirectory_before hparent) hdestination
      have habove' := hreplaces.directories (not_hasDirectory_of_file hsource) habove
      have hinserted := becomes_insert_file text hdestination' habove'
      rw [show (tree.erase (Path.place source)).text? = _ from herased.files] at hinserted
      have hbecomes := herased.trans hinserted
      refine ⟨hbecomes.reaches _ hreaches, text, ?_, hbecomes⟩
      show text? _ _ = _
      rw [text?, hsource]
    · cases h
  remove {path tree} hpath hthere := by
    obtain ⟨location, hlocation⟩ := hpath
    obtain ⟨hlies, hplace⟩ := locate_spec hlocation
    obtain ⟨text, htext⟩ := Option.ne_none_iff_exists'.1 hthere
    have hremove : (access.remove path tree).2 = tree.erase (Path.place path) := by
      rw [← hplace]
      show tree.remove path = _
      rw [FileTree.remove, hlocation]
    rw [hremove]
    exact becomes_erase (not_hasDirectory_of_file (exists_file_of_text? htext))
      (hplace ▸ hlies.hasDirectory_above)

end FileTree

end TypeWitness
