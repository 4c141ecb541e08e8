import Mathlib.Logic.Function.Basic
import TypeWitness.Proofs.PathComponents

/-! # Places in file trees
A file tree is changed at one place at a time: what is there and below it is replaced, the
directories above it stay, and everything apart from it stays as it is. A path is followed through
the directories that are there, so a path that could be followed still can be as long as no
directory goes.

* `FileTree.Replaces` — a tree is changed at one place.
* `FileTree.replaces_insert`, `FileTree.replaces_erase` — what changes a tree at one place.
* `FileTree.Location.LiesIn.follow` — a path leads where its parts say.
* `FileTree.Reaches.of_directories` — which paths can be followed depends on directories only. -/

namespace TypeWitness

/-- What is found from an entry on. -/
def FileEntry.lookup? : List String → FileEntry → Option FileEntry
  | place, .directory tree => tree.lookup? place
  | [], .file text => some (.file text)
  | _ :: _, .file _ => none

@[simp] theorem FileEntry.lookup?_nil (entry : FileEntry) : entry.lookup? [] = some entry := by
  cases entry <;> rfl

namespace FileTree

/-! ## What is found at a place -/

theorem lookup?_cons (name : String) (rest : List String) (tree : FileTree) :
    tree.lookup? (name :: rest) = (tree.child? name).bind (·.lookup? rest) := by
  cases hchild : tree.child? name with
  | none => cases rest <;> simp [lookup?, hchild]
  | some value =>
    cases value with
    | directory below => simp [lookup?, hchild, FileEntry.lookup?]
    | file text => cases rest <;> simp [lookup?, hchild, FileEntry.lookup?]

theorem lookup?_append (place rest : List String) (tree : FileTree) :
    tree.lookup? (place ++ rest) = (tree.lookup? place).bind (·.lookup? rest) := by
  induction place generalizing tree with
  | nil => rfl
  | cons name place ih =>
    rw [List.cons_append, lookup?_cons, lookup?_cons]
    cases tree.child? name with
    | none => rfl
    | some value =>
      cases value with
      | directory below => exact ih below
      | file text =>
        -- nothing is below a file
        cases place with
        | nil => simp
        | cons _ _ => rfl

/-- Whether there is a directory at a place. -/
def HasDirectory (tree : FileTree) (place : List String) : Prop :=
  ∃ below, tree.lookup? place = some (.directory below)

theorem hasDirectory_nil (tree : FileTree) : tree.HasDirectory [] := ⟨tree, rfl⟩

theorem hasDirectory_cons {tree : FileTree} {name : String} {rest : List String} :
    tree.HasDirectory (name :: rest) ↔
      ∃ below, tree.child? name = some (.directory below) ∧ below.HasDirectory rest := by
  unfold HasDirectory
  rw [lookup?_cons]
  constructor
  · rintro ⟨found, hfound⟩
    obtain ⟨value, hchild, hvalue⟩ := Option.bind_eq_some_iff.1 hfound
    cases value with
    | directory below => exact ⟨below, hchild, found, hvalue⟩
    | file text => cases rest <;> cases hvalue
  · rintro ⟨below, hchild, found, hfound⟩
    exact ⟨found, by rw [hchild]; exact hfound⟩

/-- What is above a directory is one. -/
theorem HasDirectory.of_prefix {tree : FileTree} {place above : List String}
    (h : tree.HasDirectory place) (habove : above <+: place) : tree.HasDirectory above := by
  obtain ⟨rest, rfl⟩ := habove
  obtain ⟨found, hfound⟩ := h
  rw [lookup?_append] at hfound
  obtain ⟨value, hvalue, hrest⟩ := Option.bind_eq_some_iff.1 hfound
  cases value with
  | directory below => exact ⟨below, hvalue⟩
  | file text => cases rest <;> cases hrest

/-! ## Changes at one place -/

/-- A tree is changed at one place: what is there and below it is replaced, there are directories
above it, and everything apart from it stays. -/
structure Replaces (place : List String) (value? : Option FileEntry) (before after : FileTree) :
    Prop where
  below : ∀ rest, after.lookup? (place ++ rest) = value?.bind (·.lookup? rest)
  apart : ∀ other, ¬ place <+: other → ¬ other <+: place →
    after.lookup? other = before.lookup? other
  above : ∀ other, other <+: place → other ≠ place → after.HasDirectory other

/-- What is at the place that a tree is changed at. -/
theorem Replaces.lookup?_self {place : List String} {value? : Option FileEntry}
    {before after : FileTree} (h : Replaces place value? before after) :
    after.lookup? place = value? := by
  have hentry := h.below []
  rw [List.append_nil] at hentry
  cases value? with
  | none => exact hentry
  | some value => simpa using hentry

/-- Changing one entry of a directory changes a tree at one place. -/
theorem replaces_child {name : String} {value? : Option FileEntry} {before after : FileTree}
    (h : ∀ other, after.child? other = if name = other then value? else before.child? other) :
    Replaces [name] value? before after where
  below rest := by
    rw [List.singleton_append, lookup?_cons, h, if_pos rfl]
  apart other hbelow habove := by
    cases other with
    | nil => exact absurd List.nil_prefix habove
    | cons first rest =>
      have hne : name ≠ first := by
        rintro rfl
        exact hbelow ⟨rest, rfl⟩
      rw [lookup?_cons, lookup?_cons, h, if_neg hne]
  above other hprefix hne := by
    cases other with
    | nil => exact hasDirectory_nil _
    | cons first rest =>
      obtain ⟨rfl, hrest⟩ := List.cons_prefix_cons.1 hprefix
      exact absurd (List.prefix_nil.1 hrest ▸ rfl) hne

/-- A change below a directory is a change of the tree that the directory is in. -/
theorem Replaces.inside {place : List String} {value? : Option FileEntry}
    {below after tree : FileTree} (h : Replaces place value? below after) {name : String}
    (hchild : tree.child? name = some (.directory below)) :
    Replaces (name :: place) value? tree (tree.put name (.directory after)) where
  below rest := by
    rw [List.cons_append, lookup?_cons, child?_put, if_pos rfl]
    exact h.below rest
  apart other hbelow habove := by
    cases other with
    | nil => exact absurd List.nil_prefix habove
    | cons first rest =>
      rw [lookup?_cons, lookup?_cons, child?_put]
      split
      · next heq =>
        subst heq
        rw [List.cons_prefix_cons, and_iff_right rfl] at hbelow habove
        rw [hchild]
        exact h.apart rest hbelow habove
      · rfl
  above other hprefix hne := by
    cases other with
    | nil => exact hasDirectory_nil _
    | cons first rest =>
      obtain ⟨rfl, hrest⟩ := List.cons_prefix_cons.1 hprefix
      obtain ⟨found, hfound⟩ := h.above rest hrest fun heq => hne (heq ▸ rfl)
      rw [hasDirectory_cons, child?_put, if_pos rfl]
      exact ⟨after, rfl, found, hfound⟩

/-- **Inserting changes a tree at one place.** -/
theorem replaces_insert {place : List String} (hne : place ≠ []) (value : FileEntry)
    {tree : FileTree} (hparent : tree.HasDirectory place.dropLast) :
    Replaces place (some value) tree (tree.insert value place) := by
  induction place generalizing tree with
  | nil => exact absurd rfl hne
  | cons name rest ih =>
    cases rest with
    | nil => exact replaces_child fun other => child?_put tree name other value
    | cons second rest =>
      obtain ⟨below, hchild, hbelow⟩ := hasDirectory_cons.1 hparent
      rw [insert, hchild]
      · exact (ih (List.cons_ne_nil _ _) hbelow).inside hchild
      · rintro ⟨⟩

/-- **Erasing changes a tree at one place.** -/
theorem replaces_erase {place : List String} (hne : place ≠ []) {tree : FileTree}
    (hparent : tree.HasDirectory place.dropLast) :
    Replaces place none tree (tree.erase place) := by
  induction place generalizing tree with
  | nil => exact absurd rfl hne
  | cons name rest ih =>
    cases rest with
    | nil => exact replaces_child (child?_without tree name)
    | cons second rest =>
      obtain ⟨below, hchild, hbelow⟩ := hasDirectory_cons.1 hparent
      rw [erase, hchild]
      · exact (ih (List.cons_ne_nil _ _) hbelow).inside hchild
      · rintro ⟨⟩

/-! ## Files and directories -/

/-- The text of the file at a place, if there is one. -/
def text? (tree : FileTree) (place : List String) : Option String :=
  match tree.lookup? place with
  | some (.file text) => some text
  | _ => none

/-- What is above a place is not below the place above it. -/
theorem prefix_dropLast {place above : List String} (h : above <+: place) (hne : above ≠ place) :
    above <+: place.dropLast := by
  obtain ⟨rest, rfl⟩ := h
  have hrest : rest ≠ [] := by
    rintro rfl
    exact hne (List.append_nil above).symm
  rw [List.dropLast_append_of_ne_nil hrest]
  exact List.prefix_append _ _

section Replaces

variable {place other : List String} {value? : Option FileEntry} {before after : FileTree}

/-- Directories stay when none is replaced. -/
theorem Replaces.directories (h : Replaces place value? before after)
    (hold : ¬ before.HasDirectory place) (hother : before.HasDirectory other) :
    after.HasDirectory other := by
  by_cases hbelow : place <+: other
  · exact absurd (hother.of_prefix hbelow) hold
  · by_cases habove : other <+: place
    · exact h.above other habove fun heq => hbelow (heq ▸ List.prefix_rfl)
    · obtain ⟨found, hfound⟩ := hother
      exact ⟨found, (h.apart other hbelow habove).trans hfound⟩

/-- No directory comes when something is taken away. -/
theorem Replaces.hasDirectory_before (h : Replaces place none before after)
    (hparent : before.HasDirectory place.dropLast) (hother : after.HasDirectory other) :
    before.HasDirectory other := by
  obtain ⟨found, hfound⟩ := hother
  by_cases hbelow : place <+: other
  · obtain ⟨rest, rfl⟩ := hbelow
    rw [h.below] at hfound
    cases hfound
  · by_cases habove : other <+: place
    · have hne : other ≠ place := fun heq => hbelow (heq ▸ List.prefix_rfl)
      exact hparent.of_prefix (prefix_dropLast habove hne)
    · exact ⟨found, (h.apart other hbelow habove).symm.trans hfound⟩

/-- **The files are the same but for the one that is replaced.** -/
theorem Replaces.text? (h : Replaces place value? before after)
    (hold : ¬ before.HasDirectory place) (hparent : before.HasDirectory place.dropLast)
    (hvalue : ∀ name rest, value?.bind (·.lookup? (name :: rest)) = none) :
    after.text? = Function.update before.text? place (after.text? place) := by
  funext other
  by_cases heq : other = place
  · rw [heq, Function.update_self]
  · rw [Function.update_of_ne heq]
    unfold FileTree.text?
    by_cases hbelow : place <+: other
    · -- nothing is below the place, now or before
      obtain ⟨rest, rfl⟩ := hbelow
      cases rest with
      | nil => exact absurd (List.append_nil _) heq
      | cons name rest =>
        rw [h.below, hvalue, lookup?_append]
        cases hentry : before.lookup? place with
        | none => rfl
        | some value =>
          cases value with
          | directory below => exact absurd ⟨below, hentry⟩ hold
          | file text => rfl
    · by_cases habove : other <+: place
      · -- there are directories above the place, now and before
        obtain ⟨found, hfound⟩ := h.above other habove heq
        obtain ⟨found', hfound'⟩ := hparent.of_prefix (prefix_dropLast habove heq)
        rw [hfound, hfound']
      · rw [h.apart other hbelow habove]

end Replaces

/-! ## Following paths -/

namespace Location

/-- A location that is reached from the root of a tree by the entries of its directories. -/
inductive LiesIn (tree : FileTree) : Location → Prop
  | root : LiesIn tree (.root tree)
  | entry {location : Location} {here : FileTree} (name : String) (h : LiesIn tree location)
    (hhere : location.found? = some (.directory here)) :
    LiesIn tree ⟨(name, here) :: location.above, here.child? name⟩

section LiesIn

variable {tree : FileTree} {location next : Location}

theorem place_entry (location : Location) (name : String) (here : FileTree)
    (found? : Option FileEntry) :
    place ⟨(name, here) :: location.above, found?⟩ = location.place ++ [name] := by
  rw [place, List.map_cons, List.reverse_cons]
  rfl

/-- What is at a location is what is found at its place. -/
theorem LiesIn.found?_eq (h : LiesIn tree location) :
    location.found? = tree.lookup? location.place := by
  induction h with
  | root => rfl
  | @entry location here name h hhere ih =>
    have hbelow : (FileEntry.directory here).lookup? [name] = here.lookup? [name] := rfl
    rw [place_entry, lookup?_append, ← ih, hhere, Option.bind_some, hbelow, lookup?_cons]
    cases here.child? name with
    | none => rfl
    | some value => simp

/-- There is a directory above a location. -/
theorem LiesIn.hasDirectory_above (h : LiesIn tree location) :
    tree.HasDirectory location.place.dropLast := by
  cases h with
  | root => exact hasDirectory_nil tree
  | entry name h hhere =>
    rw [place_entry, List.dropLast_concat]
    exact ⟨_, h.found?_eq ▸ hhere⟩

/-- **A part of a path leads to a location whose place it says.** -/
theorem LiesIn.enter {part : String} (h : LiesIn tree location)
    (henter : location.enter part = .ok next) :
    LiesIn tree next ∧ next.place = Path.step location.place part := by
  unfold Location.enter at henter
  unfold Path.step
  split at henter
  · cases henter
  · cases henter
  · next here hhere =>
    by_cases hstay : part = "" ∨ part = "."
    · rw [if_pos hstay] at henter ⊢
      cases henter
      exact ⟨h, rfl⟩
    rw [if_neg hstay] at henter ⊢
    by_cases hback : part = ".."
    · rw [if_pos hback] at henter ⊢
      cases h with
      | root =>
        cases henter
        exact ⟨.root, rfl⟩
      | entry name h hparent =>
        cases henter
        rw [place_entry, List.dropLast_concat, ← hparent]
        exact ⟨h, rfl⟩
    rw [if_neg hback] at henter ⊢
    split at henter
    · cases henter
    · cases henter
      exact ⟨.entry part h hhere, place_entry location part here _⟩

/-- **A path leads where its parts say.** -/
theorem LiesIn.follow {parts : List String} (h : LiesIn tree location)
    (hfollow : location.follow parts = .ok next) :
    LiesIn tree next ∧ next.place = parts.foldl Path.step location.place := by
  induction parts generalizing location with
  | nil =>
    cases hfollow
    exact ⟨h, rfl⟩
  | cons part parts ih =>
    rw [Location.follow] at hfollow
    cases henter : location.enter part with
    | error error =>
      rw [henter] at hfollow
      cases hfollow
    | ok middle =>
      rw [henter] at hfollow
      obtain ⟨hmiddle, hplace⟩ := h.enter henter
      rw [List.foldl_cons, ← hplace]
      exact ih hmiddle hfollow

end LiesIn

section Directories

variable {before after : FileTree} {location location' next : Location}

/-- Which parts can be followed depends on directories only. -/
theorem exists_enter_of_directories
    (hdirectories : ∀ place, before.HasDirectory place → after.HasDirectory place)
    (h : LiesIn before location) (h' : LiesIn after location')
    (hplace : location'.place = location.place) {part : String}
    (henter : location.enter part = .ok next) : ∃ next', location'.enter part = .ok next' := by
  unfold Location.enter at henter
  split at henter
  · cases henter
  · cases henter
  · next here hhere =>
    obtain ⟨here', hhere'⟩ := hdirectories location.place ⟨here, h.found?_eq ▸ hhere⟩
    rw [← hplace, ← h'.found?_eq] at hhere'
    unfold Location.enter
    rw [hhere']
    dsimp only
    split
    · exact ⟨_, rfl⟩
    · next hstay =>
      rw [if_neg hstay] at henter
      split
      · split <;> exact ⟨_, rfl⟩
      · next hback =>
        rw [if_neg hback] at henter
        split at henter
        · cases henter
        · next hlength =>
          rw [if_neg hlength]
          exact ⟨_, rfl⟩

theorem exists_follow_of_directories
    (hdirectories : ∀ place, before.HasDirectory place → after.HasDirectory place)
    (h : LiesIn before location) (h' : LiesIn after location')
    (hplace : location'.place = location.place) {parts : List String}
    (hfollow : location.follow parts = .ok next) : ∃ next', location'.follow parts = .ok next' := by
  induction parts generalizing location location' with
  | nil => exact ⟨location', rfl⟩
  | cons part parts ih =>
    rw [Location.follow] at hfollow ⊢
    cases henter : location.enter part with
    | error error =>
      rw [henter] at hfollow
      cases hfollow
    | ok middle =>
      rw [henter] at hfollow
      obtain ⟨middle', henter'⟩ := exists_enter_of_directories hdirectories h h' hplace henter
      obtain ⟨hmiddle, hat⟩ := h.enter henter
      obtain ⟨hmiddle', hat'⟩ := h'.enter henter'
      rw [henter']
      exact ih hmiddle hmiddle' (by rw [hat, hat', hplace]) hfollow

end Directories

end Location

/-- Whether a text can be a path at all. -/
structure IsPath (path : String) : Prop where
  noNul : '\x00' ∉ path.toList
  ne_empty : path ≠ ""
  size_le : path.utf8ByteSize ≤ longestPath

theorem follow_eq (tree : FileTree) (path : String) (names : List String) :
    tree.follow path names =
      if path.toList.contains '\x00' then .error .nulCharacter
      else if path.isEmpty then .error .notFound
      else if path.utf8ByteSize > longestPath then .error .nameTooLong
      else (Location.root tree).follow names := rfl

theorem follow_eq_ok_iff {tree : FileTree} {path : String} {names : List String}
    {location : Location} :
    tree.follow path names = .ok location ↔
      IsPath path ∧ (Location.root tree).follow names = .ok location := by
  rw [follow_eq]
  constructor
  · intro h
    split at h
    · cases h
    · next hnul =>
      split at h
      · cases h
      · next hempty =>
        split at h
        · cases h
        · next hsize => exact ⟨⟨by simpa using hnul, by simpa using hempty, by omega⟩, h⟩
  · rintro ⟨⟨hnul, hempty, hsize⟩, h⟩
    rw [if_neg (by simpa using hnul), if_neg (by simpa using hempty), if_neg (by omega)]
    exact h

/-- Whether a path can be followed. -/
def Reaches (tree : FileTree) (path : String) : Prop := ∃ location, tree.locate path = .ok location

theorem locate_spec {tree : FileTree} {path : String} {location : Location}
    (h : tree.locate path = .ok location) :
    location.LiesIn tree ∧ location.place = Path.place path :=
  Location.LiesIn.root.follow (follow_eq_ok_iff.1 h).2

/-- **Which paths can be followed depends on directories only.** -/
theorem Reaches.of_directories {before after : FileTree} {path : String} (h : before.Reaches path)
    (hdirectories : ∀ place, before.HasDirectory place → after.HasDirectory place) :
    after.Reaches path := by
  obtain ⟨location, hlocation⟩ := h
  obtain ⟨hpath, hfollow⟩ := follow_eq_ok_iff.1 hlocation
  obtain ⟨next, hnext⟩ :=
    Location.exists_follow_of_directories hdirectories .root .root rfl hfollow
  exact ⟨next, follow_eq_ok_iff.2 ⟨hpath, hnext⟩⟩

end FileTree

end TypeWitness
