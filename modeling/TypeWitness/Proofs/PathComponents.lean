import TypeWitness.Files.Tree
import TypeWitness.Proofs.TextParts

/-! # Components of paths
A path is compared by its components: the root if the path starts there, and then the names it goes
through. Empty parts and dots for the directory they are in do not count, but a dot does at the
start. A path that is put behind another one adds its components to those of the other one, unless
it starts at the root or with a dot.

* `Path.components` — what paths are compared by.
* `Path.components_join` — paths that are put together have their components one after the other.
* `Path.place_join` — where a path leads that is put behind another one.
* `Path.components_ofClass` — the source file of a class lies in the directory of its package. -/

namespace TypeWitness.Path

open FileTree (parts)

/-! ## Parts of paths that are put together -/

theorem isAbsolute_join (base path : String) :
    isAbsolute (join base path) = (isAbsolute path || isAbsolute base) := by
  unfold join
  cases hpath : isAbsolute path with
  | true => simp [hpath]
  | false =>
    rw [Bool.false_or]
    by_cases hbase : base = ""
    · subst hbase
      simpa [isAbsolute] using hpath
    · obtain ⟨c, cs, hcs⟩ := List.exists_cons_of_ne_nil (mt String.toList_eq_nil_iff.1 hbase)
      simp only [Bool.false_eq_true, if_false]
      split <;> simp [isAbsolute, hcs]

@[simp] theorem join_empty (path : String) : join "" path = path := by
  simp [join]

theorem mem_toList_join {base path : String} {c : Char} (h : c ∈ (join base path).toList) :
    c ∈ base.toList ∨ c ∈ path.toList ∨ c = '/' := by
  unfold join at h
  split at h
  · exact .inr (.inl h)
  · split at h
    · rw [String.toList_append, List.mem_append] at h
      exact h.imp_right .inl
    · rw [String.toList_append, String.toList_append, List.mem_append, List.mem_append] at h
      rcases h with (h | h) | h
      · exact .inl h
      · exact .inr (.inr (List.mem_singleton.1 h))
      · exact .inr (.inl h)

/-- The parts of a path that is put behind another one follow those of the other one, but for an
empty one behind a slash. -/
theorem exists_parts_join {base path : String} (hpath : isAbsolute path = false)
    (hbase : base ≠ "") :
    ∃ front, front ≠ [] ∧ (parts base = front ∨ parts base = front ++ [""])
      ∧ parts (join base path) = front ++ parts path := by
  have hempty : base.isEmpty = false := by simpa using hbase
  rw [join, hpath, hempty, Bool.false_or, if_neg Bool.false_ne_true]
  split
  · next hslash =>
    obtain ⟨cs, hcs⟩ := List.getLast?_eq_some_iff.1 (beq_iff_eq.1 hslash)
    refine ⟨(splitAt '/' cs).map String.ofList, ?_, .inr ?_, ?_⟩
    · simpa using splitAt_ne_nil cs
    · rw [parts, hcs, splitAt_append, List.map_append]
      rfl
    · rw [parts, String.toList_append, hcs, List.append_assoc, List.singleton_append,
        splitAt_append, List.map_append, parts]
  · refine ⟨parts base, ?_, .inl rfl, ?_⟩
    · simpa [parts] using splitAt_ne_nil base.toList
    · rw [parts, String.toList_append, String.toList_append, List.append_assoc]
      have hsingle : "/".toList ++ path.toList = '/' :: path.toList := rfl
      rw [hsingle, splitAt_append, List.map_append, parts, parts]

/-- The parts of paths that are put together are parts of one of them. -/
theorem mem_parts_join {base path part : String} (h : part ∈ parts (join base path)) :
    part ∈ parts base ∨ part ∈ parts path := by
  cases hpath : isAbsolute path with
  | true =>
    rw [join, if_pos hpath] at h
    exact .inr h
  | false =>
    by_cases hbase : base = ""
    · subst hbase
      rw [join_empty] at h
      exact .inr h
    · obtain ⟨front, -, hfront, hparts⟩ := exists_parts_join hpath hbase
      rw [hparts, List.mem_append] at h
      refine h.imp_left fun hmem => ?_
      rcases hfront with hfront | hfront <;> simp [hfront, hmem]

/-! ## Components -/

/-- Whether a part of a path leads away from the directory it is in. -/
def counts (part : String) : Bool := part != "" && part != "."

/-- What a path starts with, if it says so: the root, or a dot. -/
def anchor (path : String) : List String :=
  if isAbsolute path then ["/"]
  else if (parts path).head? = some "." then ["."]
  else []

/-- The components of a path, which paths are compared by. -/
def components (path : String) : List String := anchor path ++ (parts path).filter counts

theorem anchor_eq_nil_iff {path : String} :
    anchor path = [] ↔ isAbsolute path = false ∧ (parts path).head? ≠ some "." := by
  unfold anchor
  cases isAbsolute path <;> simp

theorem anchor_join {base path : String} (h : anchor path = []) :
    anchor (join base path) = anchor base := by
  obtain ⟨hpath, -⟩ := anchor_eq_nil_iff.1 h
  by_cases hbase : base = ""
  · subst hbase
    rw [join_empty, h]
    rfl
  · obtain ⟨front, hne, hfront, hparts⟩ := exists_parts_join hpath hbase
    have hhead : (parts (join base path)).head? = (parts base).head? := by
      obtain ⟨first, others, rfl⟩ := List.exists_cons_of_ne_nil hne
      rcases hfront with hfront | hfront <;> simp [hparts, hfront]
    rw [anchor, anchor, isAbsolute_join, hpath, Bool.false_or, hhead]

theorem filter_parts_join {base path : String} (hpath : isAbsolute path = false) :
    (parts (join base path)).filter counts =
      (parts base).filter counts ++ (parts path).filter counts := by
  by_cases hbase : base = ""
  · subst hbase
    rw [join_empty]
    rfl
  · obtain ⟨front, -, hfront, hparts⟩ := exists_parts_join hpath hbase
    have hfilter : (parts base).filter counts = front.filter counts := by
      rcases hfront with hfront | hfront
      · rw [hfront]
      · rw [hfront, List.filter_append]
        exact List.append_nil _
    rw [hparts, List.filter_append, hfilter]

/-- **Paths that are put together have their components one after the other.** -/
theorem components_join {base path : String} (h : anchor path = []) :
    components (join base path) = components base ++ components path := by
  rw [components, components, components, anchor_join h, h, List.nil_append,
    filter_parts_join (anchor_eq_nil_iff.1 h).1, List.append_assoc]

/-- A path through two dots has them between its slashes. -/
theorem mem_parts_of_mem_components {path : String} (h : ".." ∈ components path) :
    ".." ∈ parts path := by
  rw [components, List.mem_append] at h
  rcases h with h | h
  · unfold anchor at h
    split at h
    · simp at h
    · split at h <;> simp at h
  · exact (List.mem_filter.1 h).1

/-! ## Where paths lead -/

/-- Where a part of a path leads from a place, which is given by the names from the root. -/
def step (place : List String) (part : String) : List String :=
  if part = "" ∨ part = "." then place
  else if part = ".." then place.dropLast
  else place ++ [part]

/-- Where a path leads when there are no links. -/
def place (path : String) : List String := (parts path).foldl step []

theorem place_join_eq {base path : String} (hpath : isAbsolute path = false) :
    place (join base path) = (parts path).foldl step (place base) := by
  by_cases hbase : base = ""
  · subst hbase
    rw [join_empty]
    rfl
  · obtain ⟨front, -, hfront, hparts⟩ := exists_parts_join hpath hbase
    have hplace : place base = front.foldl step [] := by
      rcases hfront with hfront | hfront
      · rw [place, hfront]
      · rw [place, hfront, List.foldl_append]
        rfl
    rw [place, hparts, List.foldl_append, hplace]

/-- Parts that lead nowhere back lead further by those of them that count. -/
theorem foldl_step {parts : List String} (h : ".." ∉ parts) (place : List String) :
    parts.foldl step place = place ++ parts.filter counts := by
  induction parts generalizing place with
  | nil => simp
  | cons part parts ih =>
    rw [List.mem_cons, not_or] at h
    rw [List.foldl_cons, ih h.2, step, List.filter_cons]
    by_cases hstay : part = "" ∨ part = "."
    · have hcounts : counts part = false := by
        rcases hstay with rfl | rfl <;> decide
      rw [if_pos hstay, hcounts, if_neg Bool.false_ne_true]
    · have hcounts : counts part = true := by
        simpa [counts] using hstay
      rw [if_neg hstay, if_neg (Ne.symm h.1), hcounts, if_pos rfl, List.append_assoc,
        List.singleton_append]

/-- **Where a path leads that is put behind another one**, when it starts with nothing and never
leads back. -/
theorem place_join {base path : String} (hanchor : anchor path = [])
    (hback : ".." ∉ components path) :
    place (join base path) = place base ++ components path := by
  have hparts : ".." ∉ parts path := by
    intro hmem
    rw [components, hanchor, List.nil_append] at hback
    exact hback (List.mem_filter.2 ⟨hmem, by decide⟩)
  rw [place_join_eq (anchor_eq_nil_iff.1 hanchor).1, foldl_step hparts, components, hanchor,
    List.nil_append]

/-! ## Several paths -/

theorem isAbsolute_foldl_join (paths : List String) (base : String) :
    isAbsolute (paths.foldl join base) = (isAbsolute base || paths.any isAbsolute) := by
  induction paths generalizing base with
  | nil => simp
  | cons path paths ih =>
    rw [List.foldl_cons, ih, isAbsolute_join, List.any_cons, ← Bool.or_assoc,
      Bool.or_comm (isAbsolute base)]

theorem components_foldl_join {paths : List String} (h : ∀ path ∈ paths, anchor path = [])
    (base : String) :
    components (paths.foldl join base) = components base ++ paths.flatMap components := by
  induction paths generalizing base with
  | nil => simp
  | cons path paths ih =>
    rw [List.forall_mem_cons] at h
    rw [List.foldl_cons, ih h.2, components_join h.1, List.flatMap_cons, List.append_assoc]

theorem anchor_foldl_join {paths : List String} (h : ∀ path ∈ paths, anchor path = [])
    (base : String) : anchor (paths.foldl join base) = anchor base := by
  induction paths generalizing base with
  | nil => rfl
  | cons path paths ih =>
    rw [List.forall_mem_cons] at h
    rw [List.foldl_cons, ih h.2, anchor_join h.1]

theorem mem_parts_foldl_join {paths : List String} {base part : String}
    (h : part ∈ parts (paths.foldl join base)) :
    part ∈ parts base ∨ ∃ path ∈ paths, part ∈ parts path := by
  induction paths generalizing base with
  | nil => exact .inl h
  | cons path paths ih =>
    rcases ih h with hbase | ⟨later, hlater, hpart⟩
    · exact (mem_parts_join hbase).imp_right fun hpart => ⟨path, List.mem_cons_self, hpart⟩
    · exact .inr ⟨later, List.mem_cons_of_mem _ hlater, hpart⟩

/-! ## Source files -/

/-- The parts of a package's name that are not empty, each of which is a path. -/
def segments (packageName : String) : List String :=
  ((splitAt '.' packageName.toList).filter (!·.isEmpty)).map String.ofList

/-- The directory of the source files of a package. -/
def ofPackage (packageName : String) : String := (segments packageName).foldl join ""

/-- The name of the source file of a class. -/
def fileName (simpleName : String) : String := simpleName ++ ".java"

theorem ofClass_eq (packageName simpleName : String) :
    ofClass packageName simpleName = join (ofPackage packageName) (fileName simpleName) := by
  rw [ofPackage, segments, List.foldl_map]
  rfl

/-- The parts of a package's name have no dots. -/
theorem dot_not_mem_of_mem_segments {packageName segment : String}
    (h : segment ∈ segments packageName) : '.' ∉ segment.toList := by
  obtain ⟨cs, hcs, rfl⟩ := List.mem_map.1 h
  rw [String.toList_ofList]
  intro hdot
  exact (mem_splitAt (List.mem_filter.1 hcs).1 hdot).2 rfl

/-- The parts of a path have no other characters than the path. -/
theorem mem_of_mem_parts {path part : String} (h : part ∈ parts path) {c : Char}
    (hc : c ∈ part.toList) : c ∈ path.toList := by
  obtain ⟨cs, hcs, rfl⟩ := List.mem_map.1 h
  rw [String.toList_ofList] at hc
  exact (mem_splitAt hcs hc).1

/-- A path without dots starts with nothing but the root. -/
theorem anchor_eq_nil {path : String} (hpath : isAbsolute path = false) (hdot : '.' ∉ path.toList) :
    anchor path = [] := by
  refine anchor_eq_nil_iff.2 ⟨hpath, fun hhead => hdot ?_⟩
  exact mem_of_mem_parts (List.mem_of_head? hhead) (by decide)

/-- A path that starts at the root has a slash. -/
theorem slash_mem_of_isAbsolute {path : String} (h : isAbsolute path = true) :
    '/' ∈ path.toList := List.mem_of_head? (beq_iff_eq.1 h)

/-- A path without slashes is a single part. -/
theorem parts_of_not_mem {path : String} (h : '/' ∉ path.toList) : parts path = [path] := by
  rw [parts, splitAt_of_not_mem h, List.map_singleton, String.ofList_toList]

/-- A path without slashes starts at no root. -/
theorem isAbsolute_of_not_mem {path : String} (h : '/' ∉ path.toList) : isAbsolute path = false :=
  Bool.eq_false_iff.2 fun habsolute => h (slash_mem_of_isAbsolute habsolute)

/-- A path that is a single name starts with nothing. -/
theorem anchor_of_name {name : String} (hslash : '/' ∉ name.toList) (hdot : name ≠ ".") :
    anchor name = [] := by
  rw [anchor_eq_nil_iff, parts_of_not_mem hslash]
  exact ⟨isAbsolute_of_not_mem hslash, by simpa using hdot⟩

/-- A path that is a single name has it as its only component. -/
theorem components_of_name {name : String} (hslash : '/' ∉ name.toList) (hempty : name ≠ "")
    (hdot : name ≠ ".") : components name = [name] := by
  rw [components, anchor_of_name hslash hdot, parts_of_not_mem hslash]
  simp [counts, hempty, hdot]

section OfPackage

variable {packageName : String}

/-- The directory of a package starts at the root when one of its parts does. -/
theorem isAbsolute_ofPackage :
    isAbsolute (ofPackage packageName) = (segments packageName).any isAbsolute := by
  rw [ofPackage, isAbsolute_foldl_join]
  rfl

theorem anchor_of_mem_segments (h : isAbsolute (ofPackage packageName) = false) :
    ∀ segment ∈ segments packageName, anchor segment = [] := by
  rw [isAbsolute_ofPackage, List.any_eq_false] at h
  intro segment hmem
  exact anchor_eq_nil (Bool.eq_false_iff.2 (h segment hmem)) (dot_not_mem_of_mem_segments hmem)

theorem anchor_ofPackage (h : isAbsolute (ofPackage packageName) = false) :
    anchor (ofPackage packageName) = [] :=
  anchor_foldl_join (anchor_of_mem_segments h) ""

/-- **The directory of a package**, unless it starts at the root. -/
theorem components_ofPackage (h : isAbsolute (ofPackage packageName) = false) :
    components (ofPackage packageName) = (segments packageName).flatMap components :=
  components_foldl_join (anchor_of_mem_segments h) ""

end OfPackage

section OfClass

variable {packageName simpleName : String}

theorem slash_not_mem_fileName (hslash : '/' ∉ simpleName.toList) :
    '/' ∉ (fileName simpleName).toList := by
  rw [fileName, String.toList_append, List.mem_append]
  rintro (h | h)
  · exact hslash h
  · revert h
    decide

/-- The name of a source file is longer than its ending. -/
theorem fileName_ne {text : String} (htext : text.length < 5) : fileName simpleName ≠ text := by
  rintro rfl
  rw [fileName, String.length_append] at htext
  have hending : ".java".length = 5 := by decide
  omega

theorem fileName_inj {simpleName simpleName' : String}
    (h : fileName simpleName = fileName simpleName') : simpleName = simpleName' := by
  have hlists := congrArg String.toList h
  rw [fileName, fileName, String.toList_append, String.toList_append] at hlists
  exact String.toList_injective (List.append_cancel_right hlists)

theorem anchor_fileName (hslash : '/' ∉ simpleName.toList) : anchor (fileName simpleName) = [] :=
  anchor_of_name (slash_not_mem_fileName hslash) (fileName_ne (by decide))

theorem components_fileName (hslash : '/' ∉ simpleName.toList) :
    components (fileName simpleName) = [fileName simpleName] :=
  components_of_name (slash_not_mem_fileName hslash) (fileName_ne (by decide))
    (fileName_ne (by decide))

theorem isAbsolute_ofClass (hslash : '/' ∉ simpleName.toList) :
    isAbsolute (ofClass packageName simpleName) = isAbsolute (ofPackage packageName) := by
  obtain ⟨hfile, -⟩ := anchor_eq_nil_iff.1 (anchor_fileName hslash)
  rw [ofClass_eq, isAbsolute_join, hfile, Bool.false_or]

theorem anchor_ofClass (hslash : '/' ∉ simpleName.toList) :
    anchor (ofClass packageName simpleName) = anchor (ofPackage packageName) := by
  rw [ofClass_eq, anchor_join (anchor_fileName hslash)]

/-- **The source file of a class lies in the directory of its package.** -/
theorem components_ofClass (hslash : '/' ∉ simpleName.toList) :
    components (ofClass packageName simpleName) =
      components (ofPackage packageName) ++ [fileName simpleName] := by
  rw [ofClass_eq, components_join (anchor_fileName hslash), components_fileName hslash]

/-- **A source file does not lie above the directory that its path starts in.** -/
theorem not_mem_components_ofClass (hslash : '/' ∉ simpleName.toList) :
    ".." ∉ components (ofClass packageName simpleName) := by
  rw [components_ofClass hslash, List.mem_append, List.mem_singleton]
  rintro (h | h)
  · rcases mem_parts_foldl_join (mem_parts_of_mem_components h) with
      hempty | ⟨segment, hsegment, hpart⟩
    · revert hempty
      decide
    · -- no part of a package's name has a dot
      exact dot_not_mem_of_mem_segments hsegment (mem_of_mem_parts hpart (by decide))
  · exact fileName_ne (by decide) h.symm

end OfClass

end TypeWitness.Path
