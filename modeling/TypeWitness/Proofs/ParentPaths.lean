import Mathlib.Data.List.TakeWhile
import TypeWitness.Proofs.PathComponents

/-! # Parents of paths
The parent of a path is the path without its last name and without what does not count before it. It
leads through the same names, and it starts at the root when the path does.

* `Path.isAbsolute_of_parent?` — the parent of a path from the root starts there too.
* `Path.parent?_join` — the parent of a file in a directory has the components of the directory. -/

namespace TypeWitness.Path

open FileTree (parts)

/-! ## Names on the way -/

/-- The names that a text leads through. -/
def names (cs : List Char) : List String := ((splitAt '/' cs).map String.ofList).filter counts

theorem names_append (before after : List Char) :
    names (before ++ '/' :: after) = names before ++ names after := by
  rw [names, splitAt_append, List.map_append, List.filter_append, names, names]

theorem names_slash (cs : List Char) : names (cs ++ ['/']) = names cs := by
  rw [names_append]
  exact List.append_nil _

/-- A path from the root is told by the names that it leads through. -/
theorem components_eq_cons {path : String} (h : isAbsolute path = true) :
    components path = "/" :: names path.toList := by
  rw [components, anchor, if_pos h]
  rfl

/-- Paths from the root with the same components lead to the same with any path behind them. -/
theorem components_join_congr {base base' : String} (hbase : isAbsolute base = true)
    (hbase' : isAbsolute base' = true) (heq : components base = components base')
    (path : String) : components (join base path) = components (join base' path) := by
  by_cases hpath : isAbsolute path = true
  · rw [join, if_pos hpath, join, if_pos hpath]
  · rw [Bool.not_eq_true] at hpath
    have hjoin : ∀ {base}, isAbsolute base = true →
        components (join base path) = components base ++ (parts path).filter counts := by
      intro base hbase
      have habsolute : isAbsolute (join base path) = true := by simp [isAbsolute_join, hbase]
      rw [components, anchor, if_pos habsolute, filter_parts_join hpath, components, anchor,
        if_pos hbase, List.append_assoc]
    rw [hjoin hbase, hjoin hbase', heq]

/-! ## What does not count at the end -/

/-- What is left of a path is where it starts. The path is given from its end. -/
theorem trimEnd_suffix (cs : List Char) : trimEnd cs <:+ cs := by
  fun_induction trimEnd cs with
  | case1 rest ih => exact ih.trans (List.suffix_cons _ _)
  | case2 => exact List.suffix_rfl
  | case3 rest ih => exact ih.trans ((List.suffix_cons _ _).trans (List.suffix_cons _ _))
  | case4 => exact List.suffix_rfl

/-- What is left of a path leads through the same names. -/
theorem names_trimEnd (cs : List Char) : names (trimEnd cs).reverse = names cs.reverse := by
  fun_induction trimEnd cs with
  | case1 rest ih => rw [ih, List.reverse_cons, names_slash]
  | case2 => rfl
  | case3 rest ih =>
    have hdot : names ['.'] = [] := by decide
    rw [ih, List.reverse_cons, List.reverse_cons, List.append_assoc, List.singleton_append,
      names_append, hdot, List.append_nil]
  | case4 => rfl

theorem isAbsolute_iff_getLast? {path : String} :
    isAbsolute path = true ↔ path.toList.reverse.getLast? = some '/' := by
  rw [List.getLast?_reverse, isAbsolute, beq_iff_eq]

/-- A path from the root still starts there after parts of it have been taken from its end. -/
theorem getLast?_of_suffix {cs rest : List Char} (h : rest <:+ cs) (hne : rest ≠ [])
    (hlast : cs.getLast? = some '/') : rest.getLast? = some '/' := by
  obtain ⟨front, rfl⟩ := h
  rwa [List.getLast?_append, Option.or_of_isSome (by simpa using hne)] at hlast

/-! ## Parents -/

/-- The directory that is left of a path, which is given from its end. -/
def ofRest : List Char → String
  | [] => "/"
  | c :: rest => String.ofList (c :: rest).reverse

theorem names_ofRest (rest : List Char) : names (ofRest rest).toList = names rest.reverse := by
  cases rest with
  | nil => decide
  | cons c rest => rw [ofRest, String.toList_ofList]

theorem isAbsolute_ofRest {rest : List Char} (h : rest ≠ [] → rest.getLast? = some '/') :
    isAbsolute (ofRest rest) = true := by
  cases rest with
  | nil => decide
  | cons c rest =>
    rw [isAbsolute_iff_getLast?, ofRest, String.toList_ofList, List.reverse_reverse]
    exact h (List.cons_ne_nil c rest)

/-- The parent of a path with a slash before its last name. -/
theorem parent?_of_mem {path : String} (h : '/' ∈ trimEnd path.toList.reverse) :
    parent? path =
      some (ofRest (trimEnd ((trimEnd path.toList.reverse).dropWhile (· != '/')))) := by
  obtain ⟨c, cs, hlast⟩ := List.exists_cons_of_ne_nil (List.ne_nil_of_mem h)
  have hne : (c :: cs).dropWhile (· != '/') ≠ [] := by
    intro hnil
    have hslash := List.dropWhile_eq_nil_iff.1 hnil '/' (hlast ▸ h)
    exact absurd hslash (by decide)
  obtain ⟨d, before, hbefore⟩ := List.exists_cons_of_ne_nil hne
  rw [parent?, hlast]
  dsimp only
  rw [hbefore]
  cases trimEnd (d :: before) <;> rfl

/-- **The parent of a path from the root starts there too.** -/
theorem isAbsolute_of_parent? {path directory : String} (hpath : isAbsolute path = true)
    (h : parent? path = some directory) : isAbsolute directory = true := by
  have hlast := isAbsolute_iff_getLast?.1 hpath
  have hne : trimEnd path.toList.reverse ≠ [] := by
    intro hnil
    rw [parent?, hnil] at h
    cases h
  have htrimmed := getLast?_of_suffix (trimEnd_suffix _) hne hlast
  rw [parent?_of_mem (List.mem_of_getLast? htrimmed)] at h
  cases h
  refine isAbsolute_ofRest fun hrest => getLast?_of_suffix ?_ hrest htrimmed
  exact (trimEnd_suffix _).trans (List.dropWhile_suffix _)

/-- A name at the end of a path counts. The path is given from its end. -/
theorem trimEnd_name {name : List Char} (hslash : '/' ∉ name) (hempty : name ≠ [])
    (hdot : name ≠ ['.']) (rest : List Char) : trimEnd (name ++ rest) = name ++ rest := by
  match name, hempty with
  | [c], _ =>
    have hc : c ≠ '/' := by simpa [eq_comm] using hslash
    have hc' : c ≠ '.' := by simpa using hdot
    rw [List.singleton_append, trimEnd] <;> simp [hc, hc']
  | c :: d :: name, _ =>
    simp only [List.mem_cons, not_or] at hslash
    rw [List.cons_append, List.cons_append, trimEnd] <;> simp [Ne.symm hslash.1, Ne.symm hslash.2.1]

/-- What is before a name at the end of a path is its parent. -/
theorem parent?_of_toList {path : String} {front name : List Char}
    (hpath : path.toList = front ++ '/' :: name) (hslash : '/' ∉ name) (hempty : name ≠ [])
    (hdot : name ≠ ['.']) : parent? path = some (ofRest (trimEnd front.reverse)) := by
  have htrimmed : trimEnd path.toList.reverse = name.reverse ++ '/' :: front.reverse := by
    rw [hpath, List.reverse_append, List.reverse_cons, List.append_assoc, List.singleton_append]
    refine trimEnd_name (by simpa using hslash) (by simpa using hempty) (fun h => hdot ?_) _
    rw [← List.reverse_reverse name, h]
    rfl
  have hnames : ∀ c ∈ name.reverse, (c != '/') = true := by
    intro c hc
    rw [bne_iff_ne]
    rintro rfl
    exact hslash (List.mem_reverse.1 hc)
  have hmem : '/' ∈ trimEnd path.toList.reverse := by simp [htrimmed]
  rw [parent?_of_mem hmem, htrimmed, List.dropWhile_append_of_pos hnames]
  rfl

/-- A name behind a directory comes after a slash. -/
theorem exists_toList_join {base path : String} (hbase : base ≠ "")
    (hpath : isAbsolute path = false) :
    ∃ front, (join base path).toList = front ++ '/' :: path.toList
      ∧ (base.toList = front ∨ base.toList = front ++ ['/']) := by
  have hempty : base.isEmpty = false := by simpa using hbase
  rw [join, hpath, hempty, Bool.false_or, if_neg Bool.false_ne_true]
  split
  · next hslash =>
    obtain ⟨front, hfront⟩ := List.getLast?_eq_some_iff.1 (beq_iff_eq.1 hslash)
    refine ⟨front, ?_, .inr hfront⟩
    rw [String.toList_append, hfront, List.append_assoc]
    rfl
  · refine ⟨base.toList, ?_, .inl rfl⟩
    rw [String.toList_append, String.toList_append, List.append_assoc]
    rfl

/-- **The parent of a file in a directory** has the components of the directory. -/
theorem parent?_join {directory name : String} (hdirectory : isAbsolute directory = true)
    (hslash : '/' ∉ name.toList) (hempty : name ≠ "") (hdot : name ≠ ".") :
    ∃ parent, parent? (join directory name) = some parent ∧ isAbsolute parent = true
      ∧ components parent = components directory := by
  have hne : directory ≠ "" := by
    rintro rfl
    revert hdirectory
    decide
  obtain ⟨front, hjoin, hfront⟩ := exists_toList_join hne (isAbsolute_of_not_mem hslash)
  have hparent := parent?_of_toList hjoin hslash (mt String.toList_eq_nil_iff.1 hempty)
    fun h => hdot (String.toList_injective h)
  -- what is left of the directory is a beginning of it, here an end of the reversed text
  have habsolute : isAbsolute (ofRest (trimEnd front.reverse)) = true := by
    have hsuffix : front.reverse <:+ directory.toList.reverse := by
      rcases hfront with hfront | hfront
      · exact hfront ▸ List.suffix_rfl
      · rw [hfront, List.reverse_append]
        exact List.suffix_cons _ _
    exact isAbsolute_ofRest fun htrimmed => getLast?_of_suffix ((trimEnd_suffix _).trans hsuffix)
      htrimmed (isAbsolute_iff_getLast?.1 hdirectory)
  refine ⟨_, hparent, habsolute, ?_⟩
  rw [components_eq_cons habsolute, components_eq_cons hdirectory, names_ofRest, names_trimEnd,
    List.reverse_reverse]
  rcases hfront with hfront | hfront
  · rw [hfront]
  · rw [hfront, names_slash]

end TypeWitness.Path
