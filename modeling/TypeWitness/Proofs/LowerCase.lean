import TypeWitness.Proofs.Identifiers
import TypeWitness.Text.CaseMapping

/-! # Lower case and identifiers
What lower case makes of a first character decides whether a name stays an identifier. The runs of
the case mapping lead from letters to letters, so a character may begin an identifier exactly when
its lower case may. The one exception is `İ`, whose lower case is an `i` with a combining dot, and
such a dot stands in no identifier.

* `lowerCase_eq_singleton` — the lower case of any other character is a single character, which is a
  letter exactly when the character is.
* `isWord_lowerCase_append` — when a text is a word after its first character is put in lower
  case. -/

namespace TypeWitness

/-! ## Ranges -/

/-- Whether a single range holds all code points from one to another. -/
def spans (ranges : List CodeRange) (first last : Nat) : Bool :=
  ranges.any fun range => range.first.ble first && last.ble range.last

/-- A character between two code points that a range spans is in the range. -/
theorem inRanges_of_spans {ranges : List CodeRange} {first last : Nat} {c : Char}
    (h : spans ranges first last = true) (hfirst : first ≤ c.toNat) (hlast : c.toNat ≤ last) :
    inRanges ranges c = true := by
  simp only [spans, List.any_eq_true, Bool.and_eq_true, Nat.ble_eq] at h
  obtain ⟨range, hrange, hle, hge⟩ := h
  exact (inRanges_iff ranges c).2 ⟨range, hrange, by omega, by omega⟩

/-! ## The runs of lower case -/

namespace CaseRun

/-- What a run maps is a member of the run, and its image as far behind the first image. -/
theorem map?_eq_some {run : CaseRun} {code image : Nat} (h : run.map? code = some image) :
    run.first ≤ code ∧ code ≤ run.last ∧ (code - run.first) % run.stride = 0
    ∧ image = run.image + (code - run.first) := by
  simp only [map?, Option.ite_none_right_eq_some, Bool.and_eq_true, decide_eq_true_eq, beq_iff_eq,
    Option.some.injEq] at h
  obtain ⟨⟨⟨hfirst, hlast⟩, hstride⟩, rfl⟩ := h
  exact ⟨hfirst, hlast, hstride, rfl⟩

/-- The last code point of the images. -/
def lastImage (run : CaseRun) : Nat := run.image + (run.last - run.first)

/-- Whether ranges hold the members of a run: a range spans them all, or each lies in one. -/
def liesIn (run : CaseRun) (ranges : List CodeRange) : Bool :=
  spans ranges run.first run.last ||
    (List.range (run.last - run.first + 1)).all fun distance =>
      distance % run.stride != 0 || spans ranges (run.first + distance) (run.first + distance)

/-- The members of a run are in the ranges that hold them. -/
theorem inRanges_of_liesIn {run : CaseRun} {ranges : List CodeRange}
    (h : run.liesIn ranges = true) {c : Char} {image : Nat}
    (hmap : run.map? c.toNat = some image) : inRanges ranges c = true := by
  obtain ⟨hfirst, hlast, hstride, -⟩ := map?_eq_some hmap
  rw [liesIn, Bool.or_eq_true, List.all_eq_true] at h
  cases h with
  | inl hall => exact inRanges_of_spans hall hfirst hlast
  | inr heach =>
    have hown := heach (c.toNat - run.first) (List.mem_range.2 (by omega))
    rw [hstride, Nat.add_sub_cancel' hfirst] at hown
    exact inRanges_of_spans (by simpa using hown) (Nat.le_refl _) (Nat.le_refl _)

end CaseRun

/-- The runs of lower case lead from letters to letters. -/
theorem letters_lowerRuns : ∀ run ∈ lowerRuns,
    run.liesIn alphabeticRanges = true
    ∧ spans alphabeticRanges run.image run.lastImage = true
    ∧ (run.lastImage < 0xD800 ∨ 0xDFFF < run.image ∧ run.lastImage < 0x110000) := by
  decide +kernel

/-- A character that a run maps is a letter, and so is its image. -/
theorem isAlphabetic_of_map? {run : CaseRun} (hrun : run ∈ lowerRuns) {c : Char} {image : Nat}
    (h : run.map? c.toNat = some image) :
    isAlphabetic c = true ∧ isAlphabetic (Char.ofNat image) = true := by
  obtain ⟨hfrom, hto, hcodes⟩ := letters_lowerRuns run hrun
  refine ⟨CaseRun.inRanges_of_liesIn hfrom h, ?_⟩
  obtain ⟨hfirst, hlast, -, himage⟩ := CaseRun.map?_eq_some h
  have hbounds : run.image ≤ image ∧ image ≤ run.lastImage := by
    rw [himage, CaseRun.lastImage]
    omega
  -- images lie outside the surrogates, so each of them is a character
  have hvalid : image.isValidChar := by
    rw [Nat.isValidChar]
    omega
  have hcode : (Char.ofNat image).toNat = image := by
    rw [Char.ofNat, dif_pos hvalid]
    rfl
  exact inRanges_of_spans hto (by omega) (by omega)

/-- Letters may begin an identifier. -/
theorem isIdentifierStart_of_isAlphabetic {c : Char} (h : isAlphabetic c = true) :
    isIdentifierStart c = true := by
  simp [isIdentifierStart, h]

/-! ## Lower case -/

/-- The capital `I` with a dot above, whose lower case is two characters. -/
def dottedCapitalI : Char := '\u0130'

/-- The dot that follows the `i` in the lower case of the dotted capital. -/
def combiningDot : Char := '\u0307'

theorem lowerCase_dottedCapitalI : lowerCase dottedCapitalI = ['i', combiningDot] := by
  decide +kernel

theorem isIdentifierPart_combiningDot : isIdentifierPart combiningDot = false := by decide +kernel

/-- **Lower case is a single character, and keeps what may begin an identifier**, but for the dotted
capital. -/
theorem lowerCase_eq_singleton {c : Char} (h : c ≠ dottedCapitalI) :
    ∃ c', lowerCase c = [c'] ∧ isIdentifierStart c' = isIdentifierStart c := by
  have hnone : lowerExpansions.lookup c.toNat = none := by
    have hcode : c.toNat ≠ 0x130 := by
      intro hcode
      rw [← Char.ofNat_toNat c, hcode] at h
      exact h rfl
    rw [lowerExpansions, List.lookup_cons, beq_false_of_ne hcode, List.lookup_nil]
  rw [lowerCase, mapCase, hnone]
  cases hrun : lowerRuns.findSome? (·.map? c.toNat) with
  | none => exact ⟨c, rfl, rfl⟩
  | some image =>
    obtain ⟨run, hmem, hmap⟩ := List.exists_of_findSome?_eq_some hrun
    obtain ⟨hc, himage⟩ := isAlphabetic_of_map? hmem hmap
    refine ⟨Char.ofNat image, rfl, ?_⟩
    rw [isIdentifierStart_of_isAlphabetic hc, isIdentifierStart_of_isAlphabetic himage]

/-- Lower case leaves something of each character. -/
theorem lowerCase_ne_nil (c : Char) : lowerCase c ≠ [] := by
  by_cases h : c = dottedCapitalI
  · rw [h, lowerCase_dottedCapitalI]
    exact List.cons_ne_nil _ _
  · obtain ⟨c', hc', -⟩ := lowerCase_eq_singleton h
    rw [hc']
    exact List.cons_ne_nil _ _

/-- Only the empty text is empty with its first character in lower case. -/
theorem decapitalize_eq_empty {text : String} (h : decapitalize text = "") : text = "" := by
  rw [decapitalize] at h
  cases htext : text.toList with
  | nil => exact String.toList_injective htext
  | cons c rest =>
    have hlist := congrArg String.toList h
    simp only [htext, String.toList_ofList, String.toList_empty, List.append_eq_nil_iff] at hlist
    exact absurd hlist.1 (lowerCase_ne_nil c)

/-! ## Words -/

/-- Whether a text begins and goes on like an identifier, be it a reserved word or not. -/
def isWord : List Char → Bool
  | [] => false
  | c :: rest => isIdentifierStart c && rest.all isIdentifierPart

/-- An identifier is a word that is not reserved. -/
theorem isValidIdentifier_eq (name : String) :
    isValidIdentifier name = (isWord name.toList && !isReserved name) := by
  rw [isValidIdentifier, isWord.eq_def]
  cases name.toList <;> rfl

/-- **When a text is a word after its first character is put in lower case.** That character begins
an identifier and is not the dotted capital, and the others go on with it. -/
theorem isWord_lowerCase_append (c : Char) (rest : List Char) :
    isWord (lowerCase c ++ rest) =
      (isIdentifierStart c && c != dottedCapitalI && rest.all isIdentifierPart) := by
  by_cases h : c = dottedCapitalI
  · -- the combining dot ends up behind the first character
    rw [h, lowerCase_dottedCapitalI]
    simp [isWord, isIdentifierPart_combiningDot]
  · obtain ⟨c', hc', hstart⟩ := lowerCase_eq_singleton h
    rw [hc', List.singleton_append, isWord, hstart, bne_iff_ne.2 h, Bool.and_true]

end TypeWitness
