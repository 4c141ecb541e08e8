import TypeWitness.Identifier
import TypeWitness.Text.Blank

/-! # The characters of identifiers
An identifier has only characters that may stand in one. Dots, slashes and blanks are none of them,
so all of these can set identifiers apart.

* `isIdentifierPart_of_mem` — the characters of an identifier.
* `dot_not_mem_of_isValidIdentifier` — identifiers have no dots.
* `slash_not_mem_of_isValidIdentifier` — identifiers have no slashes.
* `isIdentifierPart_of_isBlank` — identifiers have no blanks. -/

namespace TypeWitness

/-- All characters of an identifier may stand in one. -/
theorem isIdentifierPart_of_mem {name : String} (hvalid : isValidIdentifier name = true) {c : Char}
    (hmem : c ∈ name.toList) : isIdentifierPart c = true := by
  rw [isValidIdentifier] at hvalid
  cases hname : name.toList with
  | nil => simp [hname] at hmem
  | cons first rest =>
    rw [hname] at hvalid hmem
    simp only [Bool.and_eq_true, List.all_eq_true] at hvalid
    obtain ⟨⟨hfirst, hrest⟩, -⟩ := hvalid
    cases List.mem_cons.1 hmem with
    | inl heq => exact heq ▸ isIdentifierPart_of_start hfirst
    | inr hmem => exact hrest c hmem

theorem isIdentifierPart_dot : isIdentifierPart '.' = false := by decide +kernel

/-- Characters that may stand in an identifier are no dots. -/
theorem dot_not_mem_of_forall {cs : List Char} (h : ∀ c ∈ cs, isIdentifierPart c = true) :
    '.' ∉ cs := by
  intro hmem
  have hdot := h '.' hmem
  rw [isIdentifierPart_dot] at hdot
  cases hdot

/-- **Identifiers have no dots.** -/
theorem dot_not_mem_of_isValidIdentifier {name : String} (hvalid : isValidIdentifier name = true) :
    '.' ∉ name.toList :=
  dot_not_mem_of_forall fun _ hmem => isIdentifierPart_of_mem hvalid hmem

/-- **Identifiers have no slashes.** -/
theorem slash_not_mem_of_isValidIdentifier {name : String}
    (hvalid : isValidIdentifier name = true) : '/' ∉ name.toList := by
  intro hmem
  have hslash : isIdentifierPart '/' = false := by decide +kernel
  rw [isIdentifierPart_of_mem hvalid hmem] at hslash
  cases hslash

/-- **Identifiers have no blanks.** -/
theorem isIdentifierPart_of_isBlank {c : Char} (h : isBlank c = true) :
    isIdentifierPart c = false := by
  have hletter : isAlphabetic c = false := inRanges_eq_false_of_apart (by decide +kernel) h
  have hdigit : isNumeric c = false := inRanges_eq_false_of_apart (by decide +kernel) h
  have hunderscore : c ≠ '_' := by rintro rfl; revert h; decide
  have hdollar : c ≠ '$' := by rintro rfl; revert h; decide
  simp [isIdentifierPart, hletter, hdigit, hunderscore, hdollar]

end TypeWitness
