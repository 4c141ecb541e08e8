/-! # Sets of characters given by ranges of code points
A property of characters is a list of closed ranges of code points; a character has the property
when one of the ranges holds its code point. -/

namespace TypeWitness

/-- A closed range of code points. -/
structure CodeRange where
  first : Nat
  last : Nat

/-- Whether a character lies in the range. -/
def CodeRange.contains (range : CodeRange) (c : Char) : Bool :=
  range.first ≤ c.toNat && c.toNat ≤ range.last

/-- Whether a character lies in one of the ranges. -/
def inRanges (ranges : List CodeRange) (c : Char) : Bool :=
  ranges.any (·.contains c)

theorem CodeRange.contains_iff (range : CodeRange) (c : Char) :
    range.contains c = true ↔ range.first ≤ c.toNat ∧ c.toNat ≤ range.last := by
  simp [CodeRange.contains]

theorem inRanges_iff (ranges : List CodeRange) (c : Char) :
    inRanges ranges c = true ↔ ∃ r ∈ ranges, r.first ≤ c.toNat ∧ c.toNat ≤ r.last := by
  simp [inRanges, CodeRange.contains_iff]

/-- Properties whose ranges lie apart have no character in common. -/
theorem inRanges_eq_false_of_apart {ranges others : List CodeRange}
    (hapart : ∀ r ∈ ranges, ∀ s ∈ others, r.last < s.first ∨ s.last < r.first) {c : Char}
    (h : inRanges ranges c = true) : inRanges others c = false := by
  rw [Bool.eq_false_iff, ne_eq, inRanges_iff]
  rintro ⟨s, hs, hfirst', hlast'⟩
  obtain ⟨r, hr, hfirst, hlast⟩ := (inRanges_iff ranges c).1 h
  have := hapart r hr s hs
  omega

end TypeWitness
