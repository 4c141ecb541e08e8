import TypeWitness.Manifest.Basic

/-! # The order of declarations is total
Declarations are compared field by field, and their fields are names, lists and options of ordered
things. So the comparison is a total order at every level, from visibilities to whole types, and
only equal declarations compare as equal. -/

namespace TypeWitness

open Std

/-! ## Comparing by what a value is mapped to -/

section CompareOn

variable {α β γ : Type} [Ord β] [Ord γ]

/-- A comparison by a key that tells values apart is equal for equal values only. -/
theorem lawfulEqCmp_compareOn [LawfulEqOrd β] {key : α → β} (hkey : Function.Injective key) :
    LawfulEqCmp (compareOn key) where
  compare_self := ReflOrd.compare_self
  eq_of_compare h := hkey (LawfulEqOrd.eq_of_compare h)

/-- Keys that are compared as equal are equal. -/
theorem compareOn_eq_eq_iff [LawfulEqOrd β] {key : α → β} {a b : α} :
    compareOn key a b = .eq ↔ key a = key b :=
  LawfulEqOrd.compare_eq_iff_eq

/-- A comparison in two steps is equal when both steps are. -/
theorem compareLex_eq_eq_iff {first second : α → α → Ordering} {a b : α} :
    compareLex first second a b = .eq ↔ first a b = .eq ∧ second a b = .eq := by
  rw [compareLex, Ordering.then_eq_eq]

end CompareOn

/-! ## Each level is totally ordered -/

instance : TransOrd Visibility := inferInstanceAs (TransCmp (compareOn _))

instance : LawfulEqOrd Visibility :=
  lawfulEqCmp_compareOn fun a b h => by cases a <;> cases b <;> first | rfl | cases h

instance : TransOrd MemberKind := inferInstanceAs (TransCmp (compareOn _))

instance : LawfulEqOrd MemberKind :=
  lawfulEqCmp_compareOn fun a b h => by cases a <;> cases b <;> first | rfl | cases h

instance : TransOrd Marker := inferInstanceAs (TransCmp (compareOn _))

instance : LawfulEqOrd Marker :=
  lawfulEqCmp_compareOn fun a b h => by cases a <;> cases b <;> cases h <;> rfl

instance : TransOrd TypeParameterDeclaration :=
  inferInstanceAs (TransCmp (compareLex (compareOn _) (compareOn _)))

instance : LawfulEqOrd TypeParameterDeclaration where
  eq_of_compare {a b} h := by
    simp only [compare, compareLex_eq_eq_iff, compareOn_eq_eq_iff] at h
    obtain ⟨hname, hbounds⟩ := h
    cases a
    cases b
    cases hname
    cases hbounds
    rfl

instance : TransOrd MemberDeclaration :=
  inferInstanceAs (TransCmp (compareLex (compareOn _) (compareLex (compareOn _)
    (compareLex (compareOn _) (compareLex (compareOn _) (compareLex (compareOn _)
      (compareOn _)))))))

instance : LawfulEqOrd MemberDeclaration where
  eq_of_compare {a b} h := by
    simp only [compare, compareLex_eq_eq_iff, compareOn_eq_eq_iff] at h
    obtain ⟨hname, hkind, htype, hparameters, htypeParameters, hmarkers⟩ := h
    cases a
    cases b
    cases hname
    cases hkind
    cases htype
    cases hparameters
    cases htypeParameters
    cases hmarkers
    rfl

instance : TransOrd TypeDeclaration :=
  inferInstanceAs (TransCmp (compareLex (compareOn _) (compareLex (compareOn _)
    (compareLex (compareOn _) (compareLex (compareOn _) (compareLex (compareOn _)
      (compareLex (compareOn _) (compareOn _))))))))

instance : LawfulEqOrd TypeDeclaration where
  eq_of_compare {a b} h := by
    simp only [compare, compareLex_eq_eq_iff, compareOn_eq_eq_iff] at h
    obtain ⟨hname, hpackage, hvisibility, hparameters, hsuperclass, hmarkers, hmembers⟩ := h
    cases a
    cases b
    cases hname
    cases hpackage
    cases hvisibility
    cases hparameters
    cases hsuperclass
    cases hmarkers
    cases hmembers
    rfl

/-! ## The lesser of two declarations -/

/-- Of two different declarations one is the lesser: the second comes first exactly when the first
one does not. -/
theorem TypeDeclaration.compare_ne_lt_iff {a b : TypeDeclaration} (hne : a ≠ b) :
    compare b a ≠ .lt ↔ compare a b = .lt := by
  have hneq : compare a b ≠ .eq := fun h => hne (LawfulEqOrd.eq_of_compare h)
  -- different declarations do not tie, so either of them is the lesser
  rw [OrientedOrd.eq_swap (a := b) (b := a)]
  cases h : compare a b with
  | lt => simp
  | eq => exact absurd h hneq
  | gt => simp

end TypeWitness
