/-! # Replacing parts of a text
Every occurrence of a pattern is replaced, from left to right; occurrences do not overlap, and what
has been put in is not looked at again. -/

namespace TypeWitness

/-- What follows a pattern at the start of a text. -/
def stripPattern? : List Char → List Char → Option (List Char)
  | [], rest => some rest
  | _ :: _, [] => none
  | p :: pattern, c :: rest => if p = c then stripPattern? pattern rest else none

theorem stripPattern?_eq_some {pattern cs rest : List Char}
    (h : stripPattern? pattern cs = some rest) : cs = pattern ++ rest := by
  fun_induction stripPattern? pattern cs with
  | case1 => simp_all
  | case2 => simp at h
  | case3 pattern c cs ih => simp [ih h]
  | case4 => simp at h

/-- Replace every occurrence of a pattern that has at least one character, here its first and its
other characters. -/
def replaceChars (first : Char) (others replacement : List Char) : List Char → List Char
  | [] => []
  | c :: cs =>
    match _h : stripPattern? (first :: others) (c :: cs) with
    | some rest => replacement ++ replaceChars first others replacement rest
    | none => c :: replaceChars first others replacement cs
termination_by cs => cs.length
decreasing_by
  · have := congrArg List.length (stripPattern?_eq_some _h)
    simp only [List.length_cons, List.length_append] at this ⊢
    omega
  · simp

/-- Replace every occurrence of a pattern in a text. The empty pattern occurs nowhere. -/
def replaceAll (pattern replacement text : String) : String :=
  match pattern.toList with
  | [] => text
  | first :: others => String.ofList (replaceChars first others replacement.toList text.toList)

end TypeWitness
