import TypeWitness.Text.Substitution

/-! # Where a replacement takes effect
A pattern is replaced where it stands and nowhere else. A character that is not part of the pattern
keeps what is before it apart from what is behind it.

* `replaceChars_of_not_within` — without the pattern a text stays as it is.
* `replaceChars_append_cons` — a replacement on both sides of such a character. -/

namespace TypeWitness

variable {first : Char} {others : List Char}

/-- A pattern is followed by what it is put before. -/
theorem stripPattern?_append_self (pattern rest : List Char) :
    stripPattern? pattern (pattern ++ rest) = some rest := by
  induction pattern with
  | nil => rfl
  | cons p pattern ih => rw [List.cons_append, stripPattern?, if_pos rfl, ih]

/-- A pattern at the start of a text ends before a character that is not part of it. -/
theorem stripPattern?_append_cons {pattern : List Char} {c : Char} (hc : c ∉ pattern)
    (before after : List Char) :
    stripPattern? pattern (before ++ c :: after) =
      (stripPattern? pattern before).map (· ++ c :: after) := by
  induction pattern generalizing before with
  | nil => rfl
  | cons p pattern ih =>
    rw [List.mem_cons, not_or] at hc
    cases before with
    | nil =>
      rw [List.nil_append, stripPattern?]
      exact if_neg (Ne.symm hc.1)
    | cons b before =>
      rw [List.cons_append, stripPattern?, stripPattern?]
      split
      · exact ih hc.2 before
      · rfl

@[simp] theorem replaceChars_nil (replacement : List Char) :
    replaceChars first others replacement [] = [] := by
  rw [replaceChars]

theorem replaceChars_of_stripPattern? {replacement cs rest : List Char} {c : Char}
    (h : stripPattern? (first :: others) (c :: cs) = some rest) :
    replaceChars first others replacement (c :: cs) =
      replacement ++ replaceChars first others replacement rest := by
  rw [replaceChars]
  split <;> simp_all

theorem replaceChars_of_stripPattern?_eq_none {replacement cs : List Char} {c : Char}
    (h : stripPattern? (first :: others) (c :: cs) = none) :
    replaceChars first others replacement (c :: cs) =
      c :: replaceChars first others replacement cs := by
  rw [replaceChars]
  split <;> simp_all

/-- The pattern itself is replaced. -/
theorem replaceChars_self (replacement : List Char) :
    replaceChars first others replacement (first :: others) = replacement := by
  have hstrip : stripPattern? (first :: others) (first :: others) = some [] := by
    simpa using stripPattern?_append_self (first :: others) []
  rw [replaceChars_of_stripPattern? hstrip, replaceChars_nil, List.append_nil]

/-- **Without the pattern a text stays as it is.** -/
theorem replaceChars_of_not_within (replacement : List Char) {cs : List Char}
    (h : ¬ (first :: others) <:+: cs) : replaceChars first others replacement cs = cs := by
  induction cs with
  | nil => exact replaceChars_nil replacement
  | cons c cs ih =>
    have hnone : stripPattern? (first :: others) (c :: cs) = none := by
      rw [Option.eq_none_iff_forall_ne_some]
      intro rest hrest
      exact h (stripPattern?_eq_some hrest ▸ (List.prefix_append _ _).isInfix)
    rw [replaceChars_of_stripPattern?_eq_none hnone,
      ih fun hwithin => h (hwithin.trans (List.suffix_cons c cs).isInfix)]

/-- **A character that is not part of the pattern** keeps apart what is on its two sides. -/
theorem replaceChars_append_cons {c : Char} (hc : c ∉ first :: others)
    (replacement before after : List Char) :
    replaceChars first others replacement (before ++ c :: after) =
      replaceChars first others replacement before
        ++ c :: replaceChars first others replacement after := by
  -- the induction follows the search, which goes on behind an occurrence
  fun_induction replaceChars first others replacement before with
  | case1 =>
    exact replaceChars_of_stripPattern?_eq_none (stripPattern?_append_cons hc [] after)
  | case2 b before rest hbefore ih =>
    have hstrip := stripPattern?_append_cons hc (b :: before) after
    rw [hbefore, List.cons_append] at hstrip
    rw [List.cons_append, replaceChars_of_stripPattern? hstrip, ih, List.append_assoc]
  | case3 b before hbefore ih =>
    have hstrip := stripPattern?_append_cons hc (b :: before) after
    rw [hbefore, List.cons_append] at hstrip
    rw [List.cons_append, replaceChars_of_stripPattern?_eq_none hstrip, ih, List.cons_append]

end TypeWitness
