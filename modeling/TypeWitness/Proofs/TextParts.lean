import TypeWitness.Files.Path

/-! # Texts cut at a character
A text is cut into the parts between the occurrences of a character. The parts tell the text, and
they are what is left of it when the character is taken away.

* `splitAt_append` — two texts with the character between them are cut each by itself.
* `splitAt_intercalate` — parts that are put together are what the text is cut into.
* `splitAt_inj` — the parts tell the text. -/

namespace TypeWitness

variable {separator : Char}

theorem splitAt_ne_nil (cs : List Char) : Path.splitAt separator cs ≠ [] := by
  cases cs with
  | nil => simp [Path.splitAt]
  | cons c rest =>
    rw [Path.splitAt]
    split
    · simp
    · split <;> simp

/-- A text without the separator is not cut. -/
theorem splitAt_of_not_mem {cs : List Char} (h : separator ∉ cs) :
    Path.splitAt separator cs = [cs] := by
  induction cs with
  | nil => rfl
  | cons c rest ih =>
    rw [List.mem_cons, not_or] at h
    rw [Path.splitAt, if_neg (Ne.symm h.1), ih h.2]

/-- Two texts with the separator between them are cut each by itself. -/
theorem splitAt_append (before after : List Char) :
    Path.splitAt separator (before ++ separator :: after) =
      Path.splitAt separator before ++ Path.splitAt separator after := by
  induction before with
  | nil => simp [Path.splitAt]
  | cons c before ih =>
    rw [List.cons_append, Path.splitAt, Path.splitAt, ih]
    by_cases hc : c = separator
    · rw [if_pos hc, if_pos hc, List.cons_append]
    · rw [if_neg hc, if_neg hc]
      -- there is a first part, which this character continues
      obtain ⟨first, others, hparts⟩ := List.exists_cons_of_ne_nil (splitAt_ne_nil before)
      rw [hparts]
      rfl

/-- The parts with separators between them are the text. -/
theorem eq_of_splitAt {cs first : List Char} {others : List (List Char)}
    (h : Path.splitAt separator cs = first :: others) :
    cs = first ++ others.flatMap (separator :: ·) := by
  induction cs generalizing first others with
  | nil =>
    cases h
    rfl
  | cons c rest ih =>
    rw [Path.splitAt] at h
    split at h
    · next hc =>
      obtain ⟨second, third, hrest⟩ := List.exists_cons_of_ne_nil (splitAt_ne_nil rest)
      rw [hrest, List.cons.injEq] at h
      obtain ⟨rfl, rfl⟩ := h
      rw [ih hrest, hc, List.flatMap_cons, List.nil_append, List.cons_append]
    · split at h
      · next hnil => exact absurd hnil (splitAt_ne_nil rest)
      · next second third hrest =>
        cases h
        rw [ih hrest, List.cons_append]

/-- Parts with separators between them, the first one apart. -/
theorem intercalate_cons (first : List Char) (others : List (List Char)) :
    [separator].intercalate (first :: others) = first ++ others.flatMap (separator :: ·) := by
  induction others generalizing first with
  | nil => simp
  | cons second others ih =>
    rw [List.intercalate_cons_cons, ih, List.append_assoc]
    rfl

/-- Parts without the separator are what the text of them with separators between them is cut
into. -/
theorem splitAt_intercalate {parts : List (List Char)} (hne : parts ≠ [])
    (h : ∀ part ∈ parts, separator ∉ part) :
    Path.splitAt separator ([separator].intercalate parts) = parts := by
  induction parts with
  | nil => exact absurd rfl hne
  | cons first others ih =>
    rw [List.forall_mem_cons] at h
    cases others with
    | nil => rw [List.intercalate_singleton, splitAt_of_not_mem h.1]
    | cons second others =>
      rw [List.intercalate_cons_cons, List.append_assoc, List.singleton_append, splitAt_append,
        splitAt_of_not_mem h.1, ih (List.cons_ne_nil _ _) h.2, List.singleton_append]

/-- **The parts tell the text.** -/
theorem splitAt_inj {cs cs' : List Char} :
    Path.splitAt separator cs = Path.splitAt separator cs' ↔ cs = cs' := by
  refine ⟨fun h => ?_, fun h => by rw [h]⟩
  obtain ⟨first, others, hparts⟩ := List.exists_cons_of_ne_nil (splitAt_ne_nil cs)
  have hparts' : Path.splitAt separator cs' = first :: others := h ▸ hparts
  rw [eq_of_splitAt hparts, eq_of_splitAt hparts']

/-- The parts have no other characters than the text, and not the one it is cut at. -/
theorem mem_splitAt {cs part : List Char} (h : part ∈ Path.splitAt separator cs) {c : Char}
    (hc : c ∈ part) : c ∈ cs ∧ c ≠ separator := by
  induction cs generalizing part with
  | nil =>
    cases List.mem_singleton.1 h
    cases hc
  | cons first rest ih =>
    obtain ⟨second, others, hrest⟩ := List.exists_cons_of_ne_nil (splitAt_ne_nil rest)
    have hlater : ∀ part ∈ Path.splitAt separator rest, c ∈ part →
        c ∈ first :: rest ∧ c ≠ separator :=
      fun part hpart hc => (ih hpart hc).imp_left (List.mem_cons_of_mem first)
    rw [Path.splitAt] at h
    split at h
    · cases List.mem_cons.1 h with
      | inl hnil => cases hnil ▸ hc
      | inr hmem => exact hlater part hmem hc
    · next hfirst =>
      rw [hrest] at h hlater
      cases List.mem_cons.1 h with
      | inl heq =>
        -- the first part begins with the first character
        rw [heq, List.mem_cons] at hc
        cases hc with
        | inl hc => exact ⟨hc ▸ List.mem_cons_self, hc ▸ hfirst⟩
        | inr hc => exact hlater second List.mem_cons_self hc
      | inr hmem => exact hlater part (List.mem_cons_of_mem _ hmem) hc

end TypeWitness
