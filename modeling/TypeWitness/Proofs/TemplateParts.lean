import Mathlib.Data.List.Basic
import Mathlib.Tactic.ByContra
import TypeWitness.Diagnostic.Basic

/-! # The parts of a template
A template is read once, from left to right: it has letters, which stand for themselves, and places,
where placeholders stand. What is put in at the places is not read again, so all places are filled
in at once.

* `leadingPlace?_eq_some_iff` — when a placeholder stands at the start of a text.
* `fillParts_templateParts` — the parts of a template put together are the template.
* `SplitsAtLetters.apply_fillParts` — what works on both sides of a letter by itself works on the
  contents of each place by itself, when there are letters between the places.
* `fillParts_eq_iff` — then its results at the places show in the whole. -/

namespace TypeWitness

/-! ## Reading a template -/

/-- The number that is written with the given digits, when numbers are written so. -/
def decimalIndex? (digits : List Char) : Option Nat :=
  let index := Nat.ofDigitChars 10 digits 0
  if Nat.toDigits 10 index = digits then some index else none

theorem decimalIndex?_eq_some_iff {digits : List Char} {index : Nat} :
    decimalIndex? digits = some index ↔ Nat.toDigits 10 index = digits := by
  constructor
  · intro h
    simp only [decimalIndex?, Option.ite_none_right_eq_some, Option.some.injEq] at h
    exact h.2 ▸ h.1
  · rintro rfl
    simp only [decimalIndex?, Nat.ofDigitChars_ten_toDigits, if_true]

/-- The index of the placeholder at the start of a text, and what follows the placeholder. -/
def leadingPlace? : List Char → Option (Nat × List Char)
  | '\x7b' :: cs =>
    match cs.dropWhile Char.isDigit with
    | '\x7d' :: rest => (decimalIndex? (cs.takeWhile Char.isDigit)).map (·, rest)
    | _ => none
  | _ => none

theorem toList_placeholder (index : Nat) :
    (placeholder index).toList = '\x7b' :: (Nat.toDigits 10 index ++ ['\x7d']) := by
  simp [placeholder]

theorem isDigit_of_mem_toDigits {index : Nat} {c : Char} (h : c ∈ Nat.toDigits 10 index) :
    c.isDigit = true :=
  Nat.isDigit_of_mem_toDigits (by omega) (by omega) h

/-- **When a placeholder stands at the start of a text.** -/
theorem leadingPlace?_eq_some_iff {cs rest : List Char} {index : Nat} :
    leadingPlace? cs = some (index, rest) ↔ cs = (placeholder index).toList ++ rest := by
  rw [toList_placeholder]
  constructor
  · intro h
    unfold leadingPlace? at h
    split at h
    · next cs =>
      split at h
      · next after hafter =>
        obtain ⟨number, hnumber, heq⟩ := Option.map_eq_some_iff.1 h
        obtain ⟨rfl, rfl⟩ := Prod.mk.inj heq
        rw [decimalIndex?_eq_some_iff.1 hnumber, List.cons_append, List.append_assoc,
          List.singleton_append, ← hafter, List.takeWhile_append_dropWhile]
      · cases h
    · cases h
  · rintro rfl
    -- the digits of the index end where the closing brace stands
    have hdigits : ∀ c ∈ Nat.toDigits 10 index, c.isDigit = true :=
      fun c => isDigit_of_mem_toDigits
    have htake : (Nat.toDigits 10 index ++ '\x7d' :: rest).takeWhile Char.isDigit =
        Nat.toDigits 10 index := by
      rw [List.takeWhile_append_of_pos hdigits]
      simp
    have hdrop : (Nat.toDigits 10 index ++ '\x7d' :: rest).dropWhile Char.isDigit =
        '\x7d' :: rest := by
      rw [List.dropWhile_append_of_pos hdigits]
      simp
    rw [List.cons_append, List.append_assoc, List.singleton_append, leadingPlace?, hdrop, htake,
      decimalIndex?_eq_some_iff.2 rfl]
    rfl

/-- A part of a template. -/
inductive TemplatePart where
  /-- A character that stands for itself. -/
  | letter (c : Char)
  /-- The place of the argument with the given index. -/
  | place (index : Nat)
  deriving DecidableEq, Repr

/-- What stands for a part when the places have the given contents. -/
def TemplatePart.fill (contents : Nat → List Char) : TemplatePart → List Char
  | letter c => [c]
  | place index => contents index

/-- The parts of a template. -/
def templateParts : List Char → List TemplatePart
  | [] => []
  | c :: cs =>
    match _h : leadingPlace? (c :: cs) with
    | some (index, rest) => .place index :: templateParts rest
    | none => .letter c :: templateParts cs
termination_by cs => cs.length
decreasing_by
  · have hlength := congrArg List.length (leadingPlace?_eq_some_iff.1 _h)
    simp only [toList_placeholder, List.length_cons, List.length_append] at hlength ⊢
    omega
  · simp

/-- The text of parts whose places have the given contents. -/
def fillParts (contents : Nat → List Char) (parts : List TemplatePart) : List Char :=
  parts.flatMap (·.fill contents)

@[simp] theorem fillParts_nil (contents : Nat → List Char) : fillParts contents [] = [] := rfl

@[simp] theorem fillParts_letter (contents : Nat → List Char) (c : Char)
    (parts : List TemplatePart) :
    fillParts contents (.letter c :: parts) = c :: fillParts contents parts := rfl

@[simp] theorem fillParts_place (contents : Nat → List Char) (index : Nat)
    (parts : List TemplatePart) :
    fillParts contents (.place index :: parts) =
      contents index ++ fillParts contents parts := rfl

@[simp] theorem fillParts_append (contents : Nat → List Char) (before after : List TemplatePart) :
    fillParts contents (before ++ after) = fillParts contents before ++ fillParts contents after :=
  List.flatMap_append

/-- A text as a part of a template that has no places. -/
def letters (text : String) : List TemplatePart := text.toList.map .letter

@[simp] theorem fillParts_letters (contents : Nat → List Char) (text : String) :
    fillParts contents (letters text) = text.toList := by
  rw [letters]
  induction text.toList with
  | nil => rfl
  | cons c cs ih => rw [List.map_cons, fillParts_letter, ih]

/-- The template with the given contents at its places. -/
def fillPlaces (contents : Nat → String) (template : String) : String :=
  String.ofList (fillParts (fun index => (contents index).toList)
    (templateParts template.toList))

/-- **The parts of a template put together are the template.** -/
theorem fillParts_templateParts (cs : List Char) :
    fillParts (fun index => (placeholder index).toList) (templateParts cs) = cs := by
  fun_induction templateParts cs with
  | case1 => rfl
  | case2 c cs index rest hplace ih =>
    rw [fillParts_place, ih, leadingPlace?_eq_some_iff.1 hplace]
  | case3 c cs hplace ih => rw [fillParts_letter, ih]

/-! ## Letters between places -/

/-- Whether a character can be part of a placeholder. -/
def isPlaceholderMark (c : Char) : Bool := c == '\x7b' || c == '\x7d' || c.isDigit

theorem isPlaceholderMark_of_mem {index : Nat} {c : Char} (h : c ∈ (placeholder index).toList) :
    isPlaceholderMark c = true := by
  rw [toList_placeholder, List.mem_cons, List.mem_append, List.mem_singleton] at h
  rcases h with rfl | h | rfl
  · rfl
  · rw [isPlaceholderMark, isDigit_of_mem_toDigits h, Bool.or_true]
  · rfl

/-- Whether the first part is a place. -/
def startsWithPlace : List TemplatePart → Bool
  | .place _ :: _ => true
  | _ => false

/-- Whether no two places are next to each other and no letter could be part of a placeholder. -/
def separated : List TemplatePart → Bool
  | [] => true
  | .letter c :: parts => !isPlaceholderMark c && separated parts
  | .place _ :: parts => !startsWithPlace parts && separated parts

theorem separated_letter {c : Char} {parts : List TemplatePart} :
    separated (.letter c :: parts) = true ↔
      isPlaceholderMark c = false ∧ separated parts = true := by
  rw [separated, Bool.and_eq_true, Bool.not_eq_true']

theorem separated_place {index : Nat} {parts : List TemplatePart} :
    separated (.place index :: parts) = true ↔
      startsWithPlace parts = false ∧ separated parts = true := by
  rw [separated, Bool.and_eq_true, Bool.not_eq_true']

/-- Whether a text is empty or begins with a character that can be no part of a placeholder. -/
def BeginsWithLetter (cs : List Char) : Prop :=
  ∀ c rest, cs = c :: rest → isPlaceholderMark c = false

/-- Whether a text is empty or ends with a character that can be no part of a placeholder. -/
def EndsWithLetter (cs : List Char) : Prop :=
  ∀ rest c, cs = rest ++ [c] → isPlaceholderMark c = false

theorem beginsWithLetter_nil : BeginsWithLetter [] := fun _ _ h => nomatch h

theorem endsWithLetter_nil : EndsWithLetter [] := fun _ _ h => by simp at h

theorem endsWithLetter_concat {cs : List Char} {c : Char} (hc : isPlaceholderMark c = false) :
    EndsWithLetter (cs ++ [c]) := by
  intro rest last h
  obtain ⟨-, hlast⟩ := List.append_inj' h rfl
  exact List.singleton_inj.1 hlast ▸ hc

/-- Behind a place, separated parts go on with a letter if at all. -/
theorem beginsWithLetter_fillParts (contents : Nat → List Char) {parts : List TemplatePart}
    (hseparated : separated parts = true) (hletter : startsWithPlace parts = false) :
    BeginsWithLetter (fillParts contents parts) := by
  cases parts with
  | nil => exact beginsWithLetter_nil
  | cons part parts =>
    cases part with
    | letter c =>
      intro d rest h
      rw [fillParts_letter, List.cons.injEq] at h
      exact h.1 ▸ (separated_letter.1 hseparated).1
    | place index => cases hletter

/-- A function on texts that works on both sides of a letter by itself. -/
structure SplitsAtLetters (f : List Char → List Char) : Prop where
  nil : f [] = []
  append_cons : ∀ before c after, isPlaceholderMark c = false →
    f (before ++ c :: after) = f before ++ c :: f after

namespace SplitsAtLetters

variable {f g : List Char → List Char}

theorem comp (hg : SplitsAtLetters g) (hf : SplitsAtLetters f) : SplitsAtLetters (g ∘ f) where
  nil := by rw [Function.comp_apply, hf.nil, hg.nil]
  append_cons before c after hc := by
    simp only [Function.comp_apply, hf.append_cons before c after hc, hg.append_cons _ c _ hc]

/-- A letter at the start stays there. -/
theorem cons (hf : SplitsAtLetters f) {c : Char} (hc : isPlaceholderMark c = false)
    (cs : List Char) : f (c :: cs) = c :: f cs := by
  have happend := hf.append_cons [] c cs hc
  rwa [hf.nil] at happend

/-- A letter at the end stays there. -/
theorem concat (hf : SplitsAtLetters f) {c : Char} (hc : isPlaceholderMark c = false)
    (cs : List Char) : f (cs ++ [c]) = f cs ++ [c] := by
  rw [hf.append_cons cs c [] hc, hf.nil]

theorem append_of_begins (hf : SplitsAtLetters f) {after : List Char}
    (hafter : BeginsWithLetter after) (cs : List Char) : f (cs ++ after) = f cs ++ f after := by
  cases after with
  | nil => rw [hf.nil, List.append_nil, List.append_nil]
  | cons c after =>
    have hc := hafter c after rfl
    rw [hf.append_cons cs c after hc, hf.cons hc]

theorem append_of_ends (hf : SplitsAtLetters f) {before : List Char}
    (hbefore : EndsWithLetter before) (cs : List Char) :
    f (before ++ cs) = f before ++ f cs := by
  rcases List.eq_nil_or_concat' before with rfl | ⟨rest, c, rfl⟩
  · rw [hf.nil, List.nil_append, List.nil_append]
  · have hc := hbefore rest c rfl
    rw [List.append_assoc, List.singleton_append, hf.append_cons rest c cs hc, hf.concat hc,
      List.append_assoc, List.singleton_append]

/-- A text that begins with a letter is not emptied, and begins with it afterwards. -/
theorem begins (hf : SplitsAtLetters f) {cs : List Char} (h : BeginsWithLetter cs) :
    BeginsWithLetter (f cs) ∧ (f cs = [] → cs = []) := by
  cases cs with
  | nil => exact ⟨hf.nil.symm ▸ h, fun _ => rfl⟩
  | cons c cs =>
    have hc := h c cs rfl
    rw [hf.cons hc]
    exact ⟨fun d rest heq => (List.cons.inj heq).1 ▸ hc, fun hnil => nomatch hnil⟩

/-- A text that ends with a letter is not emptied, and ends with it afterwards. -/
theorem ends (hf : SplitsAtLetters f) {cs : List Char} (h : EndsWithLetter cs) :
    EndsWithLetter (f cs) ∧ (f cs = [] → cs = []) := by
  rcases List.eq_nil_or_concat' cs with rfl | ⟨rest, c, rfl⟩
  · exact ⟨hf.nil.symm ▸ h, fun _ => rfl⟩
  · have hc := h rest c rfl
    rw [hf.concat hc]
    exact ⟨endsWithLetter_concat hc, fun hnil => nomatch List.append_eq_nil_iff.1 hnil⟩

/-- **The contents of each place are worked on by themselves** when letters stand between the
places. -/
theorem apply_fillParts (hf : SplitsAtLetters f) {parts : List TemplatePart}
    (hseparated : separated parts = true) (contents : Nat → List Char) :
    f (fillParts contents parts) = fillParts (fun index => f (contents index)) parts := by
  induction parts with
  | nil => exact hf.nil
  | cons part parts ih =>
    cases part with
    | letter c =>
      obtain ⟨hc, hparts⟩ := separated_letter.1 hseparated
      rw [fillParts_letter, fillParts_letter, hf.cons hc, ih hparts]
    | place index =>
      obtain ⟨hletter, hparts⟩ := separated_place.1 hseparated
      rw [fillParts_place, fillParts_place,
        hf.append_of_begins (beginsWithLetter_fillParts contents hparts hletter), ih hparts]

/-- **A text does not contain its own result properly**, with a letter on each side where there is
more. Otherwise this would hold of the result as well, and of the result of that, which are shorter
and shorter. -/
theorem eq_nil_of_inside (hf : SplitsAtLetters f) {cs before after : List Char}
    (hbefore : EndsWithLetter before) (hafter : BeginsWithLetter after)
    (h : cs = before ++ (f cs ++ after)) : before = [] ∧ after = [] := by
  induction hlength : cs.length using Nat.strongRecOn generalizing cs before after with
  | ind length ih =>
    by_contra hne
    -- the result is in the same situation as the text, and shorter
    have hshorter : (f cs).length < length := by
      have hlengths := congrArg List.length h
      rw [List.length_append, List.length_append, hlength] at hlengths
      rcases not_and_or.1 hne with hne | hne
      · have hpos := List.length_pos_iff.2 hne
        omega
      · have hpos := List.length_pos_iff.2 hne
        omega
    have hagain : f cs = f before ++ (f (f cs) ++ f after) := by
      conv_lhs => rw [h]
      rw [hf.append_of_ends hbefore, hf.append_of_begins hafter]
    obtain ⟨hbegin, hend⟩ :=
      ih (f cs).length hshorter (hf.ends hbefore).1 (hf.begins hafter).1 hagain rfl
    exact hne ⟨(hf.ends hbefore).2 hbegin, (hf.begins hafter).2 hend⟩

end SplitsAtLetters

/-! ## What shows in the whole -/

/-- When the filling with the results of functions that work on both sides of a letter by themselves
is the plain one but for something in front, nothing is in front, and the results at the places are
the plain contents. What is in front is how far the results are ahead of the plain contents: they
never fall behind, and in the end they are not ahead. -/
theorem eq_of_append_fillParts_eq {f : Nat → List Char → List Char}
    (hf : ∀ index, SplitsAtLetters (f index)) (plain : Nat → List Char)
    {parts : List TemplatePart} (hseparated : separated parts = true) {front : List Char}
    (hfront : startsWithPlace parts = true → EndsWithLetter front)
    (h : front ++ fillParts (fun index => f index (plain index)) parts = fillParts plain parts) :
    front = []
    ∧ ∀ part ∈ parts, part.fill (fun index => f index (plain index)) = part.fill plain := by
  induction parts generalizing front with
  | nil => exact ⟨(List.append_eq_nil_iff.1 h).1, fun _ hpart => nomatch hpart⟩
  | cons part parts ih =>
    rw [List.forall_mem_cons]
    cases part with
    | letter c =>
      obtain ⟨hc, hparts⟩ := separated_letter.1 hseparated
      cases front with
      | nil =>
        obtain ⟨-, heq⟩ := ih hparts (fun _ => endsWithLetter_nil) (List.cons.inj h).2
        exact ⟨rfl, rfl, heq⟩
      | cons d front =>
        -- the letter would be in front of the parts behind it
        have hrest : (front ++ [c]) ++ fillParts (fun index => f index (plain index)) parts =
            fillParts plain parts := by
          rw [List.append_assoc]
          exact (List.cons.inj h).2
        obtain ⟨hnil, -⟩ := ih hparts (fun _ => endsWithLetter_concat hc) hrest
        simp at hnil
    | place index =>
      obtain ⟨hletter, hparts⟩ := separated_place.1 hseparated
      have hnoplace : startsWithPlace parts = true → ∀ front, EndsWithLetter front :=
        fun hplace => nomatch hletter.symm.trans hplace
      rw [fillParts_place, fillParts_place, ← List.append_assoc] at h
      -- the result may end before the plain contents do, or not
      rcases List.append_eq_append_iff.1 h with ⟨after, hplain, hafter⟩ | ⟨more, hplain, hmore⟩
      · have hbegins : BeginsWithLetter after := by
          have hfill := beginsWithLetter_fillParts (fun index => f index (plain index)) hparts
            hletter
          exact fun c rest hc => hfill c _ (by rw [hafter, hc, List.cons_append])
        rw [List.append_assoc] at hplain
        obtain ⟨rfl, rfl⟩ := (hf index).eq_nil_of_inside (hfront rfl) hbegins hplain
        obtain ⟨-, heq⟩ := ih hparts (fun hplace => hnoplace hplace []) hafter
        rw [List.append_nil, List.nil_append] at hplain
        exact ⟨rfl, hplain.symm, heq⟩
      · obtain ⟨rfl, heq⟩ := ih hparts (fun hplace => hnoplace hplace more) hmore.symm
        rw [List.append_nil] at hplain
        obtain ⟨rfl, -⟩ := (hf index).eq_nil_of_inside (hfront rfl) beginsWithLetter_nil
          (by rw [List.append_nil, hplain])
        exact ⟨rfl, hplain, heq⟩

/-- **What shows in the whole.** The filling with such results is the plain one only if all results
at the places are the plain contents. -/
theorem fillParts_eq_iff {f : Nat → List Char → List Char}
    (hf : ∀ index, SplitsAtLetters (f index)) (plain : Nat → List Char)
    {parts : List TemplatePart} (hseparated : separated parts = true) :
    fillParts (fun index => f index (plain index)) parts = fillParts plain parts ↔
      ∀ index, .place index ∈ parts → f index (plain index) = plain index := by
  constructor
  · intro h index hplace
    exact (eq_of_append_fillParts_eq hf plain hseparated (fun _ => endsWithLetter_nil) h).2
      (.place index) hplace
  · intro h
    refine List.flatMap_congr fun part hpart => ?_
    cases part with
    | letter c => rfl
    | place index => exact h index hpart

end TypeWitness
