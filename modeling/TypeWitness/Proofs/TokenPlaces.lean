import TypeWitness.Proofs.TypeGrammar

/-! # Where tokens stand
A token carries the offset in bytes at which it begins. A character is a stray one if it neither
goes on with an identifier nor is a blank, a punctuation mark or the beginning of an identifier. The
first stray character of a text is what keeps it from being cut into tokens.

* `placedFrom_of_scan` — tokens stand at their offsets, one after the other.
* `PlacedFrom.countP_offset_lt` — how many tokens begin before one of them.
* `scan_eq_error_iff` — the character that the scanner reports is the first stray one.
* `tokenizes_spell` — every list of readable tokens makes up a text. -/

namespace TypeWitness

/-! ## What the scanner does -/

/-- What is scanned from a text that starts at the given offset. The cases are those of the
scanner: the end, a blank, a punctuation mark, an identifier and a stray character. -/
inductive ScansTo : Nat → List Char → Except TypeToken.Stray (List PlacedToken) → Prop
  | nil (offset : Nat) : ScansTo offset [] (.ok [])
  | blank {offset : Nat} {c : Char} {rest : List Char}
      {result : Except TypeToken.Stray (List PlacedToken)} (hblank : isBlank c = true)
      (h : ScansTo (offset + c.utf8Size) rest result) : ScansTo offset (c :: rest) result
  | mark {offset : Nat} {c : Char} {token : TypeToken} {rest : List Char}
      {result : Except TypeToken.Stray (List PlacedToken)}
      (hmark : TypeToken.mark? c = some token) (h : ScansTo (offset + c.utf8Size) rest result) :
      ScansTo offset (c :: rest) (result.map (⟨token, offset⟩ :: ·))
  | identifier {offset : Nat} {first : Char} {others rest : List Char}
      {result : Except TypeToken.Stray (List PlacedToken)}
      (hstart : isIdentifierStart first = true) (hothers : others.all isIdentifierPart = true)
      (hrest : IsBoundary rest) (h : ScansTo (offset + byteLength (first :: others)) rest result) :
      ScansTo offset ((first :: others) ++ rest)
        (result.map (⟨.identifier (String.ofList (first :: others)), offset⟩ :: ·))
  | stray {offset : Nat} {c : Char} {rest : List Char} (hblank : isBlank c = false)
      (hmark : TypeToken.mark? c = none) (hstart : isIdentifierStart c = false) :
      ScansTo offset (c :: rest) (.error ⟨c, offset⟩)

/-- The scanner stops at what cannot go on with an identifier. -/
theorem isBoundary_dropWhile (cs : List Char) : IsBoundary (cs.dropWhile isIdentifierPart) := by
  intro c hc
  have hhead := List.head?_dropWhile_not isIdentifierPart cs
  rw [hc] at hhead
  simpa using hhead

/-- **What the scanner does.** -/
theorem scansTo_scan (offset : Nat) (cs : List Char) :
    ScansTo offset cs (TypeToken.scan offset cs) := by
  induction offset, cs using TypeToken.scan.induct with
  | case1 offset =>
    rw [TypeToken.scan]
    exact .nil offset
  | case2 offset c rest hblank ih =>
    rw [TypeToken.scan, if_pos hblank]
    exact .blank hblank ih
  | case3 offset c rest hblank token hmark ih =>
    rw [TypeToken.scan, if_neg hblank, hmark]
    exact .mark hmark ih
  | case4 offset c rest hblank hmark hstart identifier =>
    rename_i ih
    rw [TypeToken.scan, if_neg hblank, hmark]
    simp only [hstart, if_true]
    have h := ScansTo.identifier hstart List.all_takeWhile (isBoundary_dropWhile rest) ih
    rwa [List.cons_append, List.takeWhile_append_dropWhile] at h
  | case5 offset c rest hblank hmark hstart =>
    rw [TypeToken.scan, if_neg hblank, hmark]
    simp only [if_neg hstart]
    exact .stray (Bool.eq_false_iff.2 hblank) hmark (Bool.eq_false_iff.2 hstart)

/-! ## Offsets of tokens -/

/-- A text that starts at the given offset holds tokens where they are placed, one after the other.
Each begins at a character that is no blank, with as many bytes before it as its offset says; what
is before it is cut into the tokens before it, and what begins there into itself and the tokens that
follow. -/
structure PlacedFrom (offset : Nat) (text : List Char) (placed : List PlacedToken) : Prop where
  tokenizes : Tokenizes text (placed.map (·.token))
  split : ∀ before token after, placed = before ++ token :: after →
    ∃ left first right, text = left ++ first :: right ∧ isBlank first = false
      ∧ token.offset = offset + byteLength left ∧ Tokenizes left (before.map (·.token))
      ∧ Tokenizes (first :: right) (token.token :: after.map (·.token))
  pairwise : placed.Pairwise (·.offset < ·.offset)

namespace PlacedFrom

variable {offset : Nat} {c : Char} {rest : List Char} {token : TypeToken}
  {placed : List PlacedToken}

/-- Each token is somewhere in the text. -/
theorem offset_bounds (h : PlacedFrom offset rest placed) {token : PlacedToken}
    (hmem : token ∈ placed) :
    offset ≤ token.offset ∧ token.offset < offset + byteLength rest := by
  obtain ⟨before, after, heq⟩ := List.append_of_mem hmem
  obtain ⟨left, first, right, rfl, -, hoffset, -⟩ := h.split before token after heq
  have hsize := first.utf8Size_pos
  rw [hoffset, byteLength_append, byteLength_cons]
  omega

theorem nil (offset : Nat) : PlacedFrom offset [] [] :=
  ⟨.nil, fun _ _ _ heq => by simp at heq, .nil⟩

/-- A blank before a text moves its tokens. -/
theorem blank (hblank : isBlank c = true) (h : PlacedFrom (offset + c.utf8Size) rest placed) :
    PlacedFrom offset (c :: rest) placed := by
  refine ⟨.blank hblank h.tokenizes, fun before token after heq => ?_, h.pairwise⟩
  obtain ⟨left, first, right, rfl, hfirst, hoffset, hleft, hright⟩ := h.split before token after heq
  exact ⟨c :: left, first, right, rfl, hfirst, by rw [hoffset, byteLength_cons, Nat.add_assoc],
    .blank hblank hleft, hright⟩

/-- A token before a text moves its tokens and is placed at the beginning. -/
theorem cons (first : Char) (others : List Char) (hfirst : isBlank first = false)
    (htoken : ∀ left tokens, left <+: rest → Tokenizes left tokens →
      Tokenizes ((first :: others) ++ left) (token :: tokens))
    (h : PlacedFrom (offset + byteLength (first :: others)) rest placed) :
    PlacedFrom offset ((first :: others) ++ rest) (⟨token, offset⟩ :: placed) := by
  have htokenizes := htoken rest _ (List.prefix_refl rest) h.tokenizes
  refine ⟨htokenizes, fun before other after heq => ?_, ?_⟩
  · cases before with
    | nil =>
      cases heq
      exact ⟨[], first, others ++ rest, rfl, hfirst, rfl, .nil, htokenizes⟩
    | cons head before =>
      obtain ⟨rfl, hplaced⟩ := List.cons.inj heq
      obtain ⟨left, c, right, hrest, hc, hoffset, hleft, hright⟩ :=
        h.split before other after hplaced
      refine ⟨(first :: others) ++ left, c, right, ?_, hc, ?_, ?_, hright⟩
      · rw [hrest, List.append_assoc]
      · rw [hoffset, byteLength_append, Nat.add_assoc]
      · exact htoken left _ ⟨c :: right, hrest.symm⟩ hleft
  · refine List.pairwise_cons.2 ⟨fun other hother => ?_, h.pairwise⟩
    have hbounds := (h.offset_bounds hother).1
    have hsize := first.utf8Size_pos
    rw [byteLength_cons] at hbounds
    simp only
    omega

end PlacedFrom

/-- An identifier before a text ends where it ends before any beginning of it. -/
theorem IsBoundary.of_prefix {left text : List Char} (h : IsBoundary text) (hleft : left <+: text) :
    IsBoundary left := by
  obtain ⟨right, rfl⟩ := hleft
  cases left with
  | nil => exact isBoundary_nil
  | cons c left => exact h

/-- What begins an identifier is no blank. -/
theorem isBlank_of_isIdentifierStart {c : Char} (h : isIdentifierStart c = true) :
    isBlank c = false := by
  rw [Bool.eq_false_iff]
  intro hblank
  have hpart := isIdentifierPart_of_start h
  rw [isIdentifierPart_of_isBlank hblank] at hpart
  cases hpart

/-- The tokens that are scanned are placed. -/
theorem ScansTo.placedFrom {offset : Nat} {cs : List Char}
    {result : Except TypeToken.Stray (List PlacedToken)} (h : ScansTo offset cs result)
    {placed : List PlacedToken} (hresult : result = .ok placed) : PlacedFrom offset cs placed := by
  induction h generalizing placed with
  | nil offset =>
    cases hresult
    exact .nil offset
  | blank hblank _ ih => exact (ih hresult).blank hblank
  | @mark offset c token rest result hmark _ ih =>
    cases result with
    | error stray => cases hresult
    | ok later =>
      cases hresult
      exact .cons c [] (isBlank_of_mark? hmark).1 (fun _ _ _ h => .mark hmark h) (ih rfl)
  | @identifier offset first others rest result hstart hothers hrest _ ih =>
    cases result with
    | error stray => cases hresult
    | ok later =>
      cases hresult
      exact .cons first others (isBlank_of_isIdentifierStart hstart)
        (fun _ _ hleft h => .identifier hstart hothers (hrest.of_prefix hleft) h) (ih rfl)
  | stray => cases hresult

/-- **Tokens stand at their offsets.** -/
theorem placedFrom_of_scan {offset : Nat} {text : List Char} {placed : List PlacedToken}
    (h : TypeToken.scan offset text = .ok placed) : PlacedFrom offset text placed :=
  (scansTo_scan offset text).placedFrom h

namespace PlacedFrom

variable {text : List Char} {before after placed : List PlacedToken} {token : PlacedToken}

/-- As many tokens begin before a place as there are tokens before the one that begins there. -/
theorem countP_offset_lt (h : PlacedFrom 0 text (before ++ token :: after)) :
    (before ++ token :: after).countP (·.offset < token.offset) = before.length := by
  have hpairwise := h.pairwise
  rw [List.pairwise_append, List.pairwise_cons] at hpairwise
  obtain ⟨-, ⟨hafter, -⟩, hbefore⟩ := hpairwise
  have hbelow : before.countP (·.offset < token.offset) = before.length :=
    List.countP_eq_length.2 fun other hother =>
      decide_eq_true (hbefore other hother token List.mem_cons_self)
  have habove : (token :: after).countP (·.offset < token.offset) = 0 := by
    rw [List.countP_eq_zero]
    intro other hother
    rw [decide_eq_true_iff]
    cases List.mem_cons.1 hother with
    | inl heq => exact heq ▸ Nat.lt_irrefl _
    | inr hmem => exact Nat.not_lt.2 (Nat.le_of_lt (hafter other hmem))
  rw [List.countP_append, hbelow, habove, Nat.add_zero]

/-- All tokens begin before the end of the text. -/
theorem countP_offset_lt_byteLength (h : PlacedFrom 0 text placed) :
    placed.countP (·.offset < byteLength text) = placed.length := by
  refine List.countP_eq_length.2 fun token hmem => decide_eq_true ?_
  have hbounds := h.offset_bounds hmem
  omega

end PlacedFrom

/-! ## Stray characters -/

/-- A text has an identifier at its end that may go on. -/
def EndsInIdentifier (text : List Char) : Prop :=
  ∃ before first others, text = before ++ first :: others ∧ isIdentifierStart first = true
    ∧ others.all isIdentifierPart = true

/-- Behind a text a token is needed and a character begins none: it does not go on with an
identifier, and it is no blank, no punctuation mark and no beginning of an identifier. -/
structure IsStray (before : List Char) (c : Char) : Prop where
  notInside : ¬ (EndsInIdentifier before ∧ isIdentifierPart c = true)
  notBlank : isBlank c = false
  noMark : TypeToken.mark? c = none
  notStart : isIdentifierStart c = false

/-- A part of a text has no stray characters, behind what comes before it. -/
def NoStrayIn (seen part : List Char) : Prop :=
  ∀ before c after, part = before ++ c :: after → ¬ IsStray (seen ++ before) c

/-- The first stray character of a text, and its offset. -/
def IsFirstStray (text : List Char) (c : Char) (offset : Nat) : Prop :=
  ∃ before after, text = before ++ c :: after ∧ offset = byteLength before ∧ IsStray before c
    ∧ NoStrayIn [] before

/-- Behind a character that may not stand in an identifier no identifier goes on. -/
theorem not_endsInIdentifier_concat {seen : List Char} {c : Char}
    (h : isIdentifierPart c = false) : ¬ EndsInIdentifier (seen ++ [c]) := by
  rintro ⟨before, first, others, heq, hstart, hothers⟩
  have hlast := congrArg List.getLast? heq
  rw [List.getLast?_concat, List.getLast?_append,
    List.getLast?_eq_some_getLast (List.cons_ne_nil first others)] at hlast
  have hall : (first :: others).all isIdentifierPart = true := by
    rw [List.all_cons, isIdentifierPart_of_start hstart, hothers, Bool.and_self]
  have hpart := List.all_eq_true.1 hall _ (List.getLast_mem (List.cons_ne_nil first others))
  rw [← Option.some.inj hlast] at hpart
  rw [h] at hpart
  cases hpart

namespace NoStrayIn

variable {seen part rest : List Char} {c first : Char} {others : List Char}

theorem nil (seen : List Char) : NoStrayIn seen [] :=
  fun _ _ _ heq => by simp at heq

theorem append (h : NoStrayIn seen part) (h' : NoStrayIn (seen ++ part) rest) :
    NoStrayIn seen (part ++ rest) := by
  intro before c after heq
  -- the character is in one of the two parts
  rcases List.append_eq_append_iff.1 heq with ⟨middle, rfl, hrest⟩ | ⟨middle, hpart, hafter⟩
  · rw [← List.append_assoc]
    exact h' middle c after hrest
  · cases middle with
    | nil =>
      have hbefore : part = before := by rw [hpart, List.append_nil]
      have hnot := h' [] c after hafter.symm
      rwa [List.append_nil, hbefore] at hnot
    | cons head middle =>
      obtain ⟨rfl, -⟩ := List.cons.inj hafter
      exact h before c middle hpart

theorem single (h : ¬ IsStray seen c) : NoStrayIn seen [c] := by
  intro before c' after heq
  cases before with
  | nil =>
    cases heq
    rwa [List.append_nil]
  | cons head before =>
    simp at heq

/-- An identifier has no stray characters. -/
theorem identifier (hstart : isIdentifierStart first = true)
    (hothers : others.all isIdentifierPart = true) : NoStrayIn seen (first :: others) := by
  intro before c after heq hstray
  cases before with
  | nil =>
    cases heq
    rw [hstray.notStart] at hstart
    cases hstart
  | cons head before =>
    obtain ⟨rfl, hrest⟩ : first = head ∧ others = before ++ c :: after := List.cons.inj heq
    rw [hrest, List.all_append, List.all_cons, Bool.and_eq_true, Bool.and_eq_true] at hothers
    exact hstray.notInside ⟨⟨seen, first, before, rfl, hstart, hothers.1⟩, hothers.2.1⟩

end NoStrayIn

/-- What a scan says of stray characters behind what was seen: there are none, or the first one. -/
def TellsStray (seen : List Char) (offset : Nat) (cs : List Char) :
    Except TypeToken.Stray (List PlacedToken) → Prop
  | .ok _ => NoStrayIn seen cs
  | .error stray => ∃ before after, cs = before ++ stray.char :: after
    ∧ stray.offset = offset + byteLength before ∧ IsStray (seen ++ before) stray.char
    ∧ NoStrayIn seen before

/-- A part without stray characters may come first. -/
theorem TellsStray.prepend {seen rest : List Char} {offset : Nat} (part : List Char)
    {result : Except TypeToken.Stray (List PlacedToken)} (hpart : NoStrayIn seen part)
    (h : TellsStray (seen ++ part) (offset + byteLength part) rest result) :
    TellsStray seen offset (part ++ rest) result := by
  cases result with
  | ok placed => exact hpart.append h
  | error stray =>
    obtain ⟨before, after, rfl, hoffset, hstray, hnone⟩ := h
    refine ⟨part ++ before, after, by rw [List.append_assoc], ?_, ?_, hpart.append hnone⟩
    · rw [hoffset, byteLength_append, Nat.add_assoc]
    · rwa [List.append_assoc] at hstray

/-- Further tokens do not matter. -/
theorem TellsStray.map {seen cs : List Char} {offset : Nat}
    {result : Except TypeToken.Stray (List PlacedToken)} (h : TellsStray seen offset cs result)
    (f : List PlacedToken → List PlacedToken) : TellsStray seen offset cs (result.map f) := by
  cases result with
  | ok placed => exact h
  | error stray => exact h

/-- **The scanner tells the first stray character**, if no identifier goes on at the beginning. -/
theorem ScansTo.tellsStray {offset : Nat} {cs : List Char}
    {result : Except TypeToken.Stray (List PlacedToken)} (h : ScansTo offset cs result)
    {seen : List Char} (hseen : EndsInIdentifier seen → IsBoundary cs) :
    TellsStray seen offset cs result := by
  induction h generalizing seen with
  | nil => exact .nil seen
  | @blank offset c rest result hblank _ ih =>
    have hpart := isIdentifierPart_of_isBlank hblank
    refine TellsStray.prepend [c] (.single fun hstray => ?_)
      (ih fun hends => absurd hends (not_endsInIdentifier_concat hpart))
    rw [hstray.notBlank] at hblank
    cases hblank
  | @mark offset c token rest result hmark _ ih =>
    have hpart := (isBlank_of_mark? hmark).2
    refine (TellsStray.prepend [c] (.single fun hstray => ?_)
      (ih fun hends => absurd hends (not_endsInIdentifier_concat hpart))).map _
    rw [hstray.noMark] at hmark
    cases hmark
  | identifier hstart hothers hrest _ ih =>
    exact (TellsStray.prepend _ (.identifier hstart hothers) (ih fun _ => hrest)).map _
  | @stray offset c rest hblank hmark hstart =>
    refine ⟨[], rest, rfl, rfl, ⟨?_, hblank, hmark, hstart⟩, .nil seen⟩
    rw [List.append_nil]
    rintro ⟨hends, hpart⟩
    have hboundary : isIdentifierPart c = false := hseen hends c rfl
    rw [hboundary] at hpart
    cases hpart

/-- What a scan says of the stray characters of a whole text. -/
theorem tellsStray_scan (text : List Char) : TellsStray [] 0 text (TypeToken.scan 0 text) := by
  refine (scansTo_scan 0 text).tellsStray ?_
  rintro ⟨before, first, others, heq, -⟩
  simp at heq

/-- There is one first stray character only. -/
theorem IsFirstStray.unique {text : List Char} {c c' : Char} {offset offset' : Nat}
    (h : IsFirstStray text c offset) (h' : IsFirstStray text c' offset') :
    c = c' ∧ offset = offset' := by
  obtain ⟨before, after, rfl, rfl, hstray, hnone⟩ := h
  obtain ⟨before', after', heq, rfl, hstray', hnone'⟩ := h'
  rcases List.append_eq_append_iff.1 heq with ⟨middle, rfl, hmiddle⟩ | ⟨middle, rfl, hmiddle⟩
  · cases middle with
    | nil =>
      rw [List.append_nil]
      exact ⟨(List.cons.inj hmiddle).1, rfl⟩
    | cons head middle =>
      obtain ⟨rfl, -⟩ := List.cons.inj hmiddle
      exact absurd hstray (hnone' before c middle rfl)
  · cases middle with
    | nil =>
      rw [List.append_nil]
      exact ⟨(List.cons.inj hmiddle).1.symm, rfl⟩
    | cons head middle =>
      obtain ⟨rfl, -⟩ := List.cons.inj hmiddle
      exact absurd hstray' (hnone before' c' middle rfl)

/-- The scanner fails when there is a stray character, and only then. -/
theorem noStrayIn_iff_scan {text : List Char} :
    NoStrayIn [] text ↔ ∃ placed, TypeToken.scan 0 text = .ok placed := by
  have htells := tellsStray_scan text
  cases hscan : TypeToken.scan 0 text with
  | ok placed =>
    rw [hscan] at htells
    exact ⟨fun _ => ⟨placed, rfl⟩, fun _ => htells⟩
  | error stray =>
    rw [hscan] at htells
    obtain ⟨before, after, heq, -, hstray, -⟩ := htells
    exact ⟨fun hnone => absurd hstray (hnone before stray.char after heq), nofun⟩

/-- **The scanner reports the first stray character.** -/
theorem scan_eq_error_iff {text : List Char} {stray : TypeToken.Stray} :
    TypeToken.scan 0 text = .error stray ↔ IsFirstStray text stray.char stray.offset := by
  have htells := tellsStray_scan text
  cases hscan : TypeToken.scan 0 text with
  | ok placed =>
    rw [hscan] at htells
    refine ⟨nofun, fun hfirst => ?_⟩
    obtain ⟨before, after, heq, -, hstray, -⟩ := hfirst
    exact absurd hstray (htells before stray.char after heq)
  | error found =>
    rw [hscan] at htells
    have hfound : IsFirstStray text found.char found.offset := by
      simpa only [TellsStray, IsFirstStray, Nat.zero_add, List.nil_append] using htells
    constructor
    · intro heq
      cases heq
      exact hfound
    · intro hfirst
      obtain ⟨hchar, hoffset⟩ := hfound.unique hfirst
      cases found
      cases stray
      cases hchar
      cases hoffset
      rfl

/-! ## Texts of tokens -/

/-- How a token is written. -/
def TypeToken.text : TypeToken → List Char
  | identifier name => name.toList
  | dot => ['.']
  | comma => [',']
  | openAngle => ['<']
  | closeAngle => ['>']
  | openBracket => ['[']
  | closeBracket => [']']
  | question => ['?']

/-- A text of tokens, with a blank before each. -/
def spell (tokens : List TypeToken) : List Char := tokens.flatMap fun token => ' ' :: token.text

/-- **Every list of readable tokens makes up a text.** -/
theorem tokenizes_spell {tokens : List TypeToken} (h : IdentifiersReadable tokens) :
    Tokenizes (spell tokens) tokens := by
  have hblank : isBlank ' ' = true := by decide
  induction tokens with
  | nil => exact .nil
  | cons token tokens ih =>
    have hothers := ih h.of_cons
    have hboundary : IsBoundary (spell tokens) := by
      cases tokens with
      | nil => exact isBoundary_nil
      | cons next tokens => exact isBoundary_cons (by decide +kernel) _
    refine .blank hblank ?_
    cases token with
    | identifier name =>
      have hname := h name List.mem_cons_self
      obtain ⟨first, others, hcs⟩ : ∃ first others, name.toList = first :: others :=
        List.exists_cons_of_ne_nil fun hnil => by simp [hnil, isIdentifierText] at hname
      rw [hcs, isIdentifierText_cons_iff] at hname
      have htoken := Tokenizes.identifier hname.1 hname.2 hboundary hothers
      rwa [← hcs, String.ofList_toList] at htoken
    | dot | comma | openAngle | closeAngle | openBracket | closeBracket | question =>
      exact .mark rfl hothers

end TypeWitness
