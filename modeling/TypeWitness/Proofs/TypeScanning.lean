import TypeWitness.Proofs.TypeTokens
import TypeWitness.TypeExpr.Printer

/-! # Cutting the text of a type into tokens
Blanks and punctuation marks set identifiers apart, so the text of a type is cut into the tokens
that spell the type, whatever follows, as long as it does not go on with an identifier.

* `tokenizes_iff_scans` — what a text is cut into.
* `Tokenizes.unique` — a text is made of one list of tokens only.
* `scans_name` — the tokens of a name.
* `TypeExpr.scans_render` — the tokens of a type. -/

namespace TypeWitness

open TypeExpr

/-! ## Punctuation marks -/

/-- A punctuation mark is no identifier. -/
theorem mark?_ne_identifier {c : Char} {token : TypeToken} (h : TypeToken.mark? c = some token)
    (name : String) : .identifier name ≠ token := by
  unfold TypeToken.mark? at h
  split at h <;> cases h <;> exact TypeToken.noConfusion

/-- A punctuation mark is no blank, and an identifier before it ends. -/
theorem isBlank_of_mark? {c : Char} {token : TypeToken} (h : TypeToken.mark? c = some token) :
    isBlank c = false ∧ isIdentifierPart c = false := by
  unfold TypeToken.mark? at h
  split at h <;> first | cases h; done | decide +kernel

/-- An identifier begins with a character that may begin one, and goes on with characters that may
stand in one. None of them is a blank or a mark. -/
theorem isIdentifierText_cons_iff {c : Char} {rest : List Char} :
    isIdentifierText (c :: rest) = true ↔
      isIdentifierStart c = true ∧ rest.all isIdentifierPart = true := by
  refine ⟨fun h => ?_, fun ⟨hstart, hrest⟩ => ?_⟩
  · simp only [isIdentifierText, Bool.and_eq_true] at h
    exact ⟨h.1.2, h.2⟩
  · have hpart := isIdentifierPart_of_start hstart
    have hblank : isBlank c = false := by
      rw [Bool.eq_false_iff]
      intro hblank
      rw [isIdentifierPart_of_isBlank hblank] at hpart
      cases hpart
    have hmark : TypeToken.mark? c = none := by
      rw [Option.eq_none_iff_forall_ne_some]
      intro token hmark
      rw [(isBlank_of_mark? hmark).2] at hpart
      cases hpart
    simp [isIdentifierText, hblank, hmark, hstart, hrest]

/-! ## One token after the other -/

/-- Wherever it starts, a text is cut into the given tokens. -/
def Scans (cs : List Char) (tokens : List TypeToken) : Prop :=
  ∀ offset, ∃ placed, TypeToken.scan offset cs = .ok placed ∧ placed.map (·.token) = tokens

/-- An identifier before the text ends where the text begins. -/
def IsBoundary (cs : List Char) : Prop := ∀ c ∈ cs.head?, isIdentifierPart c = false

theorem isBoundary_nil : IsBoundary [] := by
  intro c hc
  cases hc

theorem isBoundary_cons {c : Char} (h : isIdentifierPart c = false) (rest : List Char) :
    IsBoundary (c :: rest) := by
  intro c' hc'
  cases hc'
  exact h

theorem scans_nil : Scans [] [] := fun _ => ⟨[], by rw [TypeToken.scan], rfl⟩

/-- A blank is dropped. -/
theorem scans_blank {c : Char} {rest : List Char} {tokens : List TypeToken}
    (hblank : isBlank c = true) (h : Scans rest tokens) : Scans (c :: rest) tokens := by
  intro offset
  obtain ⟨placed, hscan, hplaced⟩ := h (offset + c.utf8Size)
  exact ⟨placed, by rw [TypeToken.scan, if_pos hblank, hscan], hplaced⟩

/-- A punctuation mark is a token, and a boundary. -/
theorem scans_mark {c : Char} {token : TypeToken} {rest : List Char} {tokens : List TypeToken}
    (hmark : TypeToken.mark? c = some token) (h : Scans rest tokens) :
    Scans (c :: rest) (token :: tokens) ∧ IsBoundary (c :: rest) := by
  obtain ⟨hblank, hpart⟩ := isBlank_of_mark? hmark
  refine ⟨fun offset => ?_, isBoundary_cons hpart rest⟩
  obtain ⟨placed, hscan, hplaced⟩ := h (offset + c.utf8Size)
  refine ⟨⟨token, offset⟩ :: placed, ?_, by rw [List.map_cons, hplaced]⟩
  rw [TypeToken.scan, if_neg (by rw [hblank]; exact Bool.false_ne_true), hmark]
  simp only [hscan]
  rfl

/-- An identifier goes as far as a boundary. -/
theorem takeWhile_append_boundary {part rest : List Char}
    (hpart : part.all isIdentifierPart = true) (hrest : IsBoundary rest) :
    (part ++ rest).takeWhile isIdentifierPart = part
    ∧ (part ++ rest).dropWhile isIdentifierPart = rest := by
  rw [List.takeWhile_append_of_pos (List.all_eq_true.1 hpart),
    List.dropWhile_append_of_pos (List.all_eq_true.1 hpart)]
  cases rest with
  | nil => simp
  | cons c rest =>
    have hc : isIdentifierPart c = false := hrest c rfl
    simp [hc]

/-- An identifier is a token, up to a boundary. -/
theorem scans_identifier {name rest : List Char} {tokens : List TypeToken}
    (hname : isIdentifierText name = true) (hrest : IsBoundary rest) (h : Scans rest tokens) :
    Scans (name ++ rest) (.identifier (String.ofList name) :: tokens) := by
  cases name with
  | nil => cases hname
  | cons c part =>
    simp only [isIdentifierText, Bool.and_eq_true, Bool.not_eq_true', Option.isNone_iff_eq_none]
      at hname
    obtain ⟨⟨⟨hblank, hmark⟩, hstart⟩, hpart⟩ := hname
    obtain ⟨htake, hdrop⟩ := takeWhile_append_boundary hpart hrest
    intro offset
    obtain ⟨placed, hscan, hplaced⟩ := h (offset + byteLength (c :: part))
    refine ⟨⟨.identifier (String.ofList (c :: part)), offset⟩ :: placed, ?_,
      by rw [List.map_cons, hplaced]⟩
    rw [List.cons_append, TypeToken.scan, if_neg (by rw [hblank]; exact Bool.false_ne_true), hmark]
    simp only [hstart, if_true, htake, hdrop, hscan]
    rfl

/-! ## How a text is made of tokens -/

/-- A text is made of tokens: blanks between them count for nothing, a punctuation mark is a token
by itself, and an identifier goes on for as long as it can. -/
inductive Tokenizes : List Char → List TypeToken → Prop
  | nil : Tokenizes [] []
  | blank {c : Char} {rest : List Char} {tokens : List TypeToken} (hblank : isBlank c = true)
      (h : Tokenizes rest tokens) : Tokenizes (c :: rest) tokens
  | mark {c : Char} {token : TypeToken} {rest : List Char} {tokens : List TypeToken}
      (hmark : TypeToken.mark? c = some token) (h : Tokenizes rest tokens) :
      Tokenizes (c :: rest) (token :: tokens)
  | identifier {first : Char} {others rest : List Char} {tokens : List TypeToken}
      (hstart : isIdentifierStart first = true) (hothers : others.all isIdentifierPart = true)
      (hrest : IsBoundary rest) (h : Tokenizes rest tokens) :
      Tokenizes ((first :: others) ++ rest)
        (.identifier (String.ofList (first :: others)) :: tokens)

/-- A text is cut into the tokens that it is made of. -/
theorem Tokenizes.scans {cs : List Char} {tokens : List TypeToken} (h : Tokenizes cs tokens) :
    Scans cs tokens := by
  induction h with
  | nil => exact scans_nil
  | blank hblank _ ih => exact scans_blank hblank ih
  | mark hmark _ ih => exact (scans_mark hmark ih).1
  | identifier hstart hothers hrest _ ih =>
    exact scans_identifier (isIdentifierText_cons_iff.2 ⟨hstart, hothers⟩) hrest ih

/-- The identifiers that a text is made of can be read as such. -/
theorem Tokenizes.isIdentifierText {cs : List Char} {tokens : List TypeToken}
    (h : Tokenizes cs tokens) {name : String} (hname : .identifier name ∈ tokens) :
    isIdentifierText name.toList = true := by
  induction h with
  | nil => cases hname
  | blank _ _ ih => exact ih hname
  | mark hmark _ ih =>
    cases List.mem_cons.1 hname with
    | inl heq => exact absurd heq (mark?_ne_identifier hmark name)
    | inr hmem => exact ih hmem
  | identifier hstart hothers _ _ ih =>
    cases List.mem_cons.1 hname with
    | inl heq =>
      rw [TypeToken.identifier.inj heq, String.toList_ofList]
      exact isIdentifierText_cons_iff.2 ⟨hstart, hothers⟩
    | inr hmem => exact ih hmem

/-- A text that is cut into tokens is made of them. -/
theorem tokenizes_of_scan {offset : Nat} {cs : List Char} {placed : List PlacedToken}
    (h : TypeToken.scan offset cs = .ok placed) : Tokenizes cs (placed.map (·.token)) := by
  -- the cases are those of the scanner: end, blank, mark, identifier, stray character
  induction offset, cs using TypeToken.scan.induct generalizing placed with
  | case1 offset =>
    rw [TypeToken.scan] at h
    cases h
    exact .nil
  | case2 offset c rest hblank ih =>
    rw [TypeToken.scan, if_pos hblank] at h
    exact .blank hblank (ih h)
  | case3 offset c rest hblank token hmark ih =>
    rw [TypeToken.scan, if_neg hblank, hmark] at h
    cases hscan : TypeToken.scan (offset + c.utf8Size) rest with
    | error stray =>
      rw [hscan] at h
      cases h
    | ok others =>
      rw [hscan] at h
      cases h
      exact .mark hmark (ih hscan)
  | case4 offset c rest hblank hmark hstart identifier =>
    rename_i ih
    rw [TypeToken.scan, if_neg hblank, hmark] at h
    simp only [hstart, if_true] at h
    cases hscan : TypeToken.scan (offset + byteLength (c :: rest.takeWhile isIdentifierPart))
        (rest.dropWhile isIdentifierPart) with
    | error stray =>
      rw [hscan] at h
      cases h
    | ok others =>
      rw [hscan] at h
      cases h
      have hboundary : IsBoundary (rest.dropWhile isIdentifierPart) := by
        intro c' hc'
        have hhead := List.head?_dropWhile_not isIdentifierPart rest
        rw [hc'] at hhead
        simpa using hhead
      have hothers : (rest.takeWhile isIdentifierPart).all isIdentifierPart = true :=
        List.all_takeWhile
      have htokens := Tokenizes.identifier hstart hothers hboundary (ih hscan)
      rwa [List.cons_append, List.takeWhile_append_dropWhile] at htokens
  | case5 offset c rest hblank hmark hstart =>
    rw [TypeToken.scan, if_neg hblank, hmark] at h
    simp only [if_neg hstart] at h
    cases h

/-- **What a text is cut into** is what it is made of, wherever it starts. -/
theorem tokenizes_iff_scans {cs : List Char} {tokens : List TypeToken} :
    Tokenizes cs tokens ↔ Scans cs tokens := by
  refine ⟨Tokenizes.scans, fun h => ?_⟩
  obtain ⟨placed, hscan, rfl⟩ := h 0
  exact tokenizes_of_scan hscan

/-- The scanner decides what a text is made of. -/
theorem tokenizes_iff_scan {cs : List Char} {tokens : List TypeToken} :
    Tokenizes cs tokens ↔
      (TypeToken.scan 0 cs).toOption.map (·.map (·.token)) = some tokens := by
  constructor
  · intro h
    obtain ⟨placed, hscan, rfl⟩ := h.scans 0
    rw [hscan]
    rfl
  · intro h
    cases hscan : TypeToken.scan 0 cs with
    | error stray =>
      rw [hscan] at h
      cases h
    | ok placed =>
      rw [hscan] at h
      cases h
      exact tokenizes_of_scan hscan

instance (cs : List Char) (tokens : List TypeToken) : Decidable (Tokenizes cs tokens) :=
  decidable_of_iff _ tokenizes_iff_scan.symm

/-- **A text is made of one list of tokens only.** -/
theorem Tokenizes.unique {cs : List Char} {tokens tokens' : List TypeToken}
    (h : Tokenizes cs tokens) (h' : Tokenizes cs tokens') : tokens = tokens' := by
  obtain ⟨placed, hscan, rfl⟩ := h.scans 0
  obtain ⟨placed', hscan', rfl⟩ := h'.scans 0
  rw [hscan] at hscan'
  cases hscan'
  rfl

/-! ## Names and types -/

/-- Identifiers after the first, each with its dot. -/
theorem scans_parts {parts : List (List Char)} (hparts : parts.all isIdentifierText = true)
    {rest : List Char} {tokens : List TypeToken} (hrest : IsBoundary rest) (h : Scans rest tokens) :
    Scans (parts.flatMap ('.' :: ·) ++ rest)
      (parts.flatMap (fun part => [.dot, .identifier (String.ofList part)]) ++ tokens)
    ∧ IsBoundary (parts.flatMap ('.' :: ·) ++ rest) := by
  induction parts with
  | nil => exact ⟨h, hrest⟩
  | cons part parts ih =>
    rw [List.all_cons, Bool.and_eq_true] at hparts
    obtain ⟨hscans, hboundary⟩ := ih hparts.2
    rw [List.flatMap_cons, List.flatMap_cons, List.append_assoc, List.append_assoc]
    exact scans_mark rfl (scans_identifier hparts.1 hboundary hscans)

/-- **The tokens of a name.** -/
theorem scans_name {name : String} (hname : isQualifiedName name = true) {rest : List Char}
    {tokens : List TypeToken} (hrest : IsBoundary rest) (h : Scans rest tokens) :
    Scans (name.toList ++ rest) (nameTokens name ++ tokens) := by
  obtain ⟨first, others, hparts⟩ := List.exists_cons_of_ne_nil (splitAt_ne_nil name.toList)
  rw [isQualifiedName, hparts, List.all_cons, Bool.and_eq_true] at hname
  obtain ⟨hscans, hboundary⟩ := scans_parts hname.2 hrest h
  rw [nameTokens, hparts, partTokens, eq_of_splitAt hparts, List.append_assoc, List.cons_append]
  exact scans_identifier hname.1 hboundary hscans

/-- A question mark and a word before a bound, with blanks between them. -/
theorem scans_bounded (word : String) (hword : isIdentifierText word.toList = true)
    {rest : List Char} {tokens : List TypeToken} (h : Scans rest tokens) :
    Scans ('?' :: ' ' :: (word.toList ++ ' ' :: rest))
      (.question :: .identifier word :: tokens) := by
  have hblank : isBlank ' ' = true := by decide
  have hboundary : IsBoundary (' ' :: rest) := isBoundary_cons (by decide +kernel) rest
  have hscans := scans_identifier hword hboundary (scans_blank hblank h)
  rw [String.ofList_toList] at hscans
  exact (scans_mark rfl (scans_blank hblank hscans)).1

/-- Type arguments after the first, each with its comma. -/
theorem scans_renderRest {types : List TypeExpr}
    (htypes : ∀ type ∈ types, ∀ rest tokens, IsBoundary rest → Scans rest tokens →
      Scans (type.render.toList ++ rest) (type.tokens ++ tokens))
    {rest : List Char} {tokens : List TypeToken} (hrest : IsBoundary rest) (h : Scans rest tokens) :
    Scans ((renderRest types).toList ++ rest) (tokensOfRest types ++ tokens)
    ∧ IsBoundary ((renderRest types).toList ++ rest) := by
  induction types with
  | nil => exact ⟨h, hrest⟩
  | cons type types ih =>
    rw [List.forall_mem_cons] at htypes
    obtain ⟨hscans, hboundary⟩ := ih htypes.2
    have htype := scans_blank (c := ' ') (by decide) (htypes.1 _ _ hboundary hscans)
    rw [renderRest, tokensOfRest, String.toList_append, String.toList_append, List.append_assoc,
      List.append_assoc, List.cons_append, List.append_assoc]
    exact scans_mark rfl htype

/-- **The tokens of a type.** -/
theorem TypeExpr.scans_render (type : TypeExpr) {place : TypePlace}
    (htype : type.wellFormed place = true) {rest : List Char} {tokens : List TypeToken}
    (hrest : IsBoundary rest) (h : Scans rest tokens) :
    Scans (type.render.toList ++ rest) (type.tokens ++ tokens) := by
  induction type using TypeExpr.induction generalizing place rest tokens with
  | primitive name =>
    rw [wellFormed, Bool.and_eq_true] at htype
    have hname := isIdentifierText_of_isPrimitiveName htype.2
    rw [render, TypeExpr.tokens, ← nameTokens_of_isIdentifierText hname]
    exact scans_name (isQualifiedName_of_isIdentifierText hname) hrest h
  | named name arguments ih =>
    rw [wellFormed, Bool.and_eq_true, Bool.and_eq_true, wellFormedArguments_eq,
      List.all_eq_true] at htype
    obtain ⟨⟨hname, -⟩, harguments⟩ := htype
    cases arguments with
    | nil =>
      rw [render, TypeExpr.tokens]
      exact scans_name hname hrest h
    | cons first others =>
      rw [List.forall_mem_cons] at ih harguments
      -- from the closing bracket back to the name
      obtain ⟨hclose, hcloseBoundary⟩ := scans_mark (c := '>') rfl h
      obtain ⟨hothers, hothersBoundary⟩ := scans_renderRest
        (fun type htype _ _ => ih.2 type htype (harguments.2 type htype)) hcloseBoundary hclose
      have hfirst := ih.1 harguments.1 hothersBoundary hothers
      obtain ⟨hopen, hopenBoundary⟩ := scans_mark (c := '<') rfl hfirst
      have hall := scans_name hname hopenBoundary hopen
      rw [render, TypeExpr.tokens]
      simpa [List.append_assoc] using hall
  | array element ih =>
    rw [wellFormed] at htype
    obtain ⟨hclose, -⟩ := scans_mark (c := ']') rfl h
    obtain ⟨hopen, hopenBoundary⟩ := scans_mark (c := '[') rfl hclose
    have hall := ih htype hopenBoundary hopen
    rw [render, TypeExpr.tokens]
    simpa [List.append_assoc] using hall
  | wildcard => exact (scans_mark rfl h).1
  | wildcardExtends bound ih =>
    rw [wellFormed, Bool.and_eq_true] at htype
    have hall := scans_bounded "extends" (by decide) (ih htype.2 hrest h)
    rw [render, TypeExpr.tokens]
    simpa [List.append_assoc] using hall
  | wildcardSuper bound ih =>
    rw [wellFormed, Bool.and_eq_true] at htype
    have hall := scans_bounded "super" (by decide) (ih htype.2 hrest h)
    rw [render, TypeExpr.tokens]
    simpa [List.append_assoc] using hall

end TypeWitness
