import TypeWitness.Generation.Collection
import TypeWitness.Proofs.TemplateParts
import TypeWitness.Proofs.TextReplacement

/-! # What messages quote
Arguments are filled into a template one after the other, so each later argument is filled into the
earlier ones as well, wherever its placeholder stands in them. The templates of messages have
letters between their places, so nothing else happens: an argument is quoted as it is, unless later
arguments change it.

* `fillTemplate_placeholder` — what becomes of a placeholder by itself.
* `fillTemplate_eq_fillPlaces` — what becomes of a template with letters between its places.
* `separated_messageTemplates` — the templates of messages are such templates.
* `Diagnostic.message_quotes_iff` — when a message quotes its arguments. -/

namespace TypeWitness

/-! ## One placeholder -/

theorem toList_replaceAll_placeholder (index : Nat) (argument text : String) :
    (replaceAll (placeholder index) argument text).toList =
      replaceChars '\x7b' (Nat.toDigits 10 index ++ ['\x7d']) argument.toList text.toList := by
  rw [replaceAll, toList_placeholder]
  exact String.toList_ofList

/-- Where its placeholder does not stand, an argument changes nothing. -/
theorem replaceAll_placeholder_of_not_within {index : Nat} {text : String}
    (h : ¬ (placeholder index).toList <:+: text.toList) (argument : String) :
    replaceAll (placeholder index) argument text = text := by
  rw [toList_placeholder] at h
  apply String.toList_injective
  rw [toList_replaceAll_placeholder, replaceChars_of_not_within _ h]

theorem replaceAll_placeholder_self (index : Nat) (argument : String) :
    replaceAll (placeholder index) argument (placeholder index) = argument := by
  apply String.toList_injective
  rw [toList_replaceAll_placeholder, toList_placeholder, replaceChars_self]

/-- A placeholder does not stand in another one. -/
theorem eq_of_placeholder_within {index other : Nat}
    (h : (placeholder index).toList <:+: (placeholder other).toList) : index = other := by
  obtain ⟨before, after, heq⟩ := h
  cases before with
  | nil =>
    have hindex := leadingPlace?_eq_some_iff.2 heq.symm
    have hother := leadingPlace?_eq_some_iff.2 (List.append_nil (placeholder other).toList).symm
    rw [hindex] at hother
    exact (Prod.mk.inj (Option.some.inj hother)).1
  | cons c before =>
    -- behind its first character a placeholder has no opening brace
    rw [toList_placeholder, toList_placeholder] at heq
    have hmem : '\x7b' ∈ Nat.toDigits 10 other ++ ['\x7d'] := by
      rw [← (List.cons.inj heq).2]
      simp
    rcases List.mem_append.1 hmem with hdigit | hclosing
    · cases isDigit_of_mem_toDigits hdigit
    · cases List.mem_singleton.1 hclosing

theorem replaceAll_placeholder_of_ne {index other : Nat} (h : index ≠ other) (argument : String) :
    replaceAll (placeholder index) argument (placeholder other) = placeholder other :=
  replaceAll_placeholder_of_not_within (mt eq_of_placeholder_within h) argument

/-- Filling in one argument works on both sides of a letter by itself. -/
theorem splitsAtLetters_replaceAll (index : Nat) (argument : String) :
    SplitsAtLetters fun cs =>
      (replaceAll (placeholder index) argument (String.ofList cs)).toList := by
  refine ⟨?_, fun before c after hc => ?_⟩
  · rw [toList_replaceAll_placeholder, String.toList_ofList, replaceChars_nil]
  · simp only [toList_replaceAll_placeholder, String.toList_ofList]
    refine replaceChars_append_cons (fun hmem => ?_) _ _ _
    rw [← toList_placeholder] at hmem
    exact nomatch hc.symm.trans (isPlaceholderMark_of_mem hmem)

/-- So does filling in arguments one after the other. -/
theorem splitsAtLetters_fillFrom (index : Nat) (arguments : List String) :
    SplitsAtLetters fun cs => (fillFrom index (String.ofList cs) arguments).toList := by
  induction arguments generalizing index with
  | nil =>
    simp only [fillFrom, String.toList_ofList]
    exact ⟨rfl, fun _ _ _ _ => rfl⟩
  | cons argument arguments ih =>
    have hsteps := (ih (index + 1)).comp (splitsAtLetters_replaceAll index argument)
    simp only [Function.comp_def, String.ofList_toList] at hsteps
    exact hsteps

/-- **Without placeholders of theirs** a text stays as it is when arguments are filled in. -/
theorem fillFrom_of_not_within {index : Nat} {text : String} {arguments : List String}
    (h : ∀ later, index ≤ later → later < index + arguments.length →
      ¬ (placeholder later).toList <:+: text.toList) :
    fillFrom index text arguments = text := by
  induction arguments generalizing index with
  | nil => rfl
  | cons argument arguments ih =>
    rw [List.length_cons] at h
    rw [fillFrom, replaceAll_placeholder_of_not_within (h index (Nat.le_refl _) (by omega))]
    exact ih fun later hle hlt => h later (by omega) (by omega)

/-! ## Arguments at their places -/

/-- What belongs at a place: the argument, or the placeholder when there is no such argument. -/
def argumentAt (arguments : List String) (index : Nat) : String :=
  (arguments[index]?).getD (placeholder index)

/-- What belongs at a place, with the arguments behind it filled in. -/
def filledArgumentAt (arguments : List String) (index : Nat) : String :=
  fillFrom (index + 1) (argumentAt arguments index) (arguments.drop (index + 1))

/-- The template with the arguments at their places, all at once. -/
def fillAtOnce (template : String) (arguments : List String) : String :=
  fillPlaces (argumentAt arguments) template

/-- What becomes of a placeholder when arguments are filled in that do not begin behind it. -/
theorem fillFrom_placeholder (start offset : Nat) (arguments : List String) :
    fillFrom start (placeholder (start + offset)) arguments =
      fillFrom (start + offset + 1) ((arguments[offset]?).getD (placeholder (start + offset)))
        (arguments.drop (offset + 1)) := by
  -- arguments before the one of the placeholder leave it as it is
  induction arguments generalizing start offset with
  | nil => simp [fillFrom]
  | cons argument arguments ih =>
    cases offset with
    | zero => simp [fillFrom, replaceAll_placeholder_self]
    | succ offset =>
      have hne : start ≠ start + (offset + 1) := by omega
      have hindex : start + (offset + 1) = start + 1 + offset := by omega
      rw [fillFrom, replaceAll_placeholder_of_ne hne, hindex, ih, List.getElem?_cons_succ,
        List.drop_succ_cons]

/-- **What becomes of a placeholder**: its argument, into which later arguments are filled. -/
theorem fillTemplate_placeholder (arguments : List String) (index : Nat) :
    fillTemplate (placeholder index) arguments = filledArgumentAt arguments index := by
  have hfill := fillFrom_placeholder 0 index arguments
  rwa [Nat.zero_add] at hfill

/-- **What becomes of a template** with letters between its places: each place is filled in by
itself. -/
theorem fillTemplate_eq_fillPlaces {template : String}
    (hseparated : separated (templateParts template.toList) = true) (arguments : List String) :
    fillTemplate template arguments = fillPlaces (filledArgumentAt arguments) template := by
  have hplaces := (splitsAtLetters_fillFrom 0 arguments).apply_fillParts hseparated
    fun index => (placeholder index).toList
  rw [fillParts_templateParts] at hplaces
  simp only [String.ofList_toList] at hplaces
  apply String.toList_injective
  rw [fillPlaces, String.toList_ofList, fillTemplate, hplaces]
  simp only [← fillTemplate_placeholder]
  rfl

/-- It is the template with the arguments at their places if and only if later arguments change none
of these. -/
theorem fillTemplate_eq_fillAtOnce_iff {template : String}
    (hseparated : separated (templateParts template.toList) = true) (arguments : List String) :
    fillTemplate template arguments = fillAtOnce template arguments ↔
      ∀ index, .place index ∈ templateParts template.toList →
        filledArgumentAt arguments index = argumentAt arguments index := by
  have hiff := fillParts_eq_iff
    (fun index => splitsAtLetters_fillFrom (index + 1) (arguments.drop (index + 1)))
    (fun index => (argumentAt arguments index).toList) hseparated
  simp only [String.ofList_toList, String.toList_inj] at hiff
  rw [fillTemplate_eq_fillPlaces hseparated, fillAtOnce, fillPlaces, fillPlaces,
    String.ofList_inj]
  exact hiff

/-- A place keeps what belongs there when later arguments do not change its argument. -/
theorem filledArgumentAt_eq_iff {arguments : List String} {index : Nat} :
    filledArgumentAt arguments index = argumentAt arguments index ↔
      ∀ argument, arguments[index]? = some argument →
        fillFrom (index + 1) argument (arguments.drop (index + 1)) = argument := by
  rw [filledArgumentAt, argumentAt]
  cases hargument : arguments[index]? with
  | none =>
    -- there are no later arguments either
    have hlength := List.getElem?_eq_none_iff.1 hargument
    rw [List.drop_eq_nil_of_le (by omega)]
    exact ⟨fun _ _ h => (nomatch h), fun _ => rfl⟩
  | some argument =>
    refine ⟨fun h other hother => ?_, fun h => h argument rfl⟩
    cases hother
    exact h

/-! ## Messages -/

/-- The templates of messages, as lists of characters, have letters between their places. -/
theorem exists_separated_messageTemplates :
    ∀ template ∈ messageTemplates,
      ∃ cs, template.text = String.ofList cs ∧ separated (templateParts cs) = true := by
  simp only [messageTemplates, List.forall_mem_cons, List.not_mem_nil, false_imp_iff,
    implies_true, and_true]
  -- a literal is the list of its characters; three of the templates are put together from two
  refine ⟨⟨_, rfl, ?_⟩, ⟨_, String.ofList_append.symm, ?_⟩, ⟨_, rfl, ?_⟩, ⟨_, rfl, ?_⟩,
    ⟨_, rfl, ?_⟩, ⟨_, String.ofList_append.symm, ?_⟩, ⟨_, rfl, ?_⟩, ⟨_, rfl, ?_⟩,
    ⟨_, String.ofList_append.symm, ?_⟩, ⟨_, rfl, ?_⟩⟩ <;> decide +kernel

/-- **The templates of messages have letters between their places.** -/
theorem separated_messageTemplates {template : MessageTemplate}
    (h : template ∈ messageTemplates) :
    separated (templateParts template.text.toList) = true := by
  obtain ⟨cs, htext, hseparated⟩ := exists_separated_messageTemplates template h
  rwa [htext, String.toList_ofList]

/-- A code has one template. -/
theorem messageTemplate?_code :
    ∀ template ∈ messageTemplates, messageTemplate? template.code = some template := by
  simp [messageTemplates, messageTemplate?]

/-- **When a message quotes its arguments.** Each place of the template is filled in by itself, with
its argument into which the later ones are filled. So the message is the template with the arguments
at their places if and only if no argument with a place is changed by later ones; in particular it
is when no argument has the placeholder of a later one. -/
theorem Diagnostic.message_quotes_iff {template : MessageTemplate}
    (htemplate : template ∈ messageTemplates) (element? : Option String)
    (arguments : List String) :
    let diagnostic := Diagnostic.ofCode template.code element? arguments
    let parts := templateParts template.text.toList
    diagnostic.message = fillPlaces (filledArgumentAt arguments) template.text
    ∧ (diagnostic.message = fillAtOnce template.text arguments ↔
      ∀ index argument, .place index ∈ parts → arguments[index]? = some argument →
        fillFrom (index + 1) argument (arguments.drop (index + 1)) = argument)
    ∧ ((∀ index argument, .place index ∈ parts → arguments[index]? = some argument →
        ∀ later, index < later → later < arguments.length →
          ¬ (placeholder later).toList <:+: argument.toList) →
      diagnostic.message = fillAtOnce template.text arguments) := by
  intro diagnostic parts
  have hseparated := separated_messageTemplates htemplate
  have hmessage : diagnostic.message = fillTemplate template.text arguments := by
    simp only [diagnostic, ofCode, messageTemplate?_code template htemplate]
  have hiff : fillTemplate template.text arguments = fillAtOnce template.text arguments ↔
      ∀ index argument, .place index ∈ parts → arguments[index]? = some argument →
        fillFrom (index + 1) argument (arguments.drop (index + 1)) = argument := by
    simp only [fillTemplate_eq_fillAtOnce_iff hseparated, filledArgumentAt_eq_iff]
    exact ⟨fun h index argument hplace => h index hplace argument,
      fun h index hplace argument => h index argument hplace⟩
  rw [hmessage]
  refine ⟨fillTemplate_eq_fillPlaces hseparated arguments, hiff, fun h => hiff.2 ?_⟩
  intro index argument hplace hargument
  refine fillFrom_of_not_within fun later hle hlt => ?_
  rw [List.length_drop] at hlt
  exact h index argument hplace hargument later (by omega) (by omega)

/-- The template for type expressions that cannot be read. -/
def malformedTypeTemplate : MessageTemplate :=
  ⟨5001, .error, "Malformed type expression '{0}': {1}"⟩

/-- Braces and the argument's own placeholder do no harm. -/
theorem Diagnostic.message_quotes_iff_braces :
    let arguments := ["\x7b{0}\x7d", "unexpected character '\x7b' at offset 0"]
    let diagnostic := Diagnostic.ofCode 5001 (some "model.Relation#getLeft") arguments
    malformedTypeTemplate ∈ messageTemplates
    ∧ diagnostic.message =
      "Malformed type expression '\x7b{0}\x7d': unexpected character '\x7b' at offset 0"
    ∧ diagnostic.message = fillAtOnce malformedTypeTemplate.text arguments := by
  intro arguments diagnostic
  have htemplate : malformedTypeTemplate ∈ messageTemplates := by
    simp [malformedTypeTemplate, messageTemplates]
  obtain ⟨-, hiff, -⟩ :=
    message_quotes_iff htemplate (some "model.Relation#getLeft") arguments
  refine ⟨htemplate, by decide +kernel, hiff.2 fun index argument _ hargument => ?_⟩
  match index with
  | 0 =>
    cases hargument
    decide +kernel
  | 1 =>
    cases hargument
    rfl
  | _ + 2 => cases hargument

/-- A type with a token accessor that returns the given type. -/
def relationReturning (returnType : String) : TypeDeclaration where
  name := "Relation"
  packageName := "model"
  visibility := .everywhere
  typeParameters := [⟨"A", []⟩]
  superclass? := none
  markers := []
  members := [⟨"getLeft", .method, some returnType, [], [], [.typeToken]⟩]

/-- **A type expression that is a placeholder is not quoted**: the reason why it cannot be read
stands in its place. -/
theorem Diagnostic.placeholder_not_quoted :
    ∃ diagnostic ∈ (⟨[relationReturning "{1}"]⟩ : Manifest).collect.diagnostics,
      diagnostic = .ofCode 5001 (some "model.Relation#getLeft")
        ["{1}", "unexpected character '\x7b' at offset 0"]
      ∧ diagnostic.message = "Malformed type expression "
        ++ "'unexpected character '\x7b' at offset 0': unexpected character '\x7b' at offset 0"
      ∧ diagnostic.message ≠ fillAtOnce malformedTypeTemplate.text
        ["{1}", "unexpected character '\x7b' at offset 0"] := by
  decide +kernel

end TypeWitness
