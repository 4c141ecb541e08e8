import TypeWitness.Proofs.JsonRecords
import TypeWitness.Settings.Json

/-! # Writing and reading configurations
The text of a configuration is read back as the same configuration. The width of the indentation is
the one thing that can stand in the way: a reader takes no number that does not fit into 64 bits. It
therefore never comes to a configuration with such a number either, so whatever has been read can be
written and read again.

* `Configuration.isReadable_of_ofText` — a configuration that has been read is readable.
* `Configuration.ofText_pretty_iff` — the text of a configuration is read back as the configuration
  exactly if it is readable. -/

namespace TypeWitness

open Json

/-! ## Numbers -/

namespace Json

/-- The first digits of a number are all of them when the number is small. -/
theorem leadingDigits_of_lt {digits : List Char} {value : Nat}
    (h : Nat.ofDigitChars 10 digits value < UInt64.size) :
    leadingDigits value digits = (Nat.ofDigitChars 10 digits value, []) := by
  induction digits generalizing value with
  | nil => rfl
  | cons c digits ih =>
    rw [Nat.ofDigitChars_cons, Nat.mul_comm] at h ⊢
    have hgrows : value * 10 + (c.toNat - '0'.toNat) ≤
        Nat.ofDigitChars 10 digits (value * 10 + (c.toNat - '0'.toNat)) := by
      rw [Nat.ofDigitChars_eq_ofDigitChars_zero]
      exact Nat.le_add_right_of_le (Nat.le_mul_of_pos_left _ (Nat.pow_pos (by decide)))
    rw [leadingDigits, if_pos (Nat.lt_of_le_of_lt hgrows h), ih h]

/-- A written number is a word if it is small enough. -/
theorem Numeral.word?_ofNat {value : Nat} (h : value < UInt64.size) :
    (Numeral.ofNat value).word? = some value := by
  have hvalue : Nat.ofDigitChars 10 (Nat.toDigits 10 value) 0 = value :=
    Nat.ofDigitChars_ten_toDigits
  have hleading := leadingDigits_of_lt (hvalue.symm ▸ h)
  simp [Numeral.ofNat, Numeral.ofDigits, hleading, hvalue]

/-- A written number is read back if it is small enough. -/
theorem readWord_number {value : Nat} (h : value < UInt64.size) :
    Draft.readWord (number value).toDraft = .ok value := by
  simp only [toDraft, Draft.readWord, Numeral.word?_ofNat h]

/-- A word that is read fits into 64 bits. -/
theorem Draft.lt_of_readWord {draft : Draft} {word : Nat} (h : draft.readWord = .ok word) :
    word < UInt64.size := by
  cases draft with
  | number numeral =>
    rw [readWord] at h
    split at h
    · next hvalue =>
      cases h
      exact numeral.word_lt word hvalue
    · cases h
  | _ => cases h

/-- A value that may be `null` is read as a value is. -/
theorem Draft.of_readOption {α : Type} {read : Draft → Except Fault α} {draft : Draft} {value : α}
    (h : draft.readOption read = .ok (some value)) : read draft = .ok value := by
  unfold readOption at h
  split at h
  · cases h
  · cases h
  · cases hread : read draft with
    | error => rw [hread] at h; cases h
    | ok => rw [hread] at h; cases h; rfl

/-! ## What holds of everything that is read -/

section

variable {ρ : Type} {P : ρ → Prop} {fields : List (RecordField ρ)}

theorem DraftFields.readRecord_preserves
    (hstore : ∀ field ∈ fields, ∀ {record draft next}, P record →
      field.store record draft = .ok next → P next) :
    ∀ (draft : DraftFields) {record result : ρ} {seen : List String}, P record →
      draft.readRecord fields record seen = .ok result → P result
  | .stop missing, record, result, seen, hrecord, h => by
    rw [readRecord] at h
    cases missing with
    | some => cases h
    | none =>
      simp only [endOf, bind, Except.bind] at h
      split at h <;> cases h
      exact hrecord
  | .field (.broken _) _ _, _, _, _, _, h => by cases h
  | .field (.text (.error _)) _ _, _, _, _, _, h => by cases h
  | .field (.text (.ok name)) value rest, record, result, seen, hrecord, h => by
    rw [readRecord] at h
    split at h
    · cases hskip : value.skip with
      | error => rw [hskip] at h; cases h
      | ok => rw [hskip] at h; exact rest.readRecord_preserves hstore hrecord h
    · next field hfield =>
      split at h
      · cases h
      · cases hnext : field.store record value with
        | error => rw [hnext] at h; cases h
        | ok next =>
          rw [hnext] at h
          exact rest.readRecord_preserves hstore
            (hstore field (List.mem_of_find?_eq_some hfield) hrecord hnext) h

theorem DraftItems.readRecord_preserves :
    ∀ (fields : List (RecordField ρ)), (∀ field ∈ fields, ∀ {record draft next}, P record →
      field.store record draft = .ok next → P next) →
    ∀ (draft : DraftItems) {record result : ρ}, P record →
      draft.readRecord record fields = .ok result → P result
  | fields, hstore, .stop missing, record, result, hrecord, h => by
    rw [readRecord] at h
    cases missing with
    | some => cases h
    | none =>
      simp only [endOf, bind, Except.bind] at h
      split at h <;> cases h
      exact hrecord
  | [], _, .item _ _, _, _, _, h => by cases h
  | field :: fields, hstore, .item value rest, record, result, hrecord, h => by
    rw [List.forall_mem_cons] at hstore
    rw [readRecord] at h
    cases hnext : field.store record value with
    | error => rw [hnext] at h; cases h
    | ok next =>
      rw [hnext] at h
      exact rest.readRecord_preserves fields hstore.2 (hstore.1 hrecord hnext) h

/-- **What every field keeps holds of every record that is read**, if it holds of the one that
reading starts from. -/
theorem Draft.readRecord_preserves (hstore : ∀ field ∈ fields, ∀ {record draft next}, P record →
    field.store record draft = .ok next → P next) {draft : Draft} {blank result : ρ}
    (hblank : P blank) (h : Draft.readRecord fields blank draft = .ok result) : P result := by
  cases draft with
  | object content => exact content.readRecord_preserves hstore hblank h
  | array items => exact items.readRecord_preserves fields hstore hblank h
  | _ => cases h

end

/-- What holds of a record with any value that is read for a field holds of the record that comes
of it. -/
theorem of_store {α ρ : Type} {P : ρ → Prop} {read : Except Fault α} {set : α → ρ} {next : ρ}
    (hset : ∀ value, read = .ok value → P (set value))
    (h : (do return set (← read)) = Except.ok next) : P next := by
  cases hread : read with
  | error => rw [hread] at h; cases h
  | ok value => rw [hread] at h; cases h; exact hset value hread

end Json

/-! ## Readable configurations -/

/-- The width of the indentation fits into 64 bits. -/
def ConfigurationOptions.IsReadable (options : ConfigurationOptions) : Prop :=
  ∀ width ∈ options.indentWidth?, width < UInt64.size

/-- The options of the configuration are readable, if it has some. -/
def Configuration.IsReadable (configuration : Configuration) : Prop :=
  ∀ options ∈ configuration.options?, options.IsReadable

theorem ConfigurationOptions.isReadable_of_read {draft : Draft} {options : ConfigurationOptions}
    (h : ConfigurationOptions.read draft = .ok options) : options.IsReadable := by
  refine Draft.readRecord_preserves (P := IsReadable) ?_ (by simp [IsReadable, empty]) h
  simp only [fields, List.forall_mem_cons, List.not_mem_nil, false_imp_iff, implies_true, and_true]
  have hother : ∀ {α : Type} {read : Except Fault α} {record next : ConfigurationOptions}
      {set : α → ConfigurationOptions}, (∀ value, (set value).indentWidth? = record.indentWidth?) →
      record.IsReadable → (do return set (← read)) = Except.ok next → next.IsReadable :=
    fun hset hrecord => of_store fun value _ => by rw [IsReadable, hset]; exact hrecord
  refine ⟨hother fun _ => rfl, hother fun _ => rfl, hother fun _ => rfl, fun _ => of_store ?_,
    hother fun _ => rfl, hother fun _ => rfl, hother fun _ => rfl, hother fun _ => rfl,
    hother fun _ => rfl⟩
  rintro width? hwidth width rfl
  exact Draft.lt_of_readWord (Draft.of_readOption hwidth)

theorem Configuration.isReadable_empty : Configuration.empty.IsReadable := by
  simp [IsReadable, empty]

/-- **A configuration that has been read is readable.** -/
theorem Configuration.isReadable_of_ofText {text : String} {configuration : Configuration}
    (h : Configuration.ofText text = .ok configuration) : configuration.IsReadable := by
  have hread : Draft.readRecord fields .empty (Document.ofText text).value = .ok configuration := by
    rw [Configuration.ofText, readText] at h
    cases hvalue : Draft.readRecord fields .empty (Document.ofText text).value with
    | error => rw [hvalue] at h; cases h
    | ok =>
      rw [hvalue] at h
      simp only [bind, Except.bind] at h
      split at h <;> cases h
      rfl
  refine Draft.readRecord_preserves (P := IsReadable) ?_ isReadable_empty hread
  simp only [fields, List.forall_mem_cons, List.not_mem_nil, false_imp_iff, implies_true, and_true]
  refine ⟨fun hrecord => of_store fun _ _ => hrecord, fun _ => of_store ?_⟩
  rintro options? hoptions options rfl
  exact ConfigurationOptions.isReadable_of_read (Draft.of_readOption hoptions)

/-! ## Reading back -/

/-- Written options are read back. -/
theorem ConfigurationOptions.read_toJson {options : ConfigurationOptions} (h : options.IsReadable) :
    ConfigurationOptions.read options.toJson.toDraft = .ok options := by
  let ⟨outDir?, noEmit?, newLine?, indentWidth?, signatureStyle?, holderName?, castName?,
    partialCastPrefix?, suppressUnchecked?⟩ := options
  have houtDir : Stores fields ["outDir"] (optionalField "outDir" (outDir?.map string)) empty
      { empty with outDir? } :=
    .optionalField (Draft.readOption Draft.readString) ({ empty with outDir? := · }) (fun _ => rfl)
      fun _ _ => rfl
  have hnoEmit : Stores fields ["noEmit"] (optionalField "noEmit" (noEmit?.map bool))
      { empty with outDir? } { empty with outDir?, noEmit? } :=
    .optionalField (Draft.readOption Draft.readBool) ({ empty with outDir?, noEmit? := · })
      (fun _ => rfl) fun _ _ => rfl
  have hnewLine : Stores fields ["newLine"]
      (optionalField "newLine" (newLine?.map fun newLine => string newLine.name))
      { empty with outDir?, noEmit? } { empty with outDir?, noEmit?, newLine? } :=
    .optionalField (Draft.readOption (Draft.readAlternative configurationNewLineNames))
      ({ empty with outDir?, noEmit?, newLine? := · }) (fun _ => rfl)
      fun newLine _ => by cases newLine <;> rfl
  have hindentWidth : Stores fields ["indentWidth"]
      (optionalField "indentWidth" (indentWidth?.map number))
      { empty with outDir?, noEmit?, newLine? }
      { empty with outDir?, noEmit?, newLine?, indentWidth? } :=
    .optionalField (Draft.readOption Draft.readWord)
      ({ empty with outDir?, noEmit?, newLine?, indentWidth? := · }) (fun _ => rfl)
      fun width hwidth => by exact congrArg (Except.map some) (readWord_number (h width hwidth))
  have hsignatureStyle : Stores fields ["signatureStyle"]
      (optionalField "signatureStyle" (signatureStyle?.map fun style => string style.name))
      { empty with outDir?, noEmit?, newLine?, indentWidth? }
      { empty with outDir?, noEmit?, newLine?, indentWidth?, signatureStyle? } :=
    .optionalField (Draft.readOption (Draft.readAlternative signatureStyleNames))
      ({ empty with outDir?, noEmit?, newLine?, indentWidth?, signatureStyle? := · })
      (fun _ => rfl) fun style _ => by cases style <;> rfl
  have hholderName : Stores fields ["holderName"]
      (optionalField "holderName" (holderName?.map string))
      { empty with outDir?, noEmit?, newLine?, indentWidth?, signatureStyle? }
      { empty with outDir?, noEmit?, newLine?, indentWidth?, signatureStyle?, holderName? } :=
    .optionalField (Draft.readOption Draft.readString)
      ({ empty with
        outDir?, noEmit?, newLine?, indentWidth?, signatureStyle?, holderName? := · })
      (fun _ => rfl) fun _ _ => rfl
  have hcastName : Stores fields ["castName"] (optionalField "castName" (castName?.map string))
      { empty with outDir?, noEmit?, newLine?, indentWidth?, signatureStyle?, holderName? }
      ⟨outDir?, noEmit?, newLine?, indentWidth?, signatureStyle?, holderName?, castName?, none,
        none⟩ :=
    .optionalField (Draft.readOption Draft.readString)
      (mk outDir? noEmit? newLine? indentWidth? signatureStyle? holderName? · none none)
      (fun _ => rfl) fun _ _ => rfl
  have hpartialCastPrefix : Stores fields ["partialCastPrefix"]
      (optionalField "partialCastPrefix" (partialCastPrefix?.map string))
      ⟨outDir?, noEmit?, newLine?, indentWidth?, signatureStyle?, holderName?, castName?, none,
        none⟩
      ⟨outDir?, noEmit?, newLine?, indentWidth?, signatureStyle?, holderName?, castName?,
        partialCastPrefix?, none⟩ :=
    .optionalField (Draft.readOption Draft.readString)
      (mk outDir? noEmit? newLine? indentWidth? signatureStyle? holderName? castName? · none)
      (fun _ => rfl) fun _ _ => rfl
  have hsuppressUnchecked : Stores fields ["suppressUnchecked"]
      (optionalField "suppressUnchecked" (suppressUnchecked?.map bool))
      ⟨outDir?, noEmit?, newLine?, indentWidth?, signatureStyle?, holderName?, castName?,
        partialCastPrefix?, none⟩
      ⟨outDir?, noEmit?, newLine?, indentWidth?, signatureStyle?, holderName?, castName?,
        partialCastPrefix?, suppressUnchecked?⟩ :=
    .optionalField (Draft.readOption Draft.readBool)
      (mk outDir? noEmit? newLine? indentWidth? signatureStyle? holderName? castName?
        partialCastPrefix? ·)
      (fun _ => rfl) fun _ _ => rfl
  exact (((((((houtDir.append hnoEmit).append hnewLine).append hindentWidth).append
    hsignatureStyle).append hholderName).append hcastName).append hpartialCastPrefix).append
    hsuppressUnchecked |>.readRecord_eq_ok (by decide) (by simp [fields])

/-- A written configuration is read back. -/
theorem Configuration.read_toJson {configuration : Configuration} (h : configuration.IsReadable) :
    Draft.readRecord fields .empty configuration.toJson.toDraft = .ok configuration := by
  let ⟨manifest?, options?⟩ := configuration
  have hmanifest : Stores fields ["manifest"] (optionalField "manifest" (manifest?.map string))
      empty ⟨manifest?, none⟩ :=
    .optionalField (Draft.readOption Draft.readString) (mk · none) (fun _ => rfl) fun _ _ => rfl
  have hoptions : Stores fields ["generatorOptions"]
      (optionalField "generatorOptions" (options?.map (·.toJson))) ⟨manifest?, none⟩
      ⟨manifest?, options?⟩ :=
    .optionalField (Draft.readOption ConfigurationOptions.read) (mk manifest?) (fun _ => rfl)
      fun options hoptions => congrArg (Except.map some)
        (ConfigurationOptions.read_toJson (h options hoptions))
  exact (hmanifest.append hoptions).readRecord_eq_ok (by decide) (by simp [fields])

/-- **The text of a configuration is read back as the configuration exactly if it is readable**,
also when white space follows. -/
theorem Configuration.ofText_pretty_iff {configuration : Configuration} {ending : String}
    (hending : ∀ c ∈ ending.toList, isSpace c = true) :
    Configuration.ofText (configuration.toJson.pretty ++ ending) = .ok configuration ↔
      configuration.IsReadable := by
  refine ⟨isReadable_of_ofText, fun h => ?_⟩
  rw [Configuration.ofText, readText_pretty_append _ _ hending, read_toJson h]

/-- The text of a readable configuration is read back. -/
theorem Configuration.ofText_pretty {configuration : Configuration} (h : configuration.IsReadable) :
    Configuration.ofText configuration.toJson.pretty = .ok configuration := by
  rw [← configuration.toJson.pretty.append_empty]
  exact (ofText_pretty_iff (by simp)).2 h

end TypeWitness
