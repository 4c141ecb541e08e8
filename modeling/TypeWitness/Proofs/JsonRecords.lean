import TypeWitness.Json.Reader
import TypeWitness.Proofs.JsonDrafts

/-! # Reading written JSON
What a reader makes of the draft of a written value. An object that is read into a record stores its
fields one after the other, and a field that is left out stays as it was, which is the way in which
empty lists and absent values are written.

* `readRecord_fieldDrafts` — an object with fields of different names stores each of them in turn.
* `Stores.optionalField`, `Stores.nonemptyField` — a field that may be left out is stored all the
  same, when the record already holds what its absence stands for.
* `readText_pretty_append` — a written text is read like the value that it spells. -/

namespace TypeWitness.Json

variable {α ρ : Type}

/-- **A written text is read like the value that it spells**, also when white space follows. -/
theorem readText_pretty_append (read : Draft → Except Fault α) (json : Json) {ending : String}
    (h : ∀ c ∈ ending.toList, isSpace c = true) :
    readText read (json.pretty ++ ending) = read json.toDraft := by
  rw [readText, Document.ofText_pretty_append json h]
  cases read json.toDraft <;> rfl

/-- A written text is read like the value that it spells. -/
theorem readText_pretty (read : Draft → Except Fault α) (json : Json) :
    readText read json.pretty = read json.toDraft := by
  rw [readText, Document.ofText_pretty]
  cases read json.toDraft <;> rfl

/-! ## Lists -/

/-- A written list is read back when each of its items is. -/
theorem readList_toDraft {read : Draft → Except Fault α} {write : α → Json}
    (hread : ∀ item, read (write item).toDraft = .ok item) (items : List α) :
    Draft.readList read (array (items.map write)).toDraft = .ok items := by
  rw [toDraft, Draft.readList]
  induction items with
  | nil => rfl
  | cons item items ih =>
    rw [List.map_cons, itemDrafts, DraftItems.readAll, hread, ih]
    rfl

/-! ## Records -/

/-- What a written field makes of a record. -/
def storeField (fields : List (RecordField ρ)) (record : ρ) (written : String × Json) :
    Except Fault ρ :=
  match fields.find? (·.name == written.1) with
  | none => do
    written.2.toDraft.skip
    return record
  | some field => field.store record written.2.toDraft

/-- **An object with fields of different names stores each of them in turn**, when none of them has
been seen before and no required one is missing. -/
theorem readRecord_fieldDrafts {fields : List (RecordField ρ)} {written : List (String × Json)}
    {seen : List String} (hnodup : (written.map (·.1)).Nodup)
    (hunseen : ∀ name ∈ written.map (·.1), name ∉ seen)
    (hrequired : ∀ field ∈ fields, field.required = true →
      field.name ∈ seen ∨ field.name ∈ written.map (·.1)) (record : ρ) :
    (fieldDrafts written).readRecord fields record seen =
      written.foldlM (storeField fields) record := by
  induction written generalizing seen record with
  | nil =>
    have hnone : (fields.any fun field => field.required && !seen.contains field.name) = false := by
      simpa using hrequired
    simp only [fieldDrafts, DraftFields.readRecord, endOf, hnone]
    rfl
  | cons first written ih =>
    obtain ⟨name, value⟩ := first
    simp only [List.map_cons, List.nodup_cons, List.forall_mem_cons] at hnodup hunseen
    simp only [List.map_cons, List.mem_cons] at hrequired
    rw [fieldDrafts, DraftFields.readRecord, List.foldlM_cons, storeField]
    cases hfind : fields.find? (·.name == name) with
    | none =>
      have hunknown : ∀ field ∈ fields, field.name ≠ name := by simpa using hfind
      have hlater := ih hnodup.2 hunseen.2
        (fun field hmem hfield => (hrequired field hmem hfield).imp_right
          fun h => h.resolve_left (hunknown field hmem))
      simp only [hlater, bind_assoc, pure_bind]
    | some field =>
      have hstillUnseen : ∀ other ∈ written.map (·.1), other ∉ name :: seen := by
        intro other hmem
        rw [List.mem_cons, not_or]
        exact ⟨fun h => hnodup.1 (h ▸ hmem), hunseen.2 other hmem⟩
      have hlater := ih hnodup.2 hstillUnseen fun other hmem hother => by
        rw [List.mem_cons, or_assoc, or_left_comm]
        exact hrequired other hmem hother
      simp [hlater, hunseen.1]

/-- Fields with some of the given names, in their order, that turn a record into another one when
they are stored. -/
structure Stores (fields : List (RecordField ρ)) (names : List String)
    (written : List (String × Json)) (record result : ρ) : Prop where
  names : (written.map (·.1)).Sublist names
  stored : written.foldlM (storeField fields) record = .ok result

namespace Stores

variable {fields : List (RecordField ρ)} {names others : List String}
  {written front back : List (String × Json)} {record middle result : ρ}

/-- **A written object is read into the record that its fields make up**, when the fields have
different names and no required one is missing. -/
theorem readRecord_eq_ok (h : Stores fields names written record result) (hnames : names.Nodup)
    (hrequired : ∀ field ∈ fields, field.required = true → field.name ∈ written.map (·.1)) :
    Draft.readRecord fields record (object written).toDraft = .ok result := by
  rw [toDraft, Draft.readRecord, ← h.stored]
  exact readRecord_fieldDrafts (hnames.sublist h.names) (fun _ _ => List.not_mem_nil)
    (fun field hmem hfield => .inr (hrequired field hmem hfield)) record

/-- Fields are stored after those in front of them. -/
theorem append (hfront : Stores fields names front record middle)
    (hback : Stores fields others back middle result) :
    Stores fields (names ++ others) (front ++ back) record result where
  names := by
    rw [List.map_append]
    exact hfront.names.append hback.names
  stored := by
    rw [List.foldlM_append, hfront.stored]
    exact hback.stored

/-- A field that is always written is stored when its value is read. -/
theorem field {key : String} {json : Json} {value : α} (read : Draft → Except Fault α)
    (set : α → ρ) (hstore : storeField fields record (key, json) = (read json.toDraft).map set)
    (hread : read json.toDraft = .ok value) :
    Stores fields [key] [(key, json)] record (set value) where
  names := .refl _
  stored := by
    rw [List.foldlM_cons, hstore, hread]
    rfl

/-- A field that is written only when it is present is stored all the same, when the record already
holds what its absence stands for. -/
theorem optionalField {key : String} {write : α → Json} {value? : Option α}
    (read : Draft → Except Fault (Option α)) (set : Option α → ρ)
    (hstore : ∀ json, storeField fields (set none) (key, json) = (read json.toDraft).map set)
    (hread : ∀ value ∈ value?, read (write value).toDraft = .ok (some value)) :
    Stores fields [key] (Json.optionalField key (value?.map write)) (set none) (set value?) := by
  cases value? with
  | none => exact ⟨List.nil_sublist _, rfl⟩
  | some value => exact field read set (hstore (write value)) (hread value rfl)

/-- A list that is written only when it has items is stored all the same, when the record already
holds the empty list. -/
theorem nonemptyField {key : String} {write : α → Json} (read : Draft → Except Fault α)
    (set : List α → ρ)
    (hstore : ∀ json,
      storeField fields (set []) (key, json) = (Draft.readList read json.toDraft).map set)
    (hread : ∀ item, read (write item).toDraft = .ok item) (items : List α) :
    Stores fields [key] (Json.nonemptyField key (items.map write)) (set []) (set items) := by
  cases items with
  | nil => exact ⟨List.nil_sublist _, rfl⟩
  | cons item items =>
    exact field (Draft.readList read) set (hstore _) (readList_toDraft hread (item :: items))

end Stores

/-! ## Alternatives -/

/-- A written name of an alternative is read back when the name is the one of the alternative. -/
theorem readAlternative_string {names : List (String × α)} {name : String} {value : α}
    (hname : names.lookup name = some value) :
    Draft.readAlternative names (string name).toDraft = .ok value := by
  simp only [toDraft, Draft.readAlternative, Except.bind, alternative, hname]

end TypeWitness.Json
