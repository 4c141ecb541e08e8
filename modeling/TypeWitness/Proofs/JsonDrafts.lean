import TypeWitness.Json.Draft
import TypeWitness.Proofs.JsonScanning

/-! # Drafts of written JSON
A written value is put together again as it was: the draft of its text is the draft of the value,
complete and with nothing behind it.

* `Assembly.run_toTokens` — the tokens of a value, in any place where a value may stand, are put
  together to its draft.
* `Document.ofText_pretty_append` — the draft of a written text with white space behind it. -/

namespace TypeWitness.Json

/-! ## The draft of a value -/

mutual
/-- The draft of a value. -/
def toDraft : Json → Draft
  | null => .null
  | bool value => .bool value
  | number value => .number (.ofNat value)
  | string text => .string (.ok text)
  | array items => .array (itemDrafts items)
  | object fields => .object (fieldDrafts fields)

/-- The drafts of the items of an array. -/
def itemDrafts : List Json → DraftItems
  | [] => .stop none
  | item :: items => .item item.toDraft (itemDrafts items)

/-- The drafts of the fields of an object. -/
def fieldDrafts : List (String × Json) → DraftFields
  | [] => .stop none
  | (key, value) :: fields => .field (.text (.ok key)) value.toDraft (fieldDrafts fields)
end

namespace Assembly

/-- Take in a token after which the text can go on. -/
theorem run_cons {state next : Assembly} {token : Token} (h : state.step token = .ok next)
    (tokens : List Token) : state.run (token :: tokens) = next.run tokens := by
  rw [run, h]

/-- In front of an item there may be anything in an array, unless the array ends right away. -/
theorem run_firstItem {token : Token} (htoken : token ≠ .closeBracket) (stack : List Frame)
    (tokens : List Token) :
    run ⟨.firstItem, stack⟩ (token :: tokens) =
      run ⟨.value, .items [] :: stack⟩ (token :: tokens) := by
  rw [run, run]
  cases token <;> first | rfl | exact absurd rfl htoken

end Assembly

/-- No value begins with the end of an array. -/
theorem exists_toTokens_eq_cons (json : Json) :
    ∃ token tokens, json.toTokens = token :: tokens ∧ token ≠ .closeBracket := by
  match json with
  | null | bool _ | number _ | string _ => exact ⟨_, _, rfl, nofun⟩
  | array [] | array (_ :: _) | object [] | object ((_, _) :: _) => exact ⟨_, _, rfl, nofun⟩

mutual
/-- **The tokens of a value are put together to its draft**, wherever a value may stand. -/
theorem Assembly.run_toTokens (json : Json) (stack : List Frame) (rest : List Token) :
    Assembly.run ⟨.value, stack⟩ (json.toTokens ++ rest) =
      Assembly.run ⟨.after json.toDraft, stack⟩ rest := by
  match json with
  | null | bool _ | number _ | string _ | array [] | object [] => rfl
  | array (item :: items) =>
    rw [toTokens, List.cons_append, Assembly.run_cons rfl]
    obtain ⟨token, tokens, hitem, htoken⟩ := exists_toTokens_eq_cons item
    rw [List.append_assoc, List.append_assoc, hitem, List.cons_append,
      Assembly.run_firstItem htoken, ← List.cons_append, ← hitem, Assembly.run_toTokens item,
      List.singleton_append, Assembly.run_itemTokens item.toDraft items]
    rfl
  | object ((key, value) :: fields) =>
    rw [toTokens, List.cons_append, Assembly.run_cons rfl, List.cons_append, Assembly.run_cons rfl,
      List.cons_append, Assembly.run_cons rfl, List.append_assoc, List.append_assoc,
      Assembly.run_toTokens value, List.singleton_append,
      Assembly.run_fieldTokens (.text (.ok key)) value.toDraft fields]
    rfl

/-- The tokens of further items and the end of their array complete the array. -/
theorem Assembly.run_itemTokens (last : Draft) (items : List Json) (before : List Draft)
    (stack : List Frame) (rest : List Token) :
    Assembly.run ⟨.after last, .items before :: stack⟩ (itemTokens items ++ .closeBracket :: rest) =
      Assembly.run
        ⟨.after (.array (.ofReverse (.item last (itemDrafts items)) before)), stack⟩ rest := by
  match items with
  | [] => rfl
  | item :: items =>
    rw [itemTokens, List.cons_append, Assembly.run_cons rfl, List.append_assoc,
      Assembly.run_toTokens item, Assembly.run_itemTokens item.toDraft items]
    rfl

/-- The tokens of further fields and the end of their object complete the object. -/
theorem Assembly.run_fieldTokens (key : Key) (last : Draft) (fields : List (String × Json))
    (before : List (Key × Draft)) (stack : List Frame) (rest : List Token) :
    Assembly.run ⟨.after last, .field before key :: stack⟩
        (fieldTokens fields ++ .closeBrace :: rest) =
      Assembly.run
        ⟨.after (.object (.ofReverse (.field key last (fieldDrafts fields)) before)), stack⟩
        rest := by
  match fields with
  | [] => rfl
  | (name, value) :: fields =>
    rw [fieldTokens, List.cons_append, Assembly.run_cons rfl, List.cons_append,
      Assembly.run_cons rfl, List.cons_append, Assembly.run_cons rfl, List.append_assoc,
      Assembly.run_toTokens value, Assembly.run_fieldTokens (.text (.ok name)) value.toDraft fields]
    rfl
end

/-! ## The draft of a written text -/

theorem tokens_of_isSpace {cs : List Char} (h : ∀ c ∈ cs, isSpace c = true) : tokens cs = [] := by
  induction cs with
  | nil => simp [tokens]
  | cons c cs ih =>
    rw [List.forall_mem_cons] at h
    rw [tokens_cons_of_isSpace h.1, ih h.2]

/-- No number goes on with white space. -/
theorem endsNumber_of_isSpace {cs : List Char} (h : ∀ c ∈ cs, isSpace c = true) :
    EndsNumber cs := by
  cases cs with
  | nil => trivial
  | cons c cs =>
    have hspace : c = ' ' ∨ c = '\n' ∨ c = '\t' ∨ c = '\r' := by
      simpa [isSpace, or_assoc] using h c List.mem_cons_self
    rcases hspace with rfl | rfl | rfl | rfl <;> exact ⟨by decide, by decide, by decide, by decide⟩

/-- **The draft of a written text is the draft of the value**, and nothing is left behind it, also
when white space follows. -/
theorem Document.ofText_pretty_append (json : Json) {ending : String}
    (h : ∀ c ∈ ending.toList, isSpace c = true) :
    Document.ofText (json.pretty ++ ending) = ⟨json.toDraft, false⟩ := by
  have htokens := tokens_render 0 json (endsNumber_of_isSpace h)
  rw [Document.ofText, pretty, String.toList_append, htokens, Assembly.run_toTokens,
    tokens_of_isSpace h]
  simp [Assembly.run, Assembly.finish, abandonOpen]

/-- **The draft of a written text is the draft of the value**, and nothing is left behind it. -/
theorem Document.ofText_pretty (json : Json) :
    Document.ofText json.pretty = ⟨json.toDraft, false⟩ := by
  rw [← json.pretty.append_empty]
  exact Document.ofText_pretty_append json (by simp)

end TypeWitness.Json
