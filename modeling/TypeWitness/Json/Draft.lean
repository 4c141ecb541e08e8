import TypeWitness.Json.Token

/-! # JSON text as far as it goes
A draft is the tree that a JSON text spells, cut off at the first place where the text is wrong. A
reader that walks a draft in the order of the text therefore meets the first problem first, be it
one of form, which sits in the draft, or one of shape, which the reader finds itself. -/

namespace TypeWitness.Json

/-- The key of a field. -/
inductive Key where
  /-- A quoted text, and what it says when somebody wants to know. -/
  | text (content : Except Fault String)
  /-- No key can be read here. -/
  | broken (flaw : Flaw)

mutual
/-- A JSON value as far as it goes. -/
inductive Draft where
  | null
  | bool (value : Bool)
  | number (numeral : Numeral)
  | string (content : Except Fault String)
  | array (items : DraftItems)
  | object (fields : DraftFields)
  /-- No value can be read here. -/
  | broken (flaw : Flaw)

/-- The items of an array. -/
inductive DraftItems where
  /-- The array is closed, or its end is missing. -/
  | stop (missing : Option Fault)
  | item (value : Draft) (rest : DraftItems)

/-- The fields of an object. -/
inductive DraftFields where
  /-- The object is closed, or its end is missing. -/
  | stop (missing : Option Fault)
  | field (key : Key) (value : Draft) (rest : DraftFields)
end

/-- A whole text: its value, and whether something follows it. -/
structure Document where
  value : Draft
  trailing : Bool

/-! ## Assembling a draft -/

/-- The items of an array, from its last item on backwards. -/
def DraftItems.ofReverse (items : DraftItems) : List Draft → DraftItems
  | [] => items
  | value :: before => DraftItems.ofReverse (.item value items) before

/-- The fields of an object, from its last field on backwards. -/
def DraftFields.ofReverse (fields : DraftFields) : List (Key × Draft) → DraftFields
  | [] => fields
  | (key, value) :: before => DraftFields.ofReverse (.field key value fields) before

/-- An array or an object that is still open. -/
inductive Frame where
  /-- An array with the items before the present one, the last one first. -/
  | items (before : List Draft)
  /-- An object with the fields before the present one, the last one first, and the present key. -/
  | field (before : List (Key × Draft)) (key : Key)

/-- What may come next in a JSON text. -/
inductive Phase where
  /-- A value. -/
  | value
  /-- The first item of an array, or its end. -/
  | firstItem
  /-- The first key of an object, or its end. -/
  | firstKey
  /-- A further key of an object. -/
  | nextKey (before : List (Key × Draft))
  /-- The colon behind a key. -/
  | colon (before : List (Key × Draft)) (key : Key)
  /-- What follows a complete value. -/
  | after (value : Draft)

/-- The state between two tokens. -/
structure Assembly where
  phase : Phase
  stack : List Frame

/-- The draft of a text that is wrong behind or within a value: what is open stays as it is. -/
def abandon (value : Draft) : List Frame → Draft
  | [] => value
  | .items before :: stack => abandon (.array (.ofReverse (.item value (.stop none)) before)) stack
  | .field before key :: stack =>
    abandon (.object (.ofReverse (.field key value (.stop none)) before)) stack

/-- The innermost array or object lacks its end. -/
def abandonOpen (value : Draft) (fault : Fault) : List Frame → Draft
  | [] => value
  | .items before :: stack =>
    abandon (.array (.ofReverse (.item value (.stop (some fault))) before)) stack
  | .field before key :: stack =>
    abandon (.object (.ofReverse (.field key value (.stop (some fault))) before)) stack

/-- The innermost object lacks a key. -/
def abandonKey (before : List (Key × Draft)) (flaw : Flaw) (stack : List Frame) : Draft :=
  abandon (.object (.ofReverse (.field (.broken flaw) .null (.stop none)) before)) stack

/-- What is wrong with a token in the place of a key, which must be a quoted text. -/
def Token.keyFlaw : Token → Flaw
  | .brokenString flaw => flaw
  | _ => Flaw.always .malformed

/-- The state after a token, or the whole draft when nothing can follow. -/
def Assembly.step (state : Assembly) (token : Token) : Except Document Assembly :=
  let value (stack : List Frame) : Except Document Assembly :=
    match token with
    | .null => .ok ⟨.after .null, stack⟩
    | .bool value => .ok ⟨.after (.bool value), stack⟩
    | .number numeral => .ok ⟨.after (.number numeral), stack⟩
    | .string content => .ok ⟨.after (.string content), stack⟩
    | .openBracket => .ok ⟨.firstItem, stack⟩
    | .openBrace => .ok ⟨.firstKey, stack⟩
    | .brokenScalar flaw | .brokenString flaw => .error ⟨abandon (.broken flaw) stack, false⟩
    | _ => .error ⟨abandon (.broken (Flaw.always .malformed)) stack, false⟩
  let key (before : List (Key × Draft)) : Except Document Assembly :=
    match token with
    | .string content => .ok ⟨.colon before (.text content), state.stack⟩
    | token => .error ⟨abandonKey before token.keyFlaw state.stack, false⟩
  match state.phase with
  | .value => value state.stack
  | .firstItem =>
    match token with
    | .closeBracket => .ok ⟨.after (.array (.stop none)), state.stack⟩
    | _ => value (.items [] :: state.stack)
  | .firstKey =>
    match token with
    | .closeBrace => .ok ⟨.after (.object (.stop none)), state.stack⟩
    | _ => key []
  | .nextKey before => key before
  | .colon before name =>
    match token with
    | .colon => .ok ⟨.value, .field before name :: state.stack⟩
    | _ =>
      .error ⟨abandon (.broken (Flaw.always .malformed)) (.field before name :: state.stack), false⟩
  | .after last =>
    match state.stack, token with
    | [], _ => .error ⟨last, true⟩
    | .items before :: stack, .comma => .ok ⟨.value, .items (last :: before) :: stack⟩
    | .items before :: stack, .closeBracket =>
      .ok ⟨.after (.array (.ofReverse (.item last (.stop none)) before)), stack⟩
    | .field before name :: stack, .comma => .ok ⟨.nextKey ((name, last) :: before), stack⟩
    | .field before name :: stack, .closeBrace =>
      .ok ⟨.after (.object (.ofReverse (.field name last (.stop none)) before)), stack⟩
    | stack, _ => .error ⟨abandonOpen last .malformed stack, false⟩

/-- The draft of a text that ends here. -/
def Assembly.finish (state : Assembly) : Document :=
  let truncated := Flaw.always .truncated
  match state.phase with
  | .value => ⟨abandon (.broken truncated) state.stack, false⟩
  | .firstItem => ⟨abandon (.array (.stop (some .truncated))) state.stack, false⟩
  | .firstKey => ⟨abandonKey [] truncated state.stack, false⟩
  | .nextKey before => ⟨abandonKey before truncated state.stack, false⟩
  | .colon before name => ⟨abandon (.broken truncated) (.field before name :: state.stack), false⟩
  | .after last => ⟨abandonOpen last .truncated state.stack, false⟩

/-- Take in all tokens of a text. -/
def Assembly.run : Assembly → List Token → Document
  | state, [] => state.finish
  | state, token :: tokens =>
    match state.step token with
    | .ok next => next.run tokens
    | .error document => document

/-- The draft of a text. -/
def Document.ofText (text : String) : Document :=
  Assembly.run ⟨.value, []⟩ (tokens text.toList)

end TypeWitness.Json
