import TypeWitness.TypeExpr.Basic
import TypeWitness.TypeExpr.Token

/-! # Reading type expressions
The reader takes one token after the other. Between two tokens its state is what may come next
together with the stack of enclosing types that are still open, so that each token either moves the
state on or is the first token that cannot stand where it stands. -/

namespace TypeWitness

/-- What a reader of type expressions may miss at a token. -/
inductive TypeExpectation where
  | identifier
  | closeAngle
  | closeBracket
  deriving DecidableEq, Repr

/-- Why a text is no type expression. -/
inductive TypeError where
  /-- The text holds no token. -/
  | empty
  /-- A character begins no token. -/
  | strayCharacter (char : Char) (offset : Nat)
  /-- Something else is needed at the offset. -/
  | expected (what : TypeExpectation) (offset : Nat)
  /-- A primitive type stands as a type argument. -/
  | primitiveArgument (name : String)
  /-- The type is complete before the offset. -/
  | trailing (offset : Nat)
  deriving DecidableEq, Repr

/-- The wording of what is missing. -/
def TypeExpectation.describe : TypeExpectation → String
  | identifier => "identifier"
  | closeAngle => "'>'"
  | closeBracket => "']'"

/-- The wording of an error. -/
def TypeError.message : TypeError → String
  | empty => "empty type expression"
  | strayCharacter char offset => s!"unexpected character '{char}' at offset {offset}"
  | expected what offset => s!"expected {what.describe} at offset {offset}"
  | primitiveArgument name => s!"primitive type '{name}' cannot be used as a type argument"
  | trailing offset => s!"unexpected trailing input at offset {offset}"

/-- A type that is still open around the one being read. -/
inductive TypeFrame where
  /-- The type arguments of a name, with those already read. -/
  | argument (name : String) (before : List TypeExpr)
  /-- The bound after `? extends`. -/
  | extendsBound
  /-- The bound after `? super`. -/
  | superBound

/-- What may come next. -/
inductive TypePhase where
  /-- A type begins here. -/
  | start
  /-- The next part of a name follows its last dot. -/
  | namePart (name : String)
  /-- A name may be continued, given arguments or be left as it is. -/
  | afterName (name : String)
  /-- A wildcard may be given a bound. -/
  | afterQuestion
  /-- A bracket closes an array type. -/
  | bracket (element : TypeExpr)
  /-- A type is complete but for further brackets. -/
  | afterType (type : TypeExpr)

/-- The state of the reader between two tokens. -/
structure TypeState where
  phase : TypePhase
  stack : List TypeFrame

namespace TypeState

/-- The state before the first token. -/
def initial : TypeState := ⟨.start, []⟩

/-- A complete type meets a token that does not continue it: the innermost open type takes it in. -/
def settle (type : TypeExpr) : List TypeFrame → PlacedToken → Except TypeError TypeState
  | [], token => .error (.trailing token.offset)
  | .argument name before :: stack, token =>
    match type.primitiveName? with
    | some primitive => .error (.primitiveArgument primitive)
    | none =>
      match token.token with
      | .comma => .ok ⟨.start, .argument name (before ++ [type]) :: stack⟩
      | .closeAngle => .ok ⟨.afterType (.named name (before ++ [type])), stack⟩
      | _ => .error (.expected .closeAngle token.offset)
  | .extendsBound :: stack, token => settle (.wildcardExtends type) stack token
  | .superBound :: stack, token => settle (.wildcardSuper type) stack token

/-- A type that brackets may still follow meets a token. -/
def continueType (type : TypeExpr) (stack : List TypeFrame) (token : PlacedToken) :
    Except TypeError TypeState :=
  match token.token with
  | .openBracket => .ok ⟨.bracket type, stack⟩
  | _ => settle type stack token

/-- The type that a name without arguments stands for. -/
def typeOfName (name : String) : TypeExpr :=
  if isPrimitiveName name then .primitive name else .named name []

/-- Take in one token. -/
def step (state : TypeState) (token : PlacedToken) : Except TypeError TypeState :=
  match state.phase with
  | .start =>
    match token.token, state.stack with
    | .identifier name, stack => .ok ⟨.afterName name, stack⟩
    | .question, .argument name before :: stack =>
      .ok ⟨.afterQuestion, .argument name before :: stack⟩
    | _, _ => .error (.expected .identifier token.offset)
  | .namePart name =>
    match token.token with
    | .identifier part => .ok ⟨.afterName (name ++ "." ++ part), state.stack⟩
    | _ => .error (.expected .identifier token.offset)
  | .afterName name =>
    match token.token with
    | .dot => .ok ⟨.namePart name, state.stack⟩
    | .openAngle =>
      if isPrimitiveName name then settle (.primitive name) state.stack token
      else .ok ⟨.start, .argument name [] :: state.stack⟩
    | _ => continueType (typeOfName name) state.stack token
  | .afterQuestion =>
    match token.token with
    | .identifier "extends" => .ok ⟨.start, .extendsBound :: state.stack⟩
    | .identifier "super" => .ok ⟨.start, .superBound :: state.stack⟩
    | _ => settle .wildcard state.stack token
  | .bracket element =>
    match token.token with
    | .closeBracket => .ok ⟨.afterType (.array element), state.stack⟩
    | _ => .error (.expected .closeBracket token.offset)
  | .afterType type => continueType type state.stack token

/-- A complete type meets the end of the text, which lies at the given offset. -/
def settleEnd (type : TypeExpr) (offset : Nat) : List TypeFrame → Except TypeError TypeExpr
  | [] => .ok type
  | .argument _ _ :: _ =>
    match type.primitiveName? with
    | some primitive => .error (.primitiveArgument primitive)
    | none => .error (.expected .closeAngle offset)
  | .extendsBound :: stack => settleEnd (.wildcardExtends type) offset stack
  | .superBound :: stack => settleEnd (.wildcardSuper type) offset stack

/-- The type that is read when the text ends at the given offset. -/
def finish (state : TypeState) (offset : Nat) : Except TypeError TypeExpr :=
  match state.phase with
  | .start | .namePart _ => .error (.expected .identifier offset)
  | .afterName name => settleEnd (typeOfName name) offset state.stack
  | .afterQuestion => settleEnd .wildcard offset state.stack
  | .bracket _ => .error (.expected .closeBracket offset)
  | .afterType type => settleEnd type offset state.stack

/-- Take in all tokens of a text that ends at the given offset. -/
def run (offset : Nat) : TypeState → List PlacedToken → Except TypeError TypeExpr
  | state, [] => state.finish offset
  | state, token :: tokens => do
    let next ← state.step token
    run offset next tokens

end TypeState

namespace TypeExpr

/-- The type expression that tokens spell, in a text that ends at the given offset. -/
def ofTokens (offset : Nat) : List PlacedToken → Except TypeError TypeExpr
  | [] => .error .empty
  | token :: tokens => TypeState.initial.run offset (token :: tokens)

/-- Read a type expression. All of the text is cut into tokens first, so a stray character comes
before any other error. -/
def parse (text : String) : Except TypeError TypeExpr :=
  match TypeToken.scan 0 text.toList with
  | .error stray => .error (.strayCharacter stray.char stray.offset)
  | .ok tokens => ofTokens (byteLength text.toList) tokens

end TypeExpr

end TypeWitness
