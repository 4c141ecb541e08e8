import TypeWitness.Proofs.ExpressionGrammar

/-! # Reading expressions
A reader takes one token of an expression after the other. Between two tokens its state is what may
come next together with the stack of expressions that are still open; an operator, a comma or a
closing parenthesis completes those of them that hold together more tightly. A parenthesis opens a
cast when it holds tokens of types only and an operand follows. The reader reads what the grammar
derives, and therefore the grammar derives one expression at most.

* `Derives.run` — over the tokens of an expression the reader gets behind it.
* `Derives.unique` — the grammar derives one expression only. -/

namespace TypeWitness.Expression

open ExpressionToken (ofType isReadable)

/-! ## The reader -/

/-- An expression that is still open around the one being read. -/
inductive Frame where
  /-- The right side of an operator is being read. -/
  | rightSide (left : Expression) (operator : Operator)
  /-- The operand of a cast is being read. -/
  | castOperand (type : String)
  /-- A parenthesis is open. -/
  | parenthesis
  /-- The arguments of which an expression is built are being read, behind those already read. -/
  | arguments (build : List Expression → Expression) (before : List Expression)

/-- What may come next. -/
inductive Phase where
  /-- An operand begins here. -/
  | operand
  /-- The first argument begins here, or there is none. -/
  | firstArgument
  /-- An expression is complete but for what may continue it. -/
  | value (expression : Expression)
  /-- The name of a method follows the dot. -/
  | method (receiver : Expression)
  /-- A parenthesis opens the arguments. -/
  | openArguments (build : List Expression → Expression)
  /-- A parenthesis closes the type of a cast. -/
  | castType (before : List TypeToken)
  /-- The class that is created is followed by its arguments. -/
  | createdType (before : List TypeToken)

/-- The state of the reader between two tokens. -/
structure ReaderState where
  phase : Phase
  stack : List Frame

/-- The level of what is read inside an open expression. -/
def Frame.level : Frame → BindingLevel
  | rightSide _ operator => operator.rightLevel
  | castOperand _ => .unary
  | parenthesis | arguments _ _ => .disjunction

/-- An open operator or cast is completed by what was read last. -/
def Frame.complete (last : Expression) : Frame → Expression
  | rightSide left operator => .binary left operator last
  | castOperand type => .cast type last
  | parenthesis | arguments _ _ => last

/-- Complete the innermost open expressions that hold together more tightly than a level. -/
def settle (level : BindingLevel) (last : Expression) : List Frame → Expression × List Frame
  | [] => (last, [])
  | frame :: stack =>
    if level.rank < frame.level.rank then settle level (frame.complete last) stack
    else (last, frame :: stack)

/-- The type that tokens spell. -/
def readType? (tokens : List TypeToken) : Option TypeExpr :=
  (TypeState.initial.run 0 (tokens.map (PlacedToken.mk · 0))).toOption

/-- The class that tokens spell: a type, or else a name with an empty list of type arguments. -/
def readCreated? (tokens : List TypeToken) : Option String :=
  match readType? tokens with
  | some type => some type.render
  | none => (readType? tokens.dropLast.dropLast).map (·.render ++ "<>")

/-- Whether the parenthesis in front of tokens opens a cast. -/
def startsCast (tokens : List ExpressionToken) : Bool :=
  match tokens.dropWhile isOfType with
  | .closeParen :: next :: _ => startsOperand next
  | _ => false

/-- Take in one token, of which it is known what comes behind it. -/
def ReaderState.step (state : ReaderState) (token : ExpressionToken)
    (ahead : List ExpressionToken) : Option ReaderState :=
  let operand : Option ReaderState :=
    match token with
    | ofType (.identifier "null") => some ⟨.value .null, state.stack⟩
    | ofType (.identifier "new") => some ⟨.createdType [], state.stack⟩
    | ofType (.identifier text) => some ⟨.value (.name text), state.stack⟩
    | .openParen =>
      if startsCast ahead then some ⟨.castType [], state.stack⟩
      else some ⟨.operand, .parenthesis :: state.stack⟩
    | _ => none
  match state.phase with
  | .operand => operand
  | .firstArgument =>
    match token, state.stack with
    | .closeParen, .arguments build before :: stack => some ⟨.value (build before), stack⟩
    | _, _ => operand
  | .value last =>
    match token with
    | ofType .dot => some ⟨.method last, state.stack⟩
    | .operator operator =>
      let (left, stack) := settle operator.level last state.stack
      some ⟨.operand, .rightSide left operator :: stack⟩
    | ofType .comma =>
      match settle .disjunction last state.stack with
      | (argument, .arguments build before :: stack) =>
        some ⟨.operand, .arguments build (before ++ [argument]) :: stack⟩
      | _ => none
    | .closeParen =>
      match settle .disjunction last state.stack with
      | (argument, .arguments build before :: stack) =>
        some ⟨.value (build (before ++ [argument])), stack⟩
      | (inside, .parenthesis :: stack) => some ⟨.value inside, stack⟩
      | _ => none
    | _ => none
  | .method receiver =>
    match token with
    | ofType (.identifier method) => some ⟨.openArguments (.call receiver method), state.stack⟩
    | _ => none
  | .openArguments build =>
    match token with
    | .openParen => some ⟨.firstArgument, .arguments build [] :: state.stack⟩
    | _ => none
  | .castType before =>
    match token with
    | ofType token => some ⟨.castType (before ++ [token]), state.stack⟩
    | .closeParen =>
      (readType? before).map fun type => ⟨.operand, .castOperand type.render :: state.stack⟩
    | _ => none
  | .createdType before =>
    match token with
    | ofType token => some ⟨.createdType (before ++ [token]), state.stack⟩
    | .openParen =>
      (readCreated? before).map fun type =>
        ⟨.firstArgument, .arguments (.create type) [] :: state.stack⟩
    | _ => none

/-- The expression that has been read when the tokens end. -/
def ReaderState.finish (state : ReaderState) : Option Expression :=
  match state.phase with
  | .value last =>
    match settle .disjunction last state.stack with
    | (expression, []) => some expression
    | _ => none
  | _ => none

/-- Take in all tokens. -/
def ReaderState.run : ReaderState → List ExpressionToken → Option Expression
  | state, [] => state.finish
  | state, token :: tokens =>
    match state.step token tokens with
    | some next => next.run tokens
    | none => none

namespace ReaderState

theorem run_cons {state next : ReaderState} {token : ExpressionToken}
    {tokens : List ExpressionToken} (h : state.step token tokens = some next) :
    state.run (token :: tokens) = next.run tokens := by
  rw [run, h]

/-! ## Types -/

/-- In a phase that collects the tokens of a type all of them are collected. -/
theorem run_collect {phase : List TypeToken → Phase} {stack : List Frame}
    (hphase : ∀ before token ahead, step ⟨phase before, stack⟩ (ofType token) ahead =
      some ⟨phase (before ++ [token]), stack⟩)
    (tokens before : List TypeToken) (rest : List ExpressionToken) :
    run ⟨phase before, stack⟩ (tokens.map ofType ++ rest) =
      run ⟨phase (before ++ tokens), stack⟩ rest := by
  induction tokens generalizing before with
  | nil => rw [List.map_nil, List.nil_append, List.append_nil]
  | cons token tokens ih =>
    rw [List.map_cons, List.cons_append, run_cons (hphase before token _), ih, List.append_assoc,
      List.singleton_append]

/-- The tokens of a type are collected up to the end of a cast. -/
theorem run_castType (tokens : List TypeToken) (stack : List Frame)
    (rest : List ExpressionToken) :
    run ⟨.castType [], stack⟩ (tokens.map ofType ++ rest) = run ⟨.castType tokens, stack⟩ rest :=
  run_collect (fun _ _ _ => rfl) tokens [] rest

/-- The tokens of a class are collected up to its arguments. -/
theorem run_createdType (tokens : List TypeToken) (stack : List Frame)
    (rest : List ExpressionToken) :
    run ⟨.createdType [], stack⟩ (tokens.map ofType ++ rest) =
      run ⟨.createdType tokens, stack⟩ rest :=
  run_collect (fun _ _ _ => rfl) tokens [] rest

end ReaderState

/-- A derived type is read. -/
theorem readType?_of_derives {tokens : List TypeToken} {type : TypeExpr}
    (h : DerivesType tokens type) (hreadable : IdentifiersReadable tokens) :
    readType? tokens = some type := by
  obtain ⟨hwhole, rfl⟩ := h.spelled hreadable
  rw [readType?, TypeExpr.run_tokens hwhole (by simp [Function.comp_def]) 0]
  rfl

/-- An empty list of type arguments is no part of a type. -/
theorem readType?_diamond {tokens : List TypeToken} {name : String} (h : DerivesName tokens name)
    (hprimitive : isPrimitiveName name = false) (hreadable : IdentifiersReadable tokens) :
    readType? (tokens ++ [.openAngle, .closeAngle]) = none := by
  obtain ⟨-, rfl⟩ := h.spelled hreadable
  have hname := TypeState.reads_name name [] ((nameTokens name).map (PlacedToken.mk · 0))
    (by simp [Function.comp_def]) 0 [⟨.openAngle, 0⟩, ⟨.closeAngle, 0⟩]
  rw [readType?, List.map_append, TypeState.initial]
  simp only [List.map_cons, List.map_nil, hname, TypeState.run, TypeState.step, hprimitive]
  rfl

/-- A derived class is read. -/
theorem readCreated?_of_derives {tokens : List TypeToken} {type : String}
    (h : DerivesCreated tokens type) (hreadable : IdentifiersReadable tokens) :
    readCreated? tokens = some type := by
  cases h with
  | type h => rw [readCreated?, readType?_of_derives h hreadable]
  | diamond h hprimitive =>
    obtain ⟨hname, -⟩ := identifiersReadable_append.1 hreadable
    have htype := readType?_of_derives (DerivesHead.bare h hprimitive).toType hname
    rw [readCreated?, readType?_diamond h hprimitive hname, List.dropLast_append_cons]
    simp [htype]

theorem identifiersReadable_of_all {tokens : List TypeToken}
    (h : (tokens.map ofType).all isReadable = true) : IdentifiersReadable tokens :=
  fun _ hname => List.all_eq_true.1 h _ (List.mem_map_of_mem hname)

/-! ## What may stand around an expression -/

/-- The loosest level of the expressions that a token may stand behind. -/
def loosestBefore? : ExpressionToken → Option BindingLevel
  | ofType (.identifier _) | .openParen => none
  | ofType .dot => some .call
  | .operator operator => some operator.level
  | ofType _ | .closeParen => some .disjunction

/-- Tokens may stand behind an expression of a level. -/
def Follows (level : BindingLevel) (rest : List ExpressionToken) : Prop :=
  ∀ token ∈ rest.head?, ∃ loosest, loosestBefore? token = some loosest ∧ loosest.rank ≤ level.rank

/-- An expression of a level may stand inside the open ones, which do not ask for a tighter one. -/
def Admits (level : BindingLevel) (stack : List Frame) : Prop :=
  ∀ frame ∈ stack.head?, frame.level.rank ≤ level.rank

theorem follows_cons {level loosest : BindingLevel} {token : ExpressionToken}
    {rest : List ExpressionToken} (h : loosestBefore? token = some loosest)
    (hlevel : loosest.rank ≤ level.rank) : Follows level (token :: rest) := by
  rintro _ ⟨⟩
  exact ⟨loosest, h, hlevel⟩

/-- What follows an expression may follow a tighter one. -/
theorem Follows.mono {level tight : BindingLevel} {rest : List ExpressionToken}
    (h : Follows level rest) (hlevel : level.rank ≤ tight.rank) : Follows tight rest := by
  intro token htoken
  obtain ⟨loosest, hloosest, hle⟩ := h token htoken
  exact ⟨loosest, hloosest, Nat.le_trans hle hlevel⟩

theorem admits_cons {level : BindingLevel} {frame : Frame} {stack : List Frame} :
    Admits level (frame :: stack) ↔ frame.level.rank ≤ level.rank := by
  simp [Admits]

theorem Admits.mono {level tight : BindingLevel} {stack : List Frame} (h : Admits level stack)
    (hlevel : level.rank ≤ tight.rank) : Admits tight stack :=
  fun frame hframe => Nat.le_trans (h frame hframe) hlevel

/-- An operator leaves open what does not hold together more tightly. -/
theorem settle_of_admits {level : BindingLevel} {stack : List Frame} (h : Admits level stack)
    (last : Expression) : settle level last stack = (last, stack) := by
  cases stack with
  | nil => rfl
  | cons frame stack => rw [settle, if_neg (Nat.not_lt.2 (admits_cons.1 h))]

/-- An open operator or cast is completed before anything that may follow it. -/
theorem run_complete {frame : Frame} {level : BindingLevel} {last : Expression}
    {stack : List Frame} {rest : List ExpressionToken}
    (hframe : BindingLevel.disjunction.rank < frame.level.rank)
    (hoperator : ∀ operator : Operator, operator.level.rank ≤ level.rank →
      operator.level.rank < frame.level.rank)
    (hcall : level.rank < BindingLevel.call.rank) (hrest : Follows level rest) :
    ReaderState.run ⟨.value last, frame :: stack⟩ rest =
      ReaderState.run ⟨.value (frame.complete last), stack⟩ rest := by
  have hsettle {level : BindingLevel} (h : level.rank < frame.level.rank) :
      settle level last (frame :: stack) = settle level (frame.complete last) stack := by
    rw [settle, if_pos h]
  cases rest with
  | nil => simp only [ReaderState.run, ReaderState.finish, hsettle hframe]
  | cons token rest =>
    obtain ⟨loosest, hloosest, hle⟩ := hrest token rfl
    have hstep : ReaderState.step ⟨.value last, frame :: stack⟩ token rest =
        ReaderState.step ⟨.value (frame.complete last), stack⟩ token rest := by
      simp only [ReaderState.step]
      cases token with
      | openParen => cases hloosest
      | closeParen => simp only [hsettle hframe]
      | operator operator =>
        cases hloosest
        simp only [hsettle (hoperator operator hle)]
      | ofType token =>
        cases token with
        | dot =>
          cases hloosest
          omega
        | comma => simp only [hsettle hframe]
        | _ => rfl
    rw [ReaderState.run, ReaderState.run, hstep]

/-- The right side of an operator is tighter than the operator. -/
theorem level_lt_rightLevel (operator : Operator) :
    operator.level.rank < operator.rightLevel.rank := by
  cases operator <;> decide

/-- Operators are looser than casts. -/
theorem level_lt_unary (operator : Operator) : operator.level.rank < BindingLevel.unary.rank := by
  cases operator <;> decide

/-- An operator takes the expression in front of it as its left side. -/
theorem run_operator {operator : Operator} {stack : List Frame} (h : Admits operator.level stack)
    (left : Expression) (rest : List ExpressionToken) :
    ReaderState.run ⟨.value left, stack⟩ (.operator operator :: rest) =
      ReaderState.run ⟨.operand, .rightSide left operator :: stack⟩ rest := by
  apply ReaderState.run_cons
  simp only [ReaderState.step, settle_of_admits h]

/-- An operator is completed by its right side. -/
theorem run_rightSide {operator : Operator} {rest : List ExpressionToken}
    (hrest : Follows operator.level rest) (left right : Expression) (stack : List Frame) :
    ReaderState.run ⟨.value right, .rightSide left operator :: stack⟩ rest =
      ReaderState.run ⟨.value (.binary left operator right), stack⟩ rest := by
  have hlt := level_lt_rightLevel operator
  have hcall : operator.level.rank < BindingLevel.call.rank :=
    Nat.lt_trans (level_lt_unary operator) (by decide)
  exact run_complete (Nat.lt_of_le_of_lt (Nat.zero_le _) hlt)
    (fun _ hle => Nat.lt_of_le_of_lt hle hlt) hcall hrest

/-- A cast is completed by its operand. -/
theorem run_castOperand {rest : List ExpressionToken} (hrest : Follows .unary rest)
    (type : String) (operand : Expression) (stack : List Frame) :
    ReaderState.run ⟨.value operand, .castOperand type :: stack⟩ rest =
      ReaderState.run ⟨.value (.cast type operand), stack⟩ rest :=
  run_complete (Nat.zero_lt_succ _) (fun operator _ => level_lt_unary operator) (by decide) hrest

/-! ## Reading what the grammar derives -/

/-- A parenthesis opens a cast in front of tokens of types when an operand comes behind them. -/
theorem startsCast_of_type (typeTokens : List TypeToken) {next : ExpressionToken}
    (hnext : startsOperand next = true) (rest : List ExpressionToken) :
    startsCast (typeTokens.map ofType ++ .closeParen :: next :: rest) = true := by
  induction typeTokens with
  | nil => exact hnext
  | cons token typeTokens ih => exact ih

/-- A parenthesis around an expression opens no cast. -/
theorem startsCast_of_derives {level : BindingLevel} {tokens : List ExpressionToken}
    {expression : Expression} (h : Derives level tokens expression) {rest : List ExpressionToken}
    (hrest : Follows .primary rest) : startsCast (tokens ++ .closeParen :: rest) = false := by
  have hopens := h.opens
  rw [startsCast, List.dropWhile_append]
  by_cases hall : tokens.dropWhile isOfType = []
  · -- all tokens are those of types, and what follows the parenthesis is no operand
    rw [hall]
    cases rest with
    | nil => rfl
    | cons next rest =>
      obtain ⟨loosest, hloosest, -⟩ := hrest next rfl
      change startsOperand next = false
      unfold startsOperand
      split <;> first | rfl | cases hloosest
  · -- the first other token is no closing parenthesis
    obtain ⟨first, others, hfirst⟩ := List.exists_cons_of_ne_nil hall
    rw [Opens, hfirst] at hopens
    rw [hfirst]
    cases first with
    | closeParen => exact absurd rfl hopens
    | _ => rfl

/-- In front of an operand the first argument is read like any operand. -/
theorem run_firstArgument {token : ExpressionToken} (htoken : startsOperand token = true)
    (stack : List Frame) (rest : List ExpressionToken) :
    ReaderState.run ⟨.firstArgument, stack⟩ (token :: rest) =
      ReaderState.run ⟨.operand, stack⟩ (token :: rest) := by
  have hstep : ReaderState.step ⟨.firstArgument, stack⟩ token rest =
      ReaderState.step ⟨.operand, stack⟩ token rest := by
    cases token with
    | closeParen => cases htoken
    | _ => rfl
  rw [ReaderState.run, ReaderState.run, hstep]

/-- Arguments in parentheses are read like further arguments, unless there are none. -/
theorem run_arguments {tokens : List ExpressionToken} {expressions : List Expression}
    {build : List Expression → Expression} {stack : List Frame} {rest : List ExpressionToken}
    (h : DerivesArguments tokens expressions)
    (hrun : expressions ≠ [] →
      ReaderState.run ⟨.operand, .arguments build [] :: stack⟩ (tokens ++ .closeParen :: rest) =
        ReaderState.run ⟨.value (build ([] ++ expressions)), stack⟩ rest) :
    ReaderState.run ⟨.firstArgument, .arguments build [] :: stack⟩ (tokens ++ .closeParen :: rest) =
      ReaderState.run ⟨.value (build expressions), stack⟩ rest := by
  cases h with
  | none => rfl
  | last h =>
    obtain ⟨first, others, rfl, hfirst⟩ := h.exists_cons
    exact (run_firstArgument hfirst _ _).trans (hrun nofun)
  | more h hne hothers =>
    obtain ⟨first, others, rfl, hfirst⟩ := h.exists_cons
    exact (run_firstArgument hfirst _ _).trans (hrun nofun)

/-- A valid name is no word that stands for something else. -/
theorem run_name {text : String} (htext : isValidIdentifier text = true) (stack : List Frame)
    (rest : List ExpressionToken) :
    ReaderState.run ⟨.operand, stack⟩ (ofType (.identifier text) :: rest) =
      ReaderState.run ⟨.value (.name text), stack⟩ rest := by
  have hreserved : ∀ word, isReserved word = true → text ≠ word := by
    rintro word hword rfl
    rw [isValidIdentifier] at htext
    split at htext
    · cases htext
    · simp [hword] at htext
  apply ReaderState.run_cons
  simp only [ReaderState.step]
  split
  case h_1 heq =>
    cases heq
    exact absurd rfl (hreserved "null" (by decide))
  case h_2 heq =>
    cases heq
    exact absurd rfl (hreserved "new" (by decide))
  case h_3 heq =>
    cases heq
    rfl
  case h_4 heq => cases heq
  case h_5 hother _ => exact absurd rfl (hother text)

theorem run_openCast (typeTokens : List TypeToken) {next : ExpressionToken}
    (hnext : startsOperand next = true) (rest : List ExpressionToken) (stack : List Frame) :
    ReaderState.run ⟨.operand, stack⟩
        (.openParen :: (typeTokens.map ofType ++ .closeParen :: next :: rest)) =
      ReaderState.run ⟨.castType [], stack⟩
        (typeTokens.map ofType ++ .closeParen :: next :: rest) := by
  apply ReaderState.run_cons
  simp only [ReaderState.step, startsCast_of_type typeTokens hnext, if_true]

theorem run_closeCast {typeTokens : List TypeToken} {type : TypeExpr}
    (htype : readType? typeTokens = some type) (rest : List ExpressionToken)
    (stack : List Frame) :
    ReaderState.run ⟨.castType typeTokens, stack⟩ (.closeParen :: rest) =
      ReaderState.run ⟨.operand, .castOperand type.render :: stack⟩ rest := by
  apply ReaderState.run_cons
  simp only [ReaderState.step, htype, Option.map_some]

theorem run_openCreated {typeTokens : List TypeToken} {type : String}
    (htype : readCreated? typeTokens = some type) (rest : List ExpressionToken)
    (stack : List Frame) :
    ReaderState.run ⟨.createdType typeTokens, stack⟩ (.openParen :: rest) =
      ReaderState.run ⟨.firstArgument, .arguments (.create type) [] :: stack⟩ rest := by
  apply ReaderState.run_cons
  simp only [ReaderState.step, htype, Option.map_some]

theorem run_openParenthesis {rest : List ExpressionToken} (h : startsCast rest = false)
    (stack : List Frame) :
    ReaderState.run ⟨.operand, stack⟩ (.openParen :: rest) =
      ReaderState.run ⟨.operand, .parenthesis :: stack⟩ rest := by
  apply ReaderState.run_cons
  simp only [ReaderState.step, h, Bool.false_eq_true, if_false]

theorem run_comma (argument : Expression) (build : List Expression → Expression)
    (before : List Expression) (stack : List Frame) (rest : List ExpressionToken) :
    ReaderState.run ⟨.value argument, .arguments build before :: stack⟩ (ofType .comma :: rest) =
      ReaderState.run ⟨.operand, .arguments build (before ++ [argument]) :: stack⟩ rest :=
  ReaderState.run_cons rfl

mutual
/-- **Over the tokens of an expression the reader gets behind it**, wherever an expression of the
level may stand. -/
theorem Derives.run {level : BindingLevel} {tokens : List ExpressionToken} {expression : Expression}
    {stack : List Frame} {rest : List ExpressionToken} :
    Derives level tokens expression → tokens.all isReadable = true → Admits level stack →
      Follows level rest →
      ReaderState.run ⟨.operand, stack⟩ (tokens ++ rest) =
        ReaderState.run ⟨.value expression, stack⟩ rest
  | .tighter hlevel h, hreadable, hstack, hrest =>
    h.run hreadable (hstack.mono hlevel) (hrest.mono hlevel)
  | .binary hleft hright, hreadable, hstack, hrest => by
    simp only [List.all_append, List.all_cons, Bool.and_eq_true] at hreadable
    obtain ⟨hleftReadable, -, hrightReadable⟩ := hreadable
    have hrightRest := hrest.mono (Nat.le_of_lt (level_lt_rightLevel _))
    -- the operator leaves the stack as it is, and what follows completes the operator
    rw [List.append_assoc, List.cons_append,
      hleft.run hleftReadable hstack (follows_cons rfl (Nat.le_refl _)), run_operator hstack,
      hright.run hrightReadable (admits_cons.2 (Nat.le_refl _)) hrightRest, run_rightSide hrest]
  | @Derives.cast typeTokens type _ _ htype h, hreadable, _, hrest => by
    simp only [List.all_append, List.all_cons, Bool.and_eq_true] at hreadable
    obtain ⟨-, htypeReadable, -, hoperandReadable⟩ := hreadable
    have hstack : Admits .unary (.castOperand type.render :: stack) := admits_cons.2 (Nat.le_refl _)
    have hoperand := h.run hoperandReadable hstack hrest
    -- the operand is seen behind the parenthesis, which is why this is a cast
    obtain ⟨next, others, rfl, hnext⟩ := h.exists_cons
    rw [List.cons_append, List.append_assoc, List.cons_append, List.cons_append,
      run_openCast _ hnext, ReaderState.run_castType,
      run_closeCast (readType?_of_derives htype (identifiersReadable_of_all htypeReadable)),
      ← List.cons_append, hoperand, run_castOperand hrest]
  | .call h _ harguments, hreadable, hstack, _ => by
    simp only [List.all_append, List.all_cons, Bool.and_eq_true] at hreadable
    obtain ⟨hreceiverReadable, -, -, -, hargumentsReadable, -⟩ := hreadable
    rw [List.append_assoc, List.cons_append, List.cons_append, List.cons_append,
      List.append_assoc, List.singleton_append,
      h.run hreceiverReadable hstack (follows_cons rfl (Nat.le_refl _)), ReaderState.run_cons rfl,
      ReaderState.run_cons rfl, ReaderState.run_cons rfl,
      run_arguments harguments fun hne => harguments.run hargumentsReadable hne]
  | .name htext, _, _, _ => run_name htext _ _
  | .null, _, _, _ => rfl
  | .create htype harguments, hreadable, _, _ => by
    simp only [List.all_append, List.all_cons, Bool.and_eq_true] at hreadable
    obtain ⟨-, htypeReadable, -, hargumentsReadable, -⟩ := hreadable
    rw [List.cons_append, List.append_assoc, List.cons_append, List.append_assoc,
      List.singleton_append, ReaderState.run_cons rfl, ReaderState.run_createdType,
      run_openCreated
        (readCreated?_of_derives htype (identifiersReadable_of_all htypeReadable)),
      run_arguments harguments fun hne => harguments.run hargumentsReadable hne]
  | .parenthesized h, hreadable, _, hrest => by
    simp only [List.all_append, List.all_cons, Bool.and_eq_true] at hreadable
    obtain ⟨-, hinsideReadable, -⟩ := hreadable
    rw [List.cons_append, List.append_assoc, List.singleton_append,
      run_openParenthesis (startsCast_of_derives h hrest),
      h.run hinsideReadable (admits_cons.2 (Nat.le_refl _)) (follows_cons rfl (Nat.le_refl _))]
    rfl

/-- Over arguments, further ones or all of them, the reader gets behind the expression that is built
from them. -/
theorem DerivesArguments.run {tokens : List ExpressionToken} {expressions : List Expression}
    {build : List Expression → Expression} {before : List Expression} {stack : List Frame}
    {rest : List ExpressionToken} :
    DerivesArguments tokens expressions → tokens.all isReadable = true → expressions ≠ [] →
      ReaderState.run ⟨.operand, .arguments build before :: stack⟩ (tokens ++ .closeParen :: rest) =
        ReaderState.run ⟨.value (build (before ++ expressions)), stack⟩ rest
  | .none, _, hne => absurd rfl hne
  | .last h, hreadable, _ => by
    rw [h.run hreadable (admits_cons.2 (Nat.le_refl _)) (follows_cons rfl (Nat.le_refl _))]
    rfl
  | .more h hne hothers, hreadable, _ => by
    simp only [List.all_append, List.all_cons, Bool.and_eq_true] at hreadable
    obtain ⟨hfirstReadable, -, hothersReadable⟩ := hreadable
    rw [List.append_assoc, List.cons_append,
      h.run hfirstReadable (admits_cons.2 (Nat.le_refl _)) (follows_cons rfl (Nat.le_refl _)),
      run_comma, hothers.run hothersReadable hne, List.append_assoc, List.singleton_append]
end

/-- **The grammar derives one expression only** from tokens. -/
theorem Derives.unique {tokens : List ExpressionToken} (hreadable : tokens.all isReadable = true)
    {expression expression' : Expression} (h : Derives .disjunction tokens expression)
    (h' : Derives .disjunction tokens expression') : expression = expression' := by
  have hread : ∀ {expression : Expression}, Derives .disjunction tokens expression →
      ReaderState.run ⟨.operand, []⟩ tokens = some expression := by
    intro expression h
    have hstack : Admits .disjunction [] := nofun
    have hrest : Follows .disjunction [] := nofun
    have hrun := h.run hreadable hstack hrest
    rwa [List.append_nil] at hrun
  exact Option.some.inj ((hread h).symm.trans (hread h'))

end TypeWitness.Expression
