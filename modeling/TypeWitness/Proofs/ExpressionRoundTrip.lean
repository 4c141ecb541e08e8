import TypeWitness.Proofs.ExpressionReading
import TypeWitness.Proofs.PrintedText
import TypeWitness.Proofs.TypeRoundTrip

/-! # Writing and reading expressions
A written expression means the expression: parentheses stand wherever the grammar needs them, so
that it derives from the text the expression that was written and no other.

* `Writable` — the expressions that can be written.
* `Prints` — a text is cut into tokens from which the grammar derives an expression.
* `prints_renderIn` — the text of an expression, in any surroundings.
* `reads_render_iff` — a written expression is read as itself only. -/

namespace TypeWitness.Expression

open ExpressionToken (ofType scan)

/-! ## Expressions that can be written -/

/-- A valid identifier is read as one. -/
theorem isIdentifierText_of_isValidIdentifier {name : String}
    (h : isValidIdentifier name = true) : isIdentifierText name.toList = true := by
  rw [isValidIdentifier] at h
  split at h
  · cases h
  · next heq =>
    rw [Bool.and_eq_true, Bool.and_eq_true] at h
    rw [heq]
    exact isIdentifierText_cons_iff.2 h.1

/-- The text of a type that can be written. -/
def IsTypeText (text : String) : Prop := ∃ type : TypeExpr, type.Writable ∧ text = type.render

/-- The text of a class whose type arguments are left to be inferred. -/
def IsDiamondText (text : String) : Prop :=
  ∃ name, (TypeExpr.named name []).Writable ∧ text = name ++ "<>"

/-- An expression can be written when its names and methods are identifiers and its types are
types. -/
inductive Writable : Expression → Prop
  | name {text : String} (h : isValidIdentifier text = true) : Writable (.name text)
  | null : Writable .null
  | call {receiver : Expression} {method : String} {arguments : List Expression}
      (hreceiver : Writable receiver) (hmethod : isValidIdentifier method = true)
      (harguments : ∀ argument ∈ arguments, Writable argument) :
      Writable (.call receiver method arguments)
  | binary {left right : Expression} (hleft : Writable left) (operator : Operator)
      (hright : Writable right) : Writable (.binary left operator right)
  | cast {type : String} {operand : Expression} (htype : IsTypeText type)
      (hoperand : Writable operand) : Writable (.cast type operand)
  | create {type : String} {arguments : List Expression}
      (htype : IsTypeText type ∨ IsDiamondText type)
      (harguments : ∀ argument ∈ arguments, Writable argument) : Writable (.create type arguments)

/-! ## The texts of types -/

/-- The text of a type is cut into tokens from which the type is derived. -/
theorem exists_derivesType {text : String} (h : IsTypeText text) :
    ∃ tokens type, Spelled text.toList (tokens.map ofType) ∧ DerivesType tokens type ∧
      text = type.render := by
  obtain ⟨type, hwritable, rfl⟩ := h
  have hwhole := TypeExpr.writable_iff.1 hwritable
  exact ⟨type.tokens, type, TypeExpr.spelled_render hwhole, (derives_tokens type).1 hwhole, rfl⟩

/-- The text of a class that is created is cut into tokens from which the class is derived. -/
theorem exists_derivesCreated {text : String} (h : IsTypeText text ∨ IsDiamondText text) :
    ∃ tokens, Spelled text.toList (tokens.map ofType) ∧ DerivesCreated tokens text := by
  obtain h | ⟨name, hwritable, rfl⟩ := h
  · obtain ⟨tokens, type, hspelled, hderives, rfl⟩ := exists_derivesType h
    exact ⟨tokens, hspelled, .type hderives⟩
  · have hwhole := TypeExpr.writable_iff.1 hwritable
    have hspelled := TypeExpr.spelled_render hwhole
    rw [TypeExpr.render_named_nil, TypeExpr.tokens] at hspelled
    simp only [TypeExpr.wellFormed, Bool.and_eq_true, Bool.not_eq_true'] at hwhole
    refine ⟨nameTokens name ++ [.openAngle, .closeAngle], ?_,
      .diamond (derivesName_nameTokens name) hwhole.1.2⟩
    rw [List.map_append, String.toList_append]
    exact hspelled.append (.mark rfl (.mark rfl .nil)) (isBoundary_of_mark? rfl _)

/-! ## Texts of a level -/

/-- A text is cut into tokens from which the grammar derives an expression of a level. -/
def Prints (level : BindingLevel) (text : String) (expression : Expression) : Prop :=
  ∃ tokens, Spelled text.toList tokens ∧ Derives level tokens expression

/-- A text is cut into tokens from which the grammar derives arguments. -/
def PrintsArguments (text : String) (arguments : List Expression) : Prop :=
  ∃ tokens, Spelled text.toList tokens ∧ DerivesArguments tokens arguments

/-- Written expressions have blanks around operators and behind casts and commas. -/
theorem isBlank_space : isBlank ' ' = true := by decide

/-- An identifier is one token. -/
theorem spelled_identifier {name : String} (h : isIdentifierText name.toList = true) :
    Spelled name.toList [ofType (.identifier name)] := by
  have hspelled := Spelled.identifier h
  rwa [String.ofList_toList] at hspelled

namespace Prints

variable {level : BindingLevel} {text : String} {expression : Expression}

/-- What a level takes in can be written there. -/
theorem tighter {tight : BindingLevel} (hlevel : level.rank ≤ tight.rank)
    (h : Prints tight text expression) : Prints level text expression := by
  obtain ⟨tokens, hspelled, hderives⟩ := h
  exact ⟨tokens, hspelled, .tighter hlevel hderives⟩

theorem name {text : String} (h : isValidIdentifier text = true) :
    Prints .primary text (.name text) :=
  ⟨_, spelled_identifier (isIdentifierText_of_isValidIdentifier h), .name h⟩

theorem null : Prints .primary "null" .null :=
  ⟨_, spelled_identifier (by decide), .null⟩

/-- An expression in parentheses can stand anywhere. -/
theorem parenthesized (h : Prints .disjunction text expression) :
    Prints .primary ("(" ++ text ++ ")") expression := by
  obtain ⟨tokens, hspelled, hderives⟩ := h
  refine ⟨_, ?_, .parenthesized hderives⟩
  rw [String.toList_append, String.toList_append, List.append_assoc]
  exact .openParen (hspelled.append (.closeParen .nil) (isBoundary_of_isSpecial rfl _))

/-- An expression in parentheses where they are needed. -/
theorem parenthesize {outer : BindingLevel} {needed : Bool} (h : Prints level text expression)
    (hlevel : needed = false → outer.rank ≤ level.rank) :
    Prints outer (Expression.parenthesize needed text) expression := by
  cases needed with
  | false => exact h.tighter (hlevel rfl)
  | true =>
    have hinside : Prints .disjunction text expression := h.tighter (Nat.zero_le _)
    exact hinside.parenthesized.tighter (by cases outer <;> decide)

theorem binary {operator : Operator} {leftText rightText : String} {left right : Expression}
    (hleft : Prints operator.level leftText left)
    (hright : Prints operator.rightLevel rightText right) :
    Prints operator.level (leftText ++ " " ++ operator.sign ++ " " ++ rightText)
      (.binary left operator right) := by
  obtain ⟨leftTokens, hleftSpelled, hleft⟩ := hleft
  obtain ⟨rightTokens, hrightSpelled, hright⟩ := hright
  refine ⟨_, ?_, .binary hleft hright⟩
  simp only [String.toList_append, List.append_assoc]
  exact hleftSpelled.append (.blank isBlank_space (.operator operator
    (.blank isBlank_space hrightSpelled))) (isBoundary_of_isBlank isBlank_space _)

theorem cast {type : String} (htype : IsTypeText type) (h : Prints .unary text expression) :
    Prints .unary ("(" ++ type ++ ") " ++ text) (.cast type expression) := by
  obtain ⟨typeTokens, type, htypeSpelled, hderivesType, rfl⟩ := exists_derivesType htype
  obtain ⟨tokens, hspelled, hderives⟩ := h
  refine ⟨_, ?_, .cast hderivesType hderives⟩
  simp only [String.toList_append, List.append_assoc]
  exact .openParen (htypeSpelled.append (.closeParen (.blank isBlank_space hspelled))
    (isBoundary_of_isSpecial rfl _))

theorem call {method argumentsText : String} {arguments : List Expression}
    (h : Prints .call text expression) (hmethod : isValidIdentifier method = true)
    (harguments : PrintsArguments argumentsText arguments) :
    Prints .call (text ++ "." ++ method ++ "(" ++ argumentsText ++ ")")
      (.call expression method arguments) := by
  obtain ⟨tokens, hspelled, hderives⟩ := h
  obtain ⟨inside, hinsideSpelled, harguments⟩ := harguments
  refine ⟨_, ?_, .call hderives hmethod harguments⟩
  simp only [String.toList_append, List.append_assoc]
  have hmethodSpelled := spelled_identifier (isIdentifierText_of_isValidIdentifier hmethod)
  have hbehind := Spelled.openParen
    (hinsideSpelled.append (.closeParen .nil) (isBoundary_of_isSpecial rfl _))
  exact hspelled.append (.mark rfl (hmethodSpelled.append hbehind (isBoundary_of_isSpecial rfl _)))
    (isBoundary_of_mark? rfl _)

theorem create {type argumentsText : String} {arguments : List Expression}
    (htype : IsTypeText type ∨ IsDiamondText type)
    (harguments : PrintsArguments argumentsText arguments) :
    Prints .primary ("new " ++ type ++ "(" ++ argumentsText ++ ")") (.create type arguments) := by
  obtain ⟨typeTokens, htypeSpelled, hderivesType⟩ := exists_derivesCreated htype
  obtain ⟨inside, hinsideSpelled, harguments⟩ := harguments
  refine ⟨_, ?_, .create hderivesType harguments⟩
  simp only [String.toList_append, List.append_assoc]
  have hnew := @spelled_identifier "new" (by decide)
  have hbehind := Spelled.openParen
    (hinsideSpelled.append (.closeParen .nil) (isBoundary_of_isSpecial rfl _))
  have hbehind := htypeSpelled.append hbehind (isBoundary_of_isSpecial rfl _)
  exact hnew.append (.blank isBlank_space hbehind) (isBoundary_of_isBlank isBlank_space _)

end Prints

/-- Arguments are written with commas between them. -/
theorem printsArguments {arguments : List Expression}
    (h : ∀ argument ∈ arguments, Prints .disjunction (argument.renderIn loosest) argument) :
    PrintsArguments (renderArguments arguments) arguments := by
  cases arguments with
  | nil => exact ⟨[], .nil, .none⟩
  | cons first others =>
    -- the text of the others begins with a comma, unless there are none
    induction others generalizing first with
    | nil =>
      obtain ⟨tokens, hspelled, hderives⟩ := h first (List.mem_singleton_self _)
      rw [renderArguments, renderFurtherArguments, String.append_empty]
      exact ⟨tokens, hspelled, .last hderives⟩
    | cons second others ih =>
      obtain ⟨hfirst, hothers⟩ := List.forall_mem_cons.1 h
      obtain ⟨tokens, hspelled, hderives⟩ := hfirst
      obtain ⟨otherTokens, hotherSpelled, hotherDerives⟩ := ih second hothers
      refine ⟨_, ?_, .more hderives (List.cons_ne_nil _ _) hotherDerives⟩
      rw [renderArguments, String.toList_append] at hotherSpelled
      simp only [renderArguments, renderFurtherArguments, String.toList_append, List.append_assoc]
      exact hspelled.append (.mark rfl (.blank isBlank_space hotherSpelled))
        (isBoundary_of_mark? rfl _)

/-! ## Surroundings -/

/-- The level of the expressions that stand without parentheses in surroundings. -/
def levelIn : Nat → BindingLevel
  | 0 | 1 => .disjunction
  | 2 => .comparison
  | _ => .call

/-- An operator that binds at least as tightly as its surroundings needs no parentheses. -/
theorem levelIn_le {operator : Operator} {surroundings : Nat}
    (h : surroundings ≤ operator.precedence) :
    (levelIn surroundings).rank ≤ operator.level.rank := by
  obtain _ | _ | _ | surroundings := surroundings
  · exact Nat.zero_le _
  · exact Nat.zero_le _
  · cases operator with
    | same | notSame => exact Nat.le_refl _
    | or => exact absurd h (by decide)
  · cases operator <;> simp [Operator.precedence] at h

/-- The left side of an operator is written as tightly as the operator asks for. -/
theorem level_le_levelIn (operator : Operator) :
    operator.level.rank ≤ (levelIn operator.precedence).rank := by
  cases operator <;> decide

/-- The right side of an operator is written as tightly as the operator asks for. -/
theorem rightLevel_le_levelIn (operator : Operator) :
    operator.rightLevel.rank ≤ (levelIn (operator.precedence + 1)).rank := by
  cases operator <;> decide

/-- Calls need no parentheses. -/
theorem levelIn_le_call (surroundings : Nat) :
    (levelIn surroundings).rank ≤ BindingLevel.call.rank := by
  unfold levelIn
  split <;> decide

/-- Primary expressions need no parentheses. -/
theorem levelIn_le_primary (surroundings : Nat) :
    (levelIn surroundings).rank ≤ BindingLevel.primary.rank :=
  Nat.le_trans (levelIn_le_call surroundings) (by decide)

/-- **A written expression is derived from its text**, in any surroundings. -/
theorem prints_renderIn {expression : Expression} (h : Writable expression) (surroundings : Nat) :
    Prints (levelIn surroundings) (expression.renderIn surroundings) expression := by
  induction h generalizing surroundings with
  | name h =>
    rw [renderIn]
    exact (Prints.name h).tighter (levelIn_le_primary surroundings)
  | null =>
    rw [renderIn]
    exact Prints.null.tighter (levelIn_le_primary surroundings)
  | call _ hmethod _ ihreceiver iharguments =>
    rw [renderIn]
    have harguments := printsArguments fun argument hmem => iharguments argument hmem loosest
    exact ((ihreceiver tightest).call hmethod harguments).tighter (levelIn_le_call surroundings)
  | binary _ operator _ ihleft ihright =>
    rw [renderIn]
    have hleft := (ihleft operator.precedence).tighter (level_le_levelIn operator)
    have hright := (ihright (operator.precedence + 1)).tighter (rightLevel_le_levelIn operator)
    refine (hleft.binary hright).parenthesize fun hneeded => levelIn_le ?_
    simpa using hneeded
  | cast htype _ ih =>
    rw [renderIn]
    have hoperand : Prints .unary _ _ := (ih tightest).tighter (by decide)
    refine (hoperand.cast htype).parenthesize fun hneeded => ?_
    -- without parentheses there is nothing around the cast
    have hsurroundings : surroundings = 0 := by
      rw [loosest, decide_eq_false_iff_not] at hneeded
      omega
    rw [hsurroundings]
    decide
  | create htype _ ih =>
    rw [renderIn]
    have harguments := printsArguments fun argument hmem => ih argument hmem loosest
    exact (Prints.create htype harguments).tighter (levelIn_le_primary surroundings)

/-! ## Writing and reading -/

/-- A written expression is read as itself. -/
theorem reads_render {expression : Expression} (h : Writable expression) :
    Reads expression.render expression := by
  obtain ⟨tokens, hspelled, hderives⟩ := prints_renderIn h loosest
  have hscan := hspelled [] isBoundary_nil
  rw [List.append_nil, scan, Option.map_some, List.append_nil] at hscan
  rw [render_eq]
  exact ⟨tokens, hscan, hderives⟩

/-- A text is read as one expression only. -/
theorem Reads.unique {text : String} {expression expression' : Expression}
    (h : Reads text expression) (h' : Reads text expression') : expression = expression' := by
  obtain ⟨tokens, hscan, hderives⟩ := h
  obtain ⟨tokens', hscan', hderives'⟩ := h'
  obtain rfl : tokens = tokens' := Option.some.inj (hscan.symm.trans hscan')
  exact hderives.unique (ExpressionToken.all_isReadable_of_scan hscan) hderives'

/-- **Written expressions mean their tree.** A written expression is read as itself and as no other
expression, so that no other expression is written in the same way. -/
theorem reads_render_iff {expression : Expression} (h : Writable expression) :
    (∀ other, Reads expression.render other ↔ other = expression)
    ∧ ∀ other, Writable other → other.render = expression.render → other = expression := by
  have hreads := reads_render h
  constructor
  · intro other
    refine ⟨fun hother => hother.unique hreads, ?_⟩
    rintro rfl
    exact hreads
  · intro other hwritable hrender
    have hother := reads_render hwritable
    rw [hrender] at hother
    exact hother.unique hreads

theorem reads_render_iff_call :
    let text := "((List<T>) o) == null || ((K) x).get(new Set<>())"
    let comparison := binary (cast "List<T>" (name "o")) .same null
    let lookup := call (cast "K" (name "x")) "get" [create "Set<>" []]
    Writable (binary comparison .or lookup)
    ∧ (∀ other, Reads text other ↔ other = binary comparison .or lookup)
    ∧ (binary lookup .or comparison).render ≠ text := by
  intro text comparison lookup
  have hcast {type : TypeExpr} {text : String} (htype : type.wellFormed .whole = true)
      (htext : text = type.render) {name : String} (hname : isValidIdentifier name = true) :
      Writable (cast text (.name name)) :=
    .cast ⟨type, TypeExpr.writable_iff.2 htype, htext⟩ (.name hname)
  have hlist := @hcast (.named "List" [.named "T" []]) "List<T>" (by decide +kernel)
    (by decide +kernel) "o" (by decide +kernel)
  have hkey := @hcast (.named "K" []) "K" (by decide +kernel) (by decide +kernel) "x"
    (by decide +kernel)
  have hset : Writable (create "Set<>" []) :=
    .create (.inr ⟨"Set", TypeExpr.writable_iff.2 (by decide +kernel), rfl⟩) nofun
  have hcomparison : Writable comparison := .binary hlist .same .null
  have hlookup : Writable lookup := .call hkey (by decide +kernel) (by simpa using hset)
  have hrender : (binary comparison .or lookup).render = text := by decide +kernel
  obtain ⟨hreads, honly⟩ := reads_render_iff (.binary hcomparison .or hlookup)
  rw [hrender] at hreads honly
  refine ⟨.binary hcomparison .or hlookup, hreads, fun heq => ?_⟩
  have hsame := honly _ (.binary hlookup .or hcomparison) heq
  simp [comparison, lookup] at hsame

end TypeWitness.Expression
