import Mathlib.Data.List.Forall2
import TypeWitness.Proofs.PrintedLines
import TypeWitness.Proofs.SortedAccessors

/-! # The lines of source files
Which lines of a file open a class body or a block and which close one is told by its syntax. When
lines are counted with what is open at each of them, every line stands as deep as it should, except
for blank lines, which are not indented. At the end nothing is open.

* `SourceFile.roles` — what each line does, by the syntax.
* `Placed` — lines are placed as a running count of open bodies demands.
* `SourceFile.placed` — the lines of a file are.
* `Placed.isOpenAround` — the depth of a line is the number of bodies open around it.
* `SourceFile.Alike.lines_eq` — the order of imports and modifiers and repetitions do not matter. -/

namespace TypeWitness

/-! ## What lines do -/

/-- What a line does with class bodies and blocks. -/
inductive LineRole where
  /-- A body begins at the end of the line. -/
  | opens
  /-- The line ends a body. -/
  | closes
  /-- A line with text that does neither. -/
  | plain
  /-- A line that keeps others apart. -/
  | blank
  deriving DecidableEq, Repr

/-- What the lines of a head do that a block of the given lines follows. -/
def blockRoles (body : List LineRole) : List LineRole :=
  if body.isEmpty then [.plain] else .opens :: body ++ [.closes]

mutual
/-- What the lines of a statement do. -/
def Statement.roles : Statement → List LineRole
  | .ifThen _ branch => blockRoles (statementRoles branch)
  | .raise _ => [.plain]
  | .giveBack _ => [.plain]

/-- What the lines of statements do. -/
def statementRoles : List Statement → List LineRole
  | [] => []
  | statement :: statements => statement.roles ++ statementRoles statements
end

/-- What the lines of a member do. -/
def Member.roles : Member → List LineRole
  | .field .. => [.plain]
  | .constructor _ _ body => blockRoles (statementRoles body)
  | .method definition =>
    definition.annotations.map (fun _ => .plain) ++ blockRoles (statementRoles definition.body)

/-- What the lines of a class do. -/
def ClassDefinition.roles (definition : ClassDefinition) : List LineRole :=
  .opens :: [.blank].intercalate (definition.members.map Member.roles) ++ [.closes]

/-- What the lines of a source file do. -/
def SourceFile.roles (file : SourceFile) : List LineRole :=
  let package := if file.packageName?.isSome then [.plain, .blank] else []
  let imports :=
    if file.imports.isEmpty then []
    else (sortedNames file.imports).map (fun _ => .plain) ++ [.blank]
  package ++ imports ++ [.blank].intercalate (file.classes.map ClassDefinition.roles)

/-! ## Counting what is open -/

/-- From one number of open bodies to another, lines do what is demanded and are as deep as there
are bodies open around them. Blank lines are not indented. -/
inductive Placed : Nat → List LineRole → List Line → Nat → Prop
  | nil (n : Nat) : Placed n [] [] n
  | opens (head : String) {n m : Nat} {roles : List LineRole} {lines : List Line}
      (h : Placed (n + 1) roles lines m) :
      Placed n (.opens :: roles) (⟨n, head ++ " \x7b"⟩ :: lines) m
  | closes {n m : Nat} {roles : List LineRole} {lines : List Line} (h : Placed n roles lines m) :
      Placed (n + 1) (.closes :: roles) (⟨n, "\x7d"⟩ :: lines) m
  | plain (text : String) {n m : Nat} {roles : List LineRole} {lines : List Line}
      (h : Placed n roles lines m) : Placed n (.plain :: roles) (⟨n, text⟩ :: lines) m
  | blank {n m : Nat} {roles : List LineRole} {lines : List Line} (h : Placed n roles lines m) :
      Placed n (.blank :: roles) (Line.blank :: lines) m

namespace Placed

variable {n m k : Nat} {roles roles' : List LineRole} {lines lines' : List Line}

/-- A single line of text. -/
theorem line (n : Nat) (text : String) : Placed n [.plain] [⟨n, text⟩] n := .plain text (.nil n)

theorem append (h : Placed n roles lines m) (h' : Placed m roles' lines' k) :
    Placed n (roles ++ roles') (lines ++ lines') k := by
  induction h with
  | nil => exact h'
  | opens head _ ih => exact .opens head (ih h')
  | closes _ ih => exact .closes (ih h')
  | plain text _ ih => exact .plain text (ih h')
  | blank _ ih => exact .blank (ih h')

/-- A body between the line that opens it and the one that closes it. -/
theorem body (head : String) (h : Placed (n + 1) roles lines (n + 1)) :
    Placed n (.opens :: roles ++ [.closes]) (⟨n, head ++ " \x7b"⟩ :: lines ++ [⟨n, "\x7d"⟩]) n :=
  .opens head (h.append (.closes (.nil n)))

/-- A head with a block, which is on the same line if it is empty. -/
theorem block (head : String) (h : Placed (n + 1) roles lines (n + 1)) :
    Placed n (blockRoles roles) (blockLines n head lines) n := by
  cases hroles : roles with
  | nil =>
    rw [hroles] at h
    cases h
    exact line n _
  | cons role others =>
    have hlines : lines.isEmpty = false := by
      rw [hroles] at h
      cases h <;> rfl
    rw [blockRoles, blockLines, hlines, ← hroles]
    rw [hroles, List.isEmpty_cons, ← hroles]
    exact body head h

/-- Lines of text, one for each item. -/
theorem map {α : Type} (n : Nat) (text : α → String) (items : List α) :
    Placed n (items.map fun _ => .plain) (items.map fun item => ⟨n, text item⟩) n := by
  induction items with
  | nil => exact .nil n
  | cons item items ih => exact .plain _ ih

/-- Parts with blank lines between them. -/
theorem intercalate {α : Type} {rolesOf : α → List LineRole} {linesOf : α → List Line}
    {items : List α} (h : ∀ item ∈ items, Placed n (rolesOf item) (linesOf item) n) :
    Placed n ([.blank].intercalate (items.map rolesOf)) ([Line.blank].intercalate
      (items.map linesOf)) n := by
  induction items with
  | nil => exact .nil n
  | cons first others ih =>
    obtain ⟨hfirst, hothers⟩ := List.forall_mem_cons.1 h
    cases others with
    | nil =>
      simp only [List.map_cons, List.map_nil, List.intercalate_singleton]
      exact hfirst
    | cons second others =>
      simp only [List.map_cons, List.intercalate_cons_cons] at ih ⊢
      exact (hfirst.append (.blank (.nil n))).append (ih hothers)

/-- Each line does something. -/
theorem length_eq (h : Placed n roles lines m) : lines.length = roles.length := by
  induction h with
  | nil => rfl
  | opens _ _ ih | closes _ ih | plain _ _ ih | blank _ ih => simp [ih]

/-- What is open in the end is what was open before and what was opened and not closed. -/
theorem count_eq (h : Placed n roles lines m) :
    m + roles.count .closes = n + roles.count .opens := by
  induction h with
  | nil => rfl
  | opens _ _ ih | closes _ ih | plain _ _ ih | blank _ ih => simp; omega

end Placed

/-- A depth is the number of bodies that are open around the line at a place: of those opened before
it, the ones that neither it nor a line before it closes. -/
def IsOpenAround (roles : List LineRole) (place depth : Nat) : Prop :=
  depth + (roles.take (place + 1)).count .closes = (roles.take place).count .opens

namespace Placed

variable {n m place : Nat} {roles : List LineRole} {lines : List Line} {line : Line}

/-- Blank lines are placed where they belong. -/
theorem line_eq_blank (h : Placed n roles lines m) (hrole : roles[place]? = some .blank)
    (hline : lines[place]? = some line) : line = Line.blank := by
  induction h generalizing place with
  | nil => cases hrole
  | opens _ _ ih | closes _ ih | plain _ _ ih =>
    cases place with
    | zero => cases hrole
    | succ place => exact ih hrole hline
  | blank _ ih =>
    cases place with
    | zero => exact (Option.some.inj hline).symm
    | succ place => exact ih hrole hline

/-- **The depth of each other line** is what was open at first and is opened and not closed. -/
theorem depth_add_count (h : Placed n roles lines m) (hrole : roles[place]? ≠ some .blank)
    (hline : lines[place]? = some line) :
    line.depth + (roles.take (place + 1)).count .closes =
      n + (roles.take place).count .opens := by
  induction h generalizing place with
  | nil => cases hline
  | blank _ ih =>
    cases place with
    | zero => exact absurd rfl hrole
    | succ place => simpa using ih hrole hline
  | opens _ _ ih | closes _ ih | plain _ _ ih =>
    cases place with
    | zero =>
      cases hline
      simp
    | succ place =>
      have := ih hrole hline
      simp
      omega

/-- When nothing is open at first, the depth of each line that is not blank is the number of bodies
open around it. -/
theorem isOpenAround (h : Placed 0 roles lines m) (hrole : roles[place]? ≠ some .blank)
    (hline : lines[place]? = some line) : IsOpenAround roles place line.depth := by
  rw [IsOpenAround, h.depth_add_count hrole hline, Nat.zero_add]

end Placed

/-! ## The lines of each part of a file -/

mutual
theorem Statement.placed (n : Nat) : (statement : Statement) →
    Placed n statement.roles (statement.lines n) n
  | .ifThen _ branch => .block _ (placed_statementLines (n + 1) branch)
  | .raise _ => .line n _
  | .giveBack _ => .line n _

theorem placed_statementLines (n : Nat) : (statements : List Statement) →
    Placed n (statementRoles statements) (statementLines n statements) n
  | [] => .nil n
  | statement :: statements => (statement.placed n).append (placed_statementLines n statements)
end

theorem Member.placed (className : String) (n : Nat) (member : Member) :
    Placed n member.roles (member.lines className n) n := by
  cases member with
  | field modifiers type name initializer => exact .line n _
  | constructor modifiers parameters body => exact .block _ (placed_statementLines (n + 1) body)
  | method definition =>
    exact (Placed.map n _ definition.annotations).append
      (.block _ (placed_statementLines (n + 1) definition.body))

theorem ClassDefinition.placed (n : Nat) (definition : ClassDefinition) :
    Placed n definition.roles (definition.lines n) n :=
  .body _ (.intercalate fun member _ => member.placed definition.name (n + 1))

/-- **The lines of a file are placed** so that nothing is open in the end. -/
theorem SourceFile.placed (file : SourceFile) : Placed 0 file.roles file.lines 0 := by
  refine .append (m := 0) (.append (m := 0) ?_ ?_)
    (.intercalate fun definition _ => definition.placed 0)
  · cases file.packageName? with
    | none => exact .nil 0
    | some name => exact .plain _ (.blank (.nil 0))
  · cases file.imports.isEmpty with
    | true => exact .nil 0
    | false => exact (Placed.map 0 _ (sortedNames file.imports)).append (.blank (.nil 0))

/-! ## What does not matter -/

/-- Two lists of modifiers are the same as sets. -/
def SameModifiers (a b : List Modifier) : Prop := ∀ modifier, modifier ∈ a ↔ modifier ∈ b

/-- The place of a modifier tells which one it is. -/
theorem eq_of_rank_eq {a b : Modifier} (h : a.rank = b.rank) : a = b := by
  cases a <;> cases b <;> first | rfl | cases h

theorem mem_insertModifier {modifier other : Modifier} {modifiers : List Modifier} :
    other ∈ insertModifier modifier modifiers ↔ other = modifier ∨ other ∈ modifiers := by
  induction modifiers with
  | nil => rw [insertModifier, List.mem_cons]
  | cons first others ih =>
    rw [insertModifier]
    split
    · rw [List.mem_cons]
    · split
      · next heq => simp [heq]
      · rw [List.mem_cons, ih, List.mem_cons, or_left_comm]

/-- Modifiers stay in their order, each once, when one is put in its place. -/
theorem pairwise_insertModifier {modifier : Modifier} {modifiers : List Modifier}
    (h : modifiers.Pairwise fun a b => a.rank < b.rank) :
    (insertModifier modifier modifiers).Pairwise fun a b => a.rank < b.rank := by
  induction modifiers with
  | nil => exact List.pairwise_singleton _ _
  | cons first others ih =>
    obtain ⟨hfirst, hothers⟩ := List.pairwise_cons.1 h
    rw [insertModifier]
    split
    · next hlt =>
      refine List.pairwise_cons.2 ⟨List.forall_mem_cons.2 ⟨hlt, fun other hother => ?_⟩, h⟩
      exact Nat.lt_trans hlt (hfirst other hother)
    · next hle =>
      split
      · exact h
      · next hne =>
        refine List.pairwise_cons.2 ⟨fun other hother => ?_, ih hothers⟩
        rcases mem_insertModifier.1 hother with rfl | hother
        · exact Nat.lt_of_le_of_ne (Nat.not_lt.1 hle) fun heq => hne (eq_of_rank_eq heq).symm
        · exact hfirst other hother

theorem mem_sortedModifiers {modifier : Modifier} {modifiers : List Modifier} :
    modifier ∈ sortedModifiers modifiers ↔ modifier ∈ modifiers := by
  induction modifiers with
  | nil => rfl
  | cons first others ih => rw [sortedModifiers, List.foldr_cons, mem_insertModifier, List.mem_cons,
      ← ih, sortedModifiers]

theorem pairwise_sortedModifiers (modifiers : List Modifier) :
    (sortedModifiers modifiers).Pairwise fun a b => a.rank < b.rank := by
  induction modifiers with
  | nil => exact .nil
  | cons first others ih => exact pairwise_insertModifier ih

/-- Sorted modifiers depend only on which modifiers there are. -/
theorem SameModifiers.sorted_eq {a b : List Modifier} (h : SameModifiers a b) :
    sortedModifiers a = sortedModifiers b := by
  have hnodup (modifiers : List Modifier) : (sortedModifiers modifiers).Nodup :=
    (pairwise_sortedModifiers modifiers).imp fun hlt =>
      ne_of_apply_ne Modifier.rank (Nat.ne_of_lt hlt)
  have hperm : (sortedModifiers a).Perm (sortedModifiers b) := by
    rw [List.perm_ext_iff_of_nodup (hnodup a) (hnodup b)]
    intro modifier
    rw [mem_sortedModifiers, mem_sortedModifiers]
    exact h modifier
  exact hperm.eq_of_pairwise (fun _ _ _ _ hlt hgt => absurd hgt (Nat.lt_asymm hlt))
    (pairwise_sortedModifiers a) (pairwise_sortedModifiers b)

theorem SameModifiers.render_eq {a b : List Modifier} (h : SameModifiers a b) :
    renderModifiers a = renderModifiers b := by
  rw [renderModifiers, renderModifiers, h.sorted_eq]

/-- Two members differ in their modifiers at most, and not when these are taken as sets. -/
inductive Member.Alike : Member → Member → Prop
  | field {modifiers modifiers' : List Modifier} (h : SameModifiers modifiers modifiers')
      (type name : String) (initializer : Option Expression) :
      Alike (.field modifiers type name initializer) (.field modifiers' type name initializer)
  | constructor {modifiers modifiers' : List Modifier} (h : SameModifiers modifiers modifiers')
      (parameters : List Parameter) (body : List Statement) :
      Alike (.constructor modifiers parameters body) (.constructor modifiers' parameters body)
  | method (definition : Method) {modifiers : List Modifier}
      (h : SameModifiers definition.modifiers modifiers) :
      Alike (.method definition) (.method { definition with modifiers })

/-- Two classes differ in modifiers at most, and not when these are taken as sets. -/
structure ClassDefinition.Alike (a b : ClassDefinition) : Prop where
  modifiers : SameModifiers a.modifiers b.modifiers
  name : a.name = b.name
  members : List.Forall₂ Member.Alike a.members b.members

/-- Two files differ in modifiers and imports at most, and not when these are taken as sets. -/
structure SourceFile.Alike (a b : SourceFile) : Prop where
  packageName? : a.packageName? = b.packageName?
  imports : ∀ name, name ∈ a.imports ↔ name ∈ b.imports
  classes : List.Forall₂ ClassDefinition.Alike a.classes b.classes

/-- What related items are mapped to is the same. -/
theorem map_eq_map_of_forall₂ {α β : Type} {r : α → α → Prop} {f : α → β}
    (hf : ∀ {a b}, r a b → f a = f b) {items items' : List α} (h : List.Forall₂ r items items') :
    items.map f = items'.map f := by
  induction h with
  | nil => rfl
  | cons hfirst _ ih => rw [List.map_cons, List.map_cons, hf hfirst, ih]

theorem Member.Alike.lines_eq {a b : Member} (h : a.Alike b) (className : String) (n : Nat) :
    a.lines className n = b.lines className n := by
  cases h with
  | field h type name initializer => simp only [Member.lines, h.render_eq]
  | constructor h parameters body => simp only [Member.lines, h.render_eq]
  | method definition h => simp only [Member.lines, Method.lines, h.render_eq]

theorem ClassDefinition.Alike.lines_eq {a b : ClassDefinition} (h : a.Alike b) (n : Nat) :
    a.lines n = b.lines n := by
  rw [lines, lines, h.modifiers.render_eq, h.name,
    map_eq_map_of_forall₂ (fun hmember => hmember.lines_eq b.name (n + 1)) h.members]

/-- **Imports and modifiers matter as sets only.** -/
theorem SourceFile.Alike.lines_eq {a b : SourceFile} (h : a.Alike b) : a.lines = b.lines := by
  have hempty : a.imports.isEmpty = b.imports.isEmpty := by
    rw [Bool.eq_iff_iff, List.isEmpty_iff, List.isEmpty_iff, List.eq_nil_iff_forall_not_mem,
      List.eq_nil_iff_forall_not_mem]
    exact forall_congr' fun name => not_congr (h.imports name)
  rw [lines, lines, h.packageName?, hempty, sortedNames_congr h.imports,
    map_eq_map_of_forall₂ (fun hclass => hclass.lines_eq 0) h.classes]

end TypeWitness
