import Mathlib.Data.List.Induction
import Mathlib.Logic.ExistsUnique
import Mathlib.Logic.Function.Basic
import TypeWitness.Proofs.UsedDeclarations

/-! # One declaration for each name
Of the declarations with one name a manifest uses the least, and the first of those that equal it.
As the order of declarations is total there is exactly one such place for each name, and a single
scan that keeps the lesser of two declarations ends there.

* `IsCanonical` — the declaration at a place is the one that counts.
* `leastByName_eq_some_iff` — the scan ends at the canonical place of each name.
* `counts_iff_isCanonical` — that is the declaration which counts when a manifest is collected.
* `Manifest.collect_canonical` — all of this together, and what becomes of the others. -/

namespace TypeWitness

open Std

/-! ## Total orders -/

/-- A comparison by which values are totally ordered, and only equal ones tie. -/
structure IsTotalOrder (α : Type) [Ord α] : Prop where
  eq_iff : ∀ a b : α, compare a b = .eq ↔ a = b
  swap : ∀ a b : α, compare b a = (compare a b).swap
  trans : ∀ a b c : α, compare a b = .lt → compare b c = .lt → compare a c = .lt

/-- Lawful comparisons are total orders. -/
theorem isTotalOrder (α : Type) [Ord α] [TransOrd α] [LawfulEqOrd α] : IsTotalOrder α where
  eq_iff _ _ := LawfulEqOrd.compare_eq_iff_eq
  swap _ _ := OrientedOrd.eq_swap
  trans _ _ _ := TransCmp.lt_trans

/-- **Declarations are totally ordered, and so is all that they consist of.** -/
theorem isTotalOrder_levels :
    IsTotalOrder TypeDeclaration
    ∧ (IsTotalOrder MemberDeclaration ∧ IsTotalOrder (List MemberDeclaration))
    ∧ (IsTotalOrder TypeParameterDeclaration ∧ IsTotalOrder (List TypeParameterDeclaration))
    ∧ (IsTotalOrder Marker ∧ IsTotalOrder (List Marker))
    ∧ IsTotalOrder Visibility ∧ IsTotalOrder MemberKind
    ∧ IsTotalOrder String ∧ IsTotalOrder (Option String) ∧ IsTotalOrder (List String) :=
  ⟨isTotalOrder _, ⟨isTotalOrder _, isTotalOrder _⟩, ⟨isTotalOrder _, isTotalOrder _⟩,
    ⟨isTotalOrder _, isTotalOrder _⟩, isTotalOrder _, isTotalOrder _, isTotalOrder _,
    isTotalOrder _, isTotalOrder _⟩

/-! ## The declaration that is chosen -/

/-- The declaration at a place is the one that counts for its name: no declaration of that name is
less, and none before it is equal. -/
structure IsCanonical (types : List TypeDeclaration) (place : Nat)
    (declaration : TypeDeclaration) : Prop where
  found : types[place]? = some declaration
  least : ∀ other ∈ types, other.qualifiedName = declaration.qualifiedName →
    compare other declaration ≠ .lt
  first : ∀ earlier < place, types[earlier]? ≠ some declaration

instance (types : List TypeDeclaration) (place : Nat) (declaration : TypeDeclaration) :
    Decidable (IsCanonical types place declaration) :=
  decidable_of_iff
    (types[place]? = some declaration
      ∧ (∀ other ∈ types, other.qualifiedName = declaration.qualifiedName →
        compare other declaration ≠ .lt)
      ∧ ∀ earlier < place, types[earlier]? ≠ some declaration)
    ⟨fun h => ⟨h.1, h.2.1, h.2.2⟩, fun h => ⟨h.found, h.least, h.first⟩⟩

namespace IsCanonical

variable {types : List TypeDeclaration} {place : Nat} {declaration : TypeDeclaration}

theorem mem (h : IsCanonical types place declaration) : declaration ∈ types :=
  List.mem_of_getElem? h.found

/-- **There is no more than one place for each name.** -/
theorem unique (h : IsCanonical types place declaration) {place' : Nat}
    {declaration' : TypeDeclaration} (h' : IsCanonical types place' declaration')
    (hname : declaration'.qualifiedName = declaration.qualifiedName) :
    place' = place ∧ declaration' = declaration := by
  -- neither is less than the other, so they are equal, and neither comes first
  have heq : declaration' = declaration := by
    by_contra hne
    exact h'.least _ h.mem hname.symm
      ((TypeDeclaration.compare_ne_lt_iff (Ne.symm hne)).1 (h.least _ h'.mem hname))
  subst heq
  refine ⟨Nat.le_antisymm (Nat.not_lt.1 fun hlt => ?_) (Nat.not_lt.1 fun hlt => ?_), rfl⟩
  · exact h'.first place hlt h.found
  · exact h.first place' hlt h'.found

/-- A place stays canonical when a declaration follows that has another name or is not less. -/
theorem concat (h : IsCanonical types place declaration) {last : TypeDeclaration}
    (hlast : last.qualifiedName = declaration.qualifiedName → compare last declaration ≠ .lt) :
    IsCanonical (types ++ [last]) place declaration := by
  obtain ⟨hlt, -⟩ := List.getElem?_eq_some_iff.1 h.found
  refine ⟨by rw [List.getElem?_append_left hlt, h.found], fun other hother hname => ?_,
    fun earlier hearlier => ?_⟩
  · cases List.mem_append.1 hother with
    | inl hmem => exact h.least other hmem hname
    | inr hmem =>
      rw [List.mem_singleton.1 hmem] at hname ⊢
      exact hlast hname
  · rw [List.getElem?_append_left (Nat.lt_trans hearlier hlt)]
    exact h.first earlier hearlier

/-- A declaration at the end is canonical when it is less than all others of its name. -/
theorem of_last {last : TypeDeclaration}
    (hless : ∀ other ∈ types, other.qualifiedName = last.qualifiedName →
      compare last other = .lt) : IsCanonical (types ++ [last]) types.length last := by
  refine ⟨List.getElem?_concat_length, fun other hother hname hlt => ?_,
    fun earlier hearlier hfound => ?_⟩
  · cases List.mem_append.1 hother with
    | inl hmem =>
      rw [OrientedOrd.eq_swap, hless other hmem hname] at hlt
      cases hlt
    | inr hmem =>
      rw [List.mem_singleton.1 hmem, ReflOrd.compare_self] at hlt
      cases hlt
  · rw [List.getElem?_append_left hearlier] at hfound
    have hself := hless last (List.mem_of_getElem? hfound) rfl
    rw [ReflOrd.compare_self] at hself
    cases hself

end IsCanonical

/-! ## A scan with the least declaration of each name -/

/-- What a scan keeps: for each name a declaration with its place. -/
abbrev Kept : Type := String → Option (TypeDeclaration × Nat)

/-- A declaration takes the place of the one that is kept for its name, when it is less or when none
is kept. -/
def Kept.consider (kept : Kept) (entry : TypeDeclaration × Nat) : Kept :=
  Function.update kept entry.1.qualifiedName <|
    match kept entry.1.qualifiedName with
    | none => some entry
    | some chosen => if compare entry.1 chosen.1 = .lt then some entry else some chosen

/-- What is kept after a scan of all declarations. -/
def leastByName (types : List TypeDeclaration) : Kept :=
  types.zipIdx.foldl Kept.consider fun _ => none

/-- A scan goes on with the last declaration. -/
theorem leastByName_concat (types : List TypeDeclaration) (last : TypeDeclaration) :
    leastByName (types ++ [last]) = (leastByName types).consider (last, types.length) := by
  rw [leastByName, leastByName, List.zipIdx_append, List.foldl_append, Nat.zero_add]
  rfl

/-- What is kept tells the canonical place of each name. -/
structure Kept.Tells (kept : Kept) (types : List TypeDeclaration) : Prop where
  canonical : ∀ {name declaration place}, kept name = some (declaration, place) →
    IsCanonical types place declaration ∧ declaration.qualifiedName = name
  missing : ∀ {name}, kept name = none → ∀ declaration ∈ types, declaration.qualifiedName ≠ name

namespace Kept.Tells

variable {kept : Kept} {types : List TypeDeclaration}

/-- For the name of one more declaration, that or the one kept so far is canonical. -/
theorem consider_self (h : kept.Tells types) (last : TypeDeclaration) :
    ∃ declaration place,
      kept.consider (last, types.length) last.qualifiedName = some (declaration, place)
      ∧ IsCanonical (types ++ [last]) place declaration
      ∧ declaration.qualifiedName = last.qualifiedName := by
  rw [consider, Function.update_self]
  cases hkept : kept last.qualifiedName with
  | none =>
    exact ⟨last, types.length, rfl,
      .of_last fun other hother hname => absurd hname (h.missing hkept other hother), rfl⟩
  | some chosen =>
    obtain ⟨hcanonical, hname⟩ := h.canonical hkept
    by_cases hless : compare last chosen.1 = .lt
    · refine ⟨last, types.length, by simp [hless], .of_last fun other hother hother' => ?_, rfl⟩
      -- what is less than the least is less than all of them
      have hle := hcanonical.least other hother (hother'.trans hname.symm)
      exact TransCmp.lt_of_lt_of_isLE hless
        (not_not.1 fun hgreater => hle (OrientedCmp.lt_of_not_isLE hgreater))
    · exact ⟨chosen.1, chosen.2, by simp [hless], hcanonical.concat fun _ => hless, hname⟩

/-- **A step of the scan** leads from canonical places to canonical places. -/
theorem step (h : kept.Tells types) (last : TypeDeclaration) :
    (kept.consider (last, types.length)).Tells (types ++ [last]) := by
  obtain ⟨chosen, chosenPlace, hself, hcanonical, hchosen⟩ := h.consider_self last
  have hother : ∀ {name}, name ≠ last.qualifiedName →
      kept.consider (last, types.length) name = kept name :=
    fun hne => Function.update_of_ne hne _ _
  constructor
  · intro name declaration place hcell
    by_cases hname : name = last.qualifiedName
    · rw [hname, hself] at hcell
      cases hcell
      exact ⟨hcanonical, hchosen.trans hname.symm⟩
    · rw [hother hname] at hcell
      obtain ⟨hbefore, rfl⟩ := h.canonical hcell
      exact ⟨hbefore.concat fun heq => absurd heq.symm hname, rfl⟩
  · intro name hcell declaration hmem
    by_cases hname : name = last.qualifiedName
    · rw [hname, hself] at hcell
      cases hcell
    · rw [hother hname] at hcell
      cases List.mem_append.1 hmem with
      | inl hmem => exact h.missing hcell declaration hmem
      | inr hmem => exact List.mem_singleton.1 hmem ▸ Ne.symm hname

end Kept.Tells

/-- **The scan tells the canonical place of each name.** -/
theorem tells_leastByName (types : List TypeDeclaration) : (leastByName types).Tells types := by
  induction types using List.reverseRecOn with
  | nil => exact ⟨(fun h => nomatch h), fun _ _ h => absurd h List.not_mem_nil⟩
  | append_singleton types last ih =>
    rw [leastByName_concat]
    exact ih.step last

/-- What the scan keeps for a name. -/
theorem leastByName_eq_some_iff {types : List TypeDeclaration} {name : String}
    {declaration : TypeDeclaration} {place : Nat} :
    leastByName types name = some (declaration, place) ↔
      IsCanonical types place declaration ∧ declaration.qualifiedName = name := by
  refine ⟨(tells_leastByName types).canonical, ?_⟩
  rintro ⟨hcanonical, rfl⟩
  cases hkept : leastByName types declaration.qualifiedName with
  | none => exact absurd rfl ((tells_leastByName types).missing hkept declaration hcanonical.mem)
  | some chosen =>
    obtain ⟨hchosen, hname⟩ := (tells_leastByName types).canonical hkept
    obtain ⟨hplace, hdeclaration⟩ := hcanonical.unique hchosen hname
    rw [← hplace, ← hdeclaration]

/-- Names of declarations may coincide although neither their packages nor their simple names do. -/
example :
    let outer : TypeDeclaration := ⟨"b.C", "a", .package, [], none, [], []⟩
    let inner : TypeDeclaration := ⟨"C", "a.b", .package, [], none, [], []⟩
    leastByName [outer, inner, outer, inner] "a.b.C" = some (inner, 1) := by decide

/-- **Each name that occurs has exactly one canonical place.** -/
theorem existsUnique_canonical {types : List TypeDeclaration} {name : String}
    (h : name ∈ types.map (·.qualifiedName)) :
    ∃! place, ∃ declaration,
      IsCanonical types place declaration ∧ declaration.qualifiedName = name := by
  obtain ⟨declaration, hmem, rfl⟩ := List.mem_map.1 h
  cases hkept : leastByName types declaration.qualifiedName with
  | none => exact absurd rfl ((tells_leastByName types).missing hkept declaration hmem)
  | some chosen =>
    obtain ⟨hchosen, hname⟩ := leastByName_eq_some_iff.1 hkept
    refine ⟨chosen.2, ⟨chosen.1, hchosen, hname⟩, ?_⟩
    rintro place ⟨other, hother, hname'⟩
    exact (hchosen.unique hother (hname'.trans hname.symm)).1

/-! ## What is collected -/

/-- **The declaration that counts is the canonical one.** -/
theorem counts_iff_isCanonical {before after : List TypeDeclaration}
    {declaration : TypeDeclaration} :
    declaration.counts before after = true ↔
      IsCanonical (before.reverse ++ declaration :: after) before.length declaration := by
  have hearlier : ∀ place < before.length,
      (before.reverse ++ declaration :: after)[place]? = before.reverse[place]? :=
    fun place hlt => List.getElem?_append_left (by simpa using hlt)
  rw [TypeDeclaration.counts_iff]
  constructor
  · rintro ⟨hbefore, hafter⟩
    refine ⟨?_, fun other hother hname hlt => ?_, fun place hplace hfound => ?_⟩
    · rw [← List.length_reverse, List.getElem?_append_right (Nat.le_refl _), Nat.sub_self,
        List.getElem?_cons_zero]
    · rw [List.mem_append, List.mem_reverse, List.mem_cons] at hother
      rcases hother with hmem | rfl | hmem
      · rw [OrientedOrd.eq_swap, hbefore other hmem hname] at hlt
        cases hlt
      · rw [ReflOrd.compare_self] at hlt
        cases hlt
      · exact hafter other hmem hname hlt
    · rw [hearlier place hplace] at hfound
      have hself := hbefore declaration (List.mem_reverse.1 (List.mem_of_getElem? hfound)) rfl
      rw [ReflOrd.compare_self] at hself
      cases hself
  · intro h
    refine ⟨fun other hother hname => ?_, fun other hother hname => ?_⟩
    · -- it is not less, and it is different as it comes before
      have hne : declaration ≠ other := by
        rintro rfl
        obtain ⟨place, hplace⟩ := List.mem_iff_getElem?.1 (List.mem_reverse.2 hother)
        have hlt : place < before.length := by
          rw [← List.length_reverse]
          exact (List.getElem?_eq_some_iff.1 hplace).1
        exact h.first place hlt ((hearlier place hlt).trans hplace)
      refine (TypeDeclaration.compare_ne_lt_iff hne).1 (h.least other ?_ hname)
      exact List.mem_append_left _ (List.mem_reverse.2 hother)
    · exact h.least other (List.mem_append_right _ (List.mem_cons_of_mem _ hother)) hname

/-- What becomes of the declaration at a place: it is used if it is canonical, and otherwise
reported as a duplicate, with nothing else. -/
def contribution (types : List TypeDeclaration) (entry : TypeDeclaration × Nat) : Collection :=
  if IsCanonical types entry.2 entry.1 then entry.1.collect
  else ⟨[], [], [],
    [(Problem.duplicateDeclaration entry.1.qualifiedName).diagnostic entry.1.qualifiedName]⟩

theorem collectFrom_eq (before types : List TypeDeclaration) :
    collectFrom before types =
      .join ((types.zipIdx before.length).map (contribution (before.reverse ++ types))) := by
  -- the list of all declarations stays the same, as one of them moves to those before
  induction types generalizing before with
  | nil => rfl
  | cons first after ih =>
    have hall : before.reverse ++ first :: after = (first :: before).reverse ++ after := by simp
    rw [collectFrom, ih, List.zipIdx_cons, List.map_cons, Collection.join, ← hall,
      List.length_cons]
    congr 1
    by_cases hcounts : first.counts before after = true
    · rw [if_pos hcounts, contribution, if_pos (counts_iff_isCanonical.1 hcounts)]
    · rw [if_neg hcounts, contribution, if_neg (mt counts_iff_isCanonical.2 hcounts)]
      rfl

/-- A duplicate is reported where a declaration is not canonical, and nowhere else. -/
theorem filter_contribution (types : List TypeDeclaration) (entry : TypeDeclaration × Nat) :
    (contribution types entry).diagnostics.filter (·.code == 2002) =
      if IsCanonical types entry.2 entry.1 then []
      else [(Problem.duplicateDeclaration entry.1.qualifiedName).diagnostic
        entry.1.qualifiedName] := by
  rw [contribution]
  split
  · exact filter_code_eq_nil (fun _ => TypeDeclaration.code_of_mem_collect) (by decide)
  · rw [List.filter_cons, Problem.diagnostic_code]
    rfl

/-- The duplicates that are reported of some places. -/
theorem filter_join_contribution (types : List TypeDeclaration)
    (entries : List (TypeDeclaration × Nat)) :
    (Collection.join (entries.map (contribution types))).diagnostics.filter (·.code == 2002) =
      (entries.filter fun entry => ¬ IsCanonical types entry.2 entry.1).map fun entry =>
        (Problem.duplicateDeclaration entry.1.qualifiedName).diagnostic
          entry.1.qualifiedName := by
  induction entries with
  | nil => rfl
  | cons entry entries ih =>
    rw [List.map_cons, Collection.join, Collection.diagnostics_append, List.filter_append,
      filter_contribution, ih]
    by_cases hcanonical : IsCanonical types entry.2 entry.1 <;> simp [hcanonical]

/-- **One declaration is used for each name, the least.** Declarations are totally ordered, at every
level. Each name that occurs has exactly one canonical place: no declaration of the name is less
than the one there, and none before it is equal. A scan that keeps the lesser of two declarations
ends at this place. What is collected are the contributions of the places, in their order: all that
a canonical declaration asks for, and a report as a duplicate, with nothing else, for every other
one. There are no further reports of this kind. -/
theorem Manifest.collect_canonical (manifest : Manifest) :
    (IsTotalOrder TypeDeclaration
      ∧ (IsTotalOrder MemberDeclaration ∧ IsTotalOrder (List MemberDeclaration))
      ∧ (IsTotalOrder TypeParameterDeclaration ∧ IsTotalOrder (List TypeParameterDeclaration))
      ∧ (IsTotalOrder Marker ∧ IsTotalOrder (List Marker))
      ∧ IsTotalOrder Visibility ∧ IsTotalOrder MemberKind
      ∧ IsTotalOrder String ∧ IsTotalOrder (Option String) ∧ IsTotalOrder (List String))
    ∧ (∀ name ∈ manifest.types.map (·.qualifiedName), ∃! place, ∃ declaration,
      IsCanonical manifest.types place declaration ∧ declaration.qualifiedName = name)
    ∧ (∀ name declaration place,
      leastByName manifest.types name = some (declaration, place) ↔
        IsCanonical manifest.types place declaration ∧ declaration.qualifiedName = name)
    ∧ manifest.collect = .join (manifest.types.zipIdx.map (contribution manifest.types))
    ∧ manifest.collect.diagnostics.filter (·.code == 2002) =
      (manifest.types.zipIdx.filter fun (declaration, place) =>
        ¬ IsCanonical manifest.types place declaration).map fun (declaration, _) =>
          (Problem.duplicateDeclaration declaration.qualifiedName).diagnostic
            declaration.qualifiedName := by
  have hcollect := collectFrom_eq [] manifest.types
  refine ⟨isTotalOrder_levels, fun name hname => existsUnique_canonical hname,
    fun name declaration place => leastByName_eq_some_iff, hcollect, ?_⟩
  rw [collect, hcollect]
  exact filter_join_contribution manifest.types manifest.types.zipIdx

end TypeWitness
