import TypeWitness.Proofs.FreshNames
import TypeWitness.Proofs.GroupedAccessors
import TypeWitness.Proofs.LowerCase

/-! # The names of parameters
A witness is called by the token name of its accessor in lower case, with underscores behind it
where the name is reserved or taken. Underscores alone could make a reserved word again, since `_`
is one, but only out of an empty name; and of the accessors of a type at most one is called by the
empty name, as they derive different tokens. The names stay identifiers as far as the token name is
one: what is left of an identifier without its `get` may begin with a digit.

* `isReserved_freshName` — a fresh name is no reserved word.
* `Manifest.parameterNames_apart` — the parameters of a cast have different names, none of them
  reserved.
* `Manifest.parameterNames_valid` — which parameters of a cast are called by identifiers. -/

namespace TypeWitness

/-! ## Reserved words -/

/-- The only reserved word that ends in an underscore is the underscore. -/
theorem eq_of_isReserved_of_getLast? {word : String} (h : isReserved word = true)
    (hlast : word.toList.getLast? = some '_') : word = "_" := by
  have hall : ∀ word ∈ reservedWords, word.toList.getLast? = some '_' → word = "_" := by
    decide
  exact hall word (by simpa [isReserved] using h) hlast

theorem toList_underscored (base : String) (count : Nat) :
    (underscored base count).toList = base.toList ++ List.replicate count '_' := by
  simp [underscored]

/-- Underscores behind a name that is not empty make no reserved word. -/
theorem isReserved_underscored_succ {base : String} (hbase : base ≠ "") (count : Nat) :
    isReserved (underscored base (count + 1)) = false := by
  rw [Bool.eq_false_iff]
  intro hreserved
  have hlast : (underscored base (count + 1)).toList.getLast? = some '_' := by
    rw [toList_underscored, List.replicate_succ', ← List.append_assoc, List.getLast?_concat]
  have heq := congrArg String.toList (eq_of_isReserved_of_getLast? hreserved hlast)
  rw [toList_underscored, List.replicate_succ', ← List.append_assoc] at heq
  -- nothing stands before the last underscore, in particular not the base
  have hnil := (List.append_eq_nil_iff.1 (List.append_inj_left' heq rfl : _ = [])).1
  exact hbase (String.toList_injective hnil)

/-- A name for a local variable is the name itself, or the name with an underscore. -/
theorem localName_eq (name : String) :
    localName name = underscored name (if isReserved name then 1 else 0) := by
  rw [localName]
  split
  · rw [← push_underscored, underscored_zero]
  · rw [underscored_zero]

theorem isReserved_localName (name : String) : isReserved (localName name) = false := by
  rw [localName_eq]
  split
  · next hreserved =>
    refine isReserved_underscored_succ ?_ 0
    rintro rfl
    revert hreserved
    decide
  · next hfree => simpa using hfree

/-- **A fresh name is no reserved word**, unless it is made of underscores only: its base must not
be reserved, nor be empty and taken. -/
theorem isReserved_freshName {base : String} {taken : List String} (hbase : isReserved base = false)
    (hempty : base = "" → "" ∉ taken) : isReserved (freshName base taken) = false := by
  obtain ⟨count, -, heq, -, hbefore⟩ := freshName_spec base taken
  rw [heq]
  cases count with
  | zero => rwa [underscored_zero]
  | succ count =>
    refine isReserved_underscored_succ (fun hbase => hempty hbase ?_) count
    have htaken := hbefore 0 (Nat.succ_pos count)
    rwa [underscored_zero, hbase] at htaken

/-! ## Names of witnesses -/

/-- An underscored name is empty only without underscores, and when its base is empty. -/
theorem eq_empty_of_underscored {base : String} {count : Nat} (h : underscored base count = "") :
    base = "" := by
  have hlist := congrArg String.toList h
  rw [toList_underscored, String.toList_empty, List.append_eq_nil_iff] at hlist
  exact String.toList_injective hlist.1

theorem eq_empty_of_localName {name : String} (h : localName name = "") : name = "" := by
  rw [localName_eq] at h
  exact eq_empty_of_underscored h

theorem eq_empty_of_freshName {base : String} {taken : List String}
    (h : freshName base taken = "") : base = "" := by
  obtain ⟨count, -, heq, -, -⟩ := freshName_spec base taken
  exact eq_empty_of_underscored (heq ▸ h)

/-- Names of witnesses are no reserved words when at most one of the accessors has an empty token
name, and none when the empty name is taken. -/
theorem isReserved_of_mem_witnessNames {taken : List String} {accessors : List TokenAccessor}
    (hone : accessors.Pairwise fun a b => a.tokenName.lower = "" → b.tokenName.lower ≠ "")
    (htaken : "" ∈ taken → ∀ accessor ∈ accessors, accessor.tokenName.lower ≠ "")
    {name : String} (h : name ∈ witnessNames taken accessors) : isReserved name = false := by
  -- the empty name gets taken only by the one accessor with an empty token name
  induction accessors generalizing taken with
  | nil => cases h
  | cons accessor accessors ih =>
    rw [List.pairwise_cons] at hone
    rw [witnessNames, List.mem_cons] at h
    cases h with
    | inl heq =>
      rw [heq]
      refine isReserved_freshName (isReserved_localName _) fun hempty hmem => ?_
      exact htaken hmem accessor List.mem_cons_self (eq_empty_of_localName hempty)
    | inr hrest =>
      refine ih hone.2 (fun hmem other hother => ?_) hrest
      cases List.mem_append.1 hmem with
      | inl hmem => exact htaken hmem other (List.mem_cons_of_mem _ hother)
      | inr hmem =>
        have hfresh := (List.mem_singleton.1 hmem).symm
        exact hone.1 other hother (eq_empty_of_localName (eq_empty_of_freshName hfresh))

/-! ## Token names -/

/-- What is left of a name without `get` ends the name. -/
theorem accessorBase_suffix (name : String) : (accessorBase name).toList <:+ name.toList := by
  rw [accessorBase]
  split
  · next c rest hname =>
    rw [hname, String.toList_ofList]
    exact ⟨['g', 'e', 't'], rfl⟩
  · exact List.suffix_refl _

/-- Something is left of a name without `get`. -/
theorem eq_empty_of_accessorBase {name : String} (h : accessorBase name = "") : name = "" := by
  rw [accessorBase] at h
  split at h
  · have hlist := congrArg String.toList h
    simp at hlist
  · exact h

/-- Only the empty name has an empty token name. -/
theorem TokenAccessor.name_eq_empty {accessor : TokenAccessor}
    (h : accessor.tokenName.lower = "") : accessor.name = "" :=
  eq_empty_of_accessorBase (decapitalize_eq_empty h)

/-- Of accessors with different token names at most one has an empty one. -/
theorem TokenAccessor.pairwise_lower_ne_empty {accessors : List TokenAccessor}
    (h : accessors.Pairwise fun a b => a.tokenName.upper ≠ b.tokenName.upper) :
    accessors.Pairwise fun a b => a.tokenName.lower = "" → b.tokenName.lower ≠ "" := by
  refine h.imp fun {a b} hne ha hb => hne ?_
  rw [tokenName, tokenName, name_eq_empty ha, name_eq_empty hb]

/-- What a name for a local variable adds to a name, and a fresh name to that, are underscores. -/
theorem exists_underscored_freshName (name : String) (taken : List String) :
    ∃ count, freshName (localName name) taken = underscored name count := by
  obtain ⟨count, -, heq, -, -⟩ := freshName_spec (localName name) taken
  refine ⟨(if isReserved name then 1 else 0) + count, ?_⟩
  rw [heq, localName_eq]
  apply String.toList_injective
  simp only [toList_underscored, List.append_assoc, List.replicate_append_replicate]

/-- **Each witness is called by the token name of its accessor**, with underscores behind it. -/
theorem exists_underscored_of_mem_zip {taken : List String} {accessors : List TokenAccessor}
    {accessor : TokenAccessor} {name : String}
    (h : (accessor, name) ∈ accessors.zip (witnessNames taken accessors)) :
    accessor ∈ accessors ∧ ∃ count, name = underscored accessor.tokenName.lower count := by
  induction accessors generalizing taken with
  | nil => cases h
  | cons first accessors ih =>
    rw [witnessNames, List.zip_cons_cons, List.mem_cons] at h
    cases h with
    | inl heq =>
      cases heq
      exact ⟨List.mem_cons_self, exists_underscored_freshName _ _⟩
    | inr hrest =>
      obtain ⟨hmem, hname⟩ := ih hrest
      exact ⟨List.mem_cons_of_mem _ hmem, hname⟩

/-! ## Identifiers -/

/-- Underscores behind a name make no difference to whether it is a word, unless it is empty. -/
theorem isWord_underscored {base : String} (hbase : base ≠ "") (count : Nat) :
    isWord (underscored base count).toList = isWord base.toList := by
  have hpart : isIdentifierPart '_' = true := by decide +kernel
  rw [toList_underscored]
  cases hlist : base.toList with
  | nil => exact absurd (String.toList_injective hlist) hbase
  | cons c rest =>
    rw [List.cons_append, isWord, isWord, List.all_append, List.all_replicate, hpart]
    simp

/-- Whether a name without its `get` begins with a character that begins an identifier and still
does so in lower case. -/
def leavesIdentifier (accessor : String) : Bool :=
  match (accessorBase accessor).toList with
  | [] => false
  | c :: _ => isIdentifierStart c && c != dottedCapitalI

/-- The token name of an identifier is a word when the name without its `get` begins as one. -/
theorem isWord_lower {accessor : TokenAccessor} (h : isValidIdentifier accessor.name = true) :
    isWord accessor.tokenName.lower.toList = leavesIdentifier accessor.name := by
  rw [TokenAccessor.tokenName, TokenName.ofAccessor, decapitalize, leavesIdentifier]
  cases hbase : (accessorBase accessor.name).toList with
  | nil => rfl
  | cons c rest =>
    have hrest : rest.all isIdentifierPart = true := by
      refine List.all_eq_true.2 fun c' hmem => isIdentifierPart_of_mem h ?_
      exact (accessorBase_suffix accessor.name).mem (hbase ▸ List.mem_cons_of_mem c hmem)
    simp only [String.toList_ofList, isWord_lowerCase_append, hrest, Bool.and_true]

namespace CastPlan

/-- The cast over all accessors is one of the casts of a type. -/
theorem full_mem_ofGroup (options : GenerationOptions) (group : TypeGroup) :
    full options group ∈ ofGroup options group := List.mem_cons_self

/-- The instance is called by an identifier. -/
theorem isValidIdentifier_instanceName (name : String) (owner : OwningType)
    (accessors : List TokenAccessor) (style : SignatureStyle) :
    isValidIdentifier (build name owner accessors style).instanceName = true := by
  obtain ⟨count, -, heq, -, -⟩ := freshName_spec "o" (witnessNames [] accessors)
  have hname : (build name owner accessors style).instanceName = underscored "o" count := heq
  have hword : isWord (underscored "o" count).toList = true := by
    rw [isWord_underscored (by decide)]
    decide
  have hfree : isReserved (freshName "o" (witnessNames [] accessors)) = false :=
    isReserved_freshName (by decide) fun hempty => absurd hempty (by decide)
  rw [hname, isValidIdentifier_eq, hword, ← heq, hfree]
  rfl

variable {name : String} {owner : OwningType} {accessors : List TokenAccessor}
  {style : SignatureStyle}

/-- Parameters of casts are no reserved words when the token names of the accessors differ. -/
theorem isReserved_of_mem_parameterNames
    (htokens : accessors.Pairwise fun a b => a.tokenName.upper ≠ b.tokenName.upper)
    {parameter : String} (h : parameter ∈ (build name owner accessors style).parameterNames) :
    isReserved parameter = false := by
  rw [parameterNames, map_name_witnesses_build, List.mem_cons] at h
  cases h with
  | inl heq =>
    have hvalid := isValidIdentifier_instanceName name owner accessors style
    rw [isValidIdentifier_eq, ← heq, Bool.and_eq_true] at hvalid
    simpa using hvalid.2
  | inr hmem =>
    exact isReserved_of_mem_witnessNames (TokenAccessor.pairwise_lower_ne_empty htokens)
      (fun htaken => absurd htaken List.not_mem_nil) hmem

/-- **When a witness of an accessor with a proper name is called by an identifier.** -/
theorem isValidIdentifier_witness
    (hnames : ∀ accessor ∈ accessors, isValidIdentifier accessor.name = true)
    (htokens : accessors.Pairwise fun a b => a.tokenName.upper ≠ b.tokenName.upper)
    {witness : WitnessParameter} (h : witness ∈ (build name owner accessors style).witnesses) :
    isValidIdentifier witness.name = leavesIdentifier witness.accessor := by
  have hfree := isReserved_of_mem_parameterNames htokens
    (List.mem_cons_of_mem _ (List.mem_map_of_mem (f := (·.name)) h))
  obtain ⟨⟨accessor, parameter⟩, hmem, rfl⟩ := List.mem_map.1 h
  obtain ⟨haccessor, count, hname⟩ := exists_underscored_of_mem_zip hmem
  have hvalid := hnames accessor haccessor
  have hne : accessor.tokenName.lower ≠ "" := by
    intro hempty
    rw [TokenAccessor.name_eq_empty hempty] at hvalid
    cases hvalid
  rw [isValidIdentifier_eq, hfree, Bool.not_false, Bool.and_true]
  simp only [hname, isWord_underscored hne, isWord_lower hvalid]

end CastPlan

/-! ## The casts of a manifest -/

/-- **The names of parameters never clash.** Whatever the accessors of a manifest are called, the
parameters of each cast, the instance and the witnesses, have pairwise different names, and none of
them is a reserved word. These are the names that the method of the cast declares. -/
theorem Manifest.parameterNames_apart (options : GenerationOptions) (manifest : Manifest)
    {package : PackageGroup} (hpackage : package ∈ manifest.grouping.packages)
    {group : TypeGroup} (hgroup : group ∈ package.types)
    {plan : CastPlan} (hplan : plan ∈ CastPlan.ofGroup options group) :
    (plan.method options).parameters.map (·.name) = plan.parameterNames
    ∧ plan.parameterNames.Nodup
    ∧ ∀ name ∈ plan.parameterNames, isReserved name = false := by
  refine ⟨?_, CastPlan.nodup_parameterNames hplan, fun name hname => ?_⟩
  · rw [CastPlan.method, CastPlan.parameterNames, List.map_cons, List.map_map]
    rfl
  · obtain ⟨castName, accessors, hsublist, rfl⟩ := CastPlan.exists_build_of_mem_ofGroup hplan
    have htokens := (accessors_of_group hpackage hgroup).2.sublist hsublist
    exact CastPlan.isReserved_of_mem_parameterNames htokens hname

/-- A type whose accessors have hardly any proper names: an empty one, an underscore, a keyword, the
name of the instance, and two that are the same in lower case. -/
def oddDeclaration : TypeDeclaration where
  name := "Odd"
  packageName := "model"
  visibility := .everywhere
  typeParameters := [⟨"A", []⟩]
  superclass? := none
  markers := []
  members := ["", "_", "class", "k", "o", "\u212a"].map fun name =>
    ⟨name, .method, some "Token<A>", [], [], [.typeToken]⟩

theorem Manifest.parameterNames_apart_odd :
    let manifest : Manifest := ⟨[oddDeclaration]⟩
    ∃ package ∈ manifest.grouping.packages, ∃ group ∈ package.types,
      ∃ plan ∈ CastPlan.ofGroup .standard group,
        plan.parameterNames = ["o_", "", "__", "class_", "k", "o", "k_"]
        ∧ plan.parameterNames.Nodup
        ∧ ∀ name ∈ plan.parameterNames, isReserved name = false := by
  intro manifest
  obtain ⟨hrejected, haccessors, hsorted, hproblems, hnames⟩ :
      oddDeclaration.collect.rejected = []
      ∧ oddDeclaration.collect.accessors.isEmpty = false
      ∧ oddDeclaration.collect.accessors.Pairwise
        (fun a b : TokenAccessor => decide (a.name ≤ b.name))
      ∧ accessorProblems [] oddDeclaration.collect.accessors = []
      ∧ (CastPlan.full .standard
        ⟨oddDeclaration.owner, oddDeclaration.collect.accessors⟩).parameterNames =
          ["o_", "", "__", "class_", "k", "o", "k_"] := by decide +kernel
  obtain ⟨package, hpackage, hgroup⟩ :=
    exists_group_of_single hrejected (List.isEmpty_eq_false_iff.1 haccessors) hsorted hproblems
  have hplan := CastPlan.full_mem_ofGroup .standard
    ⟨oddDeclaration.owner, oddDeclaration.collect.accessors⟩
  obtain ⟨-, hnodup, hfree⟩ := parameterNames_apart .standard manifest hpackage hgroup hplan
  exact ⟨package, hpackage, _, hgroup, _, hplan, hnames, hnodup, hfree⟩

/-- **Which parameters are called by identifiers.** When all accessors of a manifest are, the
instance of each cast is, and a witness is unless the name of its accessor without `get` begins with
a character that cannot begin an identifier, such as a digit, or with the dotted capital. -/
theorem Manifest.parameterNames_valid (options : GenerationOptions) (manifest : Manifest)
    (hnames : ∀ accessor ∈ manifest.collect.accessors, isValidIdentifier accessor.name = true)
    {package : PackageGroup} (hpackage : package ∈ manifest.grouping.packages)
    {group : TypeGroup} (hgroup : group ∈ package.types)
    {plan : CastPlan} (hplan : plan ∈ CastPlan.ofGroup options group) :
    isValidIdentifier plan.instanceName = true
    ∧ ∀ witness ∈ plan.witnesses,
      isValidIdentifier witness.name = leavesIdentifier witness.accessor := by
  obtain ⟨castName, accessors, hsublist, rfl⟩ := CastPlan.exists_build_of_mem_ofGroup hplan
  obtain ⟨hcollected, htokens⟩ := accessors_of_group hpackage hgroup
  refine ⟨CastPlan.isValidIdentifier_instanceName _ _ _ _, fun witness hwitness => ?_⟩
  refine CastPlan.isValidIdentifier_witness (fun accessor haccessor => ?_)
    (htokens.sublist hsublist) hwitness
  exact hnames accessor (hcollected accessor (hsublist.subset haccessor))

/-- A type whose accessors have proper names, two of which leave none without their `get`. -/
def numberedDeclaration : TypeDeclaration where
  name := "Numbered"
  packageName := "model"
  visibility := .everywhere
  typeParameters := [⟨"A", []⟩]
  superclass? := none
  markers := []
  members := ["get1", "getKey", "get\u0130d"].map fun name =>
    ⟨name, .method, some "Token<A>", [], [], [.typeToken]⟩

/-- The type has a group, and the names that its full cast declares are those of its tokens. -/
theorem exists_group_numbered :
    (∃ package ∈ (⟨[numberedDeclaration]⟩ : Manifest).grouping.packages,
      ⟨numberedDeclaration.owner, numberedDeclaration.collect.accessors⟩ ∈ package.types)
    ∧ (∀ accessor ∈ (⟨[numberedDeclaration]⟩ : Manifest).collect.accessors,
      isValidIdentifier accessor.name = true)
    ∧ (CastPlan.full .standard
      ⟨numberedDeclaration.owner, numberedDeclaration.collect.accessors⟩).parameterNames =
        ["o", "1", "key", "i\u0307d"] := by
  obtain ⟨hrejected, haccessors, hsorted, hproblems, hvalid, hnames⟩ :
      numberedDeclaration.collect.rejected = []
      ∧ numberedDeclaration.collect.accessors.isEmpty = false
      ∧ numberedDeclaration.collect.accessors.Pairwise
        (fun a b : TokenAccessor => decide (a.name ≤ b.name))
      ∧ accessorProblems [] numberedDeclaration.collect.accessors = []
      ∧ (∀ accessor ∈ (⟨[numberedDeclaration]⟩ : Manifest).collect.accessors,
        isValidIdentifier accessor.name = true)
      ∧ (CastPlan.full .standard
        ⟨numberedDeclaration.owner, numberedDeclaration.collect.accessors⟩).parameterNames =
          ["o", "1", "key", "i\u0307d"] := by decide +kernel
  exact ⟨Manifest.exists_group_of_single hrejected (List.isEmpty_eq_false_iff.1 haccessors) hsorted
    hproblems, hvalid, hnames⟩

theorem Manifest.parameterNames_valid_numbered :
    let manifest : Manifest := ⟨[numberedDeclaration]⟩
    (∀ accessor ∈ manifest.collect.accessors, isValidIdentifier accessor.name = true)
    ∧ ∃ package ∈ manifest.grouping.packages, ∃ group ∈ package.types,
      ∃ plan ∈ CastPlan.ofGroup .standard group,
        plan.parameterNames = ["o", "1", "key", "i\u0307d"]
        ∧ isValidIdentifier plan.instanceName = true
        ∧ ∀ witness ∈ plan.witnesses,
          isValidIdentifier witness.name = leavesIdentifier witness.accessor := by
  intro manifest
  obtain ⟨⟨package, hpackage, hgroup⟩, hvalid, hnames⟩ := exists_group_numbered
  have hplan := CastPlan.full_mem_ofGroup .standard
    ⟨numberedDeclaration.owner, numberedDeclaration.collect.accessors⟩
  exact ⟨hvalid, package, hpackage, _, hgroup, _, hplan, hnames,
    parameterNames_valid .standard manifest hvalid hpackage hgroup hplan⟩

/-- **Witnesses need not be called by identifiers**, although all accessors are: what is left of
their names may begin with a digit, or get a combining dot in lower case. -/
theorem Manifest.parameterNames_invalid :
    let manifest : Manifest := ⟨[numberedDeclaration]⟩
    (∀ accessor ∈ manifest.collect.accessors, isValidIdentifier accessor.name = true)
    ∧ ∃ package ∈ manifest.grouping.packages, ∃ group ∈ package.types,
      ∃ plan ∈ CastPlan.ofGroup .standard group,
        "1" ∈ plan.parameterNames ∧ isValidIdentifier "1" = false
        ∧ "i\u0307d" ∈ plan.parameterNames ∧ isValidIdentifier "i\u0307d" = false := by
  intro manifest
  obtain ⟨⟨package, hpackage, hgroup⟩, hvalid, hnames⟩ := exists_group_numbered
  have hplan := CastPlan.full_mem_ofGroup .standard
    ⟨numberedDeclaration.owner, numberedDeclaration.collect.accessors⟩
  refine ⟨hvalid, package, hpackage, _, hgroup, _, hplan, ?_⟩
  rw [hnames]
  decide +kernel

end TypeWitness
