import TypeWitness.Proofs.ParameterIndices

/-! # Which types are accepted
A type is accepted when each of its accessors is in order by itself and no two of them derive the
same token name. Otherwise every accessor that fails is reported once: for its own failure if it has
one, and else because an accessor before it, in the order of their names, has its token name.

* `TokenAccessor.problem?_eq_none_iff` — when an accessor is in order by itself.
* `accessorProblems_eq_failures` — what is reported of the accessors of a type.
* `Manifest.exists_group_owner_iff` — which types are accepted.
* `Manifest.diagnostics_perm_failures` — what is reported of all types.
* `Manifest.grouping_exact` — all of this together, and the order of the groups. -/

namespace TypeWitness

/-! ## One accessor -/

namespace TokenAccessor

variable {accessor : TokenAccessor}

/-- The accessor returns a class or interface type with type arguments. -/
def ReturnsParameterized (accessor : TokenAccessor) : Prop :=
  ∃ name arguments, accessor.returnType = .named name arguments ∧ arguments ≠ []

/-- Some direct type argument of the return type is the bare name of a parameter of the owner, which
no type parameter of the method hides. -/
def NamesParameter (accessor : TokenAccessor) : Prop :=
  ∃ parameter ∈ accessor.owner.parameters, isSimpleName parameter.name = true
    ∧ parameter.name ∉ accessor.ownParameters
    ∧ .named parameter.name [] ∈ accessor.returnType.arguments

/-- **What an accessor witnesses** are the parameters for which its direct type arguments stand,
each once, in the order in which they first occur. -/
theorem witnessed_eq (accessor : TokenAccessor) :
    accessor.witnessed =
      (accessor.returnType.arguments.filterMap accessor.resolve?).eraseDups := by
  have hplaces : accessor.binds.map Prod.snd =
      accessor.returnType.arguments.filterMap accessor.resolve? := by
    conv_rhs => rw [← List.zipIdx_map_fst 0 accessor.returnType.arguments, List.filterMap_map]
    rw [binds, List.map_filterMap]
    refine List.filterMap_congr fun entry _ => ?_
    cases hresolve : accessor.resolve? entry.1 <;> simp [hresolve]
  rw [witnessed, hplaces]

theorem mem_witnessed_iff_resolve? {index : Nat} :
    index ∈ accessor.witnessed ↔
      ∃ argument ∈ accessor.returnType.arguments, accessor.resolve? argument = some index := by
  rw [witnessed_eq, List.mem_eraseDups, List.mem_filterMap]

/-- The bare name of a parameter that the method does not hide stands for some parameter. -/
theorem exists_resolve?_iff {type : TypeExpr} :
    (∃ index, accessor.resolve? type = some index) ↔
      ∃ parameter ∈ accessor.owner.parameters, isSimpleName parameter.name = true
        ∧ parameter.name ∉ accessor.ownParameters ∧ type = .named parameter.name [] := by
  constructor
  · rintro ⟨index, hresolve⟩
    obtain ⟨parameter, hparameter, rfl, hnot⟩ := exists_parameter_of_resolve? hresolve
    -- only simple names are looked up among the parameters
    refine ⟨parameter, List.mem_of_getElem? hparameter, ?_, hnot, rfl⟩
    by_contra hsimple
    simp [resolve?, TypeExpr.simpleName?, hsimple] at hresolve
  · rintro ⟨parameter, hmem, hsimple, hnot, rfl⟩
    have hfound : (accessor.owner.parameterIndex? parameter.name).isSome = true := by
      rw [OwningType.parameterIndex?, List.findIdx?_isSome, List.any_eq_true]
      exact ⟨parameter, hmem, beq_self_eq_true _⟩
    obtain ⟨index, hindex⟩ := Option.isSome_iff_exists.1 hfound
    exact ⟨index, by simp [resolve?, TypeExpr.simpleName?, hsimple, hnot, hindex]⟩

/-- An accessor witnesses something when it names a parameter. -/
theorem exists_mem_witnessed_iff :
    (∃ index, index ∈ accessor.witnessed) ↔ accessor.NamesParameter := by
  simp only [mem_witnessed_iff_resolve?]
  constructor
  · rintro ⟨index, argument, hargument, hresolve⟩
    obtain ⟨parameter, hmem, hsimple, hnot, rfl⟩ := exists_resolve?_iff.1 ⟨index, hresolve⟩
    exact ⟨parameter, hmem, hsimple, hnot, hargument⟩
  · rintro ⟨parameter, hmem, hsimple, hnot, hargument⟩
    obtain ⟨index, hresolve⟩ := exists_resolve?_iff.2 ⟨parameter, hmem, hsimple, hnot, rfl⟩
    exact ⟨index, _, hargument, hresolve⟩

theorem isParameterized_iff :
    accessor.returnType.isParameterized = true ↔ accessor.ReturnsParameterized := by
  rw [ReturnsParameterized]
  cases accessor.returnType <;> simp [TypeExpr.isParameterized, TypeExpr.arguments]

theorem isEmpty_witnessed_iff :
    accessor.witnessed.isEmpty = false ↔ accessor.NamesParameter := by
  rw [← exists_mem_witnessed_iff, List.isEmpty_eq_false_iff_exists_mem]

instance (accessor : TokenAccessor) : Decidable accessor.ReturnsParameterized :=
  decidable_of_iff _ isParameterized_iff

instance (accessor : TokenAccessor) : Decidable accessor.NamesParameter :=
  decidable_of_iff _ isEmpty_witnessed_iff

/-- Whether an accessor is in order by itself. -/
def InOrder (accessor : TokenAccessor) : Prop :=
  accessor.ReturnsParameterized ∧ accessor.NamesParameter

instance (accessor : TokenAccessor) : Decidable accessor.InOrder :=
  inferInstanceAs (Decidable (_ ∧ _))

/-- What is wrong with an accessor that comes after others of its type. -/
def failure? (earlier : List TokenAccessor) (accessor : TokenAccessor) : Option Problem :=
  if ¬ accessor.ReturnsParameterized then
    some (.notParameterized accessor.elementName accessor.returnType.render)
  else if ¬ accessor.NamesParameter then
    some (.witnessesNothing accessor.elementName accessor.returnType.render
      accessor.owner.qualifiedName)
  else
    (earlier.find? fun other =>
      decide other.InOrder && other.tokenName.upper == accessor.tokenName.upper).map fun first =>
        .duplicateToken first.name accessor.name accessor.tokenName.upper

/-- **When an accessor is in order by itself.** -/
theorem problem?_eq_none_iff : accessor.problem? = none ↔ accessor.InOrder := by
  rw [InOrder, ← isParameterized_iff, ← isEmpty_witnessed_iff, problem?]
  cases accessor.returnType.isParameterized <;> cases accessor.witnessed.isEmpty <;> simp

/-- An accessor that is not in order by itself fails for that reason. -/
theorem failure?_of_problem? {problem : Problem} (h : accessor.problem? = some problem)
    (earlier : List TokenAccessor) : accessor.failure? earlier = some problem := by
  rw [problem?] at h
  split at h
  · next hreturn =>
    cases h
    rw [failure?, if_pos (by simpa [← isParameterized_iff] using hreturn)]
  · next hreturn =>
    split at h
    · next hwitnessed =>
      cases h
      rw [failure?, if_neg (by simpa [← isParameterized_iff] using hreturn),
        if_pos (by simpa [← isEmpty_witnessed_iff] using hwitnessed)]
    · cases h

/-- An accessor that is in order by itself fails when an earlier one has its token name. -/
theorem failure?_of_inOrder (h : accessor.InOrder) (earlier : List TokenAccessor) :
    accessor.failure? earlier = (earlier.find? fun other =>
      decide other.InOrder && other.tokenName.upper == accessor.tokenName.upper).map fun first =>
        .duplicateToken first.name accessor.name accessor.tokenName.upper := by
  rw [failure?, if_neg (not_not.2 h.1), if_neg (not_not.2 h.2)]

end TokenAccessor

/-! ## The accessors of a type -/

/-- What is reported of the accessors of a type: each one that fails, once, for what is wrong with
it behind those before it. -/
def failures (accessors : List TokenAccessor) : List Diagnostic :=
  accessors.zipIdx.filterMap fun (accessor, place) =>
    (accessor.failure? (accessors.take place)).map (·.diagnostic accessor.elementName)

/-- The token names that were seen are those of the earlier accessors that are in order, each with
the first one that has it. -/
def SeenIn (earlier : List TokenAccessor) (seen : List (String × String)) : Prop :=
  ∀ token, seen.lookup token =
    (earlier.find? fun other => decide other.InOrder && other.tokenName.upper == token).map (·.name)

theorem seenIn_nil : SeenIn [] [] := fun _ => rfl

/-- An accessor that is not in order, or whose token name was seen, adds nothing to what was seen.
-/
theorem SeenIn.skip {earlier : List TokenAccessor} {seen : List (String × String)}
    {accessor : TokenAccessor} (h : SeenIn earlier seen)
    (hskip : accessor.InOrder → ∃ previous, seen.lookup accessor.tokenName.upper = some previous) :
    SeenIn (earlier ++ [accessor]) seen := by
  intro token
  rw [List.find?_append, List.find?_singleton]
  by_cases htoken : accessor.InOrder ∧ accessor.tokenName.upper = token
  · -- the name was seen, so an earlier accessor has it
    obtain ⟨hinOrder, rfl⟩ := htoken
    obtain ⟨previous, hprevious⟩ := hskip hinOrder
    have hfound := h accessor.tokenName.upper
    rw [hprevious, eq_comm, Option.map_eq_some_iff] at hfound
    obtain ⟨first, hfirst, hname⟩ := hfound
    rw [hprevious, hfirst, Option.some_or, Option.map_some, hname]
  · rw [if_neg (by simpa using htoken), Option.or_none]
    exact h token

/-- An accessor that is in order adds its token name when that was not seen. -/
theorem SeenIn.add {earlier : List TokenAccessor} {seen : List (String × String)}
    {accessor : TokenAccessor} (h : SeenIn earlier seen) (hinOrder : accessor.InOrder)
    (hnew : seen.lookup accessor.tokenName.upper = none) :
    SeenIn (earlier ++ [accessor]) ((accessor.tokenName.upper, accessor.name) :: seen) := by
  intro token
  rw [List.find?_append, List.find?_singleton, List.lookup_cons]
  by_cases htoken : accessor.tokenName.upper = token
  · subst htoken
    have hnone := h accessor.tokenName.upper
    rw [hnew, eq_comm, Option.map_eq_none_iff] at hnone
    simp [hnone, hinOrder]
  · rw [if_neg (by simp [htoken]), Option.or_none, ← h token,
      beq_false_of_ne (Ne.symm htoken)]

/-- **What is reported of the accessors of a type**: the token names that are kept on the way tell
the earlier accessors that matter. -/
theorem accessorProblems_eq_failures (accessors : List TokenAccessor) :
    accessorProblems [] accessors = failures accessors := by
  -- by induction on what is left, with `SeenIn` for the token names of what was gone through
  have hrest : ∀ earlier rest seen, accessors = earlier ++ rest → SeenIn earlier seen →
      accessorProblems seen rest = (rest.zipIdx earlier.length).filterMap
        fun (accessor, place) =>
          (accessor.failure? (accessors.take place)).map (·.diagnostic accessor.elementName) := by
    intro earlier rest
    induction rest generalizing earlier with
    | nil =>
      intro seen _ _
      rfl
    | cons accessor rest ih =>
      intro seen heq hseen
      have htake : accessors.take earlier.length = earlier := by rw [heq, List.take_left]
      have hnext : accessors = (earlier ++ [accessor]) ++ rest := by rw [heq, List.append_cons]
      have ih := fun seen => ih (earlier ++ [accessor]) seen hnext
      rw [List.length_append, List.length_singleton] at ih
      rw [List.zipIdx_cons, List.filterMap_cons]
      simp only [htake, accessorProblems]
      cases hproblem : accessor.problem? with
      | some problem =>
        -- an accessor that is not in order does not enter its token name
        rw [TokenAccessor.failure?_of_problem? hproblem, Option.map_some]
        refine congrArg _ (ih seen (hseen.skip fun hinOrder => ?_))
        rw [TokenAccessor.problem?_eq_none_iff.2 hinOrder] at hproblem
        cases hproblem
      | none =>
        have hinOrder := TokenAccessor.problem?_eq_none_iff.1 hproblem
        have hlookup := hseen accessor.tokenName.upper
        rw [TokenAccessor.failure?_of_inOrder hinOrder]
        cases hfind : earlier.find? fun other =>
            decide other.InOrder && other.tokenName.upper == accessor.tokenName.upper with
        | some first =>
          rw [hfind] at hlookup
          rw [hlookup]
          exact congrArg _ (ih seen (hseen.skip fun _ => ⟨_, hlookup⟩))
        | none =>
          rw [hfind] at hlookup
          rw [hlookup]
          exact ih _ (hseen.add hinOrder hlookup)
  exact hrest [] accessors [] rfl seenIn_nil

/-- Accessors that are in order and have pairwise different token names do not fail, and no others.
-/
theorem failures_eq_nil_iff {accessors : List TokenAccessor} :
    failures accessors = [] ↔
      (∀ accessor ∈ accessors, accessor.InOrder)
      ∧ accessors.Pairwise fun a b => a.tokenName.upper ≠ b.tokenName.upper := by
  rw [← accessorProblems_eq_failures, accessorProblems_eq_nil_iff]
  simp only [TokenAccessor.problem?_eq_none_iff, List.lookup_nil, and_true]

/-! ## Increasing names -/

/-- Sorted names are strictly increasing. -/
theorem pairwise_lt_sortedNames (names : List String) :
    (sortedNames names).Pairwise fun a b => a < b := by
  refine (pairwise_mergeSort_by_name id _).imp₂ (fun a b hle hne => ?_) (nodup_sortedNames names)
  exact String.not_le.1 fun hge => hne (String.le_antisymm hle hge)

/-- Packages are grouped in the strictly increasing order of their names. -/
theorem pairwise_packages_groupAccessors (accessors : List TokenAccessor) (rejected : List String) :
    (groupAccessors accessors rejected).packages.Pairwise
      fun a b => a.packageName < b.packageName := by
  rw [groupAccessors_eq, List.pairwise_flatMap]
  refine ⟨fun packageName _ => ?_, (pairwise_lt_sortedNames _).imp fun hlt a ha b hb => ?_⟩
  · unfold packageGroups
    split
    · exact List.Pairwise.nil
    · exact List.pairwise_singleton _ _
  · rw [(mem_packageGroups.1 ha).1, (mem_packageGroups.1 hb).1]
    exact hlt

/-- A type that is accepted has the accessors that were looked at, and their owner's name. -/
theorem spec_of_groupType {own : List TokenAccessor} {simpleName : String} {group : TypeGroup}
    (h : (groupType (accessorsOf simpleName own)).1 = some group) :
    group.accessors = accessorsOf simpleName own ∧ group.owner.simpleName = simpleName := by
  obtain ⟨-, first, rest, heq, rfl⟩ := groupType_eq_some_iff.1 h
  exact ⟨rfl, (mem_accessorsOf.1 (heq ▸ List.mem_cons_self)).2⟩

/-- Types are accepted in the strictly increasing order of their names. -/
theorem pairwise_acceptedTypes (own : List TokenAccessor) :
    (acceptedTypes own).Pairwise fun a b => a.owner.simpleName < b.owner.simpleName := by
  rw [acceptedTypes, List.pairwise_flatMap]
  refine ⟨fun simpleName _ => ?_, (pairwise_lt_sortedNames _).imp fun hlt a ha b hb => ?_⟩
  · cases (groupType (accessorsOf simpleName own)).1 <;> simp
  · rw [Option.mem_toList] at ha hb
    rw [(spec_of_groupType ha).2, (spec_of_groupType hb).2]
    exact hlt

/-- Accepted accessors come in the strictly increasing order of their names. -/
theorem pairwise_lt_names {simpleName : String} {own : List TokenAccessor}
    (h : failures (accessorsOf simpleName own) = []) :
    (accessorsOf simpleName own).Pairwise fun a b => a.name < b.name := by
  refine (pairwise_accessorsOf simpleName own).imp₂ (fun a b hle htoken => ?_)
    (failures_eq_nil_iff.1 h).2
  -- accessors of one name would have one token name
  refine String.not_le.1 fun hge => htoken ?_
  rw [TokenAccessor.tokenName, String.le_antisymm hle hge, TokenAccessor.tokenName]

/-! ## The types of a manifest -/

/-- Without repetitions it does not matter in which order items are gone through, nor which items
there are that add nothing. -/
theorem flatMap_perm_of_nodup {α β : Type} (f : α → List β) {items items' : List α}
    (hnodup : items.Nodup) (hnodup' : items'.Nodup)
    (h : ∀ item, f item ≠ [] → (item ∈ items ↔ item ∈ items')) :
    (items.flatMap f).Perm (items'.flatMap f) := by
  rw [← flatMap_filter_isEmpty f items, ← flatMap_filter_isEmpty f items']
  refine List.Perm.flatMap_right f ?_
  rw [List.perm_ext_iff_of_nodup (hnodup.filter _) (hnodup'.filter _)]
  intro item
  rw [List.mem_filter, List.mem_filter]
  exact and_congr_left fun hne => h item (by simpa using hne)

/-- The types that own accessors, by package and name. -/
def typeNames (accessors : List TokenAccessor) (rejected : List String) : List (String × String) :=
  (sortedNames (packageNames accessors rejected)).flatMap fun packageName =>
    (sortedNames ((packageAccessors packageName accessors rejected).map (·.owner.simpleName))).map
      fun simpleName => (packageName, simpleName)

theorem nodup_typeNames (accessors : List TokenAccessor) (rejected : List String) :
    (typeNames accessors rejected).Nodup := by
  rw [typeNames, List.nodup_flatMap]
  refine ⟨fun packageName _ => (nodup_sortedNames _).map fun _ _ h => (Prod.mk.inj h).2,
    (nodup_sortedNames _).imp fun hne type htype htype' => hne ?_⟩
  obtain ⟨_, -, rfl⟩ := List.mem_map.1 htype
  obtain ⟨_, -, heq⟩ := List.mem_map.1 htype'
  exact (Prod.mk.inj heq).1.symm

/-- A type that owns accessors is one of those that are gone through. -/
theorem mem_typeNames {accessors : List TokenAccessor} {rejected : List String}
    {packageName simpleName : String}
    (h : typeAccessors packageName simpleName accessors rejected ≠ []) :
    (packageName, simpleName) ∈ typeNames accessors rejected :=
  List.mem_flatMap.2 ⟨packageName, mem_sortedNames_of_typeAccessors h,
    List.mem_map_of_mem (mem_sortedNames_of_accessorsOf h)⟩

/-- What is reported of accessors is reported type by type. -/
theorem diagnostics_groupAccessors_eq (accessors : List TokenAccessor) (rejected : List String) :
    (groupAccessors accessors rejected).diagnostics =
      (typeNames accessors rejected).flatMap fun (packageName, simpleName) =>
        failures (typeAccessors packageName simpleName accessors rejected) := by
  rw [groupAccessors_eq, typeNames, List.flatMap_assoc]
  refine List.flatMap_congr fun packageName _ => ?_
  rw [typeProblems, List.flatMap_map]
  refine List.flatMap_congr fun simpleName _ => ?_
  rw [snd_groupType, accessorProblems_eq_failures, accessorsOf_packageAccessors]

namespace Manifest

variable {manifest : Manifest} {rejected : List String}

/-- A type that owns accessors of a manifest is that of a used declaration. -/
theorem exists_used_of_typeAccessors {packageName simpleName : String}
    (h : typeAccessors packageName simpleName manifest.collect.accessors rejected ≠ []) :
    ∃ declaration ∈ manifest.used,
      declaration.packageName = packageName ∧ declaration.name = simpleName := by
  obtain ⟨accessor, haccessor⟩ := List.exists_mem_of_ne_nil _ h
  obtain ⟨hmem, -, rfl, rfl⟩ := mem_typeAccessors.1 haccessor
  rw [manifest.collect_items.1, List.mem_flatMap] at hmem
  obtain ⟨declaration, hused, hmem⟩ := hmem
  rw [TypeDeclaration.owner_of_mem_accessors hmem]
  exact ⟨declaration, hused, rfl, rfl⟩

/-- **What is reported of the types of a manifest**: the failures of each, one type after the
other. -/
theorem diagnostics_perm_failures :
    (groupAccessors manifest.collect.accessors rejected).diagnostics.Perm
      (manifest.used.flatMap fun declaration => failures (typeAccessors declaration.packageName
        declaration.name manifest.collect.accessors rejected)) := by
  -- types are gone through by name here and as declarations there, and neither has repetitions
  have hused : (manifest.used.map fun declaration =>
      (declaration.packageName, declaration.name)).Nodup := by
    refine List.Nodup.of_map (fun type => qualify type.1 type.2) ?_
    rw [List.map_map]
    exact manifest.nodup_used
  have hnames : (manifest.used.flatMap fun declaration => failures (typeAccessors
      declaration.packageName declaration.name manifest.collect.accessors rejected)) =
      (manifest.used.map fun declaration =>
        (declaration.packageName, declaration.name)).flatMap fun (packageName, simpleName) =>
          failures (typeAccessors packageName simpleName manifest.collect.accessors rejected) := by
    rw [List.flatMap_map]
  rw [diagnostics_groupAccessors_eq, hnames]
  refine flatMap_perm_of_nodup _ (nodup_typeNames _ _) hused fun type hfailures => ?_
  -- a type with failures owns accessors, so it is among both
  obtain ⟨packageName, simpleName⟩ := type
  have hne : typeAccessors packageName simpleName manifest.collect.accessors rejected ≠ [] := by
    intro hnil
    simp only [hnil] at hfailures
    exact hfailures rfl
  obtain ⟨declaration, hmem, rfl, rfl⟩ := exists_used_of_typeAccessors hne
  exact iff_of_true (mem_typeNames hne) (List.mem_map_of_mem hmem)

/-- The accessors of a type in a manifest are those that it owns, unless it is rejected. -/
theorem mem_typeAccessors_iff_owner {owner : OwningType} {accessor : TokenAccessor}
    (howner : ∃ other ∈ manifest.collect.accessors, other.owner = owner) :
    accessor ∈ typeAccessors owner.packageName owner.simpleName manifest.collect.accessors
        rejected ↔
      owner.qualifiedName ∉ rejected
      ∧ accessor ∈ manifest.collect.accessors ∧ accessor.owner = owner := by
  obtain ⟨other, hother, rfl⟩ := howner
  rw [mem_typeAccessors]
  constructor
  · rintro ⟨hmem, hrejected, hpackage, hsimple⟩
    -- package and name tell the owner, as a manifest uses one declaration for each
    have howner : accessor.owner = other.owner :=
      owner_of_typeAccessors (mem_typeAccessors.2 ⟨hmem, List.not_mem_nil, hpackage, hsimple⟩)
        (mem_typeAccessors.2 ⟨hother, List.not_mem_nil, rfl, rfl⟩)
    exact ⟨howner ▸ hrejected, hmem, howner⟩
  · rintro ⟨hrejected, hmem, howner⟩
    exact ⟨hmem, howner ▸ hrejected, by rw [howner], by rw [howner]⟩

/-- A relation that does not ask for an order holds between the accessors of a type when it holds
between those among all. -/
theorem pairwise_typeAccessors_iff {packageName simpleName : String}
    {accessors : List TokenAccessor} {R : TokenAccessor → TokenAccessor → Prop}
    (hsymm : ∀ {a b}, R a b → R b a) :
    (typeAccessors packageName simpleName accessors rejected).Pairwise R ↔
      accessors.Pairwise fun a b =>
        a ∈ typeAccessors packageName simpleName accessors rejected →
        b ∈ typeAccessors packageName simpleName accessors rejected → R a b := by
  rw [typeAccessors, accessorsOf, (List.mergeSort_perm _ _).pairwise_iff hsymm,
    List.filter_filter, List.filter_filter, List.pairwise_filter]
  refine List.Pairwise.iff_of_mem fun {a b} ha hb => ?_
  simp only [List.mem_mergeSort, List.mem_filter, ha, hb, true_and]

/-- A type is accepted when it owns accessors, is not rejected, and no accessor fails. -/
theorem exists_group_iff_failures {owner : OwningType} :
    (∃ package ∈ (groupAccessors manifest.collect.accessors rejected).packages,
      ∃ group ∈ package.types, group.owner = owner) ↔
      (∃ accessor ∈ manifest.collect.accessors, accessor.owner = owner)
      ∧ owner.qualifiedName ∉ rejected
      ∧ failures (typeAccessors owner.packageName owner.simpleName manifest.collect.accessors
        rejected) = [] := by
  constructor
  · rintro ⟨package, hpackage, group, hgroup, rfl⟩
    obtain ⟨simpleName, h⟩ := exists_group_iff.1 ⟨package, hpackage, rfl, hgroup⟩
    obtain ⟨hproblems, first, rest, heq, rfl⟩ := groupType_eq_some_iff.1 h
    obtain ⟨hmem, hrejected, hpackageName, hsimpleName⟩ :=
      mem_typeAccessors.1 (heq ▸ List.mem_cons_self)
    refine ⟨⟨first, hmem, rfl⟩, hrejected, ?_⟩
    rw [hpackageName, hsimpleName, ← accessorProblems_eq_failures, hproblems]
  · rintro ⟨howner, hrejected, hfailures⟩
    obtain ⟨accessor, hmem, haccessor⟩ := howner
    have hin := (mem_typeAccessors_iff_owner ⟨accessor, hmem, haccessor⟩).2
      ⟨hrejected, hmem, haccessor⟩
    obtain ⟨first, rest, heq⟩ := List.exists_cons_of_ne_nil (List.ne_nil_of_mem hin)
    have hfirst := (mem_typeAccessors_iff_owner ⟨accessor, hmem, haccessor⟩).1
      (heq ▸ List.mem_cons_self)
    have hgroup := groupType_of_no_problems (heq ▸ (accessorProblems_eq_failures _).trans hfailures)
    rw [← heq] at hgroup
    obtain ⟨package, hpackage, -, hgroup⟩ :=
      exists_group_iff.2 ⟨owner.simpleName, congrArg Prod.fst hgroup⟩
    exact ⟨package, hpackage, _, hgroup, hfirst.2.2⟩

/-- **Which types are accepted.** -/
theorem exists_group_owner_iff {owner : OwningType} :
    (∃ package ∈ (groupAccessors manifest.collect.accessors rejected).packages,
      ∃ group ∈ package.types, group.owner = owner) ↔
      (∃ accessor ∈ manifest.collect.accessors, accessor.owner = owner)
      ∧ owner.qualifiedName ∉ rejected
      ∧ (∀ accessor ∈ manifest.collect.accessors, accessor.owner = owner →
        accessor.ReturnsParameterized ∧ accessor.NamesParameter)
      ∧ manifest.collect.accessors.Pairwise fun a b =>
        a.owner = owner → b.owner = owner → a.tokenName.upper ≠ b.tokenName.upper := by
  rw [exists_group_iff_failures]
  refine and_congr_right fun howner => and_congr_right fun hrejected => ?_
  rw [failures_eq_nil_iff, pairwise_typeAccessors_iff fun h => Ne.symm h]
  simp only [mem_typeAccessors_iff_owner howner, hrejected, not_false_eq_true, true_and]
  refine and_congr ?_ (List.Pairwise.iff_of_mem fun {a b} ha hb => ?_)
  · exact ⟨fun h accessor hmem howner => h accessor ⟨hmem, howner⟩,
      fun h accessor haccessor => h accessor haccessor.1 haccessor.2⟩
  · simp only [ha, hb, true_and]

/-- The accepted types of a package are its own, with their accessors in the order of their names.
-/
theorem spec_of_mem_types {package : PackageGroup} {accessors : List TokenAccessor}
    (hpackage : package ∈ (groupAccessors accessors rejected).packages) {group : TypeGroup}
    (hgroup : group ∈ package.types) :
    group.owner.packageName = package.packageName
    ∧ group.accessors =
      typeAccessors package.packageName group.owner.simpleName accessors rejected
    ∧ group.accessors.Pairwise fun a b => a.name < b.name := by
  obtain ⟨simpleName, h⟩ := exists_group_iff.1 ⟨package, hpackage, rfl, hgroup⟩
  obtain ⟨hproblems, first, rest, heq, rfl⟩ := groupType_eq_some_iff.1 h
  obtain ⟨-, -, hpackageName, hsimpleName⟩ := mem_typeAccessors.1 (heq ▸ List.mem_cons_self)
  rw [accessorProblems_eq_failures] at hproblems
  exact ⟨hpackageName, by rw [hsimpleName], pairwise_lt_names hproblems⟩

/-- **Grouping accepts exactly the types that are in order.** Whatever types are rejected besides
those of the collection, a type has a group when it owns accessors, is not rejected, all its
accessors are in order by themselves, and they derive pairwise different token names. The accessors
of all other types that are not rejected are reported, each at most once, and those of accepted and
of rejected types are not. The groups come in the strictly increasing order of their names, and so
do the types in each group and the accessors of each type. -/
theorem grouping_exact (manifest : Manifest) (others : List String) :
    let accessors := manifest.collect.accessors
    let rejected := manifest.collect.rejected ++ others
    let grouping := groupAccessors accessors rejected
    (∀ owner : OwningType,
      (∃ package ∈ grouping.packages, ∃ group ∈ package.types, group.owner = owner) ↔
        (∃ accessor ∈ accessors, accessor.owner = owner)
        ∧ owner.qualifiedName ∉ rejected
        ∧ (∀ accessor ∈ accessors, accessor.owner = owner →
          accessor.ReturnsParameterized ∧ accessor.NamesParameter)
        ∧ accessors.Pairwise fun a b =>
          a.owner = owner → b.owner = owner → a.tokenName.upper ≠ b.tokenName.upper)
    ∧ grouping.diagnostics.Perm (manifest.used.flatMap fun declaration =>
      failures (typeAccessors declaration.packageName declaration.name accessors rejected))
    ∧ (∀ declaration ∈ manifest.used,
      (∃ package ∈ grouping.packages, ∃ group ∈ package.types,
        group.owner = declaration.owner) ∨ declaration.qualifiedName ∈ rejected →
      failures (typeAccessors declaration.packageName declaration.name accessors rejected) = [])
    ∧ grouping.packages.Pairwise (fun a b => a.packageName < b.packageName)
    ∧ ∀ package ∈ grouping.packages,
      package.types ≠ []
      ∧ package.types.Pairwise (fun a b => a.owner.simpleName < b.owner.simpleName)
      ∧ ∀ group ∈ package.types,
        group.owner.packageName = package.packageName
        ∧ group.accessors =
          typeAccessors package.packageName group.owner.simpleName accessors rejected
        ∧ group.accessors.Pairwise fun a b => a.name < b.name := by
  intro accessors rejected grouping
  refine ⟨fun owner => exists_group_owner_iff, diagnostics_perm_failures, ?_,
    pairwise_packages_groupAccessors _ _, fun package hpackage => ?_⟩
  · rintro declaration - (haccepted | hrejected)
    · exact (exists_group_iff_failures.1 haccepted).2.2
    · have hnil : typeAccessors declaration.packageName declaration.name accessors rejected =
          [] := by
        refine List.eq_nil_iff_forall_not_mem.2 fun accessor hmem => ?_
        obtain ⟨-, hnot, hpackage, hname⟩ := mem_typeAccessors.1 hmem
        rw [OwningType.qualifiedName, hpackage, hname] at hnot
        exact hnot hrejected
      rw [hnil]
      rfl
  · obtain ⟨htypes, hne⟩ := mem_packages_groupAccessors.1 hpackage
    refine ⟨hne, htypes ▸ pairwise_acceptedTypes _, fun group hgroup => ?_⟩
    exact spec_of_mem_types hpackage hgroup

end Manifest

end TypeWitness
