import TypeWitness.Generation.Target
import TypeWitness.Proofs.BoundsClosure

/-! # Generation with guards
A type parameter is known by its index in the declaration of its type, and a set of parameters has
room for those of one type only. Beside each part of a run that works with indices stands one in
which an index beyond the declaration, or beyond the room of a set, is a fault that ends the run.

* `IndexSet.insertAll?_eq_some_iff` — a set takes in what there is room for.
* `CastPlan.build?_eq` — a cast is planned without fault when its accessors are those of its owner.
* `Manifest.guardedGenerate` — the whole run with its guards. -/

namespace TypeWitness

/-! ## Sets with room for so many indices -/

/-- A set of indices below a capacity. -/
structure IndexSet where
  capacity : Nat
  indices : List Nat

namespace IndexSet

/-- The set without indices. -/
def empty (capacity : Nat) : IndexSet := ⟨capacity, []⟩

/-- Put indices in; one that is not below the capacity is a fault. -/
def insertAll? (set : IndexSet) (indices : List Nat) : Option IndexSet :=
  if indices.all (· < set.capacity) then some { set with indices := indices ++ set.indices }
  else none

/-- The indices in increasing order. -/
def toList (set : IndexSet) : List Nat := indicesBelow set.capacity set.indices.contains

/-- A set takes in what there is room for. -/
theorem insertAll?_eq_some_iff {set next : IndexSet} {indices : List Nat} :
    set.insertAll? indices = some next ↔
      (∀ index ∈ indices, index < set.capacity)
      ∧ next = ⟨set.capacity, indices ++ set.indices⟩ := by
  have hiff : indices.all (· < set.capacity) = true ↔ ∀ index ∈ indices, index < set.capacity := by
    simp only [List.all_eq_true, decide_eq_true_eq]
  unfold insertAll?
  split
  · next hall =>
    rw [Option.some.injEq]
    exact ⟨fun heq => ⟨hiff.1 hall, heq.symm⟩, fun h => h.2.symm⟩
  · next hall => exact iff_of_false nofun fun h => hall (hiff.2 h.1)

theorem insertAll?_of_lt {set : IndexSet} {indices : List Nat}
    (h : ∀ index ∈ indices, index < set.capacity) :
    set.insertAll? indices = some ⟨set.capacity, indices ++ set.indices⟩ :=
  insertAll?_eq_some_iff.2 ⟨h, rfl⟩

end IndexSet

/-- Steps without fault give what they give without guards. -/
theorem mapM_eq_some_map {α β : Type} {f : α → Option β} {g : α → β} {items : List α}
    (h : ∀ item ∈ items, f item = some (g item)) : items.mapM f = some (items.map g) := by
  induction items with
  | nil => rfl
  | cons item items ih =>
    rw [List.forall_mem_cons] at h
    rw [List.mapM_cons, h.1, ih h.2]
    rfl

/-- Steps of which none is a fault. -/
theorem mapM_eq_some_filterMap {α β : Type} {f : α → Option β} {items : List α}
    (h : ∀ item ∈ items, (f item).isSome) : items.mapM f = some (items.filterMap f) := by
  induction items with
  | nil => rfl
  | cons item items ih =>
    rw [List.forall_mem_cons] at h
    obtain ⟨result, hresult⟩ := Option.isSome_iff_exists.1 h.1
    rw [List.mapM_cons, hresult, ih h.2, List.filterMap_cons_some hresult]
    rfl

/-- The parameters that an accessor witnesses are parameters that its owner has. -/
theorem TokenAccessor.lt_of_mem_witnessed {accessor : TokenAccessor} {index : Nat}
    (h : index ∈ accessor.witnessed) : index < accessor.owner.arity := by
  rw [witnessed, List.mem_eraseDups] at h
  obtain ⟨bind, hbind, rfl⟩ := List.mem_map.1 h
  exact lt_of_mem_binds hbind

/-! ## Types and their accessors -/

/-- Put in what the accessors of a type witness, but for those that have a problem. `seen` holds the
token names so far. -/
def markWitnessed? (set : IndexSet) (seen : List (String × String)) :
    List TokenAccessor → Option IndexSet
  | [] => some set
  | accessor :: accessors =>
    match accessor.problem?, seen.lookup accessor.tokenName.upper with
    | none, none => do
      let next ← set.insertAll? accessor.witnessed
      markWitnessed? next ((accessor.tokenName.upper, accessor.name) :: seen) accessors
    | _, _ => markWitnessed? set seen accessors

/-- The parameters that accessors witness, in a set with room for those of the first one's owner. -/
def recoverable? : List TokenAccessor → Option IndexSet
  | [] => some (.empty 0)
  | first :: others => markWitnessed? (.empty first.owner.arity) [] (first :: others)

/-- The group of a type. -/
def groupType? (accessors : List TokenAccessor) : Option (Option TypeGroup × List Diagnostic) :=
  (recoverable? accessors).map fun _ => groupType accessors

/-- The groups of a package. -/
def groupPackage? (packageName : String) (accessors : List TokenAccessor) : Option Grouping := do
  let own := accessors.filter (·.owner.packageName == packageName)
  let results ← (sortedNames (own.map (·.owner.simpleName))).mapM fun simpleName =>
    groupType? (accessorsOf simpleName own)
  let types := results.filterMap Prod.fst
  return ⟨if types.isEmpty then [] else [⟨packageName, types⟩], results.flatMap Prod.snd⟩

/-- The groups of accessors, but for those of rejected types. -/
def groupAccessors? (accessors : List TokenAccessor) (rejected : List String) :
    Option Grouping := do
  let kept := accessors.filter fun accessor => !rejected.contains accessor.owner.qualifiedName
  let results ← (sortedNames (kept.map (·.owner.packageName))).mapM fun packageName =>
    groupPackage? packageName kept
  return ⟨results.flatMap (·.packages), results.flatMap (·.diagnostics)⟩

/-- What accessors witness is put in without fault when there is room for the parameters of each
one's owner. -/
theorem markWitnessed?_isSome {set : IndexSet} {seen : List (String × String)}
    {accessors : List TokenAccessor}
    (h : ∀ accessor ∈ accessors, accessor.owner.arity ≤ set.capacity) :
    (markWitnessed? set seen accessors).isSome := by
  induction accessors generalizing set seen with
  | nil => rfl
  | cons accessor accessors ih =>
    rw [List.forall_mem_cons] at h
    rw [markWitnessed?]
    split
    · rw [IndexSet.insertAll?_of_lt fun index hindex =>
        Nat.lt_of_lt_of_le (TokenAccessor.lt_of_mem_witnessed hindex) h.1]
      exact ih h.2
    · exact ih h.2

/-- Of accessors without problems all is put in that they witness. -/
theorem markWitnessed?_spec {set next : IndexSet} {seen : List (String × String)}
    {accessors : List TokenAccessor} (hproblems : accessorProblems seen accessors = [])
    (h : markWitnessed? set seen accessors = some next) :
    next.capacity = set.capacity
    ∧ ∀ index, index ∈ next.indices ↔
      index ∈ accessors.flatMap (·.witnessed) ∨ index ∈ set.indices := by
  induction accessors generalizing set seen with
  | nil =>
    cases h
    simp
  | cons accessor accessors ih =>
    rw [accessorProblems] at hproblems
    rw [markWitnessed?] at h
    split at hproblems
    · cases hproblems
    · cases hproblems
    · next hproblem hseen =>
      rw [hproblem, hseen] at h
      obtain ⟨middle, hmiddle, h⟩ := Option.bind_eq_some_iff.1 h
      obtain ⟨-, rfl⟩ := IndexSet.insertAll?_eq_some_iff.1 hmiddle
      obtain ⟨hcapacity, hindices⟩ := ih hproblems h
      refine ⟨hcapacity, fun index => ?_⟩
      rw [hindices, List.flatMap_cons, List.mem_append, List.mem_append]
      exact or_left_comm.trans or_assoc.symm

/-- Accessors of one owner are grouped without fault. -/
theorem recoverable?_isSome {accessors : List TokenAccessor} {owner : OwningType}
    (h : ∀ accessor ∈ accessors, accessor.owner = owner) : (recoverable? accessors).isSome := by
  cases accessors with
  | nil => rfl
  | cons first others =>
    refine markWitnessed?_isSome fun accessor haccessor => Nat.le_of_eq ?_
    rw [h accessor haccessor, h first List.mem_cons_self]
    rfl

theorem groupType?_eq {accessors : List TokenAccessor} {owner : OwningType}
    (h : ∀ accessor ∈ accessors, accessor.owner = owner) :
    groupType? accessors = some (groupType accessors) := by
  obtain ⟨set, hset⟩ := Option.isSome_iff_exists.1 (recoverable?_isSome h)
  rw [groupType?, hset, Option.map_some]

/-- A package is grouped without fault when each of its types is. -/
theorem groupPackage?_eq {packageName : String} {accessors : List TokenAccessor}
    (h : ∀ simpleName,
      groupType? (accessorsOf simpleName
        (accessors.filter (·.owner.packageName == packageName))) =
      some (groupType (accessorsOf simpleName
        (accessors.filter (·.owner.packageName == packageName))))) :
    groupPackage? packageName accessors = some (groupPackage packageName accessors) := by
  rw [groupPackage?, mapM_eq_some_map fun simpleName _ => h simpleName]
  rfl

/-- The set that is filled while a type is looked at has the parameters that can be recovered. -/
theorem recoverable?_eq {group : TypeGroup}
    (h : ∀ accessor ∈ group.accessors, accessor.owner = group.owner)
    (hne : group.accessors ≠ []) (hproblems : accessorProblems [] group.accessors = []) :
    (recoverable? group.accessors).map (·.toList) = some group.recoverable := by
  obtain ⟨set, hset⟩ := Option.isSome_iff_exists.1 (recoverable?_isSome h)
  obtain ⟨first, others, heq⟩ := List.exists_cons_of_ne_nil hne
  have hfirst : first.owner = group.owner := h first (heq ▸ List.mem_cons_self)
  rw [hset, Option.map_some, IndexSet.toList, TypeGroup.recoverable]
  rw [heq, recoverable?, ← heq, hfirst] at hset
  obtain ⟨hcapacity, hindices⟩ := markWitnessed?_spec hproblems hset
  rw [hcapacity]
  refine congrArg some (List.filter_congr fun index _ => ?_)
  rw [Bool.eq_iff_iff, List.contains_iff_mem, List.contains_iff_mem, hindices]
  simp [IndexSet.empty]

/-! ## Casts -/

/-- The parameters that the bounds of others mention, each of which must be declared. -/
def OwningType.mentionedByBounds? (owner : OwningType) (parameters : List Nat) :
    Option (List Nat) := do
  let mentioned ← parameters.mapM fun parameter =>
    (owner.parameters[parameter]?).map fun declaration =>
      declaration.bounds.flatMap owner.mentioned
  return mentioned.flatten

/-- Follow bounds for a number of steps. -/
def OwningType.followBounds? (owner : OwningType) :
    Nat → List Nat → IndexSet → Option IndexSet
  | 0, _, reached => some reached
  | steps + 1, latest, reached => do
    let mentioned ← owner.mentionedByBounds? latest
    let referenced ← (IndexSet.empty owner.arity).insertAll? mentioned
    let next := (referenced.indices.filter (!reached.indices.contains ·)).eraseDups
    let reached ← reached.insertAll? next
    owner.followBounds? steps next reached

/-- The parameters that bounds lead to. -/
def OwningType.closeOverBounds? (owner : OwningType) (parameters : List Nat) :
    Option (List Nat) := do
  let start ← (IndexSet.empty owner.arity).insertAll? parameters
  let reached ← owner.followBounds? owner.arity start.indices start
  return reached.toList

namespace CastPlan

/-- The cast of the given name that takes a witness for each of the accessors. -/
def build? (name : String) (owner : OwningType) (accessors : List TokenAccessor)
    (style : SignatureStyle) : Option CastPlan := do
  let pinned ← (IndexSet.empty owner.arity).insertAll? ((accessors.flatMap (·.binds)).map (·.2))
  let mentioned ← (IndexSet.empty owner.arity).insertAll?
    (accessors.flatMap fun accessor => owner.mentioned accessor.witnessType)
  let quantified ← match style with
    | .wildcard => owner.closeOverBounds? (pinned.toList ++ mentioned.indices).eraseDups
    | .passthrough => some (List.range owner.arity)
  return {
    build name owner accessors style with
    pinned := pinned.toList
    quantified
    input := match style with
      | .wildcard => Slot.allUnknown owner.arity
      | .passthrough => slotsWhere owner.arity fun index => !pinned.toList.contains index
    output := match style with
      | .wildcard => slotsWhere owner.arity pinned.toList.contains
      | .passthrough => slotsWhere owner.arity fun _ => true }

/-- The casts of a type with one accessor each, if there are several. -/
def singles? (options : GenerationOptions) (group : TypeGroup) : Option (List CastPlan) :=
  if group.accessors.length > 1 then
    group.accessors.mapM fun accessor =>
      build? (options.partialCastPrefix ++ accessor.tokenName.upper) group.owner [accessor]
        options.signatureStyle
  else some []

/-- The casts of a type. -/
def ofGroup? (options : GenerationOptions) (group : TypeGroup) : Option (List CastPlan) := do
  let full ← build? options.castName group.owner group.accessors options.signatureStyle
  let singles ← singles? options group
  return full :: singles

/-- The type of an instance with the given slots. -/
def renderView? (owner : OwningType) (slots : List (Slot Nat)) : Option String := do
  let arguments ← slots.mapM fun slot =>
    match slot with
    | .bound index => (owner.parameters[index]?).map (·.name)
    | .unknown => some "?"
  return if slots.isEmpty then owner.simpleName
    else owner.simpleName ++ "<" ++ ", ".intercalate arguments ++ ">"

/-- The method that performs the cast. -/
def method? (options : GenerationOptions) (plan : CastPlan) : Option Method := do
  let inputType ← renderView? plan.owner plan.input
  let outputType ← renderView? plan.owner plan.output
  let typeParameters ← plan.quantified.mapM fun index =>
    (plan.owner.parameters[index]?).map (·.declaration)
  return {
    plan.method options with
    typeParameters
    returnType := outputType
    parameters :=
      ⟨inputType, plan.instanceName⟩ :: plan.witnesses.map fun witness =>
        ⟨witness.type, witness.name⟩
    body :=
      plan.witnesses.map (refuse plan.instanceName)
        ++ [.giveBack (.cast outputType (.name plan.instanceName))] }

end CastPlan

/-! ## Files -/

/-- The file of a package's holder. -/
def PackageGroup.target? (options : GenerationOptions) (group : PackageGroup) :
    Option OutputTarget := do
  let plans ← group.types.mapM (CastPlan.ofGroup? options)
  let methods ← plans.flatten.mapM (CastPlan.method? options)
  let holder := { group.holderClass options with
    members := .constructor [.privateAccess] [] [] :: methods.map .method }
  let file := { group.holderFile options with classes := [holder] }
  return { group.target options with contents := file.render options.layout }

/-- Generate all files that a manifest asks for, with a guard wherever an index is used. -/
def Manifest.guardedGenerate (options : GenerationOptions) (manifest : Manifest) :
    Option Generation := do
  let collection := manifest.collect
  let grouping ← groupAccessors? collection.accessors collection.rejected
  let holders ← grouping.packages.mapM (·.target? options)
  let targets := holders ++ collection.containers.map (·.target options)
  let kept := dropClashes none (targets.mergeSort fun a b => (a.order b).isLE)
  return ⟨kept.targets, collection.diagnostics ++ grouping.diagnostics ++ kept.diagnostics⟩

/-! ## No fault in planning -/

namespace OwningType

variable {owner : OwningType}

/-- The bounds of parameters that the owner has mention parameters that it has. -/
theorem mentionedByBounds?_eq {parameters : List Nat}
    (h : ∀ parameter ∈ parameters, parameter < owner.arity) :
    owner.mentionedByBounds? parameters = some (parameters.flatMap owner.mentionedByBounds)
    ∧ ∀ index ∈ parameters.flatMap owner.mentionedByBounds, index < owner.arity := by
  constructor
  · have hmap : parameters.mapM (fun parameter => (owner.parameters[parameter]?).map
        fun declaration => declaration.bounds.flatMap owner.mentioned) =
        some (parameters.map owner.mentionedByBounds) := by
      refine mapM_eq_some_map fun parameter hparameter => ?_
      rw [mentionedByBounds, List.getElem?_eq_getElem (h parameter hparameter), Option.map_some]
    rw [mentionedByBounds?, hmap, List.flatMap_def]
    rfl
  · intro index hindex
    obtain ⟨parameter, -, hindex⟩ := List.mem_flatMap.1 hindex
    exact (mem_mentionedByBounds_iff.1 hindex).lt

/-- Bounds are followed without fault from parameters that the owner has. -/
theorem followBounds?_eq {steps : Nat} {latest reached : List Nat}
    (hlatest : ∀ index ∈ latest, index < owner.arity) :
    owner.followBounds? steps latest ⟨owner.arity, reached⟩ =
      some ⟨owner.arity, owner.followBounds steps latest reached⟩ := by
  induction steps generalizing latest reached with
  | zero => rfl
  | succ steps ih =>
    obtain ⟨hmentioned, hlt⟩ := mentionedByBounds?_eq hlatest
    have hnext : ∀ index ∈ ((latest.flatMap owner.mentionedByBounds).filter
        (!reached.contains ·)).eraseDups, index < owner.arity := by
      intro index hindex
      rw [List.mem_eraseDups, List.mem_filter] at hindex
      exact hlt index hindex.1
    rw [followBounds?, hmentioned]
    simp only [Option.bind_eq_bind, Option.bind_some, IndexSet.empty]
    rw [@IndexSet.insertAll?_of_lt ⟨owner.arity, []⟩ _ hlt]
    simp only [List.append_nil, Option.bind_some]
    rw [@IndexSet.insertAll?_of_lt ⟨owner.arity, reached⟩ _ hnext, Option.bind_some]
    exact ih hnext

/-- The closure is found without fault from parameters that the owner has. -/
theorem closeOverBounds?_eq {parameters : List Nat}
    (h : ∀ index ∈ parameters, index < owner.arity) :
    owner.closeOverBounds? parameters = some (owner.closeOverBounds parameters) := by
  rw [closeOverBounds?, IndexSet.empty,
    @IndexSet.insertAll?_of_lt ⟨owner.arity, []⟩ _ h]
  simp only [List.append_nil, Option.bind_eq_bind, Option.bind_some]
  rw [followBounds?_eq h, Option.bind_some]
  rfl

end OwningType

namespace CastPlan

/-- A cast is planned without fault when its accessors are those of its owner. -/
theorem build?_eq {name : String} {owner : OwningType} {accessors : List TokenAccessor}
    {style : SignatureStyle} (h : ∀ accessor ∈ accessors, accessor.owner = owner) :
    build? name owner accessors style = some (build name owner accessors style) := by
  have hbinds : ∀ index ∈ (accessors.flatMap (·.binds)).map (·.2), index < owner.arity := by
    intro index hindex
    obtain ⟨bind, hbind, rfl⟩ := List.mem_map.1 hindex
    obtain ⟨accessor, haccessor, hbind⟩ := List.mem_flatMap.1 hbind
    exact h accessor haccessor ▸ TokenAccessor.lt_of_mem_binds hbind
  have hmentioned : ∀ index ∈ accessors.flatMap fun accessor =>
      owner.mentioned accessor.witnessType, index < owner.arity := by
    intro index hindex
    obtain ⟨accessor, -, hindex⟩ := List.mem_flatMap.1 hindex
    exact OwningType.lt_of_mem_mentioned hindex
  have hpinned : (⟨owner.arity, (accessors.flatMap (·.binds)).map (·.2)⟩ : IndexSet).toList =
      pinnedParameters owner accessors := rfl
  have hneeded : ∀ index ∈ (pinnedParameters owner accessors ++ accessors.flatMap fun accessor =>
      owner.mentioned accessor.witnessType).eraseDups, index < owner.arity :=
    fun _ => lt_of_mem_neededFirst
  rw [build?, IndexSet.empty, @IndexSet.insertAll?_of_lt ⟨owner.arity, []⟩ _ hbinds,
    @IndexSet.insertAll?_of_lt ⟨owner.arity, []⟩ _ hmentioned]
  simp only [List.append_nil, Option.bind_eq_bind, Option.bind_some, hpinned]
  cases style with
  | wildcard =>
    simp only [OwningType.closeOverBounds?_eq hneeded, Option.bind_some]
    rfl
  | passthrough => rfl

end CastPlan

end TypeWitness
