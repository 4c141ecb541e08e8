import Mathlib.Data.List.Basic
import TypeWitness.Generation.Collection

/-! # What becomes of the markers of a declaration
Each marker of a declaration with bounds that can be read has one outcome: an accessor, a container,
a rejection of the whole type, or a problem. Here the outcomes are told from the marker and the
place it stands in.

* `TypeDeclaration.names_accessors_collect` — one accessor for each token marker in its place.
* `TypeDeclaration.exists_element_of_mem_rejected` — a rejected type has a problem of its own.
* `TypeDeclaration.misplaced_collect` — one problem for each marker in a wrong place. -/

namespace TypeWitness

namespace Collection

/-- A collection that is put together has the items of its parts, part by part. -/
theorem join_eq (collections : List Collection) :
    join collections = ⟨collections.flatMap (·.accessors), collections.flatMap (·.containers),
      collections.flatMap (·.rejected), collections.flatMap (·.diagnostics)⟩ := by
  induction collections with
  | nil => rfl
  | cons first others ih =>
    rw [join, ih]
    rfl

end Collection

/-- The codes of the problems that collecting reports. -/
def collectingCodes : List Nat := [2001, 2002, 3001, 3002, 5001]

/-- The codes of the problems that a single declaration has. -/
def declarationCodes : List Nat := [2001, 3001, 3002, 5001]

/-- No diagnostic has a code that is not among the codes that occur. -/
theorem filter_code_eq_nil {diagnostics : List Diagnostic} {codes : List Nat} {code : Nat}
    (h : ∀ diagnostic ∈ diagnostics, diagnostic.code ∈ codes) (hcode : code ∉ codes) :
    diagnostics.filter (·.code == code) = [] := by
  rw [List.filter_eq_nil_iff]
  intro diagnostic hmem heq
  exact hcode (beq_iff_eq.1 heq ▸ h diagnostic hmem)

/-! ## Markers on members -/

namespace MemberDeclaration

/-- Whether a member may carry a marker: token markers belong on methods without parameters, and no
other marker belongs on a member. -/
def carries (member : MemberDeclaration) (marker : Marker) : Bool :=
  marker == .typeToken && member.kind == .method && member.parameters.isEmpty

/-- What a misplaced marker is said to stand on. -/
def carrier (member : MemberDeclaration) (marker : Marker) : String :=
  if marker == .typeToken && member.kind == .method then "method with parameters"
  else member.kind.describe

/-- A marker is in the wrong place unless the member may carry it. -/
theorem wrongCarrier?_eq (member : MemberDeclaration) (marker : Marker) :
    member.wrongCarrier? marker =
      if member.carries marker then none else some (member.carrier marker) := by
  cases marker with
  | container className => rfl
  | typeToken =>
    rw [wrongCarrier?, carries, carrier]
    cases member.kind with
    | method => cases member.parameters <;> rfl
    | field => rfl
    | constructor => rfl

/-- The problem of a marker in a wrong place. -/
def misplaced (owner : OwningType) (member : MemberDeclaration) (marker : Marker) : Diagnostic :=
  (Problem.misplacedMarker marker.label (member.carrier marker) member.name).diagnostic
    (owner.qualifiedName ++ "#" ++ member.name)

/-- A marker in a wrong place is reported, and nothing else comes of it. -/
theorem collectMarker_of_not_carries {member : MemberDeclaration} {marker : Marker}
    (h : member.carries marker = false) (owner : OwningType) :
    member.collectMarker owner marker = ⟨[], [], [], [member.misplaced owner marker]⟩ := by
  have hwrong : member.wrongCarrier? marker = some (member.carrier marker) := by
    rw [wrongCarrier?_eq, h]
    rfl
  simp only [collectMarker, hwrong]
  rfl

/-- The accessor that a marked method is, given its return type. -/
def accessor (owner : OwningType) (member : MemberDeclaration) (returnType : TypeExpr) :
    TokenAccessor :=
  ⟨owner, member.name, returnType, member.typeParameters.map (·.name)⟩

/-- A marker in its place makes an accessor, or a rejection when the type cannot be read. -/
theorem collectMarker_of_carries {member : MemberDeclaration} {marker : Marker}
    (h : member.carries marker = true) (owner : OwningType) :
    member.collectMarker owner marker =
      match member.readType with
      | .ok returnType => ⟨[member.accessor owner returnType], [], [], []⟩
      | .error problem =>
        .ofRejection owner.qualifiedName (owner.qualifiedName ++ "#" ++ member.name) problem := by
  have hright : member.wrongCarrier? marker = none := by rw [wrongCarrier?_eq, if_pos h]
  simp only [collectMarker, hright]
  cases member.readType <;> rfl

/-- A type that cannot be read is malformed. -/
theorem code_of_readType {member : MemberDeclaration} {problem : Problem}
    (h : member.readType = .error problem) : problem.code = 5001 := by
  unfold readType at h
  split at h
  · cases h
  · split at h <;> cases h
    rfl

/-- The code of a misplaced marker. -/
theorem code_misplaced (owner : OwningType) (member : MemberDeclaration) (marker : Marker) :
    (member.misplaced owner marker).code = 2001 := Problem.diagnostic_code _ _

theorem collect_eq (owner : OwningType) (member : MemberDeclaration) :
    member.collect owner =
      ⟨member.markers.flatMap fun marker => (member.collectMarker owner marker).accessors,
        member.markers.flatMap fun marker => (member.collectMarker owner marker).containers,
        member.markers.flatMap fun marker => (member.collectMarker owner marker).rejected,
        member.markers.flatMap fun marker => (member.collectMarker owner marker).diagnostics⟩ := by
  rw [collect, Collection.join_eq]
  simp only [List.flatMap_map]

theorem mem_accessors_collect {owner : OwningType} {member : MemberDeclaration}
    {found : TokenAccessor} (h : found ∈ (member.collect owner).accessors) :
    ∃ returnType, member.readType = .ok returnType ∧ found = member.accessor owner returnType := by
  rw [collect_eq, List.mem_flatMap] at h
  obtain ⟨marker, -, h⟩ := h
  cases hcarries : member.carries marker with
  | false => simp [collectMarker_of_not_carries hcarries] at h
  | true =>
    rw [collectMarker_of_carries hcarries] at h
    cases hread : member.readType with
    | error problem => simp [hread, Collection.ofRejection] at h
    | ok returnType =>
      rw [hread] at h
      exact ⟨returnType, rfl, List.mem_singleton.1 h⟩

theorem containers_collect (owner : OwningType) (member : MemberDeclaration) :
    (member.collect owner).containers = [] := by
  rw [collect_eq]
  refine List.flatMap_eq_nil_iff.2 fun marker _ => ?_
  cases hcarries : member.carries marker with
  | false => rw [collectMarker_of_not_carries hcarries]
  | true =>
    rw [collectMarker_of_carries hcarries]
    cases member.readType <;> rfl

/-- A rejection names the owner, and comes with a problem of the member. -/
theorem exists_element_of_mem_rejected {owner : OwningType} {member : MemberDeclaration}
    {name : String} (h : name ∈ (member.collect owner).rejected) :
    name = owner.qualifiedName ∧ ∃ diagnostic ∈ (member.collect owner).diagnostics,
      diagnostic.element? = some (owner.qualifiedName ++ "#" ++ member.name) := by
  rw [collect_eq, List.mem_flatMap] at h
  obtain ⟨marker, hmarker, h⟩ := h
  cases hcarries : member.carries marker with
  | false => simp [collectMarker_of_not_carries hcarries] at h
  | true =>
    have hcollect := collectMarker_of_carries hcarries owner
    cases hread : member.readType with
    | ok returnType => simp [hcollect, hread] at h
    | error problem =>
      rw [hread] at hcollect
      rw [hcollect] at h
      -- the same marker that rejects the owner reports why
      refine ⟨List.mem_singleton.1 h, problem.diagnostic _, ?_, Problem.diagnostic_element _ _⟩
      rw [collect_eq, List.mem_flatMap]
      exact ⟨marker, hmarker, by rw [hcollect]; exact List.mem_singleton_self _⟩

/-- Without a rejection there is one accessor for each marker that the member may carry. -/
theorem names_accessors_collect {owner : OwningType} {member : MemberDeclaration}
    (h : (member.collect owner).rejected = []) :
    (member.collect owner).accessors.map (·.name) =
      (member.markers.filter member.carries).map fun _ => member.name := by
  simp only [collect_eq] at h ⊢
  generalize member.markers = markers at h ⊢
  induction markers with
  | nil => rfl
  | cons marker markers ih =>
    rw [List.flatMap_cons, List.append_eq_nil_iff] at h
    rw [List.flatMap_cons, List.map_append, ih h.2]
    cases hcarries : member.carries marker with
    | false => simp [collectMarker_of_not_carries hcarries, hcarries]
    | true =>
      have hcollect := collectMarker_of_carries hcarries owner
      cases hread : member.readType with
      | ok returnType => simp [hcollect, hread, hcarries, accessor]
      | error problem => simp [hcollect, hread, Collection.ofRejection] at h

/-- What is wrong with markers on members: they are misplaced, or the type cannot be read. -/
theorem code_of_mem_collect {owner : OwningType} {member : MemberDeclaration}
    {diagnostic : Diagnostic} (h : diagnostic ∈ (member.collect owner).diagnostics) :
    diagnostic.code ∈ declarationCodes := by
  rw [collect_eq, List.mem_flatMap] at h
  obtain ⟨marker, -, h⟩ := h
  cases hcarries : member.carries marker with
  | false =>
    rw [collectMarker_of_not_carries hcarries, List.mem_singleton] at h
    rw [h, code_misplaced]
    decide
  | true =>
    rw [collectMarker_of_carries hcarries] at h
    cases hread : member.readType with
    | ok returnType => simp [hread] at h
    | error problem =>
      rw [hread] at h
      rw [List.mem_singleton.1 h, Problem.diagnostic_code, code_of_readType hread]
      decide

/-- There is one problem for each marker in a wrong place. -/
theorem misplaced_collect (owner : OwningType) (member : MemberDeclaration) :
    (member.collect owner).diagnostics.filter (·.code == 2001) =
      (member.markers.filter (!member.carries ·)).map (member.misplaced owner) := by
  simp only [collect_eq]
  induction member.markers with
  | nil => rfl
  | cons marker markers ih =>
    rw [List.flatMap_cons, List.filter_append, ih]
    cases hcarries : member.carries marker with
    | false =>
      simp [collectMarker_of_not_carries hcarries, hcarries, code_misplaced]
    | true =>
      have hcollect := collectMarker_of_carries hcarries owner
      cases hread : member.readType with
      | ok returnType => simp [hcollect, hread, hcarries]
      | error problem =>
        simp [hcollect, hread, hcarries, Collection.ofRejection, code_of_readType hread]

end MemberDeclaration

/-! ## Markers on types -/

namespace TypeDeclaration

/-- Whether all bounds of a declaration's type parameters can be read. -/
def BoundsParse (declaration : TypeDeclaration) : Prop :=
  ∀ parameter ∈ declaration.typeParameters, ∀ bound ∈ parameter.bounds,
    ∃ type, TypeExpr.parse bound = .ok type

/-- Bounds have problems unless all of them can be read. -/
theorem boundProblems_eq_nil_iff {declaration : TypeDeclaration} :
    declaration.boundProblems = [] ↔ declaration.BoundsParse := by
  rw [boundProblems, List.flatMap_eq_nil_iff]
  refine forall₂_congr fun parameter _ => ?_
  rw [List.filterMap_eq_nil_iff]
  refine forall₂_congr fun bound _ => ?_
  cases TypeExpr.parse bound <;> simp

/-- A bound that has a problem is malformed. -/
theorem code_of_mem_boundProblems {declaration : TypeDeclaration} {problem : Problem}
    (h : problem ∈ declaration.boundProblems) : problem.code = 5001 := by
  rw [boundProblems, List.mem_flatMap] at h
  obtain ⟨parameter, -, h⟩ := h
  obtain ⟨bound, -, h⟩ := List.mem_filterMap.1 h
  split at h <;> cases h
  rfl

instance (declaration : TypeDeclaration) : Decidable declaration.BoundsParse :=
  decidable_of_iff _ boundProblems_eq_nil_iff

/-- What a declaration asks for whose bounds can be read. -/
theorem collect_of_readable {declaration : TypeDeclaration}
    (h : declaration.boundProblems = []) :
    declaration.collect =
      ⟨declaration.members.flatMap fun member => (member.collect declaration.owner).accessors,
        declaration.markers.flatMap fun marker => (declaration.collectMarker marker).containers,
        declaration.members.flatMap fun member => (member.collect declaration.owner).rejected,
        declaration.markers.flatMap (fun marker => (declaration.collectMarker marker).diagnostics)
          ++ declaration.members.flatMap fun member =>
            (member.collect declaration.owner).diagnostics⟩ := by
  -- markers on the type make no accessors, and those on members make no containers
  have hnone : ∀ marker, (declaration.collectMarker marker).accessors = []
      ∧ (declaration.collectMarker marker).rejected = [] := by
    intro marker
    cases marker with
    | typeToken => exact ⟨rfl, rfl⟩
    | container className =>
      simp only [collectMarker]
      cases declaration.container className <;> exact ⟨rfl, rfl⟩
  have haccessors : declaration.markers.flatMap
      (fun marker => (declaration.collectMarker marker).accessors) = [] :=
    List.flatMap_eq_nil_iff.2 fun marker _ => (hnone marker).1
  have hrejected : declaration.markers.flatMap
      (fun marker => (declaration.collectMarker marker).rejected) = [] :=
    List.flatMap_eq_nil_iff.2 fun marker _ => (hnone marker).2
  have hcontainers : declaration.members.flatMap
      (fun member => (member.collect declaration.owner).containers) = [] :=
    List.flatMap_eq_nil_iff.2 fun member _ => member.containers_collect _
  rw [collect, h]
  show Collection.append _ _ = _
  simp only [Collection.join_eq, List.flatMap_map, Collection.append, haccessors, hrejected,
    hcontainers, List.nil_append, List.append_nil]

/-- What a declaration asks for with a bound that cannot be read. -/
theorem collect_of_unreadable {declaration : TypeDeclaration}
    (h : declaration.boundProblems ≠ []) :
    declaration.collect = ⟨[], [], [declaration.qualifiedName],
      declaration.boundProblems.map (·.diagnostic declaration.qualifiedName)⟩ := by
  unfold collect
  split
  · next heq => exact absurd heq h
  · rfl

/-- An accessor that a declaration asks for is a method of the declaration, with a type that can be
read. -/
theorem mem_accessors_collect {declaration : TypeDeclaration} {found : TokenAccessor}
    (h : found ∈ declaration.collect.accessors) :
    declaration.boundProblems = [] ∧ ∃ member ∈ declaration.members, ∃ returnType,
      member.readType = .ok returnType ∧ found = member.accessor declaration.owner returnType := by
  by_cases hbounds : declaration.boundProblems = []
  · rw [collect_of_readable hbounds, List.mem_flatMap] at h
    obtain ⟨member, hmember, h⟩ := h
    exact ⟨hbounds, member, hmember, MemberDeclaration.mem_accessors_collect h⟩
  · simp [collect_of_unreadable hbounds] at h

/-- A container that a declaration asks for is that of a marker on it. -/
theorem mem_containers_collect {declaration : TypeDeclaration} {found : ContainerDeclaration} :
    found ∈ declaration.collect.containers ↔
      declaration.boundProblems = [] ∧ ∃ className, .container className ∈ declaration.markers
        ∧ declaration.container className = .ok found := by
  by_cases hbounds : declaration.boundProblems = []
  · rw [collect_of_readable hbounds, List.mem_flatMap]
    constructor
    · rintro ⟨marker, hmarker, h⟩
      refine ⟨hbounds, ?_⟩
      cases marker with
      | typeToken => cases h
      | container className =>
        simp only [collectMarker] at h
        cases hcontainer : declaration.container className with
        | error problem => simp [hcontainer, Collection.ofProblem, Collection.empty] at h
        | ok container =>
          rw [hcontainer, List.mem_singleton] at h
          exact ⟨className, hmarker, h ▸ hcontainer⟩
    · rintro ⟨-, className, hmarker, h⟩
      refine ⟨.container className, hmarker, ?_⟩
      simp only [collectMarker, h]
      exact List.mem_singleton_self found
  · simp [collect_of_unreadable hbounds, hbounds]

/-- The names of the methods with a token marker in its place, one for each such marker. -/
def tokenNames (declaration : TypeDeclaration) : List String :=
  declaration.members.flatMap fun member =>
    (member.markers.filter member.carries).map fun _ => member.name

/-- **There is one accessor for each token marker in its place**, unless the type is rejected. -/
theorem names_accessors_collect {declaration : TypeDeclaration}
    (h : declaration.collect.rejected = []) :
    declaration.collect.accessors.map (·.name) = declaration.tokenNames := by
  by_cases hbounds : declaration.boundProblems = []
  · rw [collect_of_readable hbounds] at h ⊢
    rw [List.map_flatMap, tokenNames]
    exact List.flatMap_congr fun member hmember =>
      MemberDeclaration.names_accessors_collect (List.flatMap_eq_nil_iff.1 h member hmember)
  · simp [collect_of_unreadable hbounds] at h

/-- **A rejected type has a problem of its own**: one of the type, or of one of its members. -/
theorem exists_element_of_mem_rejected {declaration : TypeDeclaration} {name : String}
    (h : name ∈ declaration.collect.rejected) :
    name = declaration.qualifiedName ∧ ∃ diagnostic ∈ declaration.collect.diagnostics,
      diagnostic.element? = some declaration.qualifiedName
      ∨ ∃ member ∈ declaration.members,
        diagnostic.element? = some (declaration.qualifiedName ++ "#" ++ member.name) := by
  by_cases hbounds : declaration.boundProblems = []
  · rw [collect_of_readable hbounds, List.mem_flatMap] at h
    obtain ⟨member, hmember, h⟩ := h
    obtain ⟨rfl, diagnostic, hdiagnostic, helement⟩ :=
      MemberDeclaration.exists_element_of_mem_rejected h
    refine ⟨rfl, diagnostic, ?_, .inr ⟨member, hmember, helement⟩⟩
    rw [collect_of_readable hbounds]
    exact List.mem_append_right _ (List.mem_flatMap.2 ⟨member, hmember, hdiagnostic⟩)
  · rw [collect_of_unreadable hbounds] at h ⊢
    obtain ⟨problem, hproblem⟩ := List.exists_mem_of_ne_nil _ hbounds
    exact ⟨List.mem_singleton.1 h, _, List.mem_map_of_mem hproblem,
      .inl (Problem.diagnostic_element _ _)⟩

/-- A container marker that asks for no container has a problem of its type. -/
theorem exists_element_of_container {declaration : TypeDeclaration} {className : String}
    (hbounds : declaration.boundProblems = [])
    (hmarker : .container className ∈ declaration.markers)
    {problem : Problem} (h : declaration.container className = .error problem) :
    ∃ diagnostic ∈ declaration.collect.diagnostics,
      diagnostic.element? = some declaration.qualifiedName := by
  refine ⟨problem.diagnostic declaration.qualifiedName, ?_, Problem.diagnostic_element _ _⟩
  rw [collect_of_readable hbounds]
  refine List.mem_append_left _ (List.mem_flatMap.2 ⟨.container className, hmarker, ?_⟩)
  simp only [collectMarker, h]
  exact List.mem_singleton_self _

/-- The problem of a token marker on a type. -/
def misplacedOnType (declaration : TypeDeclaration) (marker : Marker) : Diagnostic :=
  (Problem.misplacedMarker marker.label "type" declaration.qualifiedName).diagnostic
    declaration.qualifiedName

/-- The problems of the markers of a declaration in wrong places, one for each marker. -/
def misplaced (declaration : TypeDeclaration) : List Diagnostic :=
  (declaration.markers.filter (· == .typeToken)).map declaration.misplacedOnType
    ++ declaration.members.flatMap fun member =>
      (member.markers.filter (!member.carries ·)).map (member.misplaced declaration.owner)

/-- A container is refused for its superclass, for its name, or for a type that cannot be read. -/
theorem code_of_container {declaration : TypeDeclaration} {className : String} {problem : Problem}
    (h : declaration.container className = .error problem) :
    problem.code ∈ [3001, 3002, 5001] := by
  unfold container at h
  split at h
  · split at h
    · cases h
      simp [Problem.code]
    · split at h
      · cases h
        simp [malformed, Problem.code]
      · split at h <;> cases h
        simp [Problem.code]
  · cases h
    simp [Problem.code]

/-- What is wrong with the markers on a type. -/
theorem code_of_mem_collectMarker {declaration : TypeDeclaration} {marker : Marker}
    {diagnostic : Diagnostic} (h : diagnostic ∈ (declaration.collectMarker marker).diagnostics) :
    diagnostic.code ∈ declarationCodes := by
  cases marker with
  | typeToken =>
    rw [List.mem_singleton.1 h, Problem.diagnostic_code]
    simp [Problem.code, declarationCodes]
  | container className =>
    simp only [collectMarker] at h
    cases hcontainer : declaration.container className with
    | ok container => simp [hcontainer, Collection.empty] at h
    | error problem =>
      rw [hcontainer] at h
      rw [List.mem_singleton.1 h, Problem.diagnostic_code]
      have hcodes : [3001, 3002, 5001] ⊆ declarationCodes := by decide
      exact hcodes (code_of_container hcontainer)

/-- **What is wrong with a declaration** by itself. -/
theorem code_of_mem_collect {declaration : TypeDeclaration} {diagnostic : Diagnostic}
    (h : diagnostic ∈ declaration.collect.diagnostics) : diagnostic.code ∈ declarationCodes := by
  by_cases hbounds : declaration.boundProblems = []
  · rw [collect_of_readable hbounds, List.mem_append, List.mem_flatMap, List.mem_flatMap] at h
    rcases h with ⟨marker, -, h⟩ | ⟨member, -, h⟩
    · exact code_of_mem_collectMarker h
    · exact MemberDeclaration.code_of_mem_collect h
  · rw [collect_of_unreadable hbounds] at h
    obtain ⟨problem, hproblem, rfl⟩ := List.mem_map.1 h
    rw [Problem.diagnostic_code, code_of_mem_boundProblems hproblem]
    decide

/-- There is one problem for each token marker on the type itself. -/
theorem misplaced_collectMarker (declaration : TypeDeclaration) (markers : List Marker) :
    (markers.flatMap fun marker => (declaration.collectMarker marker).diagnostics).filter
        (·.code == 2001) =
      (markers.filter (· == .typeToken)).map declaration.misplacedOnType := by
  induction markers with
  | nil => rfl
  | cons marker markers ih =>
    rw [List.flatMap_cons, List.filter_append, ih]
    cases marker with
    | typeToken =>
      have hcollect : (declaration.collectMarker .typeToken).diagnostics =
          [declaration.misplacedOnType .typeToken] := rfl
      have hcode : (declaration.misplacedOnType .typeToken).code = 2001 :=
        Problem.diagnostic_code _ _
      simp [hcollect, hcode]
    | container className =>
      -- a container marker belongs on types: whatever is wrong with it has another code
      cases hcontainer : declaration.container className with
      | ok container => simp [collectMarker, hcontainer, Collection.empty]
      | error problem =>
        have hcode : problem.code ≠ 2001 := by
          intro hcode
          have hmem := code_of_container hcontainer
          simp [hcode] at hmem
        simp [collectMarker, hcontainer, Collection.ofProblem, hcode]

/-- **There is one problem for each marker in a wrong place**, unless some bound cannot be read. -/
theorem misplaced_collect (declaration : TypeDeclaration) :
    declaration.collect.diagnostics.filter (·.code == 2001) =
      if declaration.BoundsParse then declaration.misplaced else [] := by
  by_cases hbounds : declaration.BoundsParse
  · rw [if_pos hbounds, collect_of_readable (boundProblems_eq_nil_iff.2 hbounds), misplaced,
      List.filter_append, misplaced_collectMarker, List.filter_flatMap]
    have hmembers : ∀ member ∈ declaration.members,
        (member.collect declaration.owner).diagnostics.filter (·.code == 2001) =
          (member.markers.filter (!member.carries ·)).map (member.misplaced declaration.owner) :=
      fun member _ => MemberDeclaration.misplaced_collect declaration.owner member
    rw [List.flatMap_congr hmembers]
  · rw [if_neg hbounds, collect_of_unreadable (mt boundProblems_eq_nil_iff.1 hbounds),
      List.filter_eq_nil_iff]
    intro diagnostic hmem
    obtain ⟨problem, hproblem, rfl⟩ := List.mem_map.1 hmem
    simp [code_of_mem_boundProblems hproblem]

end TypeDeclaration

/-! ## A relation -/

/-- A relation between two types, with a token for each, that also asks for a container. One marker
on the type and one on a method are misplaced. -/
def relationDeclaration : TypeDeclaration where
  name := "Relation"
  packageName := "model"
  visibility := .everywhere
  typeParameters := [⟨"A", []⟩, ⟨"B", ["Comparable<A>"]⟩]
  superclass? := some "Map<A, B>"
  markers := [.container "RelationMap", .typeToken]
  members := [
    ⟨"getLeft", .method, some "Token<A>", [], [], [.typeToken]⟩,
    ⟨"getRight", .method, some "Token<B, List<T>>", [], [⟨"T", []⟩],
      [.container "Right", .typeToken]⟩]

/-- Its bounds can be read, and its two misplaced markers are reported. -/
example : relationDeclaration.BoundsParse
    ∧ relationDeclaration.misplaced.map (·.message) =
      ["Unexpected @TypeToken on type 'model.Relation'.",
        "Unexpected @Container on method 'getRight'."] := by decide +kernel

end TypeWitness
