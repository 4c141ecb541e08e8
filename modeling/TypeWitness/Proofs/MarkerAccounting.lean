import TypeWitness.Proofs.FreshNames
import TypeWitness.Proofs.Overloads
import TypeWitness.Proofs.TargetClashes

/-! # Every marker is accounted for
A marker in its place either shows up in a generated file or has a problem that names its type, a
member of its type, or the class that clashes. A marker anywhere else has a problem of its own. The
markers are followed through collecting, grouping, planning, the methods that come out of it, and
the dropping of clashing targets.

* `Method.IsCast` — what a method is that casts by given accessors.
* `Manifest.forall₂_isCast` — the methods of a holder that are casts of a declaration.
* `Manifest.hasCasts_or_reports` — what becomes of token markers in their place.
* `Manifest.hasContainer_or_reports` — what becomes of container markers in their place.
* `Manifest.filter_diagnostics_generate` — what becomes of all other markers.
* `Manifest.markers_accounted` — all of this together. -/

namespace TypeWitness

/-! ## Methods that are casts -/

/-- The accessor and the parameter that a statement compares: it throws when the parameter is
missing or is not what the accessor of the instance gives. -/
def Statement.comparison? (instanceName : String) : Statement → Option (String × String)
  | .ifThen
      (.binary (.binary (.name first) .same .null) .or
        (.binary (.call (.name receiver) accessor []) .notSame (.name second)))
      [.raise _] =>
    if first = second ∧ receiver = instanceName then some (accessor, second) else none
  | _ => none

/-- The accessors and the parameters that a method compares, in their order. The instance is the
first parameter. -/
def Method.comparisons (method : Method) : List (String × String) :=
  match method.parameters with
  | [] => []
  | first :: _ => method.body.filterMap (Statement.comparison? first.name)

/-- A method is a cast of a type by the accessors of the given names: it takes an instance of the
type and, behind it, one parameter for each accessor, with which it is compared. -/
structure Method.IsCast (method : Method) (typeName : String) (cast : String × List String) :
    Prop where
  name : method.name = cast.1
  receiver : ∃ arguments, method.receiverType? = some (typeName ++ "<" ++ arguments ++ ">")
  accessors : method.comparisons.map Prod.fst = cast.2
  witnesses : method.parameters.tail.map (·.name) = method.comparisons.map Prod.snd
  distinct : (method.parameters.map (·.name)).Nodup

/-- The casts that a declaration asks for, each by its name and the names of its accessors: one by
all methods with a token marker in its place, in the order of their names, and one by each of them
if there are at least two. -/
def TypeDeclaration.casts (options : GenerationOptions) (declaration : TypeDeclaration) :
    List (String × List String) :=
  let names := declaration.tokenNames.mergeSort fun a b => a ≤ b
  (options.castName, names) ::
    if 2 ≤ names.length then
      names.map fun name =>
        (options.partialCastPrefix ++ (TokenName.ofAccessor name).upper, [name])
    else []

namespace CastPlan

@[simp] theorem comparison?_refuse (instanceName : String) (witness : WitnessParameter) :
    (refuse instanceName witness).comparison? instanceName =
      some (witness.accessor, witness.name) := by
  simp [refuse, Statement.comparison?]

/-- **A cast compares each accessor with its witness**, one after the other. -/
theorem comparisons_method (options : GenerationOptions) (plan : CastPlan) :
    (plan.method options).comparisons =
      plan.witnesses.map fun witness => (witness.accessor, witness.name) := by
  have hrefuse : Statement.comparison? plan.instanceName ∘ refuse plan.instanceName =
      fun witness => some (witness.accessor, witness.name) :=
    funext (comparison?_refuse plan.instanceName)
  simp only [Method.comparisons, method, List.filterMap_append, List.filterMap_map, hrefuse]
  simp [Statement.comparison?]

/-- The method of a cast has the parameters of the cast. -/
theorem map_name_parameters_method (options : GenerationOptions) (plan : CastPlan) :
    (plan.method options).parameters.map (·.name) = plan.parameterNames := by
  rw [method, parameterNames, List.map_cons, List.map_map]
  rfl

end CastPlan

/-- **The casts of a package are casts by their accessors.** -/
theorem Manifest.isCast_method {manifest : Manifest} {options : GenerationOptions}
    {package : PackageGroup} (hpackage : package ∈ manifest.grouping.packages) {plan : CastPlan}
    (hplan : plan ∈ package.casts options) :
    (plan.method options).IsCast plan.owner.simpleName
      (plan.name, plan.witnesses.map (·.accessor)) where
  name := rfl
  receiver := exists_receiverType hpackage hplan
  accessors := by
    rw [CastPlan.comparisons_method, List.map_map]
    rfl
  witnesses := by
    rw [CastPlan.comparisons_method, CastPlan.method, List.tail_cons, List.map_map, List.map_map]
    rfl
  distinct := by
    obtain ⟨group, -, hplan⟩ := PackageGroup.mem_casts.1 hplan
    rw [CastPlan.map_name_parameters_method]
    exact CastPlan.nodup_parameterNames hplan

/-- The casts of a package that are those of one type. -/
theorem Manifest.filter_casts {manifest : Manifest} (options : GenerationOptions)
    {package : PackageGroup} (hpackage : package ∈ manifest.grouping.packages)
    {group : TypeGroup} (hgroup : group ∈ package.types) :
    (package.casts options).filter (·.owner.simpleName == group.owner.simpleName) =
      CastPlan.ofGroup options group := by
  have htypes := (mem_packages_groupAccessors.1 hpackage).1 ▸ pairwise_acceptedTypes _
  have hnodup : (package.types.map (·.owner.simpleName)).Nodup :=
    List.pairwise_map.2 (htypes.imp String.ne_of_lt)
  refine filter_flatMap_eq hnodup hgroup (fun plan hplan => ?_) fun other _ hne plan hplan => ?_
  · rw [CastPlan.owner_of_mem_ofGroup hplan]
    exact beq_self_eq_true _
  · rw [CastPlan.owner_of_mem_ofGroup hplan]
    exact beq_false_of_ne hne

namespace Manifest

variable (options : GenerationOptions) {manifest : Manifest} {declaration : TypeDeclaration}

/-- What is reported while collecting is reported. -/
theorem mem_generate_of_mem_collect {diagnostic : Diagnostic}
    (h : diagnostic ∈ manifest.collect.diagnostics) :
    diagnostic ∈ (manifest.generate options).diagnostics :=
  List.mem_append_left _ (List.mem_append_left _ h)

/-- What is reported while grouping is reported. -/
theorem mem_generate_of_mem_grouping {diagnostic : Diagnostic}
    (h : diagnostic ∈ manifest.grouping.diagnostics) :
    diagnostic ∈ (manifest.generate options).diagnostics :=
  List.mem_append_left _ (List.mem_append_right _ h)

/-! ## Outcomes -/

/-- A problem is reported that names the declaration or one of its members, or that says that the
class of the given name clashes with another one. -/
def Reports (manifest : Manifest) (declaration : TypeDeclaration) (className : String) : Prop :=
  ∃ diagnostic ∈ (manifest.generate options).diagnostics,
    diagnostic.element? = some declaration.qualifiedName
    ∨ (∃ member ∈ declaration.members,
      diagnostic.element? = some (declaration.qualifiedName ++ "#" ++ member.name))
    ∨ diagnostic.code = 4002 ∧ diagnostic.element? = some className

/-- The holder of the declaration's package is generated, and originates from the declaration among
others. Its file has one class, whose methods are the casts of the package; those of them that
belong to the declaration are the casts that it asks for. -/
def HasCasts (manifest : Manifest) (declaration : TypeDeclaration) : Prop :=
  ∃ package ∈ manifest.grouping.packages,
    let target := package.target options
    let holder := package.holderClass options
    target ∈ (manifest.generate options).targets
    ∧ target.name = qualify declaration.packageName options.holderName
    ∧ declaration.qualifiedName ∈ target.originating
    ∧ target.contents =
      SourceFile.render options.layout ⟨packageName? declaration.packageName, [], [holder]⟩
    ∧ holder.name = options.holderName
    ∧ holder.methods = (package.casts options).map (·.method options)
    ∧ List.Forall₂ (fun plan cast => (plan.method options).IsCast declaration.name cast)
      ((package.casts options).filter (·.owner.simpleName == declaration.name))
      (declaration.casts options)

/-- The container of the given class name is generated, from the declaration alone. Its file has one
class, with the methods of a container. -/
def HasContainer (manifest : Manifest) (declaration : TypeDeclaration) (className : String) :
    Prop :=
  ∃ container, declaration.container className = .ok container ∧
    let target := container.target options
    let definition := container.classDefinition options
    target ∈ (manifest.generate options).targets
    ∧ target.name = qualify declaration.packageName className
    ∧ target.originating = [declaration.qualifiedName]
    ∧ target.contents = SourceFile.render options.layout
      ⟨packageName? declaration.packageName, ["java.util.IdentityHashMap", "java.util.Map"],
        [definition]⟩
    ∧ definition.name = className
    ∧ definition.methods.map (·.name) = ["put", "get"]

/-- A problem of a used declaration or of one of its members is reported. -/
theorem reports_of_collect (hused : declaration ∈ manifest.used) {diagnostic : Diagnostic}
    (hmem : diagnostic ∈ declaration.collect.diagnostics)
    (helement : diagnostic.element? = some declaration.qualifiedName
      ∨ ∃ member ∈ declaration.members,
        diagnostic.element? = some (declaration.qualifiedName ++ "#" ++ member.name))
    (className : String) : manifest.Reports options declaration className :=
  ⟨diagnostic, mem_generate_of_mem_collect options (mem_diagnostics_collectFrom hused hmem),
    helement.imp_right .inl⟩

/-- A declaration that is not used is reported. -/
theorem used_or_reports (h : declaration ∈ manifest.types) (className : String) :
    declaration ∈ manifest.used ∨ manifest.Reports options declaration className :=
  (mem_used_or_duplicate h).imp_right fun hduplicate =>
    ⟨_, mem_generate_of_mem_collect options hduplicate, .inl (Problem.diagnostic_element _ _)⟩

/-- A rejected declaration is reported. -/
theorem reports_of_rejected (hused : declaration ∈ manifest.used)
    (h : declaration.collect.rejected ≠ []) (className : String) :
    manifest.Reports options declaration className := by
  obtain ⟨name, hname⟩ := List.exists_mem_of_ne_nil _ h
  obtain ⟨-, diagnostic, hmem, helement⟩ := TypeDeclaration.exists_element_of_mem_rejected hname
  exact reports_of_collect options hused hmem helement className

/-- The accessors of a declaration in the order of their names, by their names. -/
theorem map_name_sorted_accessors (h : declaration.collect.rejected = []) :
    (declaration.collect.accessors.mergeSort fun a b => a.name ≤ b.name).map (·.name) =
      declaration.tokenNames.mergeSort fun a b => a ≤ b := by
  rw [← TypeDeclaration.names_accessors_collect h]
  exact List.map_mergeSort fun _ _ _ _ => rfl

/-- **The casts of a declaration are those that it asks for**, when its group has its accessors in
the order of their names. -/
theorem forall₂_isCast {package : PackageGroup} {group : TypeGroup}
    (hpackage : package ∈ manifest.grouping.packages) (hgroup : group ∈ package.types)
    (howner : group.owner = declaration.owner)
    (hnames : group.accessors.map (·.name) = declaration.tokenNames.mergeSort fun a b => a ≤ b) :
    List.Forall₂ (fun plan cast => (plan.method options).IsCast declaration.name cast)
      ((package.casts options).filter (·.owner.simpleName == declaration.name))
      (declaration.casts options) := by
  have hcasts : declaration.casts options =
      (CastPlan.ofGroup options group).map fun plan =>
        (plan.name, plan.witnesses.map (·.accessor)) := by
    rw [CastPlan.map_name_accessors_ofGroup, TypeDeclaration.casts, ← hnames, List.length_map,
      List.map_map]
    rfl
  have hown := filter_casts options hpackage hgroup
  rw [howner, TypeDeclaration.simpleName_owner] at hown
  rw [hown, hcasts, List.forall₂_map_right_iff, List.forall₂_same]
  intro plan hplan
  have hname : plan.owner.simpleName = declaration.name := by
    rw [CastPlan.owner_of_mem_ofGroup hplan, howner, TypeDeclaration.simpleName_owner]
  exact hname ▸ isCast_method hpackage (PackageGroup.mem_casts.2 ⟨group, hgroup, hplan⟩)

/-- A group with the accessors of a declaration gives casts or a clash. -/
theorem hasCasts_or_clash {package : PackageGroup} {group : TypeGroup}
    (hpackage : package ∈ manifest.grouping.packages)
    (hname : package.packageName = declaration.packageName) (hgroup : group ∈ package.types)
    (howner : group.owner = declaration.owner)
    (hnames : group.accessors.map (·.name) = declaration.tokenNames.mergeSort fun a b => a ≤ b) :
    manifest.HasCasts options declaration
    ∨ manifest.Reports options declaration
      (qualify declaration.packageName options.holderName) := by
  have htarget : (package.target options).name =
      qualify declaration.packageName options.holderName := by
    rw [← hname]
    rfl
  have hcandidate : package.target options ∈ manifest.candidates options :=
    List.mem_append_left _ (List.mem_map_of_mem hpackage)
  -- the holder is kept as a whole, or it clashes and the clash names it
  rcases mem_targets_or_clash options hcandidate with hkept | ⟨diagnostic, hmem, hcode, helement⟩
  · refine .inl ⟨package, hpackage, hkept, htarget, ?_, ?_, rfl,
      package.methods_holderClass options, forall₂_isCast options hpackage hgroup howner hnames⟩
    · have hmem : group.owner.qualifiedName ∈ (package.target options).originating :=
        List.mem_map_of_mem hgroup
      rwa [howner] at hmem
    · rw [← hname]
      rfl
  · exact .inr ⟨diagnostic, hmem, .inr (.inr ⟨hcode, htarget ▸ helement⟩)⟩

/-- **What becomes of token markers in their place.** -/
theorem hasCasts_or_reports (h : declaration ∈ manifest.types)
    (hnames : declaration.tokenNames ≠ []) :
    manifest.HasCasts options declaration
    ∨ manifest.Reports options declaration
      (qualify declaration.packageName options.holderName) := by
  cases used_or_reports options h (qualify declaration.packageName options.holderName) with
  | inr hreports => exact .inr hreports
  | inl hused =>
    by_cases hrejected : declaration.collect.rejected = []
    · have hall := TypeDeclaration.names_accessors_collect hrejected
      have haccessors : declaration.collect.accessors ≠ [] := by
        intro hnil
        rw [hnil] at hall
        exact hnames hall.symm
      rcases exists_group_or_diagnostic hused hrejected haccessors with
        ⟨package, hpackage, hname, group, hgroup, howner, hsorted⟩
        | ⟨diagnostic, hmem, accessor, haccessor, helement⟩
      · refine hasCasts_or_clash options hpackage hname hgroup howner ?_
        rw [hsorted, map_name_sorted_accessors hrejected]
      · obtain ⟨-, member, hmember, returnType, -, rfl⟩ :=
          TypeDeclaration.mem_accessors_collect haccessor
        exact .inr ⟨diagnostic, mem_generate_of_mem_grouping options hmem,
          .inr (.inl ⟨member, hmember, helement⟩)⟩
    · exact .inr (reports_of_rejected options hused hrejected _)

/-- **What becomes of container markers in their place.** -/
theorem hasContainer_or_reports (h : declaration ∈ manifest.types) {className : String}
    (hmarker : .container className ∈ declaration.markers) :
    manifest.HasContainer options declaration className
    ∨ manifest.Reports options declaration (qualify declaration.packageName className) := by
  cases used_or_reports options h (qualify declaration.packageName className) with
  | inr hreports => exact .inr hreports
  | inl hused =>
    by_cases hbounds : declaration.boundProblems = []
    · cases hcontainer : declaration.container className with
      | error problem =>
        obtain ⟨diagnostic, hmem, helement⟩ :=
          TypeDeclaration.exists_element_of_container hbounds hmarker hcontainer
        exact .inr (reports_of_collect options hused hmem (.inl helement) _)
      | ok container =>
        obtain ⟨-, hname, howner⟩ := TypeDeclaration.isValidIdentifier_of_container hcontainer
        have htarget : (container.target options).name =
            qualify declaration.packageName className := by
          rw [← hname, ← TypeDeclaration.packageName_owner, ← howner]
          rfl
        have hcollected : container ∈ manifest.collect.containers := by
          rw [manifest.collect_items.2.1, List.mem_flatMap]
          exact ⟨declaration, hused,
            TypeDeclaration.mem_containers_collect.2 ⟨hbounds, className, hmarker, hcontainer⟩⟩
        have hcandidate : container.target options ∈ manifest.candidates options :=
          List.mem_append_right _ (List.mem_map_of_mem hcollected)
        rcases mem_targets_or_clash options hcandidate with
          hkept | ⟨diagnostic, hmem, hcode, helement⟩
        · refine .inl ⟨container, hcontainer, hkept, htarget, ?_, ?_, hname, rfl⟩
          · rw [← TypeDeclaration.qualifiedName_owner, ← howner]
            rfl
          · rw [← TypeDeclaration.packageName_owner, ← howner]
            rfl
        · exact .inr ⟨diagnostic, hmem, .inr (.inr ⟨hcode, htarget ▸ helement⟩)⟩
    · refine .inr (reports_of_rejected options hused (fun hnil => ?_) _)
      rw [TypeDeclaration.collect_of_unreadable hbounds] at hnil
      cases hnil

/-! ## Manifests without clashes -/

/-- Where no type fails, grouping reports nothing. -/
theorem diagnostics_grouping_eq_nil
    (h : ∀ declaration ∈ manifest.used, failures (typeAccessors declaration.packageName
      declaration.name manifest.collect.accessors manifest.collect.rejected) = []) :
    manifest.grouping.diagnostics = [] := by
  have hperm := @diagnostics_perm_failures manifest manifest.collect.rejected
  rw [List.flatMap_eq_nil_iff.2 h] at hperm
  exact List.perm_nil.1 hperm

/-- Candidates have different names where containers have, of which none is that of holders. -/
theorem nodup_candidate_names (hholder : isValidIdentifier options.holderName = true)
    (hnodup : (manifest.collect.containers.map (·.qualifiedClassName)).Nodup)
    (hne : ∀ container ∈ manifest.collect.containers, container.className ≠ options.holderName) :
    ((manifest.candidates options).map (·.name)).Nodup := by
  have hdot := dot_not_mem_of_isValidIdentifier hholder
  rw [candidates, List.map_append, List.map_map, List.map_map, List.nodup_append]
  refine ⟨?_, hnodup, ?_⟩
  · refine List.pairwise_map.2 ((pairwise_packages_groupAccessors _ _).imp fun hlt heq => ?_)
    exact String.ne_of_lt hlt ((qualify_inj hdot hdot).1 heq).1
  · rintro name hpackage _ hcontainer rfl
    obtain ⟨package, -, hname⟩ := List.mem_map.1 hpackage
    obtain ⟨container, hmem, hname'⟩ := List.mem_map.1 hcontainer
    have hvalid := isValidIdentifier_of_mem_containers hmem
    exact hne container hmem
      ((qualify_inj (dot_not_mem_of_isValidIdentifier hvalid) hdot).1 (hname'.trans hname.symm)).2

/-- Where no type fails and nothing clashes, everything that is reported is reported while
collecting. -/
theorem diagnostics_generate_eq_collect (hgrouping : manifest.grouping.diagnostics = [])
    (hnames : ((manifest.candidates options).map (·.name)).Nodup) :
    (manifest.generate options).diagnostics = manifest.collect.diagnostics := by
  have hkeeps := @keepsLeast_generate options manifest
  have hlength := hkeeps.length_eq
  rw [(hkeeps.perm_of_nodup hnames).length_eq, Nat.add_eq_right, List.length_eq_zero_iff,
    clashes_generate] at hlength
  rw [generate_eq, hgrouping, List.append_nil]
  exact (congrArg _ hlength).trans (List.append_nil _)

/-! ## Markers in wrong places -/

/-- **What becomes of all other markers.** The problems of markers in wrong places are those of the
used declarations whose bounds can be read, one for each marker. -/
theorem filter_diagnostics_generate (manifest : Manifest) :
    (manifest.generate options).diagnostics.filter (·.code == 2001) =
      (manifest.used.filter (·.BoundsParse)).flatMap (·.misplaced) := by
  have hgrouping : manifest.grouping.diagnostics.filter (·.code == 2001) = [] :=
    filter_code_eq_nil (fun _ hmem => code_of_mem_grouping hmem) (by decide)
  have hclashes : ∀ targets,
      (dropClashes none targets).diagnostics.filter (·.code == 2001) = [] := fun targets =>
    filter_code_eq_nil (fun _ hmem => List.mem_singleton.2 (code_of_mem_dropClashes hmem))
      (by decide)
  rw [generate_eq]
  simp only [List.filter_append, hgrouping, hclashes, List.append_nil]
  rw [collect, filter_diagnostics_collectFrom (fun name => by simp [Problem.code]), ← used]
  simp only [TypeDeclaration.misplaced_collect]
  -- what is left is to drop, one by one, the declarations with a bound that cannot be read
  induction manifest.used with
  | nil => rfl
  | cons first others ih =>
    rw [List.flatMap_cons, ih, List.filter_cons]
    by_cases hbounds : first.BoundsParse
    · rw [if_pos hbounds, if_pos (decide_eq_true hbounds), List.flatMap_cons]
    · rw [if_neg hbounds, if_neg (by simpa using hbounds), List.nil_append]

/-- The problems of a single declaration are among them. -/
theorem misplaced_sublist (hused : declaration ∈ manifest.used)
    (hbounds : declaration.BoundsParse) :
    declaration.misplaced.Sublist
      ((manifest.generate options).diagnostics.filter (·.code == 2001)) := by
  rw [filter_diagnostics_generate, List.flatMap]
  refine List.sublist_flatten_of_mem (List.mem_map_of_mem ?_)
  exact List.mem_filter.2 ⟨hused, decide_eq_true hbounds⟩

/-- **Every marker is accounted for.** A token marker on a method without parameters shows up as a
witness of the casts of its declaration, and a container marker as a container, unless a problem is
reported that tells why not. Of the declarations with one name the least is used; when its bounds
can be read, each of its other markers has a problem of its own. No other markers have such a
problem. -/
theorem markers_accounted (manifest : Manifest) :
    (∀ declaration ∈ manifest.types,
      (∀ member ∈ declaration.members, Marker.typeToken ∈ member.markers →
        member.kind = .method → member.parameters = [] →
          manifest.HasCasts options declaration
          ∨ manifest.Reports options declaration
            (qualify declaration.packageName options.holderName))
      ∧ (∀ className, Marker.container className ∈ declaration.markers →
          manifest.HasContainer options declaration className
          ∨ manifest.Reports options declaration (qualify declaration.packageName className))
      ∧ ((∀ other ∈ manifest.types, other.qualifiedName = declaration.qualifiedName →
          compare other declaration ≠ .lt) → declaration.BoundsParse →
          declaration.misplaced.Sublist
            ((manifest.generate options).diagnostics.filter (·.code == 2001))))
    ∧ (manifest.generate options).diagnostics.filter (·.code == 2001) =
      (manifest.used.filter (·.BoundsParse)).flatMap (·.misplaced) := by
  refine ⟨fun declaration hmem => ⟨?_, ?_, ?_⟩, filter_diagnostics_generate options manifest⟩
  · intro member hmember hmarker hkind hparameters
    refine hasCasts_or_reports options hmem ?_
    have hcarries : member.carries .typeToken = true := by
      rw [MemberDeclaration.carries, hkind, hparameters]
      rfl
    have hname : member.name ∈ declaration.tokenNames :=
      List.mem_flatMap.2 ⟨member, hmember,
        List.mem_map.2 ⟨.typeToken, List.mem_filter.2 ⟨hmarker, hcarries⟩, rfl⟩⟩
    exact List.ne_nil_of_mem hname
  · intro className hmarker
    exact hasContainer_or_reports options hmem hmarker
  · intro hleast hbounds
    exact misplaced_sublist options (mem_used_iff.2 ⟨hmem, hleast⟩) hbounds

/-- A pair, with a token for each of its types, that also asks for a container. -/
def pairDeclaration : TypeDeclaration where
  name := "Pair"
  packageName := "model"
  visibility := .everywhere
  typeParameters := [⟨"A", []⟩, ⟨"B", []⟩]
  superclass? := some "Map<A, B>"
  markers := [.container "PairMap"]
  members := [
    ⟨"getFirst", .method, some "Token<A>", [], [], [.typeToken]⟩,
    ⟨"getSecond", .method, some "Token<B>", [], [], [.typeToken]⟩]

/-- A type with a token accessor whose return type cannot be read. -/
def unreadableDeclaration : TypeDeclaration :=
  { pairDeclaration with
    name := "Unreadable"
    markers := []
    members := [⟨"getFirst", .method, some "Token<A", [], [], [.typeToken]⟩] }

/-- A manifest with a type whose markers are all in their places, one with two misplaced markers,
and one that is rejected. -/
def mixedManifest : Manifest := ⟨[pairDeclaration, relationDeclaration, unreadableDeclaration]⟩

/-- What is reported of the manifest is about these. -/
def mixedElements : List (Option String) :=
  [some "model.Relation", some "model.Relation#getRight", some "model.Unreadable#getFirst"]

theorem element_of_mem_mixedManifest {diagnostic : Diagnostic}
    (h : diagnostic ∈ (mixedManifest.generate .standard).diagnostics) :
    diagnostic.code ≠ 4002 ∧ diagnostic.element? ∈ mixedElements := by
  have hgrouping : mixedManifest.grouping.diagnostics = [] := by
    refine diagnostics_grouping_eq_nil fun declaration hused => ?_
    have hsorted : ∀ declaration ∈ mixedManifest.types, declaration.collect.rejected = [] →
        declaration.collect.accessors.Pairwise (fun a b => decide (a.name ≤ b.name))
        ∧ failures declaration.collect.accessors = [] := by decide +kernel
    have hrejected : ∀ declaration ∈ mixedManifest.types, declaration.collect.rejected ≠ [] →
        failures (typeAccessors declaration.packageName declaration.name
          mixedManifest.collect.accessors mixedManifest.collect.rejected) = [] := by decide +kernel
    have hmem := (mem_used_iff.1 hused).1
    by_cases hnil : declaration.collect.rejected = []
    · obtain ⟨hpairwise, hfailures⟩ := hsorted declaration hmem hnil
      rwa [typeAccessors_eq hused hnil, List.mergeSort_of_pairwise hpairwise]
    · exact hrejected declaration hmem hnil
  have hnames : ((mixedManifest.candidates .standard).map (·.name)).Nodup :=
    nodup_candidate_names .standard (by decide +kernel) (by decide +kernel) (by decide +kernel)
  rw [diagnostics_generate_eq_collect .standard hgrouping hnames] at h
  have hall : ∀ diagnostic ∈ mixedManifest.collect.diagnostics,
      diagnostic.code ≠ 4002 ∧ diagnostic.element? ∈ mixedElements := by decide +kernel
  exact hall diagnostic h

/-- The markers of the pair show up, the one on the accessor that cannot be read is reported, and so
are the two of the relation that are misplaced. -/
theorem markers_accounted_mixed :
    mixedManifest.HasCasts .standard pairDeclaration
    ∧ pairDeclaration.casts .standard = [("cast", ["getFirst", "getSecond"]),
      ("castByFirst", ["getFirst"]), ("castBySecond", ["getSecond"])]
    ∧ mixedManifest.HasContainer .standard pairDeclaration "PairMap"
    ∧ mixedManifest.Reports .standard unreadableDeclaration (qualify "model" "SafeCast")
    ∧ ¬ mixedManifest.HasCasts .standard unreadableDeclaration
    ∧ relationDeclaration.misplaced.length = 2
    ∧ relationDeclaration.misplaced.Sublist
      ((mixedManifest.generate .standard).diagnostics.filter (·.code == 2001)) := by
  have haccounted := (markers_accounted .standard mixedManifest).1
  obtain ⟨htokens, hcontainers, -⟩ := haccounted pairDeclaration List.mem_cons_self
  obtain ⟨hunreadable, -, -⟩ :=
    haccounted unreadableDeclaration (by simp [mixedManifest])
  obtain ⟨-, -, hothers⟩ := haccounted relationDeclaration (by simp [mixedManifest])
  -- nothing is reported of the pair
  have hreports : ∀ className, ¬ mixedManifest.Reports .standard pairDeclaration className := by
    rintro className ⟨diagnostic, hmem, hnamed⟩
    obtain ⟨hcode, helement⟩ := element_of_mem_mixedManifest hmem
    have htype : some pairDeclaration.qualifiedName ∉ mixedElements := by decide +kernel
    have hmembers : ∀ member ∈ pairDeclaration.members,
        some (pairDeclaration.qualifiedName ++ "#" ++ member.name) ∉ mixedElements := by
      decide +kernel
    rcases hnamed with hnamed | ⟨member, hmember, hnamed⟩ | ⟨hnamed, -⟩
    · exact htype (hnamed ▸ helement)
    · exact hmembers member hmember (hnamed ▸ helement)
    · exact hcode hnamed
  have hlost : ¬ mixedManifest.HasCasts .standard unreadableDeclaration := by
    rintro ⟨package, hpackage, -, -, horiginating, -⟩
    obtain ⟨group, hgroup, hname⟩ := List.mem_map.1 horiginating
    obtain ⟨declaration, hused, -, howner, hsorted, hne, -⟩ :=
      exists_declaration_of_group hpackage hgroup
    have hnone : ∀ declaration ∈ mixedManifest.types,
        declaration.owner.qualifiedName = unreadableDeclaration.qualifiedName →
          declaration.collect.accessors = [] := by decide +kernel
    rw [howner] at hname
    rw [hsorted, hnone declaration (mem_used_iff.1 hused).1 hname] at hne
    exact hne List.mergeSort_nil
  have hleast : ∀ other ∈ mixedManifest.types,
      other.qualifiedName = relationDeclaration.qualifiedName →
        compare other relationDeclaration ≠ .lt := by decide +kernel
  have hsorted : pairDeclaration.tokenNames.mergeSort (fun a b => a ≤ b) =
      ["getFirst", "getSecond"] := List.mergeSort_of_pairwise (by decide +kernel)
  refine ⟨?_, ?_, ?_, ?_, hlost, by decide +kernel, hothers hleast (by decide +kernel)⟩
  · exact (htokens _ List.mem_cons_self List.mem_cons_self rfl rfl).resolve_right (hreports _)
  · rw [TypeDeclaration.casts, hsorted]
    decide +kernel
  · exact (hcontainers "PairMap" List.mem_cons_self).resolve_right (hreports _)
  · exact (hunreadable _ List.mem_cons_self List.mem_cons_self rfl rfl).resolve_left hlost

end Manifest

end TypeWitness
