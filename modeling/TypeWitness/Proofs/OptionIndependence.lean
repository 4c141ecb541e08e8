import TypeWitness.Proofs.GroupsByType
import TypeWitness.Proofs.OrderIndependence
import TypeWitness.Proofs.PrintedLines

/-! # Options do not choose what is generated
Targets are sorted by their contents last, and contents depend on how signatures and lines are to
look. But two targets get that far only when they have the same name and come from the same
declarations. Then they are the same, or one is a holder and the other a container: and these two
files differ in the first character after the package, before any option matters.

* `compare_contents_holder_container` — a holder and a container of one package.
* `TargetOrigin`, `Manifest.origins` — what targets are generated from.
* `Manifest.order_target` — targets are in the same order for all options.
* `dropClashes_map` — clashes are resolved alike.
* `Manifest.generate_of_sameHolder` — the same is generated for all options with one holder name. -/

namespace TypeWitness

/-! ## How a file begins -/

/-- Texts that differ after a common beginning are in the order of the characters there. -/
theorem compare_of_beginning {a b : String} {common rest rest' : List Char} {c d : Char}
    (ha : a.toList = common ++ c :: rest) (hb : b.toList = common ++ d :: rest') (hcd : c < d) :
    compare a b = .lt := by
  apply compareOfLessAndEq_eq_lt.2
  rw [String.lt_iff, ha, hb]
  apply List.append_left_lt
  exact List.cons_lt_cons_iff.2 (.inl hcd)

/-- The lines before everything else in a file of the given package. -/
def packageLines (packageName : String) : List Line :=
  match packageName? packageName with
  | some name => [⟨0, "package " ++ name ++ ";"⟩, Line.blank]
  | none => []

/-- The text before everything else in a file of the given package. -/
def packageText (layout : Layout) (packageName : String) : List Char :=
  (packageLines packageName).flatMap fun line => (line.render layout).toList

theorem lines_of_package {file : SourceFile} {packageName : String}
    (h : file.packageName? = packageName? packageName) :
    file.lines = packageLines packageName
      ++ ((if file.imports.isEmpty then []
          else (sortedNames file.imports).map (fun name => ⟨0, "import " ++ name ++ ";"⟩)
            ++ [Line.blank])
        ++ [Line.blank].intercalate (file.classes.map (·.lines 0))) := by
  rw [SourceFile.lines, h, packageLines]
  cases packageName? packageName with
  | none => rfl
  | some name => rfl

/-- What follows the package begins as the line does that follows it. -/
theorem SourceFile.exists_rest_of_lines {file : SourceFile} {packageName : String} {first : Line}
    {lines : List Line} (hlines : file.lines = packageLines packageName ++ first :: lines)
    (hdepth : first.depth = 0) {c : Char} {cs : List Char} (htext : first.text.toList = c :: cs)
    (layout : Layout) :
    ∃ rest, (file.render layout).toList = packageText layout packageName ++ c :: rest := by
  have hfirst : (first.render layout).toList = c :: (cs ++ layout.newLine.text.toList) := by
    rw [Line.render, hdepth, Nat.zero_mul]
    simp [htext]
  rw [SourceFile.render_eq, String.toList_join, hlines, List.flatMap_map, List.flatMap_append,
    List.flatMap_cons, hfirst]
  exact ⟨_, rfl⟩

/-- **A holder's file begins with its modifiers**, after the package. -/
theorem PackageGroup.exists_rest_of_holderFile (options : GenerationOptions)
    (group : PackageGroup) :
    ∃ rest, ((group.holderFile options).render options.layout).toList =
      packageText options.layout group.packageName
        ++ (if group.hasPublicType then 'p' else 'f') :: rest := by
  have hmodifiers : ∃ cs, (renderModifiers (group.holderClass options).modifiers).toList =
      (if group.hasPublicType then 'p' else 'f') :: cs := by
    have hclass : (group.holderClass options).modifiers =
        (if group.hasPublicType then [.publicAccess] else []) ++ [.final] := rfl
    rw [hclass]
    cases group.hasPublicType with
    | false => exact ⟨"inal ".toList, by decide⟩
    | true => exact ⟨"ublic final ".toList, by decide⟩
  obtain ⟨cs, hmodifiers⟩ := hmodifiers
  have hlines : (group.holderFile options).lines =
      packageLines group.packageName
        ++ ⟨0, renderModifiers (group.holderClass options).modifiers ++ "class "
          ++ (group.holderClass options).name ++ " \x7b"⟩
        :: ([Line.blank].intercalate ((group.holderClass options).members.map
            (·.lines (group.holderClass options).name 1)) ++ [⟨0, "\x7d"⟩]) := by
    rw [lines_of_package (show _ = packageName? group.packageName from rfl)]
    simp [holderFile, ClassDefinition.lines]
  have hfirst : (renderModifiers (group.holderClass options).modifiers ++ "class "
      ++ (group.holderClass options).name ++ " \x7b").toList =
      (if group.hasPublicType then 'p' else 'f')
        :: (cs ++ ("class ".toList
          ++ ((group.holderClass options).name.toList ++ " \x7b".toList))) := by
    simp [hmodifiers]
  exact SourceFile.exists_rest_of_lines hlines rfl hfirst options.layout

/-- **A container's file begins with its imports**, after the package. -/
theorem ContainerDeclaration.exists_rest_of_file (options : GenerationOptions)
    (container : ContainerDeclaration) :
    ∃ rest, ((container.file options).render options.layout).toList =
      packageText options.layout container.declaringType.packageName ++ 'i' :: rest := by
  have himport : "java.util.Map" ∈ sortedNames (container.file options).imports := by
    rw [mem_sortedNames]
    simp [file]
  obtain ⟨name, names, himports⟩ := List.exists_cons_of_ne_nil (List.ne_nil_of_mem himport)
  have hlines : (container.file options).lines =
      packageLines container.declaringType.packageName
        ++ ⟨0, "import " ++ name ++ ";"⟩
        :: (names.map (fun name => ⟨0, "import " ++ name ++ ";"⟩)
          ++ Line.blank :: (container.classDefinition options).lines 0) := by
    have hsome : (container.file options).imports.isEmpty = false := rfl
    rw [lines_of_package (show _ = packageName? container.declaringType.packageName from rfl),
      himports, hsome]
    simp [file]
  have hfirst : ("import " ++ name ++ ";").toList =
      'i' :: ("mport ".toList ++ (name.toList ++ ";".toList)) := by
    simp
  exact SourceFile.exists_rest_of_lines hlines rfl hfirst options.layout

/-- **A holder and a container of one package differ in their first letters**, which no option
changes. -/
theorem compare_contents_holder_container (options : GenerationOptions) {group : PackageGroup}
    {container : ContainerDeclaration}
    (hpackage : group.packageName = container.declaringType.packageName) :
    compare (group.target options).contents (container.target options).contents =
      if group.hasPublicType then .gt else .lt := by
  obtain ⟨rest, hholder⟩ := group.exists_rest_of_holderFile options
  obtain ⟨rest', hcontainer⟩ := container.exists_rest_of_file options
  rw [hpackage] at hholder
  have hcompare : ∀ a b : String, compare b a = .lt → compare a b = .gt := by
    intro a b h
    rw [Std.OrientedOrd.eq_swap, h]
    rfl
  split at hholder
  · next hpublic =>
    rw [if_pos hpublic]
    apply hcompare
    exact compare_of_beginning hcontainer hholder (by decide)
  · next hpublic =>
    rw [if_neg hpublic]
    exact compare_of_beginning hholder hcontainer (by decide)

/-! ## Where targets come from -/

/-- What a target is generated from: a package or a container declaration. -/
inductive TargetOrigin where
  | holder (group : PackageGroup)
  | container (declaration : ContainerDeclaration)

namespace TargetOrigin

/-- The target that is generated. -/
def target (options : GenerationOptions) : TargetOrigin → OutputTarget
  | holder group => group.target options
  | container declaration => declaration.target options

variable {options options' : GenerationOptions}

/-- Options with the same holder name give a target the same name, path and declarations. -/
theorem target_congr (hsame : options.holderName = options'.holderName) (origin : TargetOrigin) :
    (origin.target options).name = (origin.target options').name
    ∧ (origin.target options).path = (origin.target options').path
    ∧ (origin.target options).originating = (origin.target options').originating := by
  cases origin with
  | holder group => simp [target, PackageGroup.target, hsame]
  | container declaration => exact ⟨rfl, rfl, rfl⟩

end TargetOrigin

/-- Whatever targets are generated from. -/
def Manifest.origins (manifest : Manifest) : List TargetOrigin :=
  manifest.grouping.packages.map .holder ++ manifest.collect.containers.map .container

theorem Manifest.candidates_eq (options : GenerationOptions) (manifest : Manifest) :
    manifest.candidates options = manifest.origins.map (·.target options) := by
  rw [candidates, origins, List.map_append, List.map_map, List.map_map]
  rfl

/-! ## Targets that tie -/

/-- What is compared second counts only when the first comparison is a tie. -/
theorem then_congr {first second second' : Ordering} (h : first = .eq → second = second') :
    first.then second = first.then second' := by
  cases first with
  | eq => exact h rfl
  | lt => rfl
  | gt => rfl

namespace Manifest

variable {manifest : Manifest} {options options' : GenerationOptions}

/-- A package has one holder. -/
theorem eq_of_packageName_eq {a b : PackageGroup} (ha : a ∈ manifest.grouping.packages)
    (hb : b ∈ manifest.grouping.packages) (hname : a.packageName = b.packageName) : a = b := by
  have ha := (mem_packages_groupAccessors.1 ha).1
  have hb := (mem_packages_groupAccessors.1 hb).1
  rw [hname, ← hb] at ha
  cases a
  cases b
  cases hname
  cases ha
  rfl

/-- A declaration asks for one container of each name. -/
theorem eq_of_container_names {a b : ContainerDeclaration} (ha : a ∈ manifest.collect.containers)
    (hb : b ∈ manifest.collect.containers)
    (horiginating : a.declaringType.qualifiedName = b.declaringType.qualifiedName)
    (hname : a.qualifiedClassName = b.qualifiedClassName) : a = b := by
  have hdot := dot_not_mem_of_isValidIdentifier (isValidIdentifier_of_mem_containers ha)
  have hdot' := dot_not_mem_of_isValidIdentifier (isValidIdentifier_of_mem_containers hb)
  have hclass : a.className = b.className := ((qualify_inj hdot hdot').1 hname).2
  rw [manifest.collect_items.2.1, List.mem_flatMap] at ha hb
  obtain ⟨declaration, hused, ha⟩ := ha
  obtain ⟨declaration', hused', hb⟩ := hb
  rw [TypeDeclaration.declaringType_of_mem_containers ha,
    TypeDeclaration.declaringType_of_mem_containers hb] at horiginating
  obtain rfl := eq_of_mem_used hused hused' horiginating
  -- the declaration and the name of the class tell the container
  obtain ⟨-, className, -, ha⟩ := TypeDeclaration.mem_containers_collect.1 ha
  obtain ⟨-, className', -, hb⟩ := TypeDeclaration.mem_containers_collect.1 hb
  have haname := (TypeDeclaration.isValidIdentifier_of_container ha).2.1
  have hbname := (TypeDeclaration.isValidIdentifier_of_container hb).2.1
  rw [← haname, hclass, hbname, hb] at ha
  cases ha
  rfl

/-- **The contents of targets that tie up to them compare alike for all options.** -/
theorem compare_contents_target (hholder : isValidIdentifier options.holderName = true)
    {a b : TargetOrigin} (ha : a ∈ manifest.origins) (hb : b ∈ manifest.origins)
    (hname : (a.target options).name = (b.target options).name)
    (horiginating : (a.target options).originating = (b.target options).originating) :
    compare (a.target options).contents (b.target options).contents =
      compare (a.target options').contents (b.target options').contents := by
  have hdot := dot_not_mem_of_isValidIdentifier hholder
  have hself : a = b → compare (a.target options).contents (b.target options).contents =
      compare (a.target options').contents (b.target options').contents := by
    rintro rfl
    rw [Std.ReflOrd.compare_self, Std.ReflOrd.compare_self]
  simp only [origins, List.mem_append, List.mem_map] at ha hb
  obtain ⟨group, hgroup, rfl⟩ | ⟨container, hcontainer, rfl⟩ := ha <;>
    obtain ⟨group', hgroup', rfl⟩ | ⟨container', hcontainer', rfl⟩ := hb
  · -- two holders of one package are the same
    have hpackage := ((qualify_inj hdot hdot).1 hname).1
    exact hself (congrArg TargetOrigin.holder (eq_of_packageName_eq hgroup hgroup' hpackage))
  · have hdot' := dot_not_mem_of_isValidIdentifier
      (isValidIdentifier_of_mem_containers hcontainer')
    have hpackage := ((qualify_inj hdot hdot').1 hname).1
    simp only [TargetOrigin.target]
    rw [compare_contents_holder_container options hpackage,
      compare_contents_holder_container options' hpackage]
  · have hdot' := dot_not_mem_of_isValidIdentifier
      (isValidIdentifier_of_mem_containers hcontainer)
    have hpackage := ((qualify_inj hdot hdot').1 hname.symm).1
    simp only [TargetOrigin.target]
    rw [Std.OrientedOrd.eq_swap, compare_contents_holder_container options hpackage,
      ← compare_contents_holder_container options' hpackage, ← Std.OrientedOrd.eq_swap]
  · -- two containers of one name from one declaration are the same
    have hdeclared : container.declaringType.qualifiedName =
        container'.declaringType.qualifiedName := List.head_eq_of_cons_eq horiginating
    exact hself (congrArg TargetOrigin.container
      (eq_of_container_names hcontainer hcontainer' hdeclared hname))

/-- **Targets are in the same order for all options** with one holder name. -/
theorem order_target (hholder : isValidIdentifier options.holderName = true)
    (hsame : options.holderName = options'.holderName) {a b : TargetOrigin}
    (ha : a ∈ manifest.origins) (hb : b ∈ manifest.origins) :
    (a.target options).order (b.target options) =
      (a.target options').order (b.target options') := by
  obtain ⟨hname, -, horiginating⟩ := a.target_congr hsame
  obtain ⟨hname', -, horiginating'⟩ := b.target_congr hsame
  have horder : ∀ a b : OutputTarget, a.order b =
      (compare a.name b.name).then
        ((compare a.originating b.originating).then (compare a.contents b.contents)) :=
    fun _ _ => rfl
  rw [horder, horder, ← hname, ← hname', ← horiginating, ← horiginating']
  -- contents count only for targets with the same name from the same declarations
  apply then_congr
  intro hnames
  apply then_congr
  intro hdeclarations
  exact compare_contents_target hholder ha hb (Std.compare_eq_iff_eq.1 hnames)
    (Std.compare_eq_iff_eq.1 hdeclarations)

end Manifest

/-! ## What is kept -/

/-- **Clashes are resolved alike** among targets with the same names that come from the same
declarations. -/
theorem dropClashes_map {α : Type} {f f' : α → OutputTarget} (hname : ∀ a, (f a).name = (f' a).name)
    (horiginating : ∀ a, (f a).originating = (f' a).originating) (winner? : Option α)
    (items : List α) :
    ∃ kept : List α, kept.Sublist items
      ∧ (dropClashes (winner?.map f) (items.map f)).targets = kept.map f
      ∧ (dropClashes (winner?.map f') (items.map f')).targets = kept.map f'
      ∧ (dropClashes (winner?.map f) (items.map f)).diagnostics =
        (dropClashes (winner?.map f') (items.map f')).diagnostics := by
  induction items generalizing winner? with
  | nil => exact ⟨[], .slnil, rfl, rfl, rfl⟩
  | cons item items ih =>
    have hfilter : ∀ g : α → OutputTarget, (winner?.map g).filter (·.name == (g item).name) =
        (winner?.filter fun winner => (g winner).name == (g item).name).map g := by
      intro g
      rw [Option.filter_map]
      rfl
    have hsame : (winner?.filter fun winner => (f' winner).name == (f' item).name) =
        winner?.filter fun winner => (f winner).name == (f item).name := by
      simp only [hname]
    rw [List.map_cons, List.map_cons, dropClashes, dropClashes, hfilter, hfilter, hsame]
    cases winner?.filter fun winner => (f winner).name == (f item).name with
    | some winner =>
      obtain ⟨kept, hsublist, htargets, htargets', hdiagnostics⟩ := ih (some winner)
      refine ⟨kept, hsublist.cons item, htargets, htargets', ?_⟩
      simp only [Option.map_some] at hdiagnostics ⊢
      rw [hdiagnostics, hname, horiginating, horiginating]
    | none =>
      obtain ⟨kept, hsublist, htargets, htargets', hdiagnostics⟩ := ih (some item)
      refine ⟨item :: kept, hsublist.cons_cons item, ?_, ?_, hdiagnostics⟩
      · exact congrArg (f item :: ·) htargets
      · exact congrArg (f' item :: ·) htargets'

/-- **Options do not choose what is generated.** Runs with one holder name, whatever their other
options, generate their targets one by one from the same packages and container declarations, under
the same names, at the same paths and for the same declarations; and they report the same. -/
theorem Manifest.generate_of_sameHolder (manifest : Manifest) {options options' : GenerationOptions}
    (hholder : isValidIdentifier options.holderName = true)
    (hsame : options.holderName = options'.holderName) :
    let generation := manifest.generate options
    let generation' := manifest.generate options'
    generation.targets.length = generation'.targets.length
    ∧ List.Forall₂ (fun target target' =>
        target.name = target'.name ∧ target.path = target'.path
        ∧ target.originating = target'.originating) generation.targets generation'.targets
    ∧ (∃ origins : List TargetOrigin, (∀ origin ∈ origins, origin ∈ manifest.origins)
      ∧ generation.targets = origins.map (·.target options)
      ∧ generation'.targets = origins.map (·.target options'))
    ∧ generation.diagnostics = generation'.diagnostics := by
  intro generation generation'
  have hsort : ∀ chosen : GenerationOptions, options.holderName = chosen.holderName →
      ((manifest.candidates chosen).mergeSort fun a b => (a.order b).isLE) =
        (manifest.origins.mergeSort fun a b =>
          ((a.target options).order (b.target options)).isLE).map (·.target chosen) := by
    intro chosen hchosen
    rw [candidates_eq, List.map_mergeSort]
    intro a ha b hb
    rw [order_target hholder hchosen ha hb]
  obtain ⟨origins, hsublist, htargets, htargets', hdiagnostics⟩ :=
    dropClashes_map (fun origin => (TargetOrigin.target_congr hsame origin).1)
      (fun origin => (TargetOrigin.target_congr hsame origin).2.2) none
      (manifest.origins.mergeSort fun a b => ((a.target options).order (b.target options)).isLE)
  rw [Option.map_none, ← hsort options rfl] at htargets
  rw [Option.map_none, ← hsort options' hsame] at htargets'
  rw [Option.map_none, Option.map_none, ← hsort options rfl, ← hsort options' hsame] at hdiagnostics
  have hgeneration : generation.targets = origins.map (·.target options) := htargets
  have hgeneration' : generation'.targets = origins.map (·.target options') := htargets'
  refine ⟨?_, ?_, ⟨origins, ?_, hgeneration, hgeneration'⟩, ?_⟩
  · rw [hgeneration, hgeneration', List.length_map, List.length_map]
  · rw [hgeneration, hgeneration', List.forall₂_map_left_iff, List.forall₂_map_right_iff,
      List.forall₂_same]
    exact fun origin _ => origin.target_congr hsame
  · intro origin hmem
    exact List.mem_mergeSort.1 (hsublist.subset hmem)
  · exact congrArg (manifest.collect.diagnostics ++ manifest.grouping.diagnostics ++ ·) hdiagnostics

/-- Options that differ from the standard in all but the holder name. -/
def otherOptions : GenerationOptions where
  signatureStyle := .passthrough
  holderName := "SafeCast"
  castName := "narrow"
  partialCastPrefix := "narrowBy"
  suppressUnchecked := false
  layout := ⟨.crlf, 2⟩

theorem Manifest.generate_of_sameHolder_relation :
    let manifest : Manifest := ⟨[relationDeclaration, orderedDeclaration]⟩
    isValidIdentifier GenerationOptions.standard.holderName = true
    ∧ GenerationOptions.standard.holderName = otherOptions.holderName
    ∧ (manifest.generate .standard).targets.map (·.path) =
      (manifest.generate otherOptions).targets.map (·.path)
    ∧ (manifest.generate .standard).diagnostics = (manifest.generate otherOptions).diagnostics := by
  intro manifest
  have hholder : isValidIdentifier GenerationOptions.standard.holderName = true := by
    decide +kernel
  obtain ⟨-, htargets, -, hdiagnostics⟩ :=
    manifest.generate_of_sameHolder hholder (show _ = otherOptions.holderName from rfl)
  refine ⟨hholder, rfl, ?_, hdiagnostics⟩
  rw [← List.forall₂_eq_eq_eq, List.forall₂_map_left_iff, List.forall₂_map_right_iff]
  exact htargets.imp fun _ _ h => h.2.1

end TypeWitness
