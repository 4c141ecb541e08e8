import TypeWitness.Proofs.SettingsLookup

/-! # Snapshots of a configuration
The program prints the configuration that a run goes by, with everything that the command line adds
to it. The printed text is a configuration file of its own: when it is put into the directory that
the run's paths are relative to, a run that names nothing but this directory finds the same
settings.

* `Configuration.resolve_agrees` — settings are found alike in directories with the same components.
* `findSettings_of_printed` — the printed configuration makes the settings of the run. -/

namespace TypeWitness

variable {σ : Type}

/-! ## Agreement -/

/-- Settings agree when they differ in nothing but the spelling of their paths. -/
structure RunSettings.Agrees (settings settings' : RunSettings) : Prop where
  manifest? : settings'.manifest?.map Path.components = settings.manifest?.map Path.components
  outDir? : settings'.outDir?.map Path.components = settings.outDir?.map Path.components
  noEmit : settings'.noEmit = settings.noEmit
  generation : settings'.generation = settings.generation

/-- **Settings are found alike in directories with the same components**, and are invalid alike. -/
theorem Configuration.resolve_agrees (configuration : Configuration) {directory directory' : String}
    (h : ∀ path, Path.components (Path.join directory' path) =
      Path.components (Path.join directory path)) :
    (∀ invalid, configuration.resolve directory = .error invalid →
      configuration.resolve directory' = .error invalid)
    ∧ (∀ settings, configuration.resolve directory = .ok settings →
      ∃ settings', configuration.resolve directory' = .ok settings'
        ∧ settings.Agrees settings') := by
  have hpaths : ∀ path? : Option String,
      (path?.map (Path.join directory')).map Path.components =
        (path?.map (Path.join directory)).map Path.components := by
    intro path?
    rw [Option.map_map, Option.map_map]
    exact congrArg (path?.map ·) (funext h)
  rw [resolve_eq, resolve_eq]
  dsimp only
  cases (configuration.options?.getD .empty).generation with
  | error => exact ⟨fun _ => id, fun _ => nofun⟩
  | ok generation =>
    refine ⟨fun _ => nofun, fun settings hsettings => ⟨_, rfl, ?_⟩⟩
    cases hsettings
    exact ⟨hpaths _, hpaths _, rfl, rfl⟩

/-! ## Naming nothing but a project -/

/-- A command line that names nothing but a project. -/
def Arguments.ofProject (project : String) : Arguments :=
  { Arguments.empty with project? := some project }

/-- A command line that names a project from the root and nothing else. -/
theorem Arguments.ofList_project {project : String} (h : Path.isAbsolute project = true) :
    Arguments.ofList ["-p", project] = .ok (.ofProject project) := by
  obtain ⟨cs, hcs⟩ := List.head?_eq_some_iff.1 (beq_iff_eq.1 h)
  have hne : project.isEmpty = false := by
    rw [String.isEmpty_eq_false_iff]
    rintro rfl
    cases hcs
  have hoption : ArgumentReader.initial.take "-p" =
      .ok ⟨.empty, some ⟨.project, none⟩, false, false⟩ := rfl
  have hvalue : ArgumentReader.take ⟨.empty, some ⟨.project, none⟩, false, false⟩ project =
      .ok ⟨.empty, some ⟨.project, some project⟩, false, false⟩ := by
    simp [ArgumentReader.take, ArgumentReader.takeValue, hcs]
  have hsettle : ArgumentReader.settle ⟨.empty, some ⟨.project, some project⟩, false, false⟩ =
      .ok ⟨.ofProject project, none, false, false⟩ := by
    simp [ArgumentReader.settle, ArgumentReader.store, Setting.isStored, Setting.store, pathValue,
      hne, empty, ofProject]
  rw [Arguments.ofList, List.foldlM_cons, hoption]
  dsimp only [bind, Except.bind]
  rw [List.foldlM_cons, hvalue]
  dsimp only [bind, Except.bind, List.foldlM_nil, pure, Except.pure]
  rw [hsettle]

/-- Naming a project changes nothing in a configuration that a run goes by. -/
theorem Configuration.override_ofProject (base : Configuration) (arguments : Arguments)
    (workingDirectory project other : String) :
    (base.override arguments workingDirectory).override (.ofProject project) other =
      base.override arguments workingDirectory := rfl

theorem Configuration.IsReadable.override {base : Configuration} (h : base.IsReadable)
    (arguments : Arguments) (workingDirectory : String) :
    (base.override arguments workingDirectory).IsReadable := by
  rintro options ⟨⟩ width hwidth
  change width ∈ (base.options?.getD .empty).indentWidth? at hwidth
  cases hoptions : base.options? with
  | none =>
    rw [hoptions] at hwidth
    cases hwidth
  | some options =>
    rw [hoptions] at hwidth
    exact h options hoptions width hwidth

/-! ## The printed configuration -/

/-- A configuration file lies in its directory. -/
theorem exists_parent_configuration {directory : String}
    (h : Path.isAbsolute directory = true) :
    ∃ parent, Path.parent? (Path.join directory configurationFileName) = some parent
      ∧ Path.isAbsolute parent = true ∧ Path.components parent = Path.components directory :=
  Path.parent?_join h (by decide) (by decide) (by decide)

section

variable {access : FileAccess (StateM σ)} (h : access.Observant)
include h

/-- **A stored configuration is found again**, with a directory that has the same components. -/
theorem effectiveConfiguration_stored {base : Configuration} (hbase : base.IsReadable)
    (arguments : Arguments) (workingDirectory : String) {directory : String}
    (habsolute : Path.isAbsolute directory = true) {stored : σ} {ending : String}
    (hending : ∀ c ∈ ending.toList, Json.isSpace c = true)
    (hdirectory : (access.isDirectory directory stored).1 = true)
    (hstored : (access.readText? (Path.join directory configurationFileName) stored).1 =
      some ((base.override arguments workingDirectory).toJson.pretty ++ ending)) (other : String) :
    ∃ directory', Path.isAbsolute directory' = true
      ∧ Path.components directory' = Path.components directory
      ∧ (effectiveConfiguration access (.ofProject directory) other stored).1 =
        .ok (base.override arguments workingDirectory, directory') := by
  obtain ⟨directory', hparent, habsolute', hcomponents⟩ := exists_parent_configuration habsolute
  have hpath : (discoverConfiguration access (.ofProject directory) other stored).1 =
      some (Path.join directory configurationFileName) := by
    have hjoin : Path.join other directory = directory := if_pos habsolute
    rw [discoverConfiguration_apply h]
    dsimp only [Arguments.ofProject]
    rw [configurationPath_apply h, hjoin, hdirectory]
    rfl
  have hload := loadConfiguration_of_ofText h hstored
    ((Configuration.ofText_pretty_iff hending).2 (hbase.override arguments workingDirectory))
  refine ⟨directory', habsolute', hcomponents, ?_⟩
  rw [effectiveConfiguration_of_loaded h hpath hload, hparent, Configuration.override_ofProject,
    Option.getD_some]

/-- **The printed configuration makes the settings of the run.** When the text that is printed,
with or without the line end behind it, is stored in the directory that the run's paths are relative
to, a run that names nothing but this directory, from whichever directory it is started, finds the
settings that the run finds: the same invalid option, or settings that agree but for the spelling of
their paths. -/
theorem findSettings_of_printed {arguments : Arguments} {workingDirectory directory : String}
    {configuration : Configuration} {state : σ}
    (hworking : Path.isAbsolute workingDirectory = true)
    (heffective : (effectiveConfiguration access arguments workingDirectory state).1 =
      .ok (configuration, directory)) {stored : σ} {ending : String}
    (hending : ending = "" ∨ ending = "\n")
    (hdirectory : (access.isDirectory directory stored).1 = true)
    (hstored : (access.readText? (Path.join directory configurationFileName) stored).1 =
      some (configuration.toJson.pretty ++ ending)) :
    (∀ terminal argv, Arguments.ofList argv = .ok { arguments with showConfig := true } →
      (program access terminal workingDirectory argv state).1 =
        .done ⟨0, configuration.toJson.pretty ++ "\n", ""⟩)
    ∧ ∃ only, Arguments.ofList ["-p", directory] = .ok only
      ∧ ∀ other,
        let found := (findSettings access arguments workingDirectory state).1
        let again := (findSettings access only other stored).1
        (∀ error, found = .error error → again = .error error)
        ∧ ∀ settings, found = .ok settings →
          ∃ settings', again = .ok settings' ∧ settings.Agrees settings' := by
  obtain ⟨habsolute, base, hbase, rfl⟩ := effectiveConfiguration_eq_ok h hworking heffective
  refine ⟨fun terminal argv hargv => ?_, _, Arguments.ofList_project habsolute, fun other => ?_⟩
  · -- whether the configuration is to be printed does not matter for what it is
    have hprinted : (effectiveConfiguration access { arguments with showConfig := true }
        workingDirectory state).1 = .ok (base.override arguments workingDirectory, directory) :=
      heffective
    rw [program_showConfig h hargv rfl, hprinted]
  · have hspace : ∀ c ∈ ending.toList, Json.isSpace c = true := by
      rcases hending with rfl | rfl
      · simp
      · simp [Json.isSpace]
    obtain ⟨directory', habsolute', hcomponents, hagain⟩ := effectiveConfiguration_stored h hbase
      arguments workingDirectory habsolute hspace hdirectory hstored other
    obtain ⟨herror, hok⟩ := (base.override arguments workingDirectory).resolve_agrees
      (Path.components_join_congr habsolute' habsolute hcomponents)
    dsimp only
    rw [findSettings_apply h, findSettings_apply h, heffective, hagain]
    dsimp only [Except.bind]
    cases hfound : (base.override arguments workingDirectory).resolve directory with
    | error invalid =>
      rw [herror invalid hfound]
      refine ⟨fun _ => id, fun _ hsettings => ?_⟩
      cases hsettings
    | ok settings =>
      obtain ⟨settings', hsettings', hagrees⟩ := hok settings hfound
      rw [hsettings']
      refine ⟨fun _ herror => ?_, fun _ hsettings => ⟨settings', rfl, ?_⟩⟩
      · cases herror
      · cases hsettings
        exact hagrees

end

/-- A project below the working directory says where its manifest is, and the command line says
where the files go. -/
theorem findSettings_of_printed_project :
    let base : Configuration :=
      ⟨some "types.json", some { ConfigurationOptions.empty with indentWidth? := some 2 }⟩
    let arguments := { Arguments.ofProject "work" with outDir? := some "out" }
    let configuration := base.override arguments "/home"
    let tree (text : String) := FileTree.entry "home" (.directory (.entry "work"
      (.directory (.entry configurationFileName (.file text) .empty)) .empty)) .empty
    Path.isAbsolute "/home" = true
    ∧ (effectiveConfiguration FileTree.access arguments "/home" (tree base.toJson.pretty)).1 =
      .ok (configuration, "/home/work")
    ∧ ∃ settings, (findSettings FileTree.access (.ofProject "/home/work") "/"
        (tree (configuration.toJson.pretty ++ "\n"))).1 = .ok settings
      ∧ settings.manifest?.map Path.components = some ["/", "home", "work", "types.json"]
      ∧ settings.outDir?.map Path.components = some ["/", "home", "out"] := by
  intro base arguments configuration tree
  have hread : ∀ text, (FileTree.access.readText? "/home/work/checkt.json" (tree text)).1 =
      some text := fun _ => rfl
  have hdirectory : ∀ text, (FileTree.access.isDirectory "/home/work" (tree text)).1 = true :=
    fun _ => rfl
  have hbase : Configuration.ofText base.toJson.pretty = .ok base :=
    Configuration.ofText_pretty (by rintro options ⟨⟩ width ⟨⟩; decide)
  have heffective : (effectiveConfiguration FileTree.access arguments "/home"
      (tree base.toJson.pretty)).1 = .ok (configuration, "/home/work") := by
    have hpath : ∀ text, (discoverConfiguration FileTree.access arguments "/home"
        (tree text)).1 = some "/home/work/checkt.json" := fun _ => rfl
    have hparent : Path.parent? "/home/work/checkt.json" = some "/home/work" := by decide
    rw [effectiveConfiguration_of_loaded FileTree.observant (hpath _)
      (loadConfiguration_of_ofText FileTree.observant (hread _) hbase), hparent]
    rfl
  have hsettings : (findSettings FileTree.access arguments "/home" (tree base.toJson.pretty)).1 =
      .ok ⟨some "/home/work/types.json", some "/home/out", false,
        { GenerationOptions.standard with layout := ⟨.lf, 2⟩ }⟩ := by
    rw [findSettings_apply FileTree.observant, heffective]
    decide
  obtain ⟨-, only, honly, hfound⟩ := findSettings_of_printed FileTree.observant (by decide)
    heffective (.inr rfl) (hdirectory _) (hread _)
  obtain ⟨settings, hagain, hagrees⟩ := (hfound "/").2 _ hsettings
  cases (Arguments.ofList_project (by decide)).symm.trans honly
  refine ⟨by decide, heffective, settings, hagain, ?_, ?_⟩
  · rw [hagrees.manifest?]
    decide
  · rw [hagrees.outDir?]
    decide

end TypeWitness
