import TypeWitness.Proofs.AddedSwitch
import TypeWitness.Proofs.ManifestRoundTrip
import TypeWitness.Proofs.SettingsLookup

/-! # Writing no files
A run writes no files when the command line says so or when its configuration does. Both come to the
same settings, so the two runs report the same, generate the same and leave the files as they are.
How the program ends is another matter: it looks at the command line alone to tell whether anything
could come of a run with errors.

* `run_of_noEmit` — a run that writes no files.
* `program_noEmit` — saying so on the command line and in the configuration. -/

namespace TypeWitness

variable {σ : Type}

/-- The same configuration, which says that no files are to be written. -/
def Configuration.withNoEmit (configuration : Configuration) : Configuration :=
  { configuration with
    options? := some { configuration.options?.getD .empty with noEmit? := some true } }

/-- It does not matter which of the two says that no files are to be written. -/
theorem Configuration.override_withNoEmit (configuration : Configuration) (arguments : Arguments)
    (workingDirectory : String) :
    configuration.withNoEmit.override arguments workingDirectory =
      configuration.override arguments.withNoEmit workingDirectory := by
  have hswitch : (if arguments.noEmit then some true else some true) = some true := ite_self _
  rw [override, override, withNoEmit, ConfigurationOptions.override, ConfigurationOptions.override]
  dsimp only [Option.getD_some]
  rw [hswitch]
  rfl

/-- The settings of a configuration with the switch turned on forbid to write files. -/
theorem Configuration.noEmit_of_resolve {configuration : Configuration} {arguments : Arguments}
    {workingDirectory directory : String} {settings : RunSettings}
    (h : (configuration.override arguments.withNoEmit workingDirectory).resolve directory =
      .ok settings) : settings.noEmit = true := by
  rw [resolve_eq] at h
  dsimp only at h
  cases hgeneration : ((configuration.override arguments.withNoEmit workingDirectory).options?.getD
      .empty).generation with
  | error => rw [hgeneration] at h; cases h
  | ok => rw [hgeneration] at h; cases h; rfl

/-! ## Runs that write no files -/

section

variable {access : FileAccess (StateM σ)} (h : access.Observant)
include h

/-- **A run that writes no files** leaves the files as they are. -/
theorem run_of_noEmit {arguments : Arguments} {workingDirectory : String} {state : σ}
    (hnoEmit : ∀ settings, (findSettings access arguments workingDirectory state).1 = .ok settings →
      settings.noEmit = true) (emitFiles : Bool) :
    run access arguments workingDirectory emitFiles state =
      ((findSettings access arguments workingDirectory state).1.bind fun settings =>
        (loadManifest access settings state).1.map fun manifest =>
          keepInMemory (manifest.generate settings.generation), state) := by
  rw [run, (steady_findSettings h _ _).bind_apply]
  cases hsettings : (findSettings access arguments workingDirectory state).1 with
  | error => rfl
  | ok settings =>
    dsimp only
    rw [(steady_loadManifest h settings).bind_apply]
    dsimp only [Except.bind]
    cases (loadManifest access settings state).1 with
    | error => rfl
    | ok manifest =>
      dsimp only
      rw [hnoEmit settings hsettings, Bool.or_true, if_pos rfl]
      rfl

/-- What comes of a run that writes no files. -/
theorem run_of_loaded {arguments : Arguments} {workingDirectory : String} {state : σ}
    {settings : RunSettings} {manifest : Manifest}
    (hsettings : (findSettings access arguments workingDirectory state).1 = .ok settings)
    (hnoEmit : settings.noEmit = true)
    (hmanifest : (loadManifest access settings state).1 = .ok manifest) (emitFiles : Bool) :
    run access arguments workingDirectory emitFiles state =
      (.ok (keepInMemory (manifest.generate settings.generation)), state) := by
  have hall : ∀ other, (findSettings access arguments workingDirectory state).1 = .ok other →
      other.noEmit = true := by
    intro other hother
    cases hsettings.symm.trans hother
    exact hnoEmit
  rw [run_of_noEmit h hall, hsettings]
  dsimp only [Except.bind]
  rw [hmanifest]
  rfl

end

/-! ## Two ways to say so -/

/-- Two states of the files in which a run finds the same but for the switch: its configuration lies
at the same path and says in the second state that no files are to be written, and the manifest that
it names is the same. -/
structure TurnsOffEmission (access : FileAccess (StateM σ)) (arguments : Arguments)
    (workingDirectory path : String) (configuration : Configuration) (state edited : σ) : Prop where
  found : (discoverConfiguration access arguments workingDirectory state).1 = some path
  foundAgain : (discoverConfiguration access arguments workingDirectory edited).1 = some path
  loaded : (loadConfiguration access path state).1 = .ok configuration
  loadedAgain : (loadConfiguration access path edited).1 = .ok configuration.withNoEmit
  manifest : ∀ settings,
    (findSettings access arguments.withNoEmit workingDirectory state).1 = .ok settings →
    (loadManifest access settings edited).1 = (loadManifest access settings state).1

namespace TurnsOffEmission

variable {access : FileAccess (StateM σ)} {arguments : Arguments} {workingDirectory path : String}
  {configuration : Configuration} {state edited : σ}

section

variable (h : access.Observant)
  (hedit : TurnsOffEmission access arguments workingDirectory path configuration state edited)
include h hedit

/-- What a run with the switch on the command line goes by. -/
theorem effectiveConfiguration_switched :
    (effectiveConfiguration access arguments.withNoEmit workingDirectory state).1 =
      .ok (configuration.override arguments.withNoEmit workingDirectory,
        (Path.parent? path).getD workingDirectory) :=
  have hfound : (discoverConfiguration access arguments.withNoEmit workingDirectory state).1 =
      some path := hedit.found
  congrArg Prod.fst (effectiveConfiguration_of_loaded h hfound hedit.loaded)

/-- A run with the switch in its configuration goes by the same. -/
theorem effectiveConfiguration_edited :
    (effectiveConfiguration access arguments workingDirectory edited).1 =
      (effectiveConfiguration access arguments.withNoEmit workingDirectory state).1 := by
  rw [effectiveConfiguration_switched h hedit, ← configuration.override_withNoEmit]
  exact congrArg Prod.fst (effectiveConfiguration_of_loaded h hedit.foundAgain hedit.loadedAgain)

theorem findSettings_edited :
    (findSettings access arguments workingDirectory edited).1 =
      (findSettings access arguments.withNoEmit workingDirectory state).1 := by
  rw [findSettings_apply h, findSettings_apply h, effectiveConfiguration_edited h hedit]

theorem noEmit_of_findSettings {settings : RunSettings}
    (hsettings : (findSettings access arguments.withNoEmit workingDirectory state).1 =
      .ok settings) : settings.noEmit = true := by
  rw [findSettings_apply h, effectiveConfiguration_switched h hedit] at hsettings
  dsimp only [Except.bind] at hsettings
  cases hresolve : (configuration.override arguments.withNoEmit workingDirectory).resolve
      ((Path.parent? path).getD workingDirectory) with
  | error => rw [hresolve] at hsettings; cases hsettings
  | ok =>
    rw [hresolve] at hsettings
    cases hsettings
    exact Configuration.noEmit_of_resolve hresolve

/-- **Both runs do the same**, and neither of them writes a file. -/
theorem exists_run_eq (emitFiles : Bool) :
    ∃ result, run access arguments.withNoEmit workingDirectory emitFiles state = (result, state)
      ∧ run access arguments workingDirectory emitFiles edited = (result, edited)
      ∧ ∀ done, result = .ok done → done.emitted = [] := by
  have hsettings := findSettings_edited h hedit
  refine ⟨_, run_of_noEmit h (fun _ => noEmit_of_findSettings h hedit) emitFiles, ?_, ?_⟩
  · rw [run_of_noEmit h (fun settings hfound =>
      noEmit_of_findSettings h hedit (hsettings.symm.trans hfound)), hsettings]
    cases hfound : (findSettings access arguments.withNoEmit workingDirectory state).1 with
    | error => rfl
    | ok settings =>
      dsimp only [Except.bind]
      rw [hedit.manifest settings hfound]
  · intro done hdone
    cases hfound : (findSettings access arguments.withNoEmit workingDirectory state).1 with
    | error => rw [hfound] at hdone; cases hdone
    | ok settings =>
      rw [hfound] at hdone
      dsimp only [Except.bind] at hdone
      cases hmanifest : (loadManifest access settings state).1 with
      | error => rw [hmanifest] at hdone; cases hdone
      | ok => rw [hmanifest] at hdone; cases hdone; rfl

end

end TurnsOffEmission

/-! ## How the program ends -/

/-- A run without errors ends well whatever the command line says. -/
theorem RunResult.exitCode_of_not_hasErrors {result : RunResult} (h : result.hasErrors = false)
    (arguments : Arguments) : result.exitCode arguments = 0 := by
  rw [exitCode, h]
  rfl

/-- A run with errors that wrote no files ends as the command line says. -/
theorem RunResult.exitCode_of_hasErrors {result : RunResult} (h : result.hasErrors = true)
    (hemitted : result.emitted = []) (arguments : Arguments) :
    result.exitCode arguments = if arguments.noEmit || arguments.listTargets then 2 else 1 := by
  rw [exitCode, h, hemitted]
  simp

/-- What is printed after a run does not depend on the switch, but for the exit code. -/
theorem RunResult.output_withNoEmit {result : RunResult} {arguments : Arguments}
    (h : result.exitCode arguments.withNoEmit = result.exitCode arguments) (terminal : Terminal) :
    result.output arguments.withNoEmit terminal = result.output arguments terminal := by
  rw [output, output, h]
  rfl

/-- What is printed after a run that is not to print the names of the files. -/
theorem RunResult.output_of_not_listTargets (result : RunResult) {arguments : Arguments}
    (h : arguments.listTargets = false) (terminal : Terminal) :
    result.output arguments terminal =
      ⟨result.exitCode arguments, "", (result.output arguments terminal).errorOutput⟩ := by
  rw [output, if_neg (by simp [h])]

section

variable {access : FileAccess (StateM σ)} (h : access.Observant) {argv : List String}
  {arguments : Arguments} (hargv : Arguments.ofList argv = .ok arguments)
  (hfalse : arguments.noEmit = false) {workingDirectory path : String}
  {configuration : Configuration} {state edited : σ}
  (hedit : TurnsOffEmission access arguments workingDirectory path configuration state edited)
  (terminal : Terminal)
include h hargv hfalse hedit

/-- **A run with errors ends differently**, though the program prints the same after it. -/
theorem exists_program_eq_of_hasErrors (hshow : arguments.showConfig = false)
    (hlist : arguments.listTargets = false) {done : RunResult}
    (hdone : (run access arguments.withNoEmit workingDirectory true state).1 = .ok done)
    (herrors : done.hasErrors = true) :
    ∃ text,
      program access terminal workingDirectory ("--noEmit" :: argv) state =
        (.done ⟨2, "", text⟩, state)
      ∧ program access terminal workingDirectory argv edited = (.done ⟨1, "", text⟩, edited) := by
  -- both runs come to one result, which only the exit codes tell apart
  obtain ⟨result, hrun, hrun', hemitted⟩ := hedit.exists_run_eq h (!arguments.listTargets)
  have hresult : result = .ok done := by
    rw [hlist, Bool.not_false] at hrun
    exact (congrArg Prod.fst hrun).symm.trans hdone
  subst hresult
  have hcode := done.exitCode_of_hasErrors herrors (hemitted done rfl)
  have hswitched := Arguments.ofList_noEmit hargv hfalse
  have hlist' : arguments.withNoEmit.listTargets = false := hlist
  refine ⟨(done.output arguments terminal).errorOutput, ?_, ?_⟩
  · rw [program_of_run hswitched hshow terminal hrun, ProgramEnd.ofRun,
      done.output_of_not_listTargets hlist', hcode]
    rfl
  · rw [program_of_run hargv hshow terminal hrun', ProgramEnd.ofRun,
      done.output_of_not_listTargets hlist, hcode]
    simp [hfalse, hlist]

/-- **A run without errors ends alike**, and so does one that prints the names of the files. -/
theorem program_eq_of_not_hasErrors (hshow : arguments.showConfig = false)
    (hends : ∀ done,
      (run access arguments.withNoEmit workingDirectory (!arguments.listTargets) state).1 =
        .ok done →
      done.hasErrors = true → arguments.listTargets = true) :
    ∃ finish, program access terminal workingDirectory ("--noEmit" :: argv) state = (finish, state)
      ∧ program access terminal workingDirectory argv edited = (finish, edited) := by
  obtain ⟨result, hrun, hrun', hemitted⟩ := hedit.exists_run_eq h (!arguments.listTargets)
  have hswitched := Arguments.ofList_noEmit hargv hfalse
  have hsame : ProgramEnd.ofRun arguments.withNoEmit terminal result =
      .ofRun arguments terminal result := by
    cases result with
    | error => rfl
    | ok done =>
      refine congrArg ProgramEnd.done (RunResult.output_withNoEmit ?_ terminal)
      cases herrors : done.hasErrors with
      | false => rw [done.exitCode_of_not_hasErrors herrors, done.exitCode_of_not_hasErrors herrors]
      | true =>
        have hlist := hends done (congrArg Prod.fst hrun) herrors
        rw [done.exitCode_of_hasErrors herrors (hemitted done rfl),
          done.exitCode_of_hasErrors herrors (hemitted done rfl)]
        simp [Arguments.withNoEmit, hlist]
  refine ⟨.ofRun arguments terminal result, ?_, program_of_run hargv hshow terminal hrun'⟩
  rw [← hsame]
  exact program_of_run hswitched hshow terminal hrun

/-- **The configuration that is printed is the same.** -/
theorem program_eq_of_showConfig (hshow : arguments.showConfig = true) :
    ∃ finish, program access terminal workingDirectory ("--noEmit" :: argv) state = (finish, state)
      ∧ program access terminal workingDirectory argv edited = (finish, edited) := by
  have hswitched := Arguments.ofList_noEmit hargv hfalse
  refine ⟨_, program_showConfig h hswitched hshow terminal workingDirectory state, ?_⟩
  rw [program_showConfig h hargv hshow, hedit.effectiveConfiguration_edited h]

end

/-! ## A run with errors -/

/-- A type with an accessor that returns no reference, which is an error. -/
def countedManifest : Manifest :=
  ⟨[⟨"Relation", "model", .everywhere, [⟨"A", []⟩], none, [],
    [⟨"getCount", .method, some "int", [], [], [.typeToken]⟩]⟩]⟩

/-- A configuration that names its manifest and nothing else. -/
def plainConfiguration : Configuration := ⟨some "types.json", none⟩

/-- A directory with a configuration and its manifest. -/
def projectTree (configuration : Configuration) : FileTree :=
  .entry configurationFileName (.file configuration.toJson.pretty)
    (.entry "types.json" (.file countedManifest.toText) .empty)

theorem loadConfiguration_projectTree {configuration : Configuration}
    (h : configuration.IsReadable) :
    (loadConfiguration FileTree.access "/checkt.json" (projectTree configuration)).1 =
      .ok configuration :=
  loadConfiguration_of_ofText FileTree.observant rfl (Configuration.ofText_pretty h)

theorem loadManifest_projectTree {settings : RunSettings}
    (h : settings.manifest? = some "/types.json") (configuration : Configuration) :
    (loadManifest FileTree.access settings (projectTree configuration)).1 = .ok countedManifest :=
  loadManifest_of_ofText FileTree.observant h rfl countedManifest.ofText_toText

theorem discoverConfiguration_projectTree (configuration : Configuration) :
    (discoverConfiguration FileTree.access .empty "/" (projectTree configuration)).1 =
      some "/checkt.json" := rfl

theorem isReadable_plainConfiguration : plainConfiguration.IsReadable := by
  rintro options ⟨⟩

theorem isReadable_withNoEmit : plainConfiguration.withNoEmit.IsReadable := by
  rintro options ⟨⟩ width ⟨⟩

theorem findSettings_projectTree :
    (findSettings FileTree.access Arguments.empty.withNoEmit "/"
      (projectTree plainConfiguration)).1 =
      .ok ⟨some "/types.json", none, true, .standard⟩ := by
  have hfound : (discoverConfiguration FileTree.access Arguments.empty.withNoEmit "/"
      (projectTree plainConfiguration)).1 = some "/checkt.json" :=
    discoverConfiguration_projectTree plainConfiguration
  rw [findSettings_apply FileTree.observant, effectiveConfiguration_of_loaded FileTree.observant
    hfound (loadConfiguration_projectTree isReadable_plainConfiguration)]
  decide

/-- The two projects differ in the switch. -/
theorem turnsOffEmission_projectTree :
    TurnsOffEmission FileTree.access .empty "/" "/checkt.json" plainConfiguration
      (projectTree plainConfiguration) (projectTree plainConfiguration.withNoEmit) where
  found := discoverConfiguration_projectTree plainConfiguration
  foundAgain := discoverConfiguration_projectTree plainConfiguration.withNoEmit
  loaded := loadConfiguration_projectTree isReadable_plainConfiguration
  loadedAgain := loadConfiguration_projectTree isReadable_withNoEmit
  manifest settings hsettings := by
    cases findSettings_projectTree.symm.trans hsettings
    rw [loadManifest_projectTree rfl, loadManifest_projectTree rfl]

/-- The run reports an error. -/
theorem exists_run_projectTree :
    ∃ done, (run FileTree.access Arguments.empty.withNoEmit "/" true
        (projectTree plainConfiguration)).1 = .ok done
      ∧ done.hasErrors = true :=
  ⟨_, congrArg Prod.fst (run_of_loaded FileTree.observant findSettings_projectTree rfl
    (loadManifest_projectTree rfl plainConfiguration) true), by decide +kernel⟩

/-! ## Both ways compared -/

/-- **Saying on the command line or in the configuration that no files are to be written.** Both
runs report the same and generate the same, neither of them writes a file, and the program ends in
the same way, but for a run with errors that is to print neither the configuration nor the names of
the files: the program prints the same after it, but the exit code is 2 when the command line has
the switch and 1 when only the configuration has it. -/
theorem program_noEmit {access : FileAccess (StateM σ)} (h : access.Observant) {argv : List String}
    {arguments : Arguments} (hargv : Arguments.ofList argv = .ok arguments)
    (hfalse : arguments.noEmit = false) {workingDirectory path : String}
    {configuration : Configuration} {state edited : σ}
    (hedit : TurnsOffEmission access arguments workingDirectory path configuration state edited)
    (terminal : Terminal) :
    let switched := arguments.withNoEmit
    let flagged := program access terminal workingDirectory ("--noEmit" :: argv) state
    let configured := program access terminal workingDirectory argv edited
    let fails := arguments.showConfig = false ∧ arguments.listTargets = false
      ∧ ∃ done, (run access switched workingDirectory true state).1 = .ok done
        ∧ done.hasErrors = true
    Arguments.ofList ("--noEmit" :: argv) = .ok switched
    ∧ (∀ emitFiles, ∃ result,
      run access switched workingDirectory emitFiles state = (result, state)
      ∧ run access arguments workingDirectory emitFiles edited = (result, edited)
      ∧ ∀ done, result = .ok done → done.emitted = [])
    ∧ (fails → ∃ text, flagged = (.done ⟨2, "", text⟩, state)
      ∧ configured = (.done ⟨1, "", text⟩, edited))
    ∧ (¬ fails → ∃ finish, flagged = (finish, state) ∧ configured = (finish, edited)) := by
  intro switched flagged configured fails
  have hswitched := Arguments.ofList_noEmit hargv hfalse
  refine ⟨hswitched, hedit.exists_run_eq h, ?_, fun hnot => ?_⟩
  · rintro ⟨hshow, hlist, done, hdone, herrors⟩
    exact exists_program_eq_of_hasErrors h hargv hfalse hedit terminal hshow hlist hdone herrors
  · cases hshow : arguments.showConfig with
    | true => exact program_eq_of_showConfig h hargv hfalse hedit terminal hshow
    | false =>
      refine program_eq_of_not_hasErrors h hargv hfalse hedit terminal hshow
        fun done hdone herrors => ?_
      by_contra hlist
      rw [Bool.not_eq_true] at hlist
      rw [hlist, Bool.not_false] at hdone
      exact hnot ⟨hshow, hlist, done, hdone, herrors⟩

/-- Both runs of the project report its error and write nothing. -/
theorem program_noEmit_project :
    let tree := projectTree plainConfiguration
    let edited := projectTree plainConfiguration.withNoEmit
    Arguments.ofList [] = .ok .empty
    ∧ Arguments.empty.noEmit = false
    ∧ TurnsOffEmission FileTree.access .empty "/" "/checkt.json" plainConfiguration tree edited
    ∧ Arguments.ofList ["--noEmit"] = .ok Arguments.empty.withNoEmit
    ∧ ∃ done, run FileTree.access Arguments.empty.withNoEmit "/" true tree = (.ok done, tree)
      ∧ run FileTree.access .empty "/" true edited = (.ok done, edited)
      ∧ done.hasErrors = true ∧ done.emitted = [] := by
  intro tree edited
  have hargv : Arguments.ofList [] = .ok .empty := rfl
  obtain ⟨hswitched, hruns, -⟩ := program_noEmit FileTree.observant hargv rfl
    turnsOffEmission_projectTree ⟨none, none, none, false, false⟩
  obtain ⟨done, hdone, herrors⟩ := exists_run_projectTree
  obtain ⟨result, hrun, hrun', hemitted⟩ := hruns true
  cases (congrArg Prod.fst hrun).symm.trans hdone
  exact ⟨hargv, rfl, turnsOffEmission_projectTree, hswitched, done, hrun, hrun', herrors,
    hemitted done rfl⟩

/-- **The two ways to say so are not the same to a caller of the program.** -/
theorem exitCode_noEmit_ne :
    let terminal : Terminal := ⟨none, none, none, false, false⟩
    ∃ text,
      program FileTree.access terminal "/" ["--noEmit"] (projectTree plainConfiguration) =
        (.done ⟨2, "", text⟩, projectTree plainConfiguration)
      ∧ program FileTree.access terminal "/" [] (projectTree plainConfiguration.withNoEmit) =
        (.done ⟨1, "", text⟩, projectTree plainConfiguration.withNoEmit) := by
  intro terminal
  obtain ⟨done, hdone, herrors⟩ := exists_run_projectTree
  exact exists_program_eq_of_hasErrors FileTree.observant rfl rfl turnsOffEmission_projectTree
    terminal rfl rfl hdone herrors

end TypeWitness
