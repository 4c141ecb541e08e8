import TypeWitness.Proofs.ConfigurationRoundTrip
import TypeWitness.Proofs.FileTreeLaws
import TypeWitness.Proofs.ParentPaths
import TypeWitness.Run

/-! # Finding settings
What a run looks up before it writes anything: the path of its configuration, the configuration, the
settings and the manifest. A file system that is only looked at does not change, so each of them is
an answer that depends on the state and leaves it as it is.

* `FileAccess.Observant` — looking at a file system does not change it.
* `effectiveConfiguration_eq_ok` — what a configuration is like that a run goes by. -/

namespace TypeWitness

variable {σ α β : Type}

/-! ## Programs that leave the state as it is -/

/-- A program leaves every state as it is. -/
def Steady (program : StateM σ α) : Prop := ∀ state, (program state).2 = state

namespace Steady

variable {program : StateM σ α}

theorem pure (value : α) : Steady (pure value : StateM σ α) := fun _ => rfl

theorem bind (h : Steady program) {next : α → StateM σ β} (hnext : ∀ value, Steady (next value)) :
    Steady (program >>= next) :=
  fun state => (hnext _ _).trans (h state)

/-- What comes behind a program that leaves the state as it is starts from that state. -/
theorem bind_apply (h : Steady program) (next : α → StateM σ β) (state : σ) :
    (program >>= next) state = next (program state).1 state :=
  congrArg (next (program state).1) (h state)

end Steady

/-- Looking at a file system does not change it. -/
structure FileAccess.Observant (access : FileAccess (StateM σ)) : Prop where
  isDirectory : ∀ path, Steady (access.isDirectory path)
  isFile : ∀ path, Steady (access.isFile path)
  readText? : ∀ path, Steady (access.readText? path)

section

variable {access : FileAccess (StateM σ)} (h : access.Observant)
include h

/-! ## The configuration -/

theorem configurationPath_apply (project : String) (state : σ) :
    configurationPath access project state =
      (if (access.isDirectory project state).1 then Path.join project configurationFileName
        else project, state) := by
  rw [configurationPath, (h.isDirectory project).bind_apply]
  split <;> rfl

theorem steady_configurationPath (project : String) : Steady (configurationPath access project) :=
  fun state => congrArg Prod.snd (configurationPath_apply h project state)

theorem discoverConfiguration_apply (arguments : Arguments) (workingDirectory : String)
    (state : σ) :
    discoverConfiguration access arguments workingDirectory state =
      (match arguments.project?, arguments.manifest? with
        | some project, _ =>
          some (configurationPath access (Path.join workingDirectory project) state).1
        | none, some _ => none
        | none, none =>
          if (access.isFile (Path.join workingDirectory configurationFileName) state).1 then
            some (Path.join workingDirectory configurationFileName)
          else none, state) := by
  rw [discoverConfiguration]
  cases arguments.project? with
  | some project =>
    dsimp only
    rw [(steady_configurationPath h _).bind_apply]
    rfl
  | none =>
    cases arguments.manifest? with
    | some => rfl
    | none =>
      dsimp only
      rw [(h.isFile _).bind_apply]
      split <;> rfl

theorem steady_discoverConfiguration (arguments : Arguments) (workingDirectory : String) :
    Steady (discoverConfiguration access arguments workingDirectory) :=
  fun state => congrArg Prod.snd (discoverConfiguration_apply h arguments workingDirectory state)

theorem loadConfiguration_apply (path : String) (state : σ) :
    loadConfiguration access path state =
      (match (access.readText? path state).1 with
        | none => .error (.readConfiguration path)
        | some text => (Configuration.ofText text).mapError fun _ => .parseConfiguration path,
        state) := by
  rw [loadConfiguration, (h.readText? path).bind_apply]
  cases (access.readText? path state).1 with
  | none => rfl
  | some text =>
    dsimp only
    cases Configuration.ofText text <;> rfl

theorem steady_loadConfiguration (path : String) : Steady (loadConfiguration access path) :=
  fun state => congrArg Prod.snd (loadConfiguration_apply h path state)

theorem effectiveConfiguration_apply (arguments : Arguments) (workingDirectory : String)
    (state : σ) :
    effectiveConfiguration access arguments workingDirectory state =
      (match (discoverConfiguration access arguments workingDirectory state).1 with
        | none => .ok (Configuration.empty.override arguments workingDirectory, workingDirectory)
        | some path => (loadConfiguration access path state).1.map fun configuration =>
          (configuration.override arguments workingDirectory,
            (Path.parent? path).getD workingDirectory), state) := by
  rw [effectiveConfiguration, (steady_discoverConfiguration h _ _).bind_apply]
  cases (discoverConfiguration access arguments workingDirectory state).1 with
  | none => rfl
  | some path =>
    dsimp only
    rw [(steady_loadConfiguration h path).bind_apply]
    cases (loadConfiguration access path state).1 <;> rfl

/-- What a run goes by whose configuration is found and read. -/
theorem effectiveConfiguration_of_loaded {arguments : Arguments}
    {workingDirectory path : String} {configuration : Configuration} {state : σ}
    (hfound : (discoverConfiguration access arguments workingDirectory state).1 = some path)
    (hloaded : (loadConfiguration access path state).1 = .ok configuration) :
    effectiveConfiguration access arguments workingDirectory state =
      (.ok (configuration.override arguments workingDirectory,
        (Path.parent? path).getD workingDirectory), state) := by
  rw [effectiveConfiguration_apply h, hfound]
  dsimp only
  rw [hloaded]
  rfl

/-- A file that spells a configuration is read as it. -/
theorem loadConfiguration_of_ofText {path text : String} {configuration : Configuration} {state : σ}
    (hread : (access.readText? path state).1 = some text)
    (htext : Configuration.ofText text = .ok configuration) :
    (loadConfiguration access path state).1 = .ok configuration := by
  rw [loadConfiguration_apply h, hread]
  dsimp only
  rw [htext]
  rfl

theorem steady_effectiveConfiguration (arguments : Arguments) (workingDirectory : String) :
    Steady (effectiveConfiguration access arguments workingDirectory) :=
  fun state => congrArg Prod.snd (effectiveConfiguration_apply h arguments workingDirectory state)

/-- A configuration that is found lies below the root when the working directory does. -/
theorem isAbsolute_of_discoverConfiguration {arguments : Arguments}
    {workingDirectory path : String} (hworking : Path.isAbsolute workingDirectory = true)
    {state : σ}
    (hpath : (discoverConfiguration access arguments workingDirectory state).1 = some path) :
    Path.isAbsolute path = true := by
  have hjoin : ∀ other, Path.isAbsolute (Path.join workingDirectory other) = true := by
    simp [Path.isAbsolute_join, hworking]
  rw [discoverConfiguration_apply h] at hpath
  dsimp only at hpath
  split at hpath
  · cases hpath
    rw [configurationPath_apply h]
    dsimp only
    split
    · simp [Path.isAbsolute_join, hjoin]
    · exact hjoin _
  · cases hpath
  · split at hpath <;> cases hpath
    exact hjoin _

/-- **What a configuration is like that a run goes by**, and the directory that its paths are
relative to. -/
theorem effectiveConfiguration_eq_ok {arguments : Arguments} {workingDirectory directory : String}
    {configuration : Configuration} (hworking : Path.isAbsolute workingDirectory = true) {state : σ}
    (heffective : (effectiveConfiguration access arguments workingDirectory state).1 =
      .ok (configuration, directory)) :
    Path.isAbsolute directory = true
    ∧ ∃ base : Configuration, base.IsReadable
      ∧ configuration = base.override arguments workingDirectory := by
  rw [effectiveConfiguration_apply h] at heffective
  dsimp only at heffective
  split at heffective
  · cases heffective
    exact ⟨hworking, _, Configuration.isReadable_empty, rfl⟩
  · next path hpath =>
    have habsolute := isAbsolute_of_discoverConfiguration h hworking hpath
    rw [loadConfiguration_apply h] at heffective
    dsimp only at heffective
    split at heffective
    · cases heffective
    · next text _ =>
      cases hbase : Configuration.ofText text with
      | error =>
        rw [hbase] at heffective
        cases heffective
      | ok base =>
        rw [hbase] at heffective
        cases heffective
        refine ⟨?_, base, Configuration.isReadable_of_ofText hbase, rfl⟩
        cases hparent : Path.parent? path with
        | none => exact hworking
        | some parent => exact Path.isAbsolute_of_parent? habsolute hparent

/-! ## The settings and the manifest -/

omit h in
theorem Configuration.resolve_eq (configuration : Configuration) (directory : String) :
    configuration.resolve directory =
      let options := configuration.options?.getD .empty
      options.generation.map fun generation => {
        manifest? := configuration.manifest?.map (Path.join directory)
        outDir? := options.outDir?.map (Path.join directory)
        noEmit := options.noEmit?.getD false
        generation } := by
  rw [resolve]
  dsimp only
  cases (configuration.options?.getD .empty).generation <;> rfl

theorem findSettings_apply (arguments : Arguments) (workingDirectory : String) (state : σ) :
    findSettings access arguments workingDirectory state =
      ((effectiveConfiguration access arguments workingDirectory state).1.bind fun found =>
        (found.1.resolve found.2).mapError .option, state) := by
  rw [findSettings, (steady_effectiveConfiguration h _ _).bind_apply]
  cases (effectiveConfiguration access arguments workingDirectory state).1 with
  | error => rfl
  | ok found =>
    dsimp only [Except.bind]
    cases found.1.resolve found.2 <;> rfl

theorem steady_findSettings (arguments : Arguments) (workingDirectory : String) :
    Steady (findSettings access arguments workingDirectory) :=
  fun state => congrArg Prod.snd (findSettings_apply h arguments workingDirectory state)

theorem steady_loadManifest (settings : RunSettings) : Steady (loadManifest access settings) := by
  rw [loadManifest]
  cases settings.manifest? with
  | none => exact .pure _
  | some path =>
    refine (h.readText? path).bind fun text? => ?_
    cases text? with
    | none => exact .pure _
    | some text =>
      dsimp only
      cases Manifest.ofText text <;> exact .pure _

/-- A file that spells a manifest is read as it. -/
theorem loadManifest_of_ofText {settings : RunSettings} {path text : String} {manifest : Manifest}
    {state : σ} (hpath : settings.manifest? = some path)
    (hread : (access.readText? path state).1 = some text)
    (htext : Manifest.ofText text = .ok manifest) :
    (loadManifest access settings state).1 = .ok manifest := by
  rw [loadManifest, hpath]
  dsimp only
  rw [(h.readText? path).bind_apply, hread]
  dsimp only
  rw [htext]
  rfl

end

/-! ## The program -/

/-- How the program ends after a run. -/
def ProgramEnd.ofRun (arguments : Arguments) (terminal : Terminal) :
    Except RunError RunResult → ProgramEnd
  | .error error => .failure error
  | .ok result => .done (result.output arguments terminal)

section

variable {access : FileAccess (StateM σ)}

/-- What is printed is the configuration that the run goes by. -/
theorem program_showConfig (h : access.Observant) {arguments : Arguments} {argv : List String}
    (hargv : Arguments.ofList argv = .ok arguments) (hshow : arguments.showConfig = true)
    (terminal : Terminal) (workingDirectory : String) (state : σ) :
    program access terminal workingDirectory argv state =
      (match (effectiveConfiguration access arguments workingDirectory state).1 with
        | .error error => .failure error
        | .ok (configuration, _) => .done ⟨0, configuration.toJson.pretty ++ "\n", ""⟩, state) := by
  rw [program, hargv]
  dsimp only
  rw [if_pos hshow, (steady_effectiveConfiguration h _ _).bind_apply]
  rcases (effectiveConfiguration access arguments workingDirectory state).1 with _ | ⟨_, _⟩ <;> rfl

/-- What comes of a run is printed. -/
theorem program_of_run {arguments : Arguments} {argv : List String}
    (hargv : Arguments.ofList argv = .ok arguments) (hshow : arguments.showConfig = false)
    (terminal : Terminal) {workingDirectory : String} {state after : σ}
    {result : Except RunError RunResult}
    (hrun : run access arguments workingDirectory (!arguments.listTargets) state =
      (result, after)) :
    program access terminal workingDirectory argv state =
      (ProgramEnd.ofRun arguments terminal result, after) := by
  rw [program, hargv]
  dsimp only
  rw [if_neg (by simp [hshow]), bind_apply, hrun]
  cases result <;> rfl

end

/-! ## File trees -/

/-- Looking at a file tree does not change it. -/
theorem FileTree.observant : FileTree.access.Observant where
  isDirectory := FileTree.snd_access_isDirectory
  isFile path tree := by
    dsimp only [FileTree.access]
    rw [TypeWitness.bind_apply]
    generalize FileTree.find? _ path = found
    rcases found with _ | _ | _ <;> rfl
  readText? path tree := by
    dsimp only [FileTree.access]
    rw [TypeWitness.bind_apply]
    generalize FileTree.find? _ path = found
    rcases found with _ | _ | _ <;> rfl

end TypeWitness
