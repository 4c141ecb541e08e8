import TypeWitness.CommandLine.Arguments

/-! # A switch in front of the other arguments
A command line that can be carried out, and that does not say yet that no files are to be written,
can say so before everything else. Nothing that comes later looks at the switch, so the arguments
are taken in the same way.

* `Arguments.ofList_noEmit` — what a command line says with the switch in front of it. -/

namespace TypeWitness

/-- The same command line, which says that no files are to be written. -/
def Arguments.withNoEmit (arguments : Arguments) : Arguments := { arguments with noEmit := true }

/-- Values are stored alike with the switch and without it. -/
theorem Setting.store_withNoEmit (setting : Setting) (arguments : Arguments) (value : String) :
    setting.store arguments.withNoEmit value =
      (setting.store arguments value).map (·.withNoEmit) := by
  cases setting with
  | project | outDir | manifest => simp only [store]; cases pathValue value <;> rfl
  | newLine => simp only [store]; cases oneOf newLineNames value <;> rfl
  | signatureStyle => simp only [store]; cases oneOf signatureStyleNames value <;> rfl
  | pretty => simp only [store]; cases oneOf [("true", true), ("false", false)] value <;> rfl
  | holderName => rfl

/-- Storing a value leaves the switch as it is. -/
theorem Setting.noEmit_store (setting : Setting) (arguments : Arguments) (value : String) :
    (setting.store arguments value).map (·.noEmit) =
      (setting.store arguments value).map fun _ => arguments.noEmit := by
  cases setting with
  | project | outDir | manifest => simp only [store]; cases pathValue value <;> rfl
  | newLine => simp only [store]; cases oneOf newLineNames value <;> rfl
  | signatureStyle => simp only [store]; cases oneOf signatureStyleNames value <;> rfl
  | pretty => simp only [store]; cases oneOf [("true", true), ("false", false)] value <;> rfl
  | holderName => rfl

/-- A switch that is turned on after this one is turned on alike without it. -/
theorem Switch.turnOn_withNoEmit {switch : Switch} {arguments next : Arguments}
    (h : switch.turnOn arguments = .ok next) (hnext : next.noEmit = false) :
    arguments.noEmit = false ∧ switch.turnOn arguments.withNoEmit = .ok next.withNoEmit := by
  cases switch with
  | showConfig =>
    simp only [turnOn] at h ⊢
    split at h <;> cases h
    next hshow => exact ⟨hnext, if_neg hshow⟩
  | listTargets =>
    simp only [turnOn] at h ⊢
    split at h <;> cases h
    next hlist => exact ⟨hnext, if_neg hlist⟩
  | noEmit =>
    simp only [turnOn] at h
    split at h <;> cases h
    cases hnext
  | help | version => cases h

namespace ArgumentReader

/-- The same reader, which has read that no files are to be written. -/
def withNoEmit (reader : ArgumentReader) : ArgumentReader :=
  { reader with arguments := reader.arguments.withNoEmit }

/-- A step leads between readers that have read the switch as it leads between readers that have
not. The switch is never turned off again, so it is enough to look at where the step leads. -/
def Follows (step : ArgumentReader → Except UsageStop ArgumentReader) : Prop :=
  ∀ reader next, step reader = .ok next → next.arguments.noEmit = false →
    reader.arguments.noEmit = false ∧ step reader.withNoEmit = .ok next.withNoEmit

theorem Follows.bind {step step' : ArgumentReader → Except UsageStop ArgumentReader}
    (h : Follows step) (h' : Follows step') : Follows fun reader => step reader >>= step' := by
  intro reader next hnext hfalse
  dsimp only at hnext ⊢
  cases hmiddle : step reader with
  | error => rw [hmiddle] at hnext; cases hnext
  | ok middle =>
    rw [hmiddle] at hnext
    obtain ⟨hmiddleFalse, hlater⟩ := h' middle next hnext hfalse
    obtain ⟨hreaderFalse, hfirst⟩ := h reader middle hmiddle hmiddleFalse
    refine ⟨hreaderFalse, ?_⟩
    rw [hfirst]
    exact hlater

/-! ## One argument -/

theorem follows_store (setting : Setting) (value : String) : Follows (store · setting value) := by
  intro reader next hnext hfalse
  dsimp only [store] at hnext ⊢
  have hstored : setting.isStored reader.withNoEmit.arguments =
      setting.isStored reader.arguments := by cases setting <;> rfl
  have hstore := setting.store_withNoEmit reader.arguments value
  have hswitch := setting.noEmit_store reader.arguments value
  rw [hstored]
  split at hnext
  · cases hnext
  · next hisStored =>
    rw [if_neg hisStored]
    cases harguments : setting.store reader.arguments value with
    | error => rw [harguments] at hnext; cases hnext
    | ok arguments =>
      rw [harguments] at hnext hstore hswitch
      cases hnext
      -- the value is stored among arguments that have the switch as well
      refine ⟨(Except.ok.inj hswitch).symm.trans hfalse, ?_⟩
      change (do return { reader.withNoEmit with
        arguments := ← setting.store reader.arguments.withNoEmit value, pending? := none }) = _
      rw [hstore]
      rfl

theorem follows_settle : Follows settle := by
  rintro ⟨arguments, _ | ⟨setting, _ | value⟩, escaped, hasPositional⟩ next hnext hfalse
  · cases hnext
    exact ⟨hfalse, rfl⟩
  · cases hnext
  · exact follows_store setting value _ next hnext hfalse

theorem follows_takeOption (kind : Parameter.Kind) (attached? : Option String) :
    Follows (takeOption · kind attached?) := by
  rcases kind with switch | setting <;> rcases attached? with _ | value
  · refine follows_settle.bind fun reader next hnext hfalse => ?_
    cases harguments : switch.turnOn reader.arguments with
    | error => rw [harguments] at hnext; cases hnext
    | ok arguments =>
      rw [harguments] at hnext
      cases hnext
      obtain ⟨hreader, hturnOn⟩ := Switch.turnOn_withNoEmit harguments hfalse
      refine ⟨hreader, ?_⟩
      change (do return { reader.withNoEmit with
        arguments := ← switch.turnOn reader.arguments.withNoEmit }) = _
      rw [hturnOn]
      rfl
  · exact fun _ _ hnext => nomatch hnext
  · refine follows_settle.bind fun reader next hnext hfalse => ?_
    cases hnext
    exact ⟨hfalse, rfl⟩
  · exact follows_settle.bind (follows_store setting value)

theorem follows_takeLong (text : List Char) : Follows (takeLong · text) := by
  unfold takeLong
  dsimp only
  cases longNames.lookup (String.ofList (text.takeWhile (· != '='))) with
  | none => exact fun _ _ hnext => nomatch hnext
  | some kind => exact follows_takeOption kind _

theorem follows_takeShort (text : List Char) : Follows (takeShort · text) := by
  induction text with
  | nil =>
    intro reader next hnext hfalse
    cases hnext
    exact ⟨hfalse, rfl⟩
  | cons c rest ih =>
    unfold takeShort
    rcases shortNames.lookup c with _ | switch | setting
    · exact fun _ _ hnext => nomatch hnext
    · exact (follows_takeOption (.switch switch) none).bind ih
    · exact follows_takeOption (.setting setting) _

/-- Take in an argument that stands by itself. -/
def takePositional (value : String) (reader : ArgumentReader) : Except UsageStop ArgumentReader :=
  if reader.hasPositional then .error .unknownArgument
  else do
    let reader ← reader.settle
    return { reader with pending? := some ⟨.manifest, some value⟩, hasPositional := true }

theorem follows_takePositional (value : String) : Follows (takePositional value) := by
  rintro ⟨arguments, pending?, escaped, _ | _⟩ next hnext hfalse
  · refine follows_settle.bind ?_ ⟨arguments, pending?, escaped, false⟩ next hnext hfalse
    intro reader next hnext hfalse
    cases hnext
    exact ⟨hfalse, rfl⟩
  · cases hnext

theorem follows_takeValue (value : String) : Follows (takeValue · value) := by
  rintro ⟨arguments, _ | ⟨setting, _ | earlier⟩, _ | _, hasPositional⟩ next hnext hfalse
  case some.none.false =>
    cases hnext
    exact ⟨hfalse, rfl⟩
  all_goals exact follows_takePositional value _ next hnext hfalse

theorem follows_take (argument : String) : Follows (take · argument) := by
  rintro ⟨arguments, pending?, _ | _, hasPositional⟩ next hnext hfalse
  · dsimp only [take, withNoEmit] at hnext ⊢
    rw [if_neg Bool.false_ne_true] at hnext ⊢
    -- the cases of what an argument is are the same for both readers
    split at hnext
    · cases hnext
      exact ⟨hfalse, rfl⟩
    · next text _ _ => exact follows_takeLong text _ next hnext hfalse
    · next c text _ _ _ => exact follows_takeShort (c :: text) _ next hnext hfalse
    · exact follows_takeValue argument _ next hnext hfalse
  · exact follows_takeValue argument _ next hnext hfalse

theorem follows_foldlM (argv : List String) : Follows (argv.foldlM take) := by
  induction argv with
  | nil =>
    intro reader next hnext hfalse
    cases hnext
    exact ⟨hfalse, rfl⟩
  | cons argument argv ih =>
    simp only [List.foldlM_cons]
    exact (follows_take argument).bind ih

end ArgumentReader

theorem Arguments.ofList_eq (argv : List String) :
    Arguments.ofList argv =
      (argv.foldlM ArgumentReader.take .initial >>= ArgumentReader.settle).map (·.arguments) := by
  rw [ofList]
  cases argv.foldlM ArgumentReader.take .initial with
  | error => rfl
  | ok reader =>
    dsimp only [bind, Except.bind]
    cases reader.settle <;> rfl

/-- **What a command line says with the switch in front of it**: the same, but that no files are to
be written. -/
theorem Arguments.ofList_noEmit {argv : List String} {arguments : Arguments}
    (h : Arguments.ofList argv = .ok arguments) (hfalse : arguments.noEmit = false) :
    Arguments.ofList ("--noEmit" :: argv) = .ok arguments.withNoEmit := by
  rw [ofList_eq] at h ⊢
  cases hreader : argv.foldlM ArgumentReader.take .initial >>= ArgumentReader.settle with
  | error => rw [hreader] at h; cases h
  | ok reader =>
    rw [hreader] at h
    cases h
    obtain ⟨-, hswitched⟩ := (ArgumentReader.follows_foldlM argv).bind
      ArgumentReader.follows_settle .initial reader hreader hfalse
    have hfirst : ArgumentReader.initial.take "--noEmit" =
        .ok ArgumentReader.initial.withNoEmit := rfl
    rw [List.foldlM_cons, hfirst]
    exact congrArg (Except.map (·.arguments)) hswitched

end TypeWitness
