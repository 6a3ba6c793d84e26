import PacketBrowser.Client.Updates

/-!
# What remains of the configuration file

At the start a configuration is read from a file, and the flags of the command line
override it. Each accepted request to change it then saves all of it. A setting that no
request names travels from the file through all of this into the file.
-/

namespace PacketBrowser.Client

open Protocol Foundation

section Start

/-- What is passed on the command line. -/
structure Flags where
  config : Option Text
  agwpeHost : Option Text
  agwpePort : Option UInt16
  bpqCommand : Option Text

/-- What is given on the command line. -/
structure CliArgs where
  configPath : Option Text
  agwpeHost : Option Text
  agwpePort : Option UInt16
  bpqCommand : Option Text

/-- The command has a default. -/
def CliArgs.parse (flags : Flags) : CliArgs :=
  ⟨flags.config, flags.agwpeHost, flags.agwpePort, some (flags.bpqCommand.getD "WEB".toList)⟩

/-- A start that passes no flag but the path of the file. -/
def CliArgs.withoutFlags (config : Option Text) : CliArgs := .parse ⟨config, none, none, none⟩

variable {File : Type} (library : IniLibrary File) (disk : Text → Option File)

/-- The file that is named, or the usual one. -/
def CliArgs.path (cli : CliArgs) (defaultPath : Except ConfigError Text) :
    Except ConfigError Text :=
  match cli.configPath with
  | some path => .ok path
  | none => defaultPath

/-- Override what is given. -/
def CliArgs.override (cli : CliArgs) (config : FileConfig) : FileConfig :=
  { config with
    agwpeHost := cli.agwpeHost.getD config.agwpeHost
    agwpePort := cli.agwpePort.getD config.agwpePort
    bpqCommand := cli.bpqCommand.getD config.bpqCommand }

/-- The configuration of a start: what is in the file, with the flags over it. -/
def CliArgs.resolveConfig (cli : CliArgs) (defaultPath : Except ConfigError Text) :
    Except ConfigError FileConfig := do
  let path ← cli.path defaultPath
  let config ← FileConfig.load ((disk path).map library.load)
  return cli.override config

/-- What the library reads at the start. A file that does not exist holds nothing. -/
def OpensAs (path : Text) (original : Ini) : Prop :=
  match disk path with
  | some file => library.load file = .ok original
  | none => original = Ini.new

end Start

section Requests

/-- A request, and what the system answers while it is served. -/
structure PostCall where
  update : ConfigUpdate
  path : Except ConfigError Text
  saving : Text → Except ConfigError Unit

/-- The request is answered with success. -/
def PostCall.accepted (call : PostCall) : Bool :=
  match call.path with
  | .ok path => (call.saving path).toBool
  | .error _ => false

/-- Serve a request. -/
def PostCall.serve (stored : Stored) (call : PostCall) : Stored :=
  (apiConfigPost call.path call.saving stored call.update).1

/-- Serve requests one after another. -/
def serveAll (stored : Stored) (calls : List PostCall) : Stored := calls.foldl PostCall.serve stored

/-- The value of the latest accepted request that names the setting. -/
def latest (calls : List PostCall) (setting : ConfigSetting) : Option Value :=
  (calls.reverse.filter PostCall.accepted).findSome? fun call => call.update.value setting

/-- A request that is accepted changes the configuration and its file. -/
theorem serve_accepted {stored : Stored} {call : PostCall} (accepted : call.accepted = true) :
    call.serve stored =
      ⟨call.update.apply stored.config, some (call.update.apply stored.config).save⟩ := by
  unfold PostCall.accepted at accepted
  unfold PostCall.serve apiConfigPost
  cases known : call.path with
  | error err =>
    rw [known] at accepted
    cases accepted
  | ok path =>
    rw [known] at accepted
    cases saving : call.saving path with
    | error err => simp [saving, Except.toBool] at accepted
    | ok done => simp [saving]

/-- A request that is rejected changes nothing. -/
theorem serve_rejected {stored : Stored} {call : PostCall} (rejected : call.accepted = false) :
    call.serve stored = stored := by
  unfold PostCall.accepted at rejected
  unfold PostCall.serve apiConfigPost
  cases known : call.path with
  | error err => rfl
  | ok path =>
    rw [known] at rejected
    cases saving : call.saving path with
    | error err => simp [saving]
    | ok done => simp [saving, Except.toBool] at rejected

variable {stored : Stored} {calls : List PostCall}

/-- After any requests a setting has the value of the latest that names it. -/
theorem serveAll_value (setting : ConfigSetting) : (serveAll stored calls).config.value setting =
    (latest calls setting).getD (stored.config.value setting) := by
  induction calls using List.reverseRecOn with
  | nil => rfl
  | append_singleton calls call inductionHypothesis =>
    have last : serveAll stored (calls ++ [call]) = call.serve (serveAll stored calls) := by
      simp [serveAll]
    rw [last]
    cases accepted : call.accepted with
    | true =>
      rw [serve_accepted accepted, apply_value, inductionHypothesis]
      cases named : call.update.value setting <;> simp [latest, accepted, named]
    | false =>
      rw [serve_rejected accepted, inductionHypothesis]
      simp [latest, accepted]

/-- What was saved last is the configuration. -/
theorem serveAll_saved (begun : ∀ ini ∈ stored.saved, ini = stored.config.save) :
    ∀ ini ∈ (serveAll stored calls).saved, ini = (serveAll stored calls).config.save := by
  induction calls generalizing stored with
  | nil => exact begun
  | cons call calls inductionHypothesis =>
    apply inductionHypothesis
    cases accepted : call.accepted with
    | true =>
      rw [serve_accepted accepted]
      intro ini saved
      exact (Option.mem_some_iff.mp saved).symm
    | false =>
      rw [serve_rejected accepted]
      exact begun

end Requests

section Texts

/-- The texts that a request names are plain. -/
def ConfigUpdate.Plain (update : ConfigUpdate) : Prop :=
  ∀ setting, ∀ value ∈ update.value setting, value.Plain

/-- Plain values leave a plain configuration plain. -/
theorem apply_plain {update : ConfigUpdate} {config : FileConfig} (named : update.Plain)
    (plain : config.Plain) : (update.apply config).Plain := by
  intro setting
  rw [apply_value]
  cases given : update.value setting with
  | none => exact plain setting
  | some value => exact named setting value given

/-- Requests that name plain texts leave the configuration plain. -/
theorem serveAll_plain {stored : Stored} {calls : List PostCall} (plain : stored.config.Plain)
    (named : ∀ call ∈ calls, call.accepted = true → call.update.Plain) :
    (serveAll stored calls).config.Plain := by
  induction calls generalizing stored with
  | nil => exact plain
  | cons call calls inductionHypothesis =>
    apply inductionHypothesis
    · cases accepted : call.accepted with
      | true =>
        rw [serve_accepted accepted]
        exact apply_plain (named call List.mem_cons_self accepted) plain
      | false =>
        rw [serve_rejected accepted]
        exact plain
    · exact fun later member => named later (List.mem_cons_of_mem _ member)

end Texts

section Results

variable {File : Type} (library : IniLibrary File)

/-- The settings at the start are those of the file. After any requests each setting of the
file that was saved last is that of the latest accepted request that names it, or else that
of the original file, and the library reads from it what was set if the requests name plain
texts. -/
def Persists (original : Ini) (config : FileConfig) : Prop :=
  (∀ setting, original.value setting = some (config.value setting)) ∧
  ∀ calls, ∀ saved ∈ (serveAll ⟨config, none⟩ calls).saved,
    (∀ setting, saved.value setting = (latest calls setting).or (original.value setting)) ∧
    ((∀ call ∈ calls, call.accepted = true → call.update.Plain) →
      library.load (library.write saved) = .ok saved)

/-- The file holds readable settings only, and the command is the default or absent. -/
def Untouched (original : Ini) : Prop :=
  (∀ setting, ∀ v ∈ original.entry setting, setting.readable v = true) ∧
  original.value .bpqCommand = some (.text "WEB".toList)

/-- Without flags only the command is overridden. -/
theorem override_value {config : FileConfig} {path : Option Text} {setting : ConfigSetting} :
    ((CliArgs.withoutFlags path).override config).value setting =
      if setting = .bpqCommand then .text "WEB".toList else config.value setting := by
  cases setting <;> rfl

/-- A start without flags reads what the file opens as. -/
theorem resolved {disk : Text → Option File} {defaultPath : Except ConfigError Text}
    {configPath : Option Text} {path : Text} {original : Ini} {config : FileConfig}
    (located : (CliArgs.withoutFlags configPath).path defaultPath = .ok path)
    (opens : OpensAs library disk path original)
    (started : (CliArgs.withoutFlags configPath).resolveConfig library disk defaultPath =
      .ok config) :
    config = (CliArgs.withoutFlags configPath).override (.read original) := by
  unfold OpensAs at opens
  have loaded : FileConfig.load ((disk path).map library.load) = .ok (.read original) := by
    cases found : disk path with
    | none =>
      simp only [found] at opens
      rw [opens]
      rfl
    | some file =>
      simp only [found] at opens
      rw [Option.map_some, opens]
      rfl
  simp only [CliArgs.resolveConfig, located, bind, Except.bind, loaded] at started
  exact (Except.ok.inj started).symm

/-- Without flags the settings persist exactly if the file holds nothing that is not read as
it is meant, and no other command than the default.

A setting takes effect exactly if it reads as it is written, and the command always is the
default. What is saved is the configuration as the accepted requests have left it, which the
library reads back where it is plain. -/
theorem persists_iff (faithful : library.Faithful) (disk : Text → Option File)
    (defaultPath : Except ConfigError Text) (configPath : Option Text) (path : Text)
    (original : Ini) (config : FileConfig)
    (located : (CliArgs.withoutFlags configPath).path defaultPath = .ok path)
    (opens : OpensAs library disk path original) (clean : original.Clean)
    (started : (CliArgs.withoutFlags configPath).resolveConfig library disk defaultPath =
      .ok config) :
    Persists library original config ↔ Untouched original := by
  have same : ∀ setting, config.value setting =
      if setting = .bpqCommand then .text "WEB".toList
      else (FileConfig.read original).value setting := by
    intro setting
    rw [resolved library located opens started, override_value]
  constructor
  · rintro ⟨effective, _⟩
    constructor
    · intro setting
      by_cases command : setting = .bpqCommand
      · subst command
        intro v _
        rfl
      · apply read_kept_iff.mp
        rw [effective setting, same, if_neg command]
    · rw [effective, same, if_pos rfl]
  · rintro ⟨readable, command⟩
    have effective : ∀ setting, original.value setting = some (config.value setting) := by
      intro setting
      rw [same]
      by_cases default : setting = .bpqCommand
      · rw [if_pos default, default, command]
      · rw [if_neg default]
        exact read_kept_iff.mpr (readable setting)
    have plain : config.Plain := by
      intro setting
      rw [same]
      by_cases default : setting = .bpqCommand
      · rw [if_pos default]
        show PlainText "WEB".toList
        decide
      · rw [if_neg default]
        exact read_plain clean setting
    constructor
    · exact effective
    · intro calls saved last
      have whole : saved = (serveAll ⟨config, none⟩ calls).config.save := by
        apply serveAll_saved _ saved last
        intro ini none
        cases none
      constructor
      · intro setting
        rw [whole, save_value, serveAll_value, effective]
        cases latest calls setting <;> rfl
      · intro named
        rw [whole]
        exact faithful _ (save_clean (serveAll_plain plain named))

/-- A file that holds one setting. -/
def holding (setting : ConfigSetting) (v : Text) : Ini :=
  Ini.new.set setting.place.1.toList setting.place.2.toList v

/-- A file with one plain value is clean. -/
theorem holding_clean {setting : ConfigSetting} {v : Text} (plain : PlainText v) :
    (holding setting v).Clean := by
  apply set_clean _ plain
  intro heading key v found
  cases found

/-- The usual file. -/
def configPath : Except ConfigError Text := .ok "config.ini".toList

/-- A file with the port of the modem. -/
theorem persists_iff_sample :
    Persists directLibrary (holding .agwpePort "9000".toList)
      ((CliArgs.withoutFlags none).override (.read (holding .agwpePort "9000".toList))) := by
  have clean : (holding .agwpePort "9000".toList).Clean := holding_clean (by decide)
  apply (persists_iff directLibrary direct_faithful
    (fun _ => some (holding .agwpePort "9000".toList)) configPath none "config.ini".toList
    (holding .agwpePort "9000".toList) _ rfl rfl clean rfl).mpr
  constructor
  · intro setting v found
    cases setting
    case agwpePort =>
      obtain rfl := Option.mem_some_iff.mp found
      decide
    all_goals cases found
  · decide

/-- The operator has a command of their own. -/
def browseFile : Ini := holding .bpqCommand "BROWSE".toList

/-- The configuration that was read from the file above. -/
def browsingConfig : FileConfig := (CliArgs.withoutFlags none).override (.read browseFile)

/-- A request that names only the host. -/
def hostCall : PostCall := ⟨naming "10.0.0.1".toList, configPath, fun _ => .ok ()⟩

/-- The command is the default from the start on, and it is saved with the next request. -/
theorem command_rewritten :
    browseFile.Clean ∧ directLibrary.Faithful ∧
    (CliArgs.withoutFlags none).resolveConfig directLibrary (fun _ => some browseFile) configPath =
      .ok browsingConfig ∧
    browseFile.value .bpqCommand = some (.text "BROWSE".toList) ∧
    browsingConfig.value .bpqCommand = .text "WEB".toList ∧
    (serveAll ⟨browsingConfig, none⟩ [hostCall]).saved.map (fun ini => ini.value .bpqCommand) =
      some (some (.text "WEB".toList)) ∧
    ¬ Persists directLibrary browseFile browsingConfig := by
  have command : browseFile.value .bpqCommand = some (.text "BROWSE".toList) := by decide
  have effective : browsingConfig.value .bpqCommand = .text "WEB".toList := rfl
  constructor
  · exact holding_clean (by decide)
  constructor
  · exact direct_faithful
  constructor
  · rfl
  constructor
  · exact command
  constructor
  · exact effective
  constructor
  · decide
  · rintro ⟨same, _⟩
    have changed := same .bpqCommand
    rw [command, effective] at changed
    revert changed
    decide

end Results

end PacketBrowser.Client
