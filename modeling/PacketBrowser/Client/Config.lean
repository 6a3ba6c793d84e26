import PacketBrowser.Vara.Codec

/-!
# The configuration file

A configuration is read from an INI file, setting by setting, each with its own reading
and its own default, and written back setting by setting. The library that reads and
writes the file is outside: an INI file is what the library finds under a heading and a
key. All headings and keys are in lower case, which the library ignores.

What a setting says is defined apart from the code that reads it: a text means a number,
a truth value or one of a few words, or it means nothing.
-/

namespace PacketBrowser.Client

open Protocol Vara Foundation

section Types

/-- Nothing but white space. -/
def blank (s : Text) : Bool := (Text.trim s).isEmpty

/-- Which of the two modems. -/
inductive VaraMode where
  | fm
  | hf
  deriving DecidableEq, Repr

/-- The section about connections. -/
structure ConnectionConfig where
  responseTimeoutSecs : UInt64
  autoReconnect : Bool
  deriving DecidableEq, Repr

/-- The directory, where one is given, has a name. -/
structure CacheSection where
  enabled : Bool
  maxBytes : UInt64
  maxTtlSeconds : UInt64
  dir : Option Text
  visible : ∀ d ∈ dir, blank d = false
  deriving DecidableEq

/-- The section about the modem for VARA. -/
structure VaraSection where
  cmdHost : Text
  cmdPort : UInt16
  dataHost : Text
  dataPort : UInt16
  mode : VaraMode
  bandwidth : VaraBandwidth
  deriving DecidableEq, Repr

/-- The configuration, as it is kept in a file. -/
structure FileConfig where
  agwpeHost : Text
  agwpePort : UInt16
  myCallsign : Text
  targetCallsign : Text
  bpqCommand : Text
  skipBpqApp : Bool
  cache : CacheSection
  connection : ConnectionConfig
  transportDefault : TransportKind
  vara : VaraSection
  deriving DecidableEq

/-- Thirty seconds, and a lost session is opened again. -/
def ConnectionConfig.default : ConnectionConfig := ⟨30, true⟩

/-- The cache holds at most 200 MiB. -/
def CacheSection.default : CacheSection := ⟨true, 209715200, 86400, none, by simp⟩

/-- A modem on this host, on its usual ports. -/
def VaraSection.default : VaraSection :=
  ⟨"127.0.0.1".toList, 8300, "127.0.0.1".toList, 8301, .fm, .vWide⟩

/-- What holds where the file says nothing. -/
def FileConfig.default : FileConfig :=
  ⟨"127.0.0.1".toList, 8000, [], [], "WEB".toList, false, .default, .default, .ax25, .default⟩

/-- Why a configuration is not read or written. -/
inductive ConfigError where
  | io (message : Text)
  | parse (message : Text)
  | noConfigDir
  deriving DecidableEq, Repr

/-- The text shown for an error. -/
def ConfigError.display : ConfigError → Text
  | .io message => "IO error: ".toList ++ message
  | .parse message => "Parse error: ".toList ++ message
  | .noConfigDir => "Config directory not found".toList

end Types

section Words

/-- How a kind of transport is written in the file. -/
def TransportKind.display : TransportKind → Text
  | .ax25 => "ax25".toList
  | .varaFm => "vara_fm".toList
  | .varaHf => "vara_hf".toList

/-- How a mode is written in the file. -/
def VaraMode.display : VaraMode → Text
  | .fm => "fm".toList
  | .hf => "hf".toList

/-- How a bandwidth is written in the file. -/
def displayBandwidth : VaraBandwidth → Text
  | .vNarrow => "vnarrow".toList
  | .vWide => "vwide".toList
  | .bw250 => "bw250".toList
  | .bw500 => "bw500".toList
  | .bw2300 => "bw2300".toList
  | .bw2750 => "bw2750".toList

/-- How a flag is written in the file. -/
def displayFlag (flag : Bool) : Text := if flag then "true".toList else "false".toList

/-- The mode that is read, which is the usual one for anything else. -/
def parseVaraMode (s : Text) : VaraMode := if s = "hf".toList then .hf else .fm

/-- The bandwidth that is read, which is the wide one for anything else. -/
def parseVaraBandwidth (s : Text) : VaraBandwidth :=
  if s = "vnarrow".toList then .vNarrow
  else if s = "vwide".toList then .vWide
  else if s = "bw250".toList then .bw250
  else if s = "bw500".toList then .bw500
  else if s = "bw2300".toList then .bw2300
  else if s = "bw2750".toList then .bw2750
  else .vWide

/-- The port that is read, if it is one. -/
def parsePort (v : Text) : Option UInt16 :=
  (Decimal.parseUnsigned UInt16.size v).map UInt16.ofNat

/-- The number that is read, if it is one. -/
def parseNumber (v : Text) : Option UInt64 :=
  (Decimal.parseUnsigned UInt64.size v).map UInt64.ofNat

/-- Only `true` stands for true. Beyond ASCII no letter has one of its letters as its lower
case. -/
def isTrue (v : Text) : Bool := Text.toAsciiLowercase v == "true".toList

/-- One of the words that stand for true. -/
def affirmative (v : Text) : Bool :=
  ["true".toList, "1".toList, "yes".toList, "on".toList].contains (Text.toAsciiLowercase v)

end Words

section Files

/-- What an INI file holds under a heading and a key. -/
structure Ini where
  get : Text → Text → Option Text

/-- Nothing is set. -/
def Ini.new : Ini := ⟨fun _ _ => none⟩

/-- One value is set under a heading. -/
def Ini.set (ini : Ini) (heading key value : Text) : Ini :=
  ⟨fun otherHeading otherKey =>
    if otherHeading = heading ∧ otherKey = key then some value else ini.get otherHeading otherKey⟩

/-- The directory is set where one is given. -/
def Ini.setDir (ini : Ini) : Option Text → Ini
  | some d => ini.set "cache".toList "dir".toList d
  | none => ini

/-- The configuration that a file holds. -/
def FileConfig.read (ini : Ini) : FileConfig where
  agwpeHost := (ini.get "server".toList "agwpe_host".toList).getD "127.0.0.1".toList
  agwpePort := ((ini.get "server".toList "agwpe_port".toList).bind parsePort).getD 8000
  myCallsign := (ini.get "session".toList "my_callsign".toList).getD []
  targetCallsign := (ini.get "session".toList "target_callsign".toList).getD []
  bpqCommand := (ini.get "session".toList "bpq_command".toList).getD "WEB".toList
  skipBpqApp := ((ini.get "session".toList "skip_bpq_app".toList).map isTrue).getD false
  cache :=
    { enabled := ((ini.get "cache".toList "enabled".toList).map affirmative).getD true
      maxBytes := ((ini.get "cache".toList "max_bytes".toList).bind parseNumber).getD 209715200
      maxTtlSeconds :=
        ((ini.get "cache".toList "max_ttl_seconds".toList).bind parseNumber).getD 86400
      dir := (ini.get "cache".toList "dir".toList).filter fun s => !blank s
      visible := fun d kept => by simpa using (Option.mem_filter_iff.mp kept).2 }
  connection :=
    { responseTimeoutSecs :=
        ((ini.get "connection".toList "response_timeout_secs".toList).bind parseNumber).getD 30
      autoReconnect :=
        ((ini.get "connection".toList "auto_reconnect".toList).map affirmative).getD true }
  transportDefault := ((ini.get "transport".toList "default".toList).bind fun v =>
    (TransportKind.parse v).toOption).getD .ax25
  vara :=
    { cmdHost := (ini.get "vara".toList "cmd_host".toList).getD "127.0.0.1".toList
      cmdPort := ((ini.get "vara".toList "cmd_port".toList).bind parsePort).getD 8300
      dataHost := (ini.get "vara".toList "data_host".toList).getD "127.0.0.1".toList
      dataPort := ((ini.get "vara".toList "data_port".toList).bind parsePort).getD 8301
      mode := ((ini.get "vara".toList "mode".toList).map parseVaraMode).getD .fm
      bandwidth :=
        ((ini.get "vara".toList "bandwidth".toList).map parseVaraBandwidth).getD .vWide }

/-- Load a configuration. A file that does not exist holds the defaults. -/
def FileConfig.load : Option (Except Text Ini) → Except ConfigError FileConfig
  | none => .ok .default
  | some (.error message) => .error (.parse message)
  | some (.ok ini) => .ok (.read ini)

/-- What a configuration is saved as. -/
def FileConfig.save (config : FileConfig) : Ini :=
  let ini := Ini.new
  let ini := ini.set "server".toList "agwpe_host".toList config.agwpeHost
  let ini := ini.set "server".toList "agwpe_port".toList (Decimal.printNat config.agwpePort.toNat)
  let ini := ini.set "session".toList "my_callsign".toList config.myCallsign
  let ini := ini.set "session".toList "target_callsign".toList config.targetCallsign
  let ini := ini.set "session".toList "bpq_command".toList config.bpqCommand
  let ini := ini.set "session".toList "skip_bpq_app".toList (displayFlag config.skipBpqApp)
  let ini := ini.set "cache".toList "enabled".toList (displayFlag config.cache.enabled)
  let ini := ini.set "cache".toList "max_bytes".toList
    (Decimal.printNat config.cache.maxBytes.toNat)
  let ini := ini.set "cache".toList "max_ttl_seconds".toList
    (Decimal.printNat config.cache.maxTtlSeconds.toNat)
  let ini := ini.setDir config.cache.dir
  let ini := ini.set "connection".toList "response_timeout_secs".toList
    (Decimal.printNat config.connection.responseTimeoutSecs.toNat)
  let ini := ini.set "connection".toList "auto_reconnect".toList
    (displayFlag config.connection.autoReconnect)
  let ini := ini.set "transport".toList "default".toList config.transportDefault.display
  let ini := ini.set "vara".toList "cmd_host".toList config.vara.cmdHost
  let ini := ini.set "vara".toList "cmd_port".toList (Decimal.printNat config.vara.cmdPort.toNat)
  let ini := ini.set "vara".toList "data_host".toList config.vara.dataHost
  let ini := ini.set "vara".toList "data_port".toList (Decimal.printNat config.vara.dataPort.toNat)
  let ini := ini.set "vara".toList "mode".toList config.vara.mode.display
  ini.set "vara".toList "bandwidth".toList (displayBandwidth config.vara.bandwidth)

/-- The target is another one. -/
def FileConfig.updateTarget (config : FileConfig) (target : Text) : FileConfig :=
  { config with targetCallsign := target }

end Files

section Settings

/-- What a configuration sets. -/
inductive ConfigSetting where
  | agwpeHost
  | agwpePort
  | myCallsign
  | targetCallsign
  | bpqCommand
  | skipBpqApp
  | cacheEnabled
  | cacheMaxBytes
  | cacheMaxTtlSeconds
  | cacheDir
  | responseTimeoutSecs
  | autoReconnect
  | transportDefault
  | varaCmdHost
  | varaCmdPort
  | varaDataHost
  | varaDataPort
  | varaMode
  | varaBandwidth
  deriving DecidableEq, Repr

/-- What a setting can be set to. -/
inductive Value where
  | text (text : Text)
  | port (port : UInt16)
  | number (number : UInt64)
  | flag (flag : Bool)
  | dir (dir : Option Text)
  | transport (kind : TransportKind)
  | mode (mode : VaraMode)
  | bandwidth (bandwidth : VaraBandwidth)
  deriving DecidableEq

/-- The heading and the key of a setting. -/
def ConfigSetting.place : ConfigSetting → String × String
  | .agwpeHost => ("server", "agwpe_host")
  | .agwpePort => ("server", "agwpe_port")
  | .myCallsign => ("session", "my_callsign")
  | .targetCallsign => ("session", "target_callsign")
  | .bpqCommand => ("session", "bpq_command")
  | .skipBpqApp => ("session", "skip_bpq_app")
  | .cacheEnabled => ("cache", "enabled")
  | .cacheMaxBytes => ("cache", "max_bytes")
  | .cacheMaxTtlSeconds => ("cache", "max_ttl_seconds")
  | .cacheDir => ("cache", "dir")
  | .responseTimeoutSecs => ("connection", "response_timeout_secs")
  | .autoReconnect => ("connection", "auto_reconnect")
  | .transportDefault => ("transport", "default")
  | .varaCmdHost => ("vara", "cmd_host")
  | .varaCmdPort => ("vara", "cmd_port")
  | .varaDataHost => ("vara", "data_host")
  | .varaDataPort => ("vara", "data_port")
  | .varaMode => ("vara", "mode")
  | .varaBandwidth => ("vara", "bandwidth")

/-- The value of a setting. -/
def FileConfig.value (config : FileConfig) : ConfigSetting → Value
  | .agwpeHost => .text config.agwpeHost
  | .agwpePort => .port config.agwpePort
  | .myCallsign => .text config.myCallsign
  | .targetCallsign => .text config.targetCallsign
  | .bpqCommand => .text config.bpqCommand
  | .skipBpqApp => .flag config.skipBpqApp
  | .cacheEnabled => .flag config.cache.enabled
  | .cacheMaxBytes => .number config.cache.maxBytes
  | .cacheMaxTtlSeconds => .number config.cache.maxTtlSeconds
  | .cacheDir => .dir config.cache.dir
  | .responseTimeoutSecs => .number config.connection.responseTimeoutSecs
  | .autoReconnect => .flag config.connection.autoReconnect
  | .transportDefault => .transport config.transportDefault
  | .varaCmdHost => .text config.vara.cmdHost
  | .varaCmdPort => .port config.vara.cmdPort
  | .varaDataHost => .text config.vara.dataHost
  | .varaDataPort => .port config.vara.dataPort
  | .varaMode => .mode config.vara.mode
  | .varaBandwidth => .bandwidth config.vara.bandwidth

/-- The words for false, besides those for true. -/
def negative (v : Text) : Bool :=
  ["false".toList, "0".toList, "no".toList, "off".toList].contains (Text.toAsciiLowercase v)

/-- The truth value that a text means, if it means one. -/
def flagMeaning (v : Text) : Option Bool :=
  if affirmative v then some true else if negative v then some false else none

/-- The mode that the text stands for, if it stands for one. -/
def modeMeaning (v : Text) : Option VaraMode :=
  if v = "fm".toList then some .fm else if v = "hf".toList then some .hf else none

/-- The bandwidth that the text stands for, if it stands for one. -/
def bandwidthMeaning (v : Text) : Option VaraBandwidth :=
  [.vNarrow, .vWide, .bw250, .bw500, .bw2300, .bw2750].find? fun bandwidth =>
    displayBandwidth bandwidth = v

/-- The value that a text gives a setting, if it gives it one. A directory without a name is
no directory. -/
def ConfigSetting.meaning : ConfigSetting → Text → Option Value
  | .agwpeHost, v | .myCallsign, v | .targetCallsign, v | .bpqCommand, v
  | .varaCmdHost, v | .varaDataHost, v => some (.text v)
  | .agwpePort, v | .varaCmdPort, v | .varaDataPort, v => (parsePort v).map .port
  | .cacheMaxBytes, v | .cacheMaxTtlSeconds, v | .responseTimeoutSecs, v =>
    (parseNumber v).map .number
  | .skipBpqApp, v | .cacheEnabled, v | .autoReconnect, v => (flagMeaning v).map .flag
  | .cacheDir, v => some (.dir (if blank v then none else some v))
  | .transportDefault, v => (TransportKind.parse v).toOption.map .transport
  | .varaMode, v => (modeMeaning v).map .mode
  | .varaBandwidth, v => (bandwidthMeaning v).map .bandwidth

/-- What a file holds for a setting. -/
def Ini.entry (ini : Ini) (setting : ConfigSetting) : Option Text :=
  ini.get setting.place.1.toList setting.place.2.toList

/-- The value that a file has for a setting, the default where the setting is absent. There
is none if what the file holds means nothing. -/
def Ini.value (ini : Ini) (setting : ConfigSetting) : Option Value :=
  match ini.entry setting with
  | some v => setting.meaning v
  | none => some (FileConfig.default.value setting)

/-- A text is read as what it means: it means something, and a text that means true is not
read as false where only `true` is read as true. -/
def ConfigSetting.readable (setting : ConfigSetting) (v : Text) : Bool :=
  (setting.meaning v).isSome && (setting != .skipBpqApp || !affirmative v || isTrue v)

end Settings

section Reading

variable {ini : Ini} {setting : ConfigSetting} {v : Text}

/-- A setting that is absent is read as its default. -/
theorem read_absent (absent : ini.entry setting = none) :
    (FileConfig.read ini).value setting = FileConfig.default.value setting := by
  cases setting <;>
    simp only [Ini.entry, ConfigSetting.place] at absent <;>
    simp only [FileConfig.read, FileConfig.value, absent, Option.bind_none, Option.map_none,
      Option.getD_none, Option.filter_none] <;>
    rfl

/-- The one word that is true is one of those that affirm. -/
theorem affirmative_of_isTrue (only : isTrue v = true) : affirmative v = true := by
  simp only [isTrue, beq_iff_eq] at only
  simp [affirmative, only]

/-- A text that means something is read as what it means. -/
theorem parsed_iff {Parsed : Type} {parsed : Option Parsed} {value : Parsed → Value}
    (otherwise : Parsed) :
    parsed.map value = some (value (parsed.getD otherwise)) ↔ parsed.isSome := by
  cases parsed <;> simp

/-- A flag is read as meant exactly if the text means one. -/
theorem flag_iff : (flagMeaning v).map Value.flag = some (.flag (affirmative v)) ↔
    (flagMeaning v).isSome := by
  unfold flagMeaning
  split
  · rename_i yes
    simp [yes]
  · rename_i other
    have no : affirmative v = false := by simpa using other
    rw [no]
    split <;> simp

/-- The flag about the application is read as meant exactly if the text means one and says so in
the one word. -/
theorem skip_iff : (flagMeaning v).map Value.flag = some (.flag (isTrue v)) ↔
    (flagMeaning v).isSome ∧ (affirmative v = true → isTrue v = true) := by
  unfold flagMeaning
  cases yes : affirmative v with
  | true => cases isTrue v <;> simp
  | false =>
    have no : isTrue v = false := by
      rw [Bool.eq_false_iff]
      intro only
      rw [affirmative_of_isTrue only] at yes
      cases yes
    cases negative v <;> simp [no]

/-- A mode is read as meant exactly if the text means one. -/
theorem mode_iff : (modeMeaning v).map Value.mode = some (.mode (parseVaraMode v)) ↔
    (modeMeaning v).isSome := by
  unfold modeMeaning parseVaraMode
  split
  · rename_i same
    rw [same]
    simp
  · split <;> simp

/-- Each word stands for one bandwidth. -/
theorem bandwidth_word {bandwidth : VaraBandwidth} :
    bandwidthMeaning v = some bandwidth ↔ displayBandwidth bandwidth = v := by
  constructor
  · intro meant
    simpa using List.find?_some meant
  · rintro rfl
    cases bandwidth <;> decide

/-- A bandwidth is read back from how it is written. -/
theorem parse_bandwidth (bandwidth : VaraBandwidth) :
    parseVaraBandwidth (displayBandwidth bandwidth) = bandwidth := by
  cases bandwidth <;> decide

/-- A bandwidth is read as meant exactly if the text means one. -/
theorem bandwidth_iff :
    (bandwidthMeaning v).map Value.bandwidth = some (.bandwidth (parseVaraBandwidth v)) ↔
      (bandwidthMeaning v).isSome := by
  cases meant : bandwidthMeaning v with
  | none => simp
  | some bandwidth =>
    rw [← bandwidth_word.mp meant, parse_bandwidth]
    simp

/-- A directory is read as meant, where a blank one is none. -/
theorem dir_iff : Value.dir ((some v).filter fun s => !blank s) =
    .dir (if blank v then none else some v) := by
  cases empty : blank v <;> simp [Option.filter, empty]

/-- A text is read as what it means exactly if it is readable. -/
theorem read_present (found : ini.entry setting = some v) :
    setting.meaning v = some ((FileConfig.read ini).value setting) ↔
      setting.readable v = true := by
  cases setting <;>
    simp only [Ini.entry, ConfigSetting.place] at found <;>
    simp only [FileConfig.value, FileConfig.read, found, ConfigSetting.meaning,
      ConfigSetting.readable, Option.getD_some, Option.isSome_some, Option.bind_some,
      Option.map_some, parsed_iff, flag_iff, mode_iff, bandwidth_iff, dir_iff, Option.isSome_map, Bool.and_eq_true, Bool.or_eq_true,
      bne_iff_ne, ne_eq, reduceCtorEq, not_false_eq_true, true_or, and_true, not_true_eq_false,
      false_or, skip_iff, Bool.not_eq_true', Bool.eq_false_iff, ← imp_iff_not_or]

/-- What is read of a setting is what the file has exactly if the text is readable. -/
theorem read_kept_iff : ini.value setting = some ((FileConfig.read ini).value setting) ↔
    ∀ v, ini.entry setting = some v → setting.readable v = true := by
  unfold Ini.value
  cases found : ini.entry setting with
  | none => simp [read_absent found]
  | some v =>
    rw [read_present found]
    simp

end Reading

section Saving

variable {config : FileConfig} {setting : ConfigSetting}

/-- A port is read back from how it is written. -/
theorem parsePort_print (port : UInt16) :
    parsePort (Decimal.printNat port.toNat) = some port := by
  simp [parsePort, Decimal.parse_print_unsigned _ _ port.toNat_lt]

/-- A number is read back from how it is written. -/
theorem parseNumber_print (number : UInt64) :
    parseNumber (Decimal.printNat number.toNat) = some number := by
  simp [parseNumber, Decimal.parse_print_unsigned _ _ number.toNat_lt]

/-- A flag that is written means itself. -/
theorem flagMeaning_display (flag : Bool) : flagMeaning (displayFlag flag) = some flag := by
  cases flag <;> decide

/-- A mode that is written means itself. -/
theorem modeMeaning_display (mode : VaraMode) : modeMeaning mode.display = some mode := by
  cases mode <;> decide

/-- A kind of transport is read back from how it is written. -/
theorem parse_display (kind : TransportKind) :
    (TransportKind.parse kind.display).toOption = some kind := by
  cases kind <;> decide

/-- What is saved for a setting. -/
def FileConfig.written (config : FileConfig) : ConfigSetting → Option Text
  | .agwpeHost => some config.agwpeHost
  | .agwpePort => some (Decimal.printNat config.agwpePort.toNat)
  | .myCallsign => some config.myCallsign
  | .targetCallsign => some config.targetCallsign
  | .bpqCommand => some config.bpqCommand
  | .skipBpqApp => some (displayFlag config.skipBpqApp)
  | .cacheEnabled => some (displayFlag config.cache.enabled)
  | .cacheMaxBytes => some (Decimal.printNat config.cache.maxBytes.toNat)
  | .cacheMaxTtlSeconds => some (Decimal.printNat config.cache.maxTtlSeconds.toNat)
  | .cacheDir => config.cache.dir
  | .responseTimeoutSecs => some (Decimal.printNat config.connection.responseTimeoutSecs.toNat)
  | .autoReconnect => some (displayFlag config.connection.autoReconnect)
  | .transportDefault => some config.transportDefault.display
  | .varaCmdHost => some config.vara.cmdHost
  | .varaCmdPort => some (Decimal.printNat config.vara.cmdPort.toNat)
  | .varaDataHost => some config.vara.dataHost
  | .varaDataPort => some (Decimal.printNat config.vara.dataPort.toNat)
  | .varaMode => some config.vara.mode.display
  | .varaBandwidth => some (displayBandwidth config.vara.bandwidth)

/-- What is set is got, and everything else as before. -/
theorem set_get {ini : Ini} {heading key otherHeading otherKey value : Text} :
    (ini.set heading key value).get otherHeading otherKey =
      if otherHeading = heading ∧ otherKey = key then some value
      else ini.get otherHeading otherKey := rfl

/-- What is saved holds the setting as it is written. -/
theorem save_entry : config.save.entry setting = config.written setting := by
  unfold FileConfig.save Ini.entry
  cases setting <;> cases dir : config.cache.dir <;>
    simp [set_get, ConfigSetting.place, FileConfig.written, dir, Ini.setDir, Ini.new]

/-- A saved configuration has the values that it was saved with. -/
theorem save_value : config.save.value setting = some (config.value setting) := by
  unfold Ini.value
  rw [save_entry]
  cases setting <;>
    simp only [FileConfig.written, ConfigSetting.meaning, FileConfig.value, parsePort_print,
      parseNumber_print, flagMeaning_display, modeMeaning_display, parse_display, Option.map_some,
      bandwidth_word.mpr rfl]
  cases dir : config.cache.dir with
  | none => rfl
  | some d => simp [config.cache.visible d dir]

end Saving

end PacketBrowser.Client
