import PacketBrowser.Client.Config

/-!
# The library of the configuration file

The library that reads and writes INI files is a parameter. It returns what was set, for
values without line breaks, comment characters or white space around them. A configuration
whose texts are of that kind is saved as such values, and read back as it was.
-/

namespace PacketBrowser.Client

open Protocol Foundation

section Library

/-- The library reads a file, or says why not, and writes one. -/
structure IniLibrary (File : Type) where
  load : File → Except Text Ini
  write : Ini → File

/-- Neither a line break nor the mark of a comment. -/
def ordinary (c : Char) : Bool := c != '\n' && c != '\r' && c != ';' && c != '#'

/-- Anything but white space. -/
def visible (c : Char) : Bool := !Text.whitespace c

/-- A value without line breaks, comment characters or white space around it. -/
structure PlainText (v : Text) : Prop where
  ordinary : v.all ordinary = true
  front : v.head?.all visible = true
  back : v.getLast?.all visible = true

/-- Each value that the file holds is plain. -/
def Ini.Clean (ini : Ini) : Prop := ∀ heading key, ∀ v ∈ ini.get heading key, PlainText v

/-- Of a configuration whose texts are plain the library reads what was set. -/
def IniLibrary.Faithful {File : Type} (library : IniLibrary File) : Prop :=
  ∀ config : FileConfig, config.save.Clean →
    library.load (library.write config.save) = .ok config.save

/-- A library whose files are what they hold. -/
def directLibrary : IniLibrary Ini := ⟨.ok, id⟩

/-- It reads whatever was set. -/
theorem direct_faithful : directLibrary.Faithful := fun _ _ => rfl

end Library

section Plain

/-- A text among the settings is plain. The other settings have no text of their own. -/
def Value.Plain : Value → Prop
  | .text v => PlainText v
  | .dir v => ∀ d ∈ v, PlainText d
  | _ => True

/-- The texts of a configuration are plain. -/
def FileConfig.Plain (config : FileConfig) : Prop := ∀ setting, (config.value setting).Plain

/-- The settings that are texts. -/
def ConfigSetting.texts : List ConfigSetting :=
  [.agwpeHost, .myCallsign, .targetCallsign, .bpqCommand, .cacheDir, .varaCmdHost, .varaDataHost]

/-- A text can be tested character by character. -/
instance decidePlain (v : Text) : Decidable (PlainText v) :=
  decidable_of_iff
    (v.all ordinary = true ∧ v.head?.all visible = true ∧ v.getLast?.all visible = true)
    ⟨fun ⟨inside, front, back⟩ => ⟨inside, front, back⟩,
      fun ⟨inside, front, back⟩ => ⟨inside, front, back⟩⟩

/-- A value can be tested like the text in it. -/
instance decidePlainValue : ∀ value : Value, Decidable value.Plain
  | .text v => inferInstanceAs (Decidable (PlainText v))
  | .dir v => decidable_of_iff (∀ d ∈ v.toList, PlainText d) (by simp [Value.Plain])
  | .port _ => .isTrue trivial
  | .number _ => .isTrue trivial
  | .flag _ => .isTrue trivial
  | .transport _ => .isTrue trivial
  | .mode _ => .isTrue trivial
  | .bandwidth _ => .isTrue trivial

/-- Only the settings that are texts have to be tested. -/
instance decidePlainConfig (config : FileConfig) : Decidable config.Plain :=
  decidable_of_iff (∀ setting ∈ ConfigSetting.texts, (config.value setting).Plain) (by
    constructor
    · intro texts setting
      cases setting
      case agwpeHost | myCallsign | targetCallsign | bpqCommand | cacheDir | varaCmdHost |
          varaDataHost =>
        exact texts _ (by decide)
      all_goals exact trivial
    · exact fun plain setting _ => plain setting)

/-- A text of such characters only has none at its ends either. -/
theorem plain_of_solid {v : Text}
    (solid : ∀ c ∈ v, ordinary c = true ∧ visible c = true) : PlainText v := by
  constructor
  · exact List.all_eq_true.mpr fun c member => (solid c member).1
  · cases first : v.head? with
    | none => rfl
    | some c => exact (solid c (List.mem_of_mem_head? first)).2
  · cases last : v.getLast? with
    | none => rfl
    | some c => exact (solid c (List.mem_of_mem_getLast? last)).2

/-- A digit is neither white space nor the mark of a comment. -/
theorem digit_solid {c : Char} (digit : c.isDigit = true) :
    ordinary c = true ∧ visible c = true := by
  have range : 48 ≤ c.toNat ∧ c.toNat ≤ 57 := by
    simp only [Char.isDigit, Bool.and_eq_true, decide_eq_true_eq] at digit
    exact ⟨digit.1, digit.2⟩
  constructor
  · have other : ∀ mark : Char, mark.toNat < 48 ∨ 57 < mark.toNat → c ≠ mark := by
      rintro mark outside rfl
      omega
    simp [ordinary, other '\n' (by decide), other '\r' (by decide), other ';' (by decide),
      other '#' (by decide)]
  · simp only [visible, Text.whitespace, Bool.not_eq_true', Bool.or_eq_false_iff,
      Bool.and_eq_false_iff, decide_eq_false_iff_not, beq_eq_false_iff_ne]
    omega

/-- A number is plain. -/
theorem plain_print (value : Nat) : PlainText (Decimal.printNat value) :=
  plain_of_solid fun c member => digit_solid (Decimal.print_digit value c member)

/-- A truth value is plain. -/
theorem plain_flag (flag : Bool) : PlainText (displayFlag flag) := by
  cases flag <;> decide

/-- A kind of transport is plain. -/
theorem plain_kind (kind : TransportKind) : PlainText kind.display := by
  cases kind <;> decide

/-- A mode is plain. -/
theorem plain_mode (mode : VaraMode) : PlainText mode.display := by
  cases mode <;> decide

/-- A bandwidth is plain. -/
theorem plain_bandwidth (bandwidth : Vara.VaraBandwidth) :
    PlainText (displayBandwidth bandwidth) := by
  cases bandwidth <;> decide

/-- A plain value keeps a file clean. -/
theorem set_clean {ini : Ini} {heading key value : Text} (clean : ini.Clean)
    (plain : PlainText value) : (ini.set heading key value).Clean := by
  intro otherHeading otherKey v found
  rw [set_get] at found
  split at found
  · exact Option.mem_some_iff.mp found ▸ plain
  · exact clean otherHeading otherKey v found

/-- So does a directory, given or not. -/
theorem setDir_clean {ini : Ini} {dir : Option Text} (clean : ini.Clean)
    (plain : (Value.dir dir).Plain) : (ini.setDir dir).Clean := by
  cases dir with
  | none => exact clean
  | some d => exact set_clean clean (plain d rfl)

/-- A configuration whose texts are plain is saved as plain values. -/
theorem save_clean {config : FileConfig} (plain : config.Plain) : config.save.Clean := by
  have empty : Ini.new.Clean := by
    intro heading key v found
    cases found
  unfold FileConfig.save
  apply set_clean _ (plain_bandwidth _)
  apply set_clean _ (plain_mode _)
  apply set_clean _ (plain_print _)
  apply set_clean _ (plain .varaDataHost)
  apply set_clean _ (plain_print _)
  apply set_clean _ (plain .varaCmdHost)
  apply set_clean _ (plain_kind _)
  apply set_clean _ (plain_flag _)
  apply set_clean _ (plain_print _)
  apply setDir_clean _ (plain .cacheDir)
  apply set_clean _ (plain_print _)
  apply set_clean _ (plain_print _)
  apply set_clean _ (plain_flag _)
  apply set_clean _ (plain_flag _)
  apply set_clean _ (plain .bpqCommand)
  apply set_clean _ (plain .targetCallsign)
  apply set_clean _ (plain .myCallsign)
  apply set_clean _ (plain_print _)
  exact set_clean empty (plain .agwpeHost)

/-- A value found, or a default in its place, is plain if both are. -/
theorem plain_getD {found : Option Text} {otherwise : Text} (plain : ∀ v ∈ found, PlainText v)
    (default : PlainText otherwise) : PlainText (found.getD otherwise) := by
  cases found with
  | none => exact default
  | some v => exact plain v rfl

/-- What is read of a clean file is plain. -/
theorem read_plain {ini : Ini} (clean : ini.Clean) : (FileConfig.read ini).Plain := by
  intro setting
  cases setting
  case agwpeHost => exact plain_getD (clean _ _) (by decide)
  case myCallsign => exact plain_getD (clean _ _) (by decide)
  case targetCallsign => exact plain_getD (clean _ _) (by decide)
  case bpqCommand => exact plain_getD (clean _ _) (by decide)
  case varaCmdHost => exact plain_getD (clean _ _) (by decide)
  case varaDataHost => exact plain_getD (clean _ _) (by decide)
  case cacheDir =>
    intro d kept
    exact clean _ _ d (Option.mem_filter_iff.mp kept).1
  all_goals exact trivial
/-- A configuration whose texts are plain is read back as it was. -/
theorem IniLibrary.Faithful.reads {File : Type} {library : IniLibrary File}
    (faithful : library.Faithful) {config : FileConfig} (plain : config.Plain) :
    library.load (library.write config.save) = .ok config.save :=
  faithful config (save_clean plain)

end Plain

end PacketBrowser.Client
