import PacketBrowser.Client.Files
import PacketBrowser.Foundation.Machine

/-!
# Updates of the configuration

A request to change the configuration names some of its fields. The handler copies the
configuration under the lock, changes the copy, saves it, and puts it in the place of the
configuration under the lock again. Opening a session sets the target under the lock.

Between copy and replacement the lock is free, so requests overlap. What a request does
not name it takes from its copy, whatever has been changed since.

What the file holds is what the library reads of it, and a text that is not plain is not
read as it was set.
-/

namespace PacketBrowser.Client

open Protocol Foundation Machine

section Handler

/-- The fields that a request names. -/
structure ConfigUpdate where
  agwpeHost : Option Text
  agwpePort : Option UInt16
  myCallsign : Option Text
  targetCallsign : Option Text
  bpqCommand : Option Text
  skipBpqApp : Option Bool
  deriving DecidableEq

/-- Change the fields that are named. -/
def ConfigUpdate.apply (update : ConfigUpdate) (config : FileConfig) : FileConfig :=
  { config with
    agwpeHost := update.agwpeHost.getD config.agwpeHost
    agwpePort := update.agwpePort.getD config.agwpePort
    myCallsign := update.myCallsign.getD config.myCallsign
    targetCallsign := update.targetCallsign.getD config.targetCallsign
    bpqCommand := update.bpqCommand.getD config.bpqCommand
    skipBpqApp := update.skipBpqApp.getD config.skipBpqApp }

/-- What an update gives a setting, if it names it. -/
def ConfigUpdate.value (update : ConfigUpdate) : ConfigSetting → Option Value
  | .agwpeHost => update.agwpeHost.map .text
  | .agwpePort => update.agwpePort.map .port
  | .myCallsign => update.myCallsign.map .text
  | .targetCallsign => update.targetCallsign.map .text
  | .bpqCommand => update.bpqCommand.map .text
  | .skipBpqApp => update.skipBpqApp.map .flag
  | _ => none

/-- The configuration in memory, and what the last save that succeeded gave the library to
write. -/
structure Stored where
  config : FileConfig
  saved : Option Ini

/-- Serve one request, with nothing in between. Whether the path of the file is known and
whether the file can be saved is up to the system. -/
def apiConfigPost (path : Except ConfigError Text) (saving : Text → Except ConfigError Unit)
    (stored : Stored) (update : ConfigUpdate) : Stored × Except Text Unit :=
  match path with
  | .error err => (stored, .error ("Failed to get config path: ".toList ++ err.display))
  | .ok path =>
    let config := update.apply stored.config
    match saving path with
    | .ok () => (⟨config, some config.save⟩, .ok ())
    | .error err => (stored, .error ("Failed to save config: ".toList ++ err.display))

/-- An update changes what it names. -/
theorem apply_value {update : ConfigUpdate} {config : FileConfig} {setting : ConfigSetting} :
    (update.apply config).value setting = (update.value setting).getD (config.value setting) := by
  cases setting <;> simp only [ConfigUpdate.apply, ConfigUpdate.value, FileConfig.value,
    Option.getD_none]
  case agwpeHost => cases update.agwpeHost <;> rfl
  case agwpePort => cases update.agwpePort <;> rfl
  case myCallsign => cases update.myCallsign <;> rfl
  case targetCallsign => cases update.targetCallsign <;> rfl
  case bpqCommand => cases update.bpqCommand <;> rfl
  case skipBpqApp => cases update.skipBpqApp <;> rfl

/-- The target is the one setting that a connect request changes. -/
theorem updateTarget_value {config : FileConfig} {target : Text} {setting : ConfigSetting} :
    (config.updateTarget target).value setting =
      if setting = .targetCallsign then .text target else config.value setting := by
  cases setting <;> rfl

end Handler

section Steps

/-- How far a request is, with its copy of the configuration. -/
inductive Phase where
  | editing (config : FileConfig)
  | written (config : FileConfig)
  | accepted
  | rejected
  deriving DecidableEq

/-- The request holds a copy of the configuration. -/
def Phase.isEditing : Phase → Bool
  | .editing _ => true
  | _ => false

/-- The request has written its copy to the file. -/
def Phase.isWritten : Phase → Bool
  | .written _ => true
  | _ => false

/-- The request has been accepted. -/
def Phase.isAccepted : Phase → Bool
  | .accepted => true
  | _ => false

/-- The file was saved. -/
def Phase.isSaved (phase : Phase) : Bool := phase.isWritten || phase.isAccepted

/-- The file is still to be saved or the copy still to be stored. -/
def Phase.isUnderWay (phase : Phase) : Bool := phase.isEditing || phase.isWritten

/-- The texts of a copy that is still to be saved are plain. -/
def Phase.Plain : Phase → Prop
  | .editing config => config.Plain
  | _ => True

instance decidePlainPhase : ∀ phase : Phase, Decidable phase.Plain
  | .editing config => inferInstanceAs (Decidable config.Plain)
  | .written _ | .accepted | .rejected => .isTrue trivial

/-- A request, and how far it is. -/
structure Posting where
  update : ConfigUpdate
  phase : Phase
  deriving DecidableEq

/-- The configuration and the requests to change it. -/
structure Desk extends Stored where
  postings : List Posting
  /-- The target that was set by opening a session, unless a request that names the target
  was stored since. -/
  retargeted : Option Text

/-- A configuration that no request has touched. -/
def Desk.initial (config : FileConfig) : Desk := ⟨⟨config, none⟩, [], none⟩

/-- A request for which no path is known ends before it takes a step. -/
inductive DeskAction where
  /-- A request copies the configuration and changes the copy. -/
  | clone (update : ConfigUpdate)
  /-- It saves the copy, if the system can. -/
  | save (index : Nat) (saving : Except ConfigError Unit)
  /-- It puts the copy in the place of the configuration. -/
  | store (index : Nat)
  | updateTarget (target : Text)

/-- A step of a request, or of opening a session; none if it is not possible. -/
def Desk.step (desk : Desk) : DeskAction → Option Desk
  | .clone update =>
    some { desk with postings := desk.postings ++ [⟨update, .editing (update.apply desk.config)⟩] }
  | .save index saving =>
    match desk.postings[index]?, saving with
    | some ⟨update, .editing config⟩, .ok () =>
      some { desk with
        saved := some config.save
        postings := desk.postings.set index ⟨update, .written config⟩ }
    | some ⟨update, .editing _⟩, .error _ =>
      some { desk with postings := desk.postings.set index ⟨update, .rejected⟩ }
    | _, _ => none
  | .store index =>
    match desk.postings[index]? with
    | some ⟨update, .written config⟩ =>
      some { desk with
        config := config
        postings := desk.postings.set index ⟨update, .accepted⟩
        retargeted := if update.targetCallsign.isSome then none else desk.retargeted }
    | _ => none
  | .updateTarget target =>
    some { desk with config := desk.config.updateTarget target, retargeted := some target }

/-- The request names the setting. -/
def ConfigUpdate.names (update : ConfigUpdate) (setting : ConfigSetting) : Bool :=
  (update.value setting).isSome

/-- The second names what the first names. -/
def ConfigUpdate.Within (first second : ConfigUpdate) : Prop :=
  ∀ setting, first.names setting = true → second.names setting = true

/-- Requests that overlap do not change what the other does not name, no target set by
opening a session is saved in the place of one that a request named, and what is saved is
plain. -/
def Apart (desk : Desk) : DeskAction → Prop
  | .clone update =>
    (∀ other ∈ desk.postings, other.phase.isWritten = true → other.update.Within update) ∧
    (desk.retargeted.isSome = true → update.names .targetCallsign = true ∨
      ∀ other ∈ desk.postings, other.phase.isSaved = true →
        other.update.names .targetCallsign = false)
  | .save index (.ok ()) =>
    ∀ posting ∈ desk.postings[index]?, posting.phase.Plain ∧
      ∀ other ∈ desk.postings, other.phase.isEditing = true →
        posting.update.Within other.update
  | .save _ (.error _) => True
  | .store index =>
    ∀ posting ∈ desk.postings[index]?, ∀ other ∈ desk.postings, other.phase.isUnderWay = true →
      posting.update.Within other.update
  | .updateTarget _ =>
    ∀ other ∈ desk.postings, other.phase.isUnderWay = true →
      other.update.names .targetCallsign = true

/-- The settings that a request can name. -/
def ConfigSetting.posted : List ConfigSetting :=
  [.agwpeHost, .agwpePort, .myCallsign, .targetCallsign, .bpqCommand, .skipBpqApp]

instance decideWithin (first second : ConfigUpdate) : Decidable (first.Within second) :=
  decidable_of_iff (∀ setting ∈ ConfigSetting.posted,
      first.names setting = true → second.names setting = true) (by
    constructor
    · intro posted setting
      cases setting
      case agwpeHost | agwpePort | myCallsign | targetCallsign | bpqCommand | skipBpqApp =>
        exact posted _ (by decide)
      all_goals
        intro named
        cases named
    · intro within setting _
      exact within setting)

instance decideApart (desk : Desk) : ∀ action, Decidable (Apart desk action)
  | .clone _ => inferInstanceAs (Decidable (_ ∧ _))
  | .save index (.ok ()) =>
    decidable_of_iff (∀ posting ∈ desk.postings[index]?.toList, posting.phase.Plain ∧
      ∀ other ∈ desk.postings, other.phase.isEditing = true →
        posting.update.Within other.update) (by simp [Apart])
  | .save _ (.error _) => inferInstanceAs (Decidable True)
  | .store index =>
    decidable_of_iff (∀ posting ∈ desk.postings[index]?.toList, ∀ other ∈ desk.postings,
      other.phase.isUnderWay = true → posting.update.Within other.update) (by simp [Apart])
  | .updateTarget _ => inferInstanceAs (Decidable (∀ other ∈ desk.postings, _))

/-- A request in one of the phases gave the setting the value. -/
def Gave (postings : List Posting) (phases : Phase → Bool) (setting : ConfigSetting)
    (value : Value) : Prop :=
  ∃ posting ∈ postings, phases posting.phase = true ∧ posting.update.value setting = some value

/-- A request in one of the phases named the setting. -/
def Named (postings : List Posting) (phases : Phase → Bool) (setting : ConfigSetting) : Prop :=
  ∃ value, Gave postings phases setting value

/-- What is named in an accepted request has a value from such a request, in memory and in
the file as the library reads it. Only the target in memory can be one that was set by
opening a session, and it is if no request named it since. Memory and file agree about the
rest, except about such a target. -/
structure Desk.Kept {File : Type} (library : IniLibrary File) (desk : Desk) : Prop where
  memory : ∀ setting, Named desk.postings Phase.isAccepted setting →
    Gave desk.postings Phase.isAccepted setting (desk.config.value setting) ∨
      setting = .targetCallsign ∧ desk.retargeted.isSome = true
  target : ∀ target ∈ desk.retargeted, desk.config.targetCallsign = target
  file : ∀ setting, Named desk.postings Phase.isAccepted setting →
    ∃ written ∈ desk.saved, ∃ ini, library.load (library.write written) = .ok ini ∧
      ∃ value, Gave desk.postings Phase.isAccepted setting value ∧ ini.value setting = some value
  rest : ∀ written ∈ desk.saved, ∃ ini, library.load (library.write written) = .ok ini ∧
    ∀ setting, ¬ Named desk.postings Phase.isAccepted setting →
      (setting = .targetCallsign → desk.retargeted = none) →
      ini.value setting = some (desk.config.value setting)

/-- No request is under way. -/
def Desk.Finished (desk : Desk) : Prop :=
  ∀ posting ∈ desk.postings, posting.phase.isUnderWay = false

/-- A request that nothing overlaps takes its steps as the handler describes. -/
theorem post_alone {desk : Desk} {update : ConfigUpdate}
    {saving : Text → Except ConfigError Unit} {path : Text} (able : saving path = .ok ()) :
    (run Desk.step desk [.clone update, .save desk.postings.length (saving path),
      .store desk.postings.length]).map Desk.toStored =
    some (apiConfigPost (.ok path) saving desk.toStored update).1 := by
  simp [run, Desk.step, able, apiConfigPost]

end Steps

section Postings

variable {postings : List Posting} {index : Nat} {update : ConfigUpdate} {old new : Phase}
  {phases : Phase → Bool} {setting : ConfigSetting} {value : Value}

/-- Of the requests only the one that takes the step changes its phase. -/
theorem mem_set {posting : Posting} (member : posting ∈ postings.set index ⟨update, new⟩) :
    posting = ⟨update, new⟩ ∨ posting ∈ postings :=
  (List.mem_or_eq_of_mem_set member).symm

/-- The other requests stay where one gets another phase. -/
theorem mem_set_of_ne {posting : Posting} (found : postings[index]? = some ⟨update, old⟩)
    (member : posting ∈ postings) (other : posting ≠ ⟨update, old⟩) :
    posting ∈ postings.set index ⟨update, new⟩ := by
  obtain ⟨place, at_place⟩ := List.mem_iff_getElem?.mp member
  apply List.mem_iff_getElem?.mpr
  have elsewhere : index ≠ place := by
    rintro rfl
    exact other (Option.some.inj (at_place.symm.trans found))
  exact ⟨place, by rw [List.getElem?_set_ne elsewhere, at_place]⟩

/-- A request that gets another phase is there with it. -/
theorem mem_set_self (found : postings[index]? = some ⟨update, old⟩) :
    (⟨update, new⟩ : Posting) ∈ postings.set index ⟨update, new⟩ :=
  List.mem_iff_getElem?.mpr
    ⟨index, List.getElem?_set_self (List.getElem?_eq_some_iff.mp found).1⟩

/-- A step into or out of no phase of interest changes nothing. -/
theorem gave_set_same (found : postings[index]? = some ⟨update, old⟩)
    (same : phases new = phases old) :
    Gave (postings.set index ⟨update, new⟩) phases setting value ↔
      Gave postings phases setting value := by
  constructor
  · rintro ⟨posting, member, reached, given⟩
    rcases mem_set member with rfl | member
    · exact ⟨⟨update, old⟩, List.mem_of_getElem? found, same ▸ reached, given⟩
    · exact ⟨posting, member, reached, given⟩
  · rintro ⟨posting, member, reached, given⟩
    by_cases this : posting = ⟨update, old⟩
    · subst this
      exact ⟨⟨update, new⟩, mem_set_self found, same.trans reached, given⟩
    · exact ⟨posting, mem_set_of_ne found member this, reached, given⟩

/-- A step into a phase of interest adds what the request gives. -/
theorem gave_set_new (found : postings[index]? = some ⟨update, old⟩) (before : phases old = false)
    (now : phases new = true) :
    Gave (postings.set index ⟨update, new⟩) phases setting value ↔
      Gave postings phases setting value ∨ update.value setting = some value := by
  constructor
  · rintro ⟨posting, member, reached, given⟩
    rcases mem_set member with rfl | member
    · exact .inr given
    · exact .inl ⟨posting, member, reached, given⟩
  · rintro (⟨posting, member, reached, given⟩ | given)
    · have other : posting ≠ ⟨update, old⟩ := by
        rintro rfl
        rw [before] at reached
        cases reached
      exact ⟨posting, mem_set_of_ne found member other, reached, given⟩
    · exact ⟨⟨update, new⟩, mem_set_self found, now, given⟩

/-- A phase that counts alike names the same settings. -/
theorem named_set_same (found : postings[index]? = some ⟨update, old⟩)
    (same : phases new = phases old) :
    Named (postings.set index ⟨update, new⟩) phases setting ↔ Named postings phases setting :=
  exists_congr fun _ => gave_set_same found same

/-- A phase that newly counts names the settings of its request. -/
theorem named_set_new (found : postings[index]? = some ⟨update, old⟩) (before : phases old = false)
    (now : phases new = true) :
    Named (postings.set index ⟨update, new⟩) phases setting ↔
      Named postings phases setting ∨ update.names setting = true := by
  simp only [Named, gave_set_new found before now, exists_or, ConfigUpdate.names,
    Option.isSome_iff_exists]

/-- A request that only begins has not given anything yet. -/
theorem gave_begin {config : FileConfig} (unreached : ∀ config, phases (.editing config) = false) :
    Gave (postings ++ [⟨update, .editing config⟩]) phases setting value ↔
      Gave postings phases setting value := by
  constructor
  · rintro ⟨posting, member, reached, given⟩
    rcases List.mem_append.mp member with member | begun
    · exact ⟨posting, member, reached, given⟩
    · obtain rfl := List.mem_singleton.mp begun
      rw [unreached] at reached
      cases reached
  · rintro ⟨posting, member, reached, given⟩
    exact ⟨posting, List.mem_append_left _ member, reached, given⟩

/-- A request names the settings that it gives a value. -/
theorem names_of_value (given : update.value setting = some value) :
    update.names setting = true := by
  simp [ConfigUpdate.names, given]

/-- A setting that is not named gets no value. -/
theorem value_none (unnamed : update.names setting = false) : update.value setting = none := by
  simpa [ConfigUpdate.names] using unnamed

/-- What a larger request does not name, a smaller one does not. -/
theorem unnamed_within {other : ConfigUpdate} (within : update.Within other)
    (unnamed : other.names setting = false) : update.names setting = false := by
  rw [Bool.eq_false_iff]
  intro named
  rw [within setting named] at unnamed
  cases unnamed

end Postings

section Invariant

/-- What holds while requests that overlap do not change what the other does not name. -/
structure Desk.Sound (initial : FileConfig) (desk : Desk) : Prop where
  /-- A copy differs from the configuration only in what the request names. -/
  copies : ∀ posting ∈ desk.postings, ∀ config,
    posting.phase = .editing config ∨ posting.phase = .written config →
    ∀ setting, config.value setting =
      (posting.update.value setting).getD (desk.config.value setting)
  memory : ∀ setting, Named desk.postings Phase.isAccepted setting →
    Gave desk.postings Phase.isAccepted setting (desk.config.value setting) ∨
      setting = .targetCallsign ∧ desk.retargeted.isSome = true
  untouched : ∀ setting, ¬ Named desk.postings Phase.isAccepted setting →
    (setting = .targetCallsign → desk.retargeted = none) →
    desk.config.value setting = initial.value setting
  target : ∀ target ∈ desk.retargeted, desk.config.targetCallsign = target
  /-- What is saved and not yet stored is named by each request that is still to be saved. -/
  pending : ∀ posting ∈ desk.postings, posting.phase.isEditing = true →
    ∀ other ∈ desk.postings, other.phase.isWritten = true → other.update.Within posting.update
  renamed : desk.retargeted.isSome = true → ∀ posting ∈ desk.postings,
    posting.phase.isEditing = true → posting.update.names .targetCallsign = false →
    ¬ Named desk.postings Phase.isSaved .targetCallsign
  unsaved : desk.saved = none → ∀ setting, ¬ Named desk.postings Phase.isSaved setting
  file : ∀ ini ∈ desk.saved, ∀ setting, Named desk.postings Phase.isSaved setting →
    ∃ value, Gave desk.postings Phase.isSaved setting value ∧ ini.value setting = some value
  rest : ∀ ini ∈ desk.saved, ∀ setting, ¬ Named desk.postings Phase.isSaved setting →
    (setting = .targetCallsign → desk.retargeted = none) →
    ini.value setting = some (initial.value setting)

variable {initial : FileConfig} {desk : Desk}

/-- A copy that is taken is one of the configuration. -/
theorem Desk.Sound.clone {update : ConfigUpdate} (sound : desk.Sound initial)
    (apart : Apart desk (.clone update)) :
    ({ desk with postings :=
        desk.postings ++ [⟨update, .editing (update.apply desk.config)⟩] } : Desk).Sound
      initial := by
  obtain ⟨named, renamed⟩ := apart
  have accepted : ∀ setting,
      Named (desk.postings ++ [⟨update, .editing (update.apply desk.config)⟩])
        Phase.isAccepted setting ↔ Named desk.postings Phase.isAccepted setting := fun setting =>
    exists_congr fun value => gave_begin fun _ => rfl
  have saved : ∀ setting,
      Named (desk.postings ++ [⟨update, .editing (update.apply desk.config)⟩])
        Phase.isSaved setting ↔ Named desk.postings Phase.isSaved setting := fun setting =>
    exists_congr fun value => gave_begin fun _ => rfl
  have given : ∀ setting value,
      Gave (desk.postings ++ [⟨update, .editing (update.apply desk.config)⟩]) Phase.isSaved setting
        value ↔ Gave desk.postings Phase.isSaved setting value := fun _ _ => gave_begin fun _ => rfl
  constructor
  · intro posting member config copy setting
    rcases List.mem_append.mp member with member | begun
    · exact sound.copies posting member config copy setting
    · obtain rfl := List.mem_singleton.mp begun
      have same : update.apply desk.config = config := by simpa using copy
      rw [← same]
      exact apply_value
  · intro setting
    rw [accepted, gave_begin fun _ => rfl]
    exact sound.memory setting
  · intro setting
    rw [accepted]
    exact sound.untouched setting
  · exact sound.target
  · intro posting member editing other among written
    have among : other ∈ desk.postings := by
      rcases List.mem_append.mp among with among | begun
      · exact among
      · obtain rfl := List.mem_singleton.mp begun
        cases written
    rcases List.mem_append.mp member with member | begun
    · exact sound.pending posting member editing other among written
    · obtain rfl := List.mem_singleton.mp begun
      exact named other among written
  · intro retargeted posting member editing unnamed
    rw [saved]
    rcases List.mem_append.mp member with member | begun
    · exact sound.renamed retargeted posting member editing unnamed
    · obtain rfl := List.mem_singleton.mp begun
      rintro ⟨value, other, among, reached, given⟩
      rcases renamed retargeted with names | free
      · rw [unnamed] at names
        cases names
      · have names := names_of_value given
        rw [free other among reached] at names
        cases names
  · intro nothing setting
    rw [saved]
    exact sound.unsaved nothing setting
  · intro ini found setting
    simp only [saved, given]
    exact sound.file ini found setting
  · intro ini found setting
    rw [saved]
    exact sound.rest ini found setting

variable {index : Nat} {update : ConfigUpdate} {config : FileConfig}

/-- What a request names stands in its copy as the request gives it. -/
theorem Desk.Sound.named_copy (sound : desk.Sound initial) {posting : Posting}
    (member : posting ∈ desk.postings)
    (copy : posting.phase = .editing config ∨ posting.phase = .written config)
    {setting : ConfigSetting} (named : posting.update.names setting = true) :
    posting.update.value setting = some (config.value setting) := by
  obtain ⟨value, given⟩ := Option.isSome_iff_exists.mp named
  rw [sound.copies posting member config copy setting, given]
  rfl

/-- What it does not name stands there as in the configuration. -/
theorem Desk.Sound.unnamed_copy (sound : desk.Sound initial) {posting : Posting}
    (member : posting ∈ desk.postings)
    (copy : posting.phase = .editing config ∨ posting.phase = .written config)
    {setting : ConfigSetting} (unnamed : posting.update.names setting = false) :
    config.value setting = desk.config.value setting := by
  rw [sound.copies posting member config copy setting, value_none unnamed]
  rfl

/-- A request that holds a copy is under way. -/
theorem underWay_of_copy {posting : Posting}
    (copy : posting.phase = .editing config ∨ posting.phase = .written config) :
    posting.phase.isUnderWay = true := by
  rcases copy with copy | copy <;> rw [copy] <;> rfl

/-- A request that is over is neither to be saved nor to be stored. -/
theorem Desk.Sound.pending_over {phase : Phase} (sound : desk.Sound initial)
    (ended : phase.isUnderWay = false) :
    ∀ posting ∈ desk.postings.set index ⟨update, phase⟩, posting.phase.isEditing = true →
      ∀ other ∈ desk.postings.set index ⟨update, phase⟩, other.phase.isWritten = true →
        other.update.Within posting.update := by
  obtain ⟨unsaved, unwritten⟩ := Bool.or_eq_false_iff.mp ended
  intro posting member editing other among written
  rcases mem_set among with rfl | among
  · exact absurd (unwritten.symm.trans written) Bool.false_ne_true
  · rcases mem_set member with rfl | member
    · exact absurd (unsaved.symm.trans editing) Bool.false_ne_true
    · exact sound.pending posting member editing other among written

/-- What is in the copy of a request that has yet to be saved is given by the request, or by
one that was saved, or has never been named. -/
theorem Desk.Sound.copied (sound : desk.Sound initial)
    (found : desk.postings[index]? = some ⟨update, .editing config⟩) {setting : ConfigSetting}
    (unnamed : update.names setting = false)
    (named : Named desk.postings Phase.isSaved setting) :
    Gave desk.postings Phase.isSaved setting (config.value setting) := by
  have member : (⟨update, .editing config⟩ : Posting) ∈ desk.postings := List.mem_of_getElem? found
  have same : config.value setting = desk.config.value setting :=
    sound.unnamed_copy member (.inl rfl) unnamed
  obtain ⟨value, other, among, reached, given⟩ := named
  have stored : other.phase.isAccepted = true := by
    rcases Bool.or_eq_true_iff.mp reached with written | stored
    · have names := sound.pending _ member rfl other among written setting (names_of_value given)
      rw [unnamed] at names
      cases names
    · exact stored
  rw [same]
  rcases sound.memory setting ⟨value, other, among, stored, given⟩ with kept | ⟨rfl, retargeted⟩
  · obtain ⟨giver, inside, last, gave⟩ := kept
    exact ⟨giver, inside, by simp [Phase.isSaved, last], gave⟩
  · exact absurd ⟨value, other, among, reached, given⟩
      (sound.renamed retargeted _ member rfl unnamed)

/-- A copy that is written holds what its request names, and so does the file. -/
theorem Desk.Sound.save (sound : desk.Sound initial)
    (found : desk.postings[index]? = some ⟨update, .editing config⟩)
    (apart : Apart desk (.save index (.ok ()))) :
    ({ desk with
        saved := some config.save
        postings := desk.postings.set index ⟨update, .written config⟩ } : Desk).Sound initial := by
  have member : (⟨update, .editing config⟩ : Posting) ∈ desk.postings := List.mem_of_getElem? found
  have within := (apart _ found).2
  have accepted : Phase.isAccepted (.written config) = Phase.isAccepted (.editing config) := rfl
  have before : Phase.isSaved (.editing config) = false := rfl
  have now : Phase.isSaved (.written config) = true := rfl
  constructor
  · intro posting inside copied copy
    rcases mem_set inside with rfl | inside
    · have same : config = copied := by simpa using copy
      exact same ▸ sound.copies _ member config (.inl rfl)
    · exact sound.copies posting inside copied copy
  · intro setting
    rw [named_set_same found accepted, gave_set_same found accepted]
    exact sound.memory setting
  · intro setting
    rw [named_set_same found accepted]
    exact sound.untouched setting
  · exact sound.target
  · intro posting inside editing other among written
    rcases mem_set inside with rfl | inside
    · cases editing
    · rcases mem_set among with rfl | among
      · exact within posting inside editing
      · exact sound.pending posting inside editing other among written
  · intro retargeted posting inside editing unnamed
    rw [named_set_new found before now]
    rcases mem_set inside with rfl | inside
    · cases editing
    · rintro (named | names)
      · exact sound.renamed retargeted posting inside editing unnamed named
      · have names := within posting inside editing _ names
        rw [unnamed] at names
        cases names
  · intro nothing
    cases nothing
  · intro ini kept setting named
    obtain rfl := Option.mem_some_iff.mp kept
    refine ⟨config.value setting, ?_, save_value⟩
    rw [gave_set_new found before now]
    rw [named_set_new found before now] at named
    cases names : update.names setting with
    | true => exact .inr (sound.named_copy member (.inl rfl) names)
    | false =>
      rw [names] at named
      exact .inl (sound.copied found names (named.resolve_right Bool.false_ne_true))
  · intro ini kept setting unnamed free
    obtain rfl := Option.mem_some_iff.mp kept
    rw [named_set_new found before now, not_or, Bool.not_eq_true] at unnamed
    have unaccepted : ¬ Named desk.postings Phase.isAccepted setting := by
      rintro ⟨value, other, among, stored, given⟩
      exact unnamed.1 ⟨value, other, among, by simp [Phase.isSaved, stored], given⟩
    rw [save_value, sound.unnamed_copy member (.inl rfl) unnamed.2]
    exact congrArg some (sound.untouched setting unaccepted free)

/-- A request names the target exactly if it gives one. -/
theorem names_target : update.names .targetCallsign = update.targetCallsign.isSome := by
  simp [ConfigUpdate.names, ConfigUpdate.value]

/-- A request that does not name the target leaves it to the connect page. -/
theorem retarget_unnamed (unnamed : update.names .targetCallsign = false)
    (retargeted : Option Text) :
    (if update.targetCallsign.isSome then none else retargeted) = retargeted := by
  rw [names_target] at unnamed
  rw [unnamed]
  rfl

/-- A target that a connect request has set stays unless the request names one. -/
theorem retarget_kept {retargeted : Option Text} {target : Text}
    (set : (if update.targetCallsign.isSome then none else retargeted) = some target) :
    update.names .targetCallsign = false ∧ retargeted = some target := by
  rw [names_target]
  cases names : update.targetCallsign.isSome with
  | true =>
    rw [names] at set
    cases set
  | false =>
    rw [names] at set
    exact ⟨rfl, set⟩

/-- A copy that is stored keeps what the accepted requests have set. -/
theorem Desk.Sound.store (sound : desk.Sound initial)
    (found : desk.postings[index]? = some ⟨update, .written config⟩)
    (apart : Apart desk (.store index)) :
    ({ desk with
        config := config
        postings := desk.postings.set index ⟨update, .accepted⟩
        retargeted := if update.targetCallsign.isSome then none else desk.retargeted } :
      Desk).Sound initial := by
  have member : (⟨update, .written config⟩ : Posting) ∈ desk.postings := List.mem_of_getElem? found
  have within := apart _ found
  have before : Phase.isAccepted (.written config) = false := rfl
  have now : Phase.isAccepted .accepted = true := rfl
  have saved : Phase.isSaved .accepted = Phase.isSaved (.written config) := rfl
  have same : ∀ setting, update.names setting = false →
      config.value setting = desk.config.value setting :=
    fun _ => sound.unnamed_copy member (.inr rfl)
  constructor
  · intro posting inside other copy setting
    rcases mem_set inside with rfl | inside
    · rcases copy with copy | copy <;> cases copy
    · have underWay := underWay_of_copy copy
      cases names : posting.update.names setting with
      | true =>
        rw [sound.named_copy inside copy names]
        rfl
      | false =>
        have unnamed := unnamed_within (within posting inside underWay) names
        rw [sound.unnamed_copy inside copy names, value_none names]
        exact (same setting unnamed).symm
  · intro setting named
    rw [gave_set_new found before now]
    rw [named_set_new found before now] at named
    cases names : update.names setting with
    | true => exact .inl (.inr (sound.named_copy member (.inr rfl) names))
    | false =>
      rw [names] at named
      rw [same setting names]
      rcases sound.memory setting (named.resolve_right Bool.false_ne_true) with gave | ⟨rfl, set⟩
      · exact .inl (.inl gave)
      · exact .inr ⟨rfl, by rw [retarget_unnamed names]; exact set⟩
  · intro setting unnamed free
    rw [named_set_new found before now, not_or, Bool.not_eq_true] at unnamed
    rw [same setting unnamed.2]
    apply sound.untouched setting unnamed.1
    rintro rfl
    rw [← retarget_unnamed unnamed.2 desk.retargeted]
    exact free rfl
  · intro target set
    obtain ⟨unnamed, old⟩ := retarget_kept set
    rw [← sound.target target old]
    exact Value.text.inj (same .targetCallsign unnamed)
  · exact sound.pending_over rfl
  · intro retargeted posting inside editing unnamed
    rw [named_set_same found saved]
    rcases mem_set inside with rfl | inside
    · cases editing
    · obtain ⟨target, set⟩ := Option.isSome_iff_exists.mp retargeted
      have old : desk.retargeted.isSome = true := Option.isSome_of_eq_some (retarget_kept set).2
      exact sound.renamed old posting inside editing unnamed
  · intro nothing setting
    rw [named_set_same found saved]
    exact sound.unsaved nothing setting
  · intro ini held setting
    simp only [named_set_same found saved, gave_set_same found saved]
    exact sound.file ini held setting
  · intro ini held setting unnamed free
    rw [named_set_same found saved] at unnamed
    apply sound.rest ini held setting unnamed
    rintro rfl
    have foreign : update.names .targetCallsign = false := by
      rw [Bool.eq_false_iff]
      intro names
      obtain ⟨value, given⟩ := Option.isSome_iff_exists.mp names
      exact unnamed ⟨value, _, member, rfl, given⟩
    rw [← retarget_unnamed foreign desk.retargeted]
    exact free rfl

/-- A connect request changes the target of the configuration. -/
theorem Desk.Sound.updateTarget {target : Text} (sound : desk.Sound initial)
    (apart : Apart desk (.updateTarget target)) :
    ({ desk with config := desk.config.updateTarget target, retargeted := some target } :
      Desk).Sound initial := by
  constructor
  · intro posting inside config copy setting
    rw [sound.copies posting inside config copy setting]
    cases names : posting.update.value setting with
    | some value => rfl
    | none =>
      have underWay := underWay_of_copy copy
      have other : setting ≠ .targetCallsign := by
        rintro rfl
        have named := apart posting inside underWay
        simp [ConfigUpdate.names, names] at named
      simp [updateTarget_value, other]
  · intro setting named
    by_cases same : setting = .targetCallsign
    · exact .inr ⟨same, rfl⟩
    · rw [updateTarget_value, if_neg same]
      rcases sound.memory setting named with gave | ⟨target, _⟩
      · exact .inl gave
      · exact absurd target same
  · intro setting unnamed free
    by_cases same : setting = .targetCallsign
    · cases free same
    · rw [updateTarget_value, if_neg same]
      exact sound.untouched setting unnamed fun target => absurd target same
  · intro other set
    exact Option.mem_some_iff.mp set
  · exact sound.pending
  · intro _ posting inside editing unnamed
    have named := apart posting inside (by simp [Phase.isUnderWay, editing])
    rw [unnamed] at named
    cases named
  · exact sound.unsaved
  · exact sound.file
  · intro ini held setting unnamed free
    apply sound.rest ini held setting unnamed
    intro same
    cases free same

/-- The library reads the file as it was written. -/
def Desk.Legible {File : Type} (library : IniLibrary File) (desk : Desk) : Prop :=
  ∀ written ∈ desk.saved, library.load (library.write written) = .ok written

/-- When all requests are finished and the file can be read, nothing that was accepted is
lost. -/
theorem Desk.Sound.kept {File : Type} {library : IniLibrary File} (sound : desk.Sound initial)
    (legible : desk.Legible library) (finished : desk.Finished) : desk.Kept library := by
  have settled : ∀ setting value, Gave desk.postings Phase.isSaved setting value ↔
      Gave desk.postings Phase.isAccepted setting value := by
    intro setting value
    apply exists_congr
    intro posting
    apply and_congr_right
    intro member
    have done := finished posting member
    rw [Phase.isUnderWay, Bool.or_eq_false_iff] at done
    rw [Phase.isSaved, done.2, Bool.false_or]
  have named : ∀ setting, Named desk.postings Phase.isSaved setting ↔
      Named desk.postings Phase.isAccepted setting := fun setting => exists_congr (settled setting)
  constructor
  · exact sound.memory
  · exact sound.target
  · intro setting accepted
    cases held : desk.saved with
    | none => exact absurd ((named setting).mpr accepted) (sound.unsaved held setting)
    | some ini =>
      obtain ⟨value, gave, has⟩ := sound.file ini held setting ((named setting).mpr accepted)
      exact ⟨ini, rfl, ini, legible ini held, value, (settled setting value).mp gave, has⟩
  · intro ini held
    refine ⟨ini, legible ini held, ?_⟩
    intro setting unaccepted free
    rw [sound.rest ini held setting (mt (named setting).mp unaccepted) free,
      sound.untouched setting unaccepted free]

end Invariant

section Results

/-- A request that names the host of the modem. -/
def naming (host : Text) : ConfigUpdate := ⟨some host, none, none, none, none, none⟩

end Results

end PacketBrowser.Client
