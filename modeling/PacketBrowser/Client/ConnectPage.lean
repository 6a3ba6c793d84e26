import PacketBrowser.Agwpe.Recv
import PacketBrowser.Browse.Reload
import PacketBrowser.Client.Requests
import PacketBrowser.Foundation.Guided
import PacketBrowser.Foundation.Script

/-!
# The state in the script of the connect page

The connect page calls a function of its script with the connection state as a string in
single quotes. The text of the state is escaped for markup, although a script decodes no
references, and neither backslashes nor line ends are escaped.

The script therefore receives the state exactly if none of these characters are in it. Some
states have a text from outside: an error of the modem, or the reason the peer gave when it
left, which usually ends with a carriage return.
-/

namespace PacketBrowser.Client

open Protocol Foundation Program Setting

section Script

/-- What the page places between the quotes. -/
def updateArgument (state : ConnectionState) : Text := Browse.h state.display

/-- The script of the page receives the text of the state. -/
structure Survives (state : ConnectionState) : Prop where
  value : Script.stringValue (updateArgument state) = some (Script.utf16 state.display)
  clean : ∀ c ∈ updateArgument state, c ≠ '\'' ∧ Script.lineEnd c = false

/-- The character is neither replaced in markup nor special in a literal. -/
def harmless (c : Char) : Bool :=
  !(c == '&' || c == '<' || c == '>' || c == '"' || c == '\'' || c == '\\' || Script.lineEnd c)

/-- The text has only harmless characters. -/
def Harmless (text : Text) : Prop := ∀ c ∈ text, harmless c = true

instance (text : Text) : Decidable (Harmless text) :=
  decidable_of_iff (text.all harmless = true) List.all_eq_true

/-- The characters that mean something to markup, to a script or to a literal. -/
theorem harmless_iff (c : Char) : harmless c = true ↔ c ≠ '&' ∧ c ≠ '<' ∧ c ≠ '>' ∧ c ≠ '"' ∧
    c ≠ '\'' ∧ c ≠ '\\' ∧ Script.lineEnd c = false := by
  unfold harmless
  simp [and_assoc]

/-- A character is kept by the escaping for markup, or becomes a longer text of other
characters that costs nothing in a literal. -/
theorem escapeChar_cases (c : Char) :
    (c ≠ '&' ∧ c ≠ '<' ∧ c ≠ '>' ∧ c ≠ '"' ∧ c ≠ '\'') ∧ Browse.escapeChar c = [c] ∨
      '\\' ∉ Browse.escapeChar c ∧ c ≠ '\\' ∧
      Script.cost (Script.utf16 (Browse.escapeChar c)) = Script.cost (Script.units c.toNat) ∧
      (Script.units c.toNat).length < (Script.utf16 (Browse.escapeChar c)).length := by
  have each : ∀ code ∈ [38, 60, 62, 34, 39],
      '\\' ∉ Browse.escapeChar (Char.ofNat code) ∧ Char.ofNat code ≠ '\\' ∧
      Script.cost (Script.utf16 (Browse.escapeChar (Char.ofNat code))) =
        Script.cost (Script.units (Char.ofNat code).toNat) ∧
      (Script.units (Char.ofNat code).toNat).length <
        (Script.utf16 (Browse.escapeChar (Char.ofNat code))).length := by
    decide
  by_cases plain : c ≠ '&' ∧ c ≠ '<' ∧ c ≠ '>' ∧ c ≠ '"' ∧ c ≠ '\''
  · left
    obtain ⟨ampersand, less, greater, double, single⟩ := plain
    refine ⟨⟨ampersand, less, greater, double, single⟩, ?_⟩
    unfold Browse.escapeChar
    rw [if_neg ampersand, if_neg less, if_neg greater, if_neg double, if_neg single]
  · right
    have listed : c = '&' ∨ c = '<' ∨ c = '>' ∨ c = '"' ∨ c = '\'' := by
      by_contra none
      simp only [not_or] at none
      exact plain none
    rcases listed with rfl | rfl | rfl | rfl | rfl
    · exact each 38 (by decide)
    · exact each 60 (by decide)
    · exact each 62 (by decide)
    · exact each 34 (by decide)
    · exact each 39 (by decide)

/-- Escaping goes character by character. -/
theorem h_cons (c : Char) (text : Text) :
    Browse.h (c :: text) = Browse.escapeChar c ++ Browse.h text := List.flatMap_cons

/-- The code units of a text, with its first character. -/
theorem utf16_cons (c : Char) (text : Text) :
    Script.utf16 (c :: text) = Script.units c.toNat ++ Script.utf16 text := List.flatMap_cons

/-- The code units of two texts. -/
theorem utf16_append (left right : Text) :
    Script.utf16 (left ++ right) = Script.utf16 left ++ Script.utf16 right := List.flatMap_append

/-- Neither backslashes nor their prices change. -/
theorem h_cost (text : Text) :
    Script.cost (Script.utf16 (Browse.h text)) = Script.cost (Script.utf16 text) ∧
      ('\\' ∈ text → '\\' ∈ Browse.h text) := by
  induction text with
  | nil => exact ⟨rfl, id⟩
  | cons c text inductionHypothesis =>
    obtain ⟨same, kept⟩ := inductionHypothesis
    rw [h_cons, utf16_append, utf16_cons, Script.cost_append, Script.cost_append, same,
      List.mem_append, List.mem_cons]
    rcases escapeChar_cases c with ⟨_, whole⟩ | ⟨_, other, priced, _⟩
    · rw [whole, utf16_cons]
      constructor
      · simp [Script.utf16]
      · rintro (here | later)
        · exact .inl (List.mem_singleton.mpr here)
        · exact .inr (kept later)
    · rw [priced]
      constructor
      · rfl
      · rintro (here | later)
        · exact absurd here.symm other
        · exact .inr (kept later)

/-- A text only keeps its length if nothing in it is escaped for markup. -/
theorem h_length (text : Text) :
    (Script.utf16 text).length ≤ (Script.utf16 (Browse.h text)).length ∧
      ((Script.utf16 text).length = (Script.utf16 (Browse.h text)).length → Browse.h text = text ∧
        ∀ c ∈ text, c ≠ '&' ∧ c ≠ '<' ∧ c ≠ '>' ∧ c ≠ '"' ∧ c ≠ '\'') := by
  induction text with
  | nil => exact ⟨Nat.le_refl _, fun _ => ⟨rfl, fun c member => absurd member List.not_mem_nil⟩⟩
  | cons c text inductionHypothesis =>
    obtain ⟨longer, same⟩ := inductionHypothesis
    rw [h_cons, utf16_append, utf16_cons, List.length_append, List.length_append]
    rcases escapeChar_cases c with ⟨plain, whole⟩ | ⟨_, _, _, grown⟩
    · have single : (Script.utf16 [c]).length = (Script.units c.toNat).length := by
        simp [Script.utf16]
      rw [whole, single]
      constructor
      · omega
      · intro equal
        obtain ⟨kept, each⟩ := same (by omega)
        exact ⟨by rw [kept]; rfl, List.forall_mem_cons.mpr ⟨plain, each⟩⟩
    · constructor
      · omega
      · intro equal
        omega

/-- A harmless text is not escaped. -/
theorem h_harmless {text : Text} (quiet : Harmless text) : Browse.h text = text := by
  induction text with
  | nil => rfl
  | cons c text inductionHypothesis =>
    obtain ⟨here, later⟩ := List.forall_mem_cons.mp quiet
    obtain ⟨ampersand, less, greater, double, single, _⟩ := (harmless_iff c).mp here
    rw [h_cons, inductionHypothesis later, Browse.escapeChar, if_neg ampersand, if_neg less,
      if_neg greater, if_neg double, if_neg single]
    rfl

/-- A text is the value of its escaped form exactly if all its characters are harmless. -/
theorem stringValue_h_iff (text : Text) :
    Script.stringValue (Browse.h text) = some (Script.utf16 text) ↔ Harmless text := by
  constructor
  · intro value
    have plain : '\\' ∉ Browse.h text := by
      intro backslash
      have cheaper := Script.stringValue_cheaper value backslash
      rw [(h_cost text).1] at cheaper
      exact Nat.lt_irrefl _ cheaper
    obtain ⟨same, each⟩ := (Script.stringValue_iff plain).mp value
    obtain ⟨kept, unmarked⟩ := (h_length text).2 (congrArg List.length same)
    intro c member
    rw [kept] at plain each
    obtain ⟨ampersand, less, greater, double, single⟩ := unmarked c member
    exact (harmless_iff c).mpr ⟨ampersand, less, greater, double, single,
      fun backslash => plain (backslash ▸ member), (each c member).2⟩
  · intro quiet
    rw [h_harmless quiet]
    apply (Script.stringValue_iff _).mpr
    · constructor
      · rfl
      · intro c member
        obtain ⟨_, _, _, _, single, _, line⟩ := (harmless_iff c).mp (quiet c member)
        exact ⟨single, line⟩
    · intro backslash
      exact absurd (quiet _ backslash) (by decide)

/-- The script receives the state exactly if the text of the state is harmless. -/
theorem survives_iff (state : ConnectionState) : Survives state ↔ Harmless state.display := by
  constructor
  · exact fun survives => (stringValue_h_iff _).mp survives.value
  · intro quiet
    constructor
    · exact (stringValue_h_iff _).mpr quiet
    · intro c member
      unfold updateArgument at member
      rw [h_harmless quiet] at member
      obtain ⟨_, _, _, _, single, _, line⟩ := (harmless_iff c).mp (quiet c member)
      exact ⟨single, line⟩

end Script

section Texts

/-- The text of an error that was made outside. -/
def TransportError.message : TransportError → Text
  | .io message => message
  | .modemError message => message
  | .sessionRejected message => message
  | .notConnected => []
  | .timeout => []

/-- The texts in an answer that come from the modem or the peer and may be shown. -/
def reports : (op : Op) → Answer op → List Text
  | .modem _ _, answer =>
    (match answer.result with
      | .error err => [err.message]
      | .ok _ => []) ++
    (match answer.reported with
      | some (.error message) => [message]
      | _ => [])
  | .send _ _ _, .error err => [err.message]
  | .recv _ _, .error err => [err.message]
  | .recv _ _, .ok (.disconnected reason) => [reason]
  | _, _ => []

/-- What is reported in the answer is harmless. -/
def Quiet (op : Op) (answer : Answer op) : Prop := ∀ text ∈ reports op answer, Harmless text

/-- A state whose text is harmless, or quotes a malformed response. -/
def Sayable (state : ConnectionState) : Prop :=
  Harmless state.display ∨ ∃ data, state = .reconnecting (malformedResponse data)

/-- Only such states are set. -/
def utters : Op → Prop
  | .setConnectionState state => Sayable state
  | _ => True

/-- Two texts are harmless together if each is. -/
theorem harmless_append {left right : Text} :
    Harmless (left ++ right) ↔ Harmless left ∧ Harmless right :=
  List.forall_mem_append

/-- The text of a translated error is harmless if the message is. -/
theorem transportErr_harmless {err : TransportError} (quiet : Harmless err.message) :
    Harmless (transportErrToAgwpe err).display := by
  cases err with
  | notConnected => decide
  | timeout => decide
  | io message => exact harmless_append.mpr ⟨by decide, quiet⟩
  | modemError message => exact harmless_append.mpr ⟨by decide, quiet⟩
  | sessionRejected message => exact harmless_append.mpr ⟨by decide, quiet⟩

end Texts

section Routines

variable (manager : ManagerId)

/-- The text of the error is harmless. -/
def Mild (err : AgwpeError) : Prop := Harmless err.display

/-- The same, unless it quotes a malformed response. -/
def Tame (err : AgwpeError) : Prop :=
  Mild err ∨ ∃ data, err = .sessionDied (malformedResponse data)

/-- A routine in which only sayable states are set while the reports are harmless. -/
abbrev Discreet {α : Type} (program : Routine α) (post : α → Prop) : Prop :=
  program.Guided Quiet utters post

/-- An error with a harmless message is a mild one. -/
theorem mapErr_mild {α : Type} {result : Except TransportError α}
    (quiet : ∀ err, result = .error err → Harmless err.message) : Fails Mild (mapErr result) := by
  cases result with
  | ok value => trivial
  | error err => exact transportErr_harmless (quiet err rfl)

/-- A call of the modem says nothing that is not harmless. -/
theorem callModem_discreet (request : ModemCall) :
    Discreet (callModem manager request).run (Fails Mild) := by
  refine ⟨trivial, fun answer quiet => mapErr_mild fun err failed => quiet _ ?_⟩
  simp [reports, failed]

/-- Sending says nothing that is not harmless. -/
theorem sendBytes_discreet (purpose : Purpose) (data : Bytes) :
    Discreet (sendBytes manager purpose data).run (Fails Mild) := by
  refine ⟨trivial, fun answer quiet => mapErr_mild ?_⟩
  rintro err rfl
  exact quiet _ List.mem_cons_self

/-- Stopping for a caller that has gone says nothing that is not harmless. -/
theorem bailIfAborted_discreet : Discreet (bailIfAborted manager).run (Fails Mild) := by
  refine ⟨trivial, fun aborted _ => ?_⟩
  cases aborted with
  | false => trivial
  | true => show Harmless _; decide

/-- Reading the configuration fails in no way. -/
theorem readConfig_discreet : Discreet (ExceptT.lift readConfig : Attempt AppConfig).run
    (Fails Mild) :=
  guided_lift_fails (guided_ask trivial fun _ _ => trivial)

/-- A state that may be said is put on display. -/
theorem setState_discreet {state : ConnectionState} (sayable : Sayable state) :
    Discreet (setState state) fun _ => True :=
  guided_ask sayable fun _ _ => trivial

/-- What ends the wait for a text is the text, the limit, or what was reported. -/
theorem awaitText_discreet (found : Text → Bool) :
    Discreet (awaitText manager found).run (Fails Mild) := by
  rw [awaitText_run]
  apply guided_loop
  intro received
  refine ⟨trivial, fun answer quiet => ?_⟩
  cases answer with
  | error err => exact transportErr_harmless (quiet _ List.mem_cons_self)
  | ok event =>
    cases event with
    | disconnected reason =>
      show Harmless _
      exact harmless_append.mpr ⟨by decide,
        harmless_append.mpr ⟨by decide, quiet _ List.mem_cons_self⟩⟩
    | data bytes =>
      show Sum.elim _ _ (awaitStep found received (.ok (.data bytes)))
      simp only [awaitStep, collectText]
      split
      · show Harmless _
        decide
      · split
        · trivial
        · trivial

/-- The command to the node says nothing that is not harmless. -/
theorem bpqSendAppCommand_discreet : Discreet (bpqSendAppCommand manager).run (Fails Mild) :=
  guided_attempt_fails readConfig_discreet fun _ => sendBytes_discreet manager _ _

/-- Entering the application says nothing that is not harmless. -/
theorem enterApplication_discreet (skipBpqApp : Bool) :
    Discreet (enterApplication manager skipBpqApp).run (Fails Mild) := by
  cases skipBpqApp with
  | true => trivial
  | false => exact bpqSendAppCommand_discreet manager

/-- The prompt for the callsign leads to nothing that is not harmless. -/
theorem callsign_discreet (localCallsign : Text) :
    Discreet (bpqAwaitCallsignPromptAndSendCallsign manager localCallsign).run (Fails Mild) :=
  guided_attempt_fails (awaitText_discreet manager _) fun _ => sendBytes_discreet manager _ _

/-- Waiting for the operator says nothing that is not harmless. -/
theorem awaitOperator_discreet (consent : ConsentId) :
    Discreet (awaitOperator consent).run (Fails Mild) := by
  refine ⟨trivial, fun waited _ => ?_⟩
  cases waited with
  | decided accepted => trivial
  | senderDropped => trivial
  | timedOut =>
    refine ⟨trivial, fun _ _ => ?_⟩
    show Harmless _
    decide

/-- Asking the operator shows the disclaimer and fails harmlessly. -/
theorem askOperator_discreet (receivedText : Text) :
    Discreet (askOperator receivedText).run (Fails Mild) := by
  apply guided_attempt_fails (guided_lift_fails (guided_ask trivial fun _ _ => trivial))
  intro consent
  apply guided_attempt_fails (awaitOperator_discreet consent)
  intro accepted
  cases accepted with
  | true => trivial
  | false => show Harmless _; decide

/-- The handshake shows the disclaimer and fails harmlessly. -/
theorem performBpqHandshake_discreet (localCallsign : Text) :
    Discreet (performBpqHandshake manager localCallsign).run (Fails Mild) := by
  apply guided_attempt_fails
  · apply guided_attempt_fails readConfig_discreet
    intro config
    apply guided_attempt_fails (enterApplication_discreet manager _)
    intro _
    exact guided_attempt_fails (callsign_discreet manager _) fun _ => awaitText_discreet manager _
  · intro receivedText
    exact guided_attempt_fails (askOperator_discreet receivedText)
      fun _ => sendBytes_discreet manager _ _

/-- What the handshake reports may be said. -/
theorem handshakeAndReport_discreet (localCallsign : Text) :
    Discreet (handshakeAndReport manager localCallsign).run fun _ => True := by
  apply Guided.bind
  apply (performBpqHandshake_discreet manager localCallsign).mono
  intro result mild
  cases result with
  | ok value => exact ⟨.inl (by decide), fun _ _ => trivial⟩
  | error err =>
    refine ⟨.inl ?_, fun _ _ => trivial⟩
    exact harmless_append.mpr ⟨by decide, harmless_append.mpr ⟨by decide, mild⟩⟩

/-- A mild error is a tame one. -/
theorem mild_tame {err : AgwpeError} (mild : Mild err) : Tame err := .inl mild

/-- A chunk only ends the reading in one of three ways. -/
theorem accept_mild {reception : Reception} {bytes : Bytes} {err : AgwpeError}
    (refused : reception.accept bytes = .error err) : Mild err := by
  unfold Reception.accept at refused
  split at refused
  · obtain rfl := Except.error.inj refused
    show Harmless _
    decide
  · split at refused
    · obtain rfl := Except.error.inj refused
      show Harmless _
      decide
    · exact absurd refused (by simp)

/-- A response that is refused gives a tame error. -/
theorem findHeader_tame {reception : Reception} {err : AgwpeError}
    (refused : reception.findHeader = .error err) : Tame err := by
  unfold Reception.findHeader at refused
  split at refused
  · exact absurd refused (by simp)
  · split at refused
    · exact absurd refused (by simp)
    · split at refused
      · obtain rfl := Except.error.inj refused
        exact .inr ⟨_, rfl⟩
      · exact absurd refused (by simp)
    · rename_i failure _
      obtain rfl := Except.error.inj refused
      apply mild_tame
      show Harmless _
      cases failure <;> decide

/-- Looking at what has come gives a tame error at most. -/
theorem examine_tame (reception : Reception) :
    Sum.elim (fun _ => True) (Fails Tame) reception.examine := by
  unfold Reception.examine
  split
  · rename_i err refused
    exact findHeader_tame refused
  · split
    · split
      · trivial
      · trivial
    · trivial

/-- Numbers are harmless. -/
theorem digits_harmless (value : Nat) : Harmless (Decimal.printNat value) := by
  intro c member
  have each : ∀ code < 58, 48 ≤ code → harmless (Char.ofNat code) = true := by decide
  have digit := Decimal.print_digit value c member
  simp only [Char.isDigit, Bool.and_eq_true, decide_eq_true_eq] at digit
  have lower : 48 ≤ c.toNat := digit.1
  have upper : c.toNat ≤ 57 := digit.2
  have own := each c.toNat (by omega) lower
  rwa [Char.ofNat_toNat] at own

/-- A round of receiving fails tamely at most. -/
theorem receiveEvent_discreet (timeoutSecs : Nat) (reception : Reception) :
    Discreet (receiveEvent manager timeoutSecs reception)
      (Sum.elim (fun _ => True) (Fails Tame)) := by
  apply Guided.bind
  apply guided_ask trivial
  intro answer quiet
  cases answer with
  | error err =>
    have mild : Mild (transportErrToAgwpe err) :=
      transportErr_harmless (quiet _ List.mem_cons_self)
    cases err with
    | timeout =>
      apply mild_tame
      show Harmless _
      exact harmless_append.mpr ⟨by decide, harmless_append.mpr
        ⟨harmless_append.mpr ⟨by decide, digits_harmless timeoutSecs⟩, by decide⟩⟩
    | notConnected => exact mild_tame mild
    | io message => exact mild_tame mild
    | modemError message => exact mild_tame mild
    | sessionRejected message => exact mild_tame mild
  | ok event =>
    cases event with
    | disconnected reason =>
      apply mild_tame
      show Harmless _
      exact harmless_append.mpr ⟨by decide, quiet _ List.mem_cons_self⟩
    | data bytes =>
      dsimp only
      split
      · rename_i err refused
        exact mild_tame (accept_mild refused)
      · rename_i grown accepted
        refine ⟨trivial, fun aborted _ => ?_⟩
        cases aborted with
        | true =>
          apply mild_tame
          show Harmless _
          decide
        | false => exact examine_tame grown

/-- A request fails tamely at most. -/
theorem handleSendRequest_discreet (timeoutSecs : Nat) (data : Bytes) :
    Discreet (handleSendRequest manager timeoutSecs data).run (Fails Tame) := by
  have tame : ∀ err, Mild err → Tame err := fun _ => mild_tame
  apply guided_attempt_fails ((bailIfAborted_discreet manager).mono fun _ => Fails.mono tame)
  intro _
  apply guided_attempt_fails ((sendBytes_discreet manager _ _).mono fun _ => Fails.mono tame)
  intro _
  exact guided_loop (receiveEvent_discreet manager timeoutSecs) _

/-- Entering the application again says nothing that is not harmless. -/
theorem reenterApplication_discreet (skipBpqApp : Bool) :
    Discreet (reenterApplication manager skipBpqApp).run (Fails Mild) := by
  cases skipBpqApp with
  | true => trivial
  | false =>
    exact guided_attempt_fails (bpqSendAppCommand_discreet manager)
      fun _ => bailIfAborted_discreet manager

/-- The state of a reconnect quotes its reason. -/
theorem reconnecting_sayable {reason : Text} (tame : Tame (.sessionDied reason)) :
    Sayable (.reconnecting reason) := by
  rcases tame with mild | ⟨data, same⟩
  · exact .inl (harmless_append.mpr ⟨by decide, (harmless_append.mp mild).2⟩)
  · exact .inr ⟨data, congrArg _ (AgwpeError.sessionDied.inj same)⟩

/-- The handshake of a reconnect shows its reason. -/
theorem receiveAgain_discreet {reason : Text} (sayable : Sayable (.reconnecting reason))
    (localCallsign : Text) :
    Discreet (receiveAgain manager reason localCallsign).run (Fails Mild) := by
  have bail : ∀ {α : Type} {after : Attempt α}, Discreet after.run (Fails Mild) →
      Discreet (bailIfAborted manager >>= fun _ => after).run (Fails Mild) :=
    fun rest => guided_attempt_fails (bailIfAborted_discreet manager) fun _ => rest
  apply guided_attempt_fails (callModem_discreet manager _)
  intro _
  apply guided_attempt_fails (guided_lift_fails (setState_discreet sayable))
  intro _
  apply bail
  apply guided_attempt_fails (callModem_discreet manager _)
  intro _
  apply bail
  apply guided_attempt_fails readConfig_discreet
  intro config
  apply guided_attempt_fails (reenterApplication_discreet manager _)
  intro _
  apply guided_attempt_fails (callsign_discreet manager _)
  intro _
  apply bail
  apply guided_attempt_fails (awaitText_discreet manager _)
  intro disclaimer
  exact bail trivial

/-- The text of the state while the operator is asked is always the same. -/
theorem awaiting_sayable (disclaimer : Text) : Sayable (.awaitingConsent disclaimer) :=
  .inl (by show Harmless "Awaiting consent".toList; decide)

/-- A disclaimer that has changed is refused harmlessly. -/
theorem requireAgreed_discreet (disclaimer : Text) :
    Discreet (requireAgreed disclaimer).run (Fails Mild) := by
  apply guided_attempt_fails (guided_lift_fails (guided_ask trivial fun _ _ => trivial))
  intro stored
  unfold requireStored
  split
  · trivial
  · apply guided_attempt_fails (guided_lift_fails (setState_discreet (awaiting_sayable disclaimer)))
    intro _
    show Harmless _
    decide

/-- Setting a session up again shows its reason. -/
theorem reestablish_discreet {reason : Text} (sayable : Sayable (.reconnecting reason))
    (localCallsign : Text) :
    Discreet (reestablish manager reason localCallsign).run (Fails Mild) := by
  apply guided_attempt_fails (receiveAgain_discreet manager sayable localCallsign)
  intro disclaimer
  apply guided_attempt_fails (requireAgreed_discreet disclaimer)
  intro _
  apply guided_attempt_fails (bailIfAborted_discreet manager)
  intro _
  apply guided_attempt_fails (sendBytes_discreet manager _ _)
  intro _
  exact guided_lift_fails (setState_discreet (.inl (by decide)))

/-- A reconnect shows its reason and how it ends. -/
theorem handleReconnect_discreet {reason : Text} (sayable : Sayable (.reconnecting reason))
    (localCallsign : Text) :
    Discreet (handleReconnect manager reason localCallsign).run fun _ => True := by
  apply Guided.bind
  apply (setState_discreet sayable).mono
  intro _ _
  apply Guided.bind
  apply (reestablish_discreet manager sayable localCallsign).mono
  intro result mild
  split
  · trivial
  · trivial
  · refine ⟨.inl ?_, fun _ _ => trivial⟩
    exact harmless_append.mpr ⟨by decide, harmless_append.mpr ⟨by decide, mild⟩⟩

/-- The way a request failed decides what is shown while the session is restored. -/
theorem handleSendRequestWithReconnect_discreet (timeoutSecs : Nat) (data : Bytes)
    (localCallsign : Text) :
    Discreet (handleSendRequestWithReconnect manager timeoutSecs data localCallsign).run
      fun _ => True := by
  have whole : Discreet (handleSendRequestWithReconnect manager timeoutSecs data localCallsign).run
      (Fails fun _ => True) := by
    apply guided_attempt_fails (guided_forget (bailIfAborted_discreet manager))
    intro _
    apply Guided.bind
    apply (handleSendRequest_discreet manager timeoutSecs data).mono
    intro first tame
    unfold afterFirstTry
    split
    · trivial
    · apply guided_attempt_fails
        (guided_forget (handleReconnect_discreet manager (reconnecting_sayable tame) localCallsign))
      intro _
      apply guided_attempt_fails (guided_forget (bailIfAborted_discreet manager))
      intro _
      exact guided_forget (handleSendRequest_discreet manager timeoutSecs data)
    · trivial
  exact whole.mono fun _ _ => trivial

/-- Opening a link fails harmlessly. -/
theorem openLink_discreet (target : Text) (portNum : UInt8) (localCallsign : Text) :
    Discreet (openLink manager target portNum localCallsign).run (Fails Mild) := by
  apply guided_attempt_fails readConfig_discreet
  intro first
  apply guided_attempt_fails readConfig_discreet
  intro second
  apply guided_attempt_fails (callModem_discreet manager _)
  intro _
  apply guided_attempt_fails (guided_lift_fails (setState_discreet (.inl (by decide))))
  exact fun _ => callModem_discreet manager _

/-- Opening a session shows what may be said. -/
theorem handleOpenSession_discreet (target : Text) (portNum : UInt8) (localCallsign : Text) :
    Discreet (handleOpenSession manager target portNum localCallsign).run fun _ => True := by
  have whole : Discreet (handleOpenSession manager target portNum localCallsign).run
      (Fails fun _ => True) := by
    apply guided_attempt_fails (guided_lift_fails (guided_ask trivial fun _ _ => trivial))
    intro _
    apply guided_attempt_fails (guided_forget (openLink_discreet manager target portNum localCallsign))
    exact fun _ => guided_forget (handshakeAndReport_discreet manager localCallsign)
  exact whole.mono fun _ _ => trivial

/-- Closing a session fails harmlessly. -/
theorem handleCloseSession_discreet : Discreet (handleCloseSession manager).run (Fails Mild) := by
  apply guided_attempt_fails (guided_lift_fails (guided_ask trivial fun _ _ => trivial))
  intro _
  apply guided_attempt_fails (callModem_discreet manager _)
  intro _
  exact guided_lift_fails (setState_discreet (.inl (by decide)))

/-- Asking for ports fails harmlessly. -/
theorem handleQueryPorts_discreet : Discreet (handleQueryPorts manager).run (Fails Mild) := by
  apply guided_attempt_fails (guided_lift_fails (guided_ask trivial fun _ _ => trivial))
  intro supported
  cases supported with
  | true => exact callModem_discreet manager _
  | false => trivial

/-- No command sets a state that is not sayable. -/
theorem runCommand_discreet (timeoutSecs : Nat) (localCallsign : Text) (command : Command) :
    Discreet (runCommand manager timeoutSecs localCallsign command) fun _ => True := by
  have then' : ∀ {α β : Type} {program : Routine α} {post : α → Prop} {value : α → β},
      Discreet program post →
      Discreet (program >>= fun result => pure (value result)) fun _ => True :=
    fun guided => Guided.bind (guided.mono fun _ _ => trivial)
  cases command with
  | connectModem config => exact ⟨trivial, fun _ _ => then' (callModem_discreet manager _)⟩
  | disconnectModem => exact then' (callModem_discreet manager _)
  | queryPorts => exact then' (handleQueryPorts_discreet manager)
  | openSession target portNum =>
    exact then' (handleOpenSession_discreet manager target portNum localCallsign)
  | closeSession => exact then' (handleCloseSession_discreet manager)
  | sendRequest data => exact then' (handleSendRequest_discreet manager timeoutSecs data)
  | sendRequestWithReconnect data =>
    exact then' (handleSendRequestWithReconnect_discreet manager timeoutSecs data localCallsign)

/-- Serving a command shows what may be said. -/
theorem serve_discreet (timeoutSecs : Nat) (localCallsign : Text) (ticket : TicketId)
    (command : Command) :
    Discreet (serve manager timeoutSecs localCallsign ticket command) fun _ => True := by
  apply Guided.bind
  apply (runCommand_discreet manager timeoutSecs localCallsign command).mono
  exact fun _ _ => ⟨trivial, fun _ _ => trivial⟩

/-- The background task shows what may be said, command after command. -/
theorem backgroundTask_discreet (configuredTimeout : Nat) :
    Discreet (backgroundTask manager configuredTimeout) fun _ => True := by
  apply guided_loop
  intro localCallsign
  apply Guided.bind
  apply guided_ask trivial
  intro next _
  cases next with
  | none => trivial
  | some taken =>
    apply Guided.bind
    apply (serve_discreet manager _ _ _ _).mono
    exact fun _ _ => trivial

end Routines

section Runs

/-- The step of a run in which what is reported is harmless and no response is given up
because it is malformed. -/
def Unquoting (event : ClientEvent) : Prop :=
  Quiet event.op event.answer ∧
    ∀ data, event.op ≠ .setConnectionState (.reconnecting (malformedResponse data))

/-- Runs of such steps, and the text of the state at any moment of them. -/
def pageSetting : Setting World Task Answer where
  exec := exec
  meets := fun _ event => Unquoting event
  inv := fun now => Harmless now.world.connectionState.display

/-- The state changes only where it is set, reported, or the operator is asked. -/
theorem apply_harmless {op : Op} {answer : Answer op} {world : World} {task : Task}
    (met : Unquoting ⟨task, op, answer⟩) (sayable : utters op)
    (before : Harmless world.connectionState.display) :
    Harmless (world.apply op answer).connectionState.display := by
  obtain ⟨quiet, whole⟩ := met
  cases op with
  | modem manager request =>
    simp only [World.apply]
    split
    · rename_i state reported
      cases state with
      | disconnected => show Harmless "Disconnected".toList; decide
      | agwpeConnected => show Harmless "AGWPE Connected".toList; decide
      | error message =>
        have said : Harmless message := quiet message (by simp [reports, reported])
        exact harmless_append.mpr ⟨by decide, said⟩
    · exact before
  | setConnectionState state =>
    rcases sayable with said | ⟨data, same⟩
    · exact said
    · exact absurd (congrArg Op.setConnectionState same) (whole data)
  | parkConsent disclaimer => show Harmless "Awaiting consent".toList; decide
  | nextCommand => cases answer <;> exact before
  | submit => simp only [World.apply]; split <;> exact before
  | answerConsent => simp only [World.apply]; split <;> exact before
  | withdrawConsent =>
    have kept : world.dropPending.connectionState = world.connectionState := by
      unfold World.dropPending
      split
      · rfl
      · dsimp only
        split <;> rfl
    show Harmless world.dropPending.connectionState.display
    rwa [kept]
  | _ => exact before

/-- Every task keeps the text of the state harmless. -/
theorem client_discreet (entries : Nat → Entry) (configuredTimeout : ManagerId → Nat)
    (task : Task) :
    Discreet ((client entries configuredTimeout).threads task) fun _ => True := by
  have only := client_only entries configuredTimeout task
  cases task with
  | actor manager => exact backgroundTask_discreet manager _
  | handler index =>
    apply guided_only (only.mono _)
    intro op permitted
    cases op <;> trivial
  | peer manager =>
    apply guided_only (only.mono _)
    intro op permitted
    cases op <;> trivial

/-- In every run of such steps, the text of the state stays harmless. -/
theorem reached_harmless {entries : Nat → Entry} {configuredTimeout : ManagerId → Nat}
    {pool : Pool World Task Answer}
    (reaches : Reaches exec (fun _ event => Unquoting event) (client entries configuredTimeout)
      pool) : Harmless pool.now.world.connectionState.display := by
  have start : Harmless World.initial.connectionState.display := by
    show Harmless "Disconnected".toList
    decide
  have kept : pageSetting.inv pool.now ∧ _ := sound reaches start fun task => by
    have guided := client_discreet entries configuredTimeout task
    apply (triple_guided (stable_const True) _ guided _ trivial).mono
    · exact fun _ _ _ => trivial
    · intro op sayable now answer later _ moves
      have after : later.world = now.world.apply op answer := (exec_iff.mp moves.occurs.1).2
      refine ⟨moves.met.1, ?_, trivial⟩
      show Harmless later.world.connectionState.display
      rw [after]
      exact apply_harmless moves.met sayable moves.inv
  exact kept.1

/-- What the script of the connect page makes of the connection state. -/
structure PageScript (entries : Nat → Entry) (configuredTimeout : ManagerId → Nat) : Prop where
  /-- It receives a state exactly if none of the characters is in its text that have a meaning
  in markup or in a literal. -/
  each : ∀ state, Survives state ↔ Harmless state.display
  /-- It receives every state of a run in which neither the modem nor the peer reports a text
  with such a character, and no malformed response is quoted. -/
  runs : ∀ pool,
    Reaches exec (fun _ event => Unquoting event) (client entries configuredTimeout) pool →
      Survives pool.now.world.connectionState

/-- The connect page, for every state and every run of the client.

For each state, the script is safe exactly if the texts in it do no harm; and in every run these
are the texts that the client has put there. -/
theorem connect_page_script (entries : Nat → Entry) (configuredTimeout : ManagerId → Nat) :
    PageScript entries configuredTimeout where
  each := survives_iff
  runs := fun _ reaches => (survives_iff _).mpr (reached_harmless reaches)

/-- The same as a check, which refuses every reconnect. -/
def calm (event : ClientEvent) : Bool :=
  (reports event.op event.answer).all (fun text => text.all harmless) &&
    match event.op with
    | .setConnectionState (.reconnecting _) => false
    | _ => true

/-- The check says that an event quotes nothing. -/
theorem calm_unquoting {event : ClientEvent} (checked : calm event = true) : Unquoting event := by
  obtain ⟨texts, kept⟩ := Bool.and_eq_true_iff.mp checked
  constructor
  · intro text member
    exact List.all_eq_true.mp (List.all_eq_true.mp texts text member)
  · intro data set
    rw [set] at kept
    exact absurd kept Bool.false_ne_true

/-- Behind the opening of a session the script of the page still works. -/
theorem connect_page_script_sample :
    ∃ pool : Pool World Task Answer, pool.now.history = (opening "AGREE".toList).reverse ∧
      Survives pool.now.world.connectionState := by
  obtain ⟨pool, reaches, history⟩ := client_replays (fun _ => calm) (browsing "AGREE".toList)
    (fun _ => 30) (opening "AGREE".toList) (by decide)
  exact ⟨pool, history, (connect_page_script _ _).runs pool
    (reaches.mono fun _ _ => calm_unquoting)⟩

/-- The frame with which a node ends a session: its text ends with a carriage return. -/
def partingFrame : Agwpe.AgwpeFrame where
  port := 0
  frameType := .disconnect
  pid := 0
  callFrom := "NODE".toList
  callTo := "N0CALL".toList
  dataLen := 35
  userData := 0
  data := ascii "*** DISCONNECTED From Station NODE\r"

/-- A page is asked for, and the node ends the session. -/
def parting : List ClientEvent :=
  opening "AGREE".toList ++ browsePage 3 1 ['a'] ++ takePage 1 ['a'] ++
  [ writePage ['a'],
    (Task.actor 0).does (.recv 0 30) (.ok partingFrame.event),
    (Task.actor 0).does (.setConnectionState
      (.reconnecting "*** DISCONNECTED From Station NODE\r".toList)) () ]

/-- The script breaks at the reason of the node. -/
theorem connect_page_broken : ¬ ∀ (entries : Nat → Entry) (configuredTimeout : ManagerId → Nat)
    (pool : Pool World Task Answer),
    Reaches exec (fun _ _ => True) (client entries configuredTimeout) pool →
      Survives pool.now.world.connectionState := by
  intro every
  obtain ⟨pool, reaches, _, ended⟩ := client_replays_to (fun _ _ => true)
    (browsing "AGREE".toList) (fun _ => 30) parting
    (fun now => decide (now.world.connectionState =
      .reconnecting "*** DISCONNECTED From Station NODE\r".toList)) (by decide)
  have survives := every _ _ pool (reaches.mono fun _ _ _ => trivial)
  rw [of_decide_eq_true ended, survives_iff] at survives
  exact absurd survives (by decide)

end Runs

end PacketBrowser.Client
