import PacketBrowser.Client.Reconnect
import PacketBrowser.Foundation.Budget
import PacketBrowser.Foundation.Lossy

/-!
# Every command is served

A manager serves its commands one after another, so a command that is never over keeps all
behind it waiting for ever. Whatever the transport, the operator and the other tasks answer,
this does not happen. The text of a handshake and a response are capped, so each chunk leaves
less to come, and a session that died is reopened once at most. Only reads that bring no byte
can prolong a command, and the bound counts them.
-/

namespace PacketBrowser.Client

open Protocol Foundation Program

section Rations

/-- Data without a byte is received. -/
def bringsNothing (event : CallEvent) : Bool :=
  match event.op, event.answer with
  | .recv _ _, .ok (.data []) => true
  | _, _ => false

/-- A command is taken from the queue. -/
def bringsCommand (event : CallEvent) : Bool :=
  match event.op, event.answer with
  | .nextCommand _, some _ => true
  | _, _ => false

/-- No more reads bring nothing, and no more commands come, than these. -/
def Rationed (empties commands : Nat) (now : CallMoment) (event : CallEvent) : Prop :=
  (bringsNothing event = true → now.history.countP bringsNothing < empties) ∧
    (bringsCommand event = true → now.history.countP bringsCommand < commands)

/-- The reads that brought nothing have kept to their number, and so many commands are still
to come at most. -/
structure Rations (empties commands left : Nat) (now : CallMoment) : Prop where
  empties : now.history.countP bringsNothing ≤ empties
  commands : commands ≤ now.history.countP bringsCommand + left

variable {empties commands left : Nat} {now later : CallMoment} {event : CallEvent}

/-- A step within the rations leaves what is left of them. -/
theorem Rations.step (rations : Rations empties commands left now)
    (occurs : Occurs anyAnswer now event later) (rationed : Rationed empties commands now event) :
    Rations empties commands left later := by
  have before := rations.empties
  have coming := rations.commands
  constructor
  · rw [occurs.2, List.countP_cons]
    cases brings : bringsNothing event with
    | false => exact before
    | true => exact rationed.1 brings
  · rw [occurs.2, List.countP_cons]
    omega

/-- A command that is taken is one of those to come. -/
theorem Rations.take {manager : ManagerId} {taken : TicketId × Command}
    (rations : Rations empties commands left now)
    (occurs : Occurs anyAnswer now ⟨(), .nextCommand manager, some taken⟩ later)
    (rationed : Rationed empties commands now ⟨(), .nextCommand manager, some taken⟩) :
    ∃ fewer < left, Rations empties commands fewer later := by
  have room : now.history.countP bringsCommand < commands := rationed.2 rfl
  have coming := rations.commands
  have takes : bringsCommand ⟨(), .nextCommand manager, some taken⟩ = true := rfl
  refine ⟨left - 1, by omega, (rations.step occurs rationed).empties, ?_⟩
  rw [occurs.2, List.countP_cons, if_pos takes]
  omega

/-- Every operation can be answered without using up anything. -/
theorem sparing_answer (op : Op) : ∃ answer : Answer op,
    bringsNothing ⟨(), op, answer⟩ = false ∧ bringsCommand ⟨(), op, answer⟩ = false := by
  cases op with
  | modem manager call => exact ⟨⟨.ok (), none, .kept⟩, rfl, rfl⟩
  | recv manager timeoutSecs => exact ⟨.error .timeout, rfl, rfl⟩
  | nextCommand manager => exact ⟨none, rfl, rfl⟩
  | readConfig => exact ⟨⟨[], false⟩, rfl, rfl⟩
  | readConnectionState => exact ⟨.disconnected, rfl, rfl⟩
  | awaitConsent consent => exact ⟨.timedOut, rfl, rfl⟩
  | readTransportDefault => exact ⟨.ax25, rfl, rfl⟩
  | readMyCallsign => exact ⟨[], rfl, rfl⟩
  | peerMove manager => exact ⟨.skips, rfl, rfl⟩
  | _ => first
    | exact ⟨(), rfl, rfl⟩
    | exact ⟨false, rfl, rfl⟩
    | exact ⟨.ok (), rfl, rfl⟩
    | exact ⟨none, rfl, rfl⟩
    | exact ⟨(0 : Nat), rfl, rfl⟩

/-- One operation ends after one operation. -/
theorem ask_ends {op : Op} {post : Answer op → CallMoment → Prop}
    (each : ∀ answer later, Occurs anyAnswer now ⟨(), op, answer⟩ later →
      Rationed empties commands now ⟨(), op, answer⟩ → post answer later) :
    EndsWithin anyAnswer (Rationed empties commands) 1 post (ask op) now := by
  obtain ⟨answer, something, nobody⟩ := sparing_answer op
  refine ends_ask ⟨answer, nextMoment now op answer, ⟨rfl, rfl⟩, ?_, ?_⟩ each
  · rw [something]
    exact fun brings => absurd brings Bool.false_ne_true
  · rw [nobody]
    exact fun brings => absurd brings Bool.false_ne_true

end Rations

section Finishing

variable {empties commands bound more : Nat} {α β : Type}

variable (empties commands) in
/-- However it is answered within the rations, the routine is over after so many operations
at most. -/
def Finishes (bound : Nat) (routine : Routine α) : Prop :=
  ∀ left now, Rations empties commands left now →
    EndsWithin anyAnswer (Rationed empties commands) bound
      (fun _ => Rations empties commands left) routine now

/-- A larger bound suits as well. -/
theorem Finishes.within {routine : Routine α} (finishes : Finishes empties commands bound routine)
    (fits : bound ≤ more) : Finishes empties commands more routine :=
  fun left now rations => (finishes left now rations).within fits

/-- What is over needs no operation. -/
theorem finishes_done (value : α) : Finishes empties commands 0 (.done value) :=
  fun _ _ rations => ends_done 0 rations

/-- An operation is one operation. -/
theorem finishes_ask (op : Op) : Finishes empties commands 1 (ask op) :=
  fun _ _ rations => ask_ends fun _ _ => rations.step

/-- Two parts one after the other need the operations of both. -/
theorem Finishes.bind {routine : Routine α} {after : α → Routine β}
    (finishes : Finishes empties commands bound routine)
    (rest : ∀ value, Finishes empties commands more (after value)) :
    Finishes empties commands (more + bound) (routine >>= after) :=
  fun left now rations => (finishes left now rations).bind fun value => rest value left

/-- A result that is changed needs no more operations. -/
theorem Finishes.returns {routine : Routine α} {result : α → β}
    (finishes : Finishes empties commands bound routine) :
    Finishes empties commands bound (routine >>= fun value => return result value) :=
  fun left now rations => (finishes left now rations).returns fun _ _ kept => kept

/-- A part without failures needs as many as it does. -/
theorem finishes_lift {routine : Routine α} (finishes : Finishes empties commands bound routine) :
    Finishes empties commands bound (ExceptT.lift routine : Attempt α).run :=
  finishes.returns

/-- Two attempts one after the other need at most the operations of both. -/
theorem Finishes.attempt {first : Attempt α} {after : α → Attempt β}
    (finishes : Finishes empties commands bound first.run)
    (rest : ∀ value, Finishes empties commands more (after value).run) :
    Finishes empties commands (more + bound) (first >>= after).run := by
  intro left now rations
  have opened : EndsWithin anyAnswer (Rationed empties commands) bound
      (Setting.outcome (fun _ : α => Rations empties commands left)
        fun _ : AgwpeError => Rations empties commands left) first.run now := by
    apply (finishes left now rations).mono (Nat.le_refl _)
    rintro (err | value) later kept <;> exact kept
  exact ends_attempt opened fun value => rest value left

end Finishing

section Receiving

/-! Each chunk leaves less room under the cap; a read that brings nothing uses up a ration. -/

variable {empties commands left cap size more : Nat} {now later : CallMoment}
variable (manager : ManagerId) (timeoutSecs : Nat)

/-- What was received so far leaves room for so many more rounds at most. -/
structure Room (empties commands left cap size more : Nat) (now : CallMoment) : Prop where
  rations : Rations empties commands left now
  fits : size ≤ cap
  rounds : cap + empties ≤ more + size + now.history.countP bringsNothing

variable (empties commands left cap size more) in
/-- After another chunk there is less room, whatever the size has become. -/
def Narrows (bytes : Bytes) (later : CallMoment) : Prop :=
  ∀ grown, size ≤ grown → grown ≤ cap → (bytes ≠ [] → size < grown) →
    ∃ fewer < more, Room empties commands left cap grown fewer later

/-- At the start there is room for the whole text and for every read that brings nothing. -/
theorem Room.start (cap : Nat) (rations : Rations empties commands left now) :
    Room empties commands left cap 0 (cap + empties) now :=
  ⟨rations, Nat.zero_le cap, by omega⟩

/-- A step that brings something leaves the room for the reads that bring nothing. -/
theorem Room.step {event : CallEvent} (room : Room empties commands left cap size more now)
    (occurs : Occurs anyAnswer now event later) (rationed : Rationed empties commands now event)
    (something : bringsNothing event = false) :
    Room empties commands left cap size more later := by
  refine ⟨room.rations.step occurs rationed, room.fits, ?_⟩
  rw [occurs.2, List.countP_cons, something, if_neg Bool.false_ne_true]
  exact room.rounds

/-- A read narrows the room, by its bytes or by having brought none. -/
theorem Room.narrows {bytes : Bytes} (room : Room empties commands left cap size more now)
    (occurs : Occurs anyAnswer now ⟨(), .recv manager timeoutSecs, .ok (.data bytes)⟩ later)
    (rationed : Rationed empties commands now
      ⟨(), .recv manager timeoutSecs, .ok (.data bytes)⟩) :
    Narrows empties commands left cap size more bytes later := by
  intro grown larger fits grows
  have before := room.rations.empties
  have rounds := room.rounds
  have small := room.fits
  refine ⟨more - 1, ?_, room.rations.step occurs rationed, fits, ?_⟩
  · cases bytes with
    | nil =>
      have spare : now.history.countP bringsNothing < empties := rationed.1 rfl
      omega
    | cons b rest =>
      have grew := grows (List.cons_ne_nil b rest)
      omega
  · rw [occurs.2, List.countP_cons]
    cases bytes with
    | nil =>
      have nothing : bringsNothing ⟨(), .recv manager timeoutSecs, .ok (.data [])⟩ = true := rfl
      have spare : now.history.countP bringsNothing < empties := rationed.1 nothing
      rw [if_pos nothing]
      omega
    | cons b rest =>
      have grew := grows (List.cons_ne_nil b rest)
      omega

/-- A read ends, and has narrowed the room. -/
theorem recv_ends (room : Room empties commands left cap size more now) :
    EndsWithin anyAnswer (Rationed empties commands) 1
      (fun answer later => Rations empties commands left later ∧
        ∀ bytes, answer = .ok (.data bytes) →
          Narrows empties commands left cap size more bytes later)
      (ask (.recv manager timeoutSecs)) now := by
  apply ask_ends
  intro answer later occurs rationed
  refine ⟨room.rations.step occurs rationed, ?_⟩
  rintro bytes rfl
  exact room.narrows manager timeoutSecs occurs rationed

/-- The rounds in which a text of the handshake is received, at most. -/
def textRounds (empties : Nat) : Nat := maxHandshakeText + empties + 1

/-- The rounds in which a response is received, at most. -/
def responseRounds (empties : Nat) : Nat := maxResponseSize + empties + 1

/-- Decoded data has a character. -/
theorem byteLength_lossy {bytes : Bytes} (some : bytes ≠ []) :
    0 < Utf8.byteLength (Utf8.lossy bytes) := by
  obtain ⟨b, rest, rfl⟩ := List.exists_cons_of_ne_nil some
  rw [Utf8.lossy, List.length_cons, Utf8.lossyWithin, Utf8.byteLength_cons,
    String.length_utf8EncodeChar]
  exact Nat.add_pos_left (Char.utf8Size_pos _) _

/-- Waiting for a text ends: each read brings something of what there is room for, or is one of
those that bring nothing. -/
theorem awaitText_finishes (found : Text → Bool) :
    Finishes empties commands (textRounds empties) (awaitText manager found).run := by
  intro left now rations
  rw [awaitText_run]
  apply (ends_loop (fun received more now =>
    Room empties commands left maxHandshakeText (Utf8.byteLength received) more now) ?_ []
    (Room.start maxHandshakeText rations)).within (Nat.le_of_eq (Nat.mul_one _))
  intro received more now room
  apply (recv_ends manager 30 room).bind
  rintro answer later ⟨rations, narrows⟩
  refine ends_done 0 ?_
  cases answer with
  | error err => exact rations
  | ok event =>
    cases event with
    | disconnected reason => exact rations
    | data bytes =>
      rw [awaitStep, collectText]
      split
      · exact rations
      · rename_i small
        split
        · exact rations
        · apply narrows bytes rfl
          · rw [Utf8.byteLength_append]
            exact Nat.le_add_right _ _
          · rw [Utf8.byteLength_append]
            exact Nat.le_of_not_lt small
          · intro something
            rw [Utf8.byteLength_append]
            exact Nat.lt_add_of_pos_right (byteLength_lossy something)

/-- What is accepted is received, and is not too much. -/
theorem accept_grows {reception grown : Reception} {bytes : Bytes}
    (accepted : reception.accept bytes = .ok grown) :
    grown.responseData = reception.responseData ++ bytes ∧
      grown.responseData.length ≤ maxResponseSize := by
  rw [Reception.accept] at accepted
  split at accepted
  · cases accepted
  · rename_i small
    split at accepted
    · cases accepted
    · obtain rfl := Except.ok.inj accepted
      refine ⟨rfl, ?_⟩
      rw [List.length_append]
      exact Nat.le_of_not_lt small

/-- Looking for the header changes nothing about what was received. -/
theorem findHeader_data {reception found : Reception}
    (searched : reception.findHeader = .ok found) :
    found.responseData = reception.responseData := by
  rw [Reception.findHeader] at searched
  split at searched
  · rw [Except.ok.inj searched]
  · split at searched
    · rw [← Except.ok.inj searched]
    · split at searched
      · cases searched
      · rw [Except.ok.inj searched]
    · cases searched

/-- A response that goes on keeps what was received. -/
theorem examine_data {reception next : Reception} (goes : reception.examine = .inl next) :
    next.responseData = reception.responseData := by
  rw [Reception.examine] at goes
  split at goes
  · cases goes
  · rename_i found searched
    rw [← findHeader_data searched]
    split at goes
    · split at goes
      · cases goes
      · rw [Sum.inl.inj goes]
    · rw [Sum.inl.inj goes]

/-- Receiving a response ends, for the same reason as waiting for a text. -/
theorem receiveResponse_finishes :
    Finishes empties commands (responseRounds empties * 2)
      (receiveResponse manager timeoutSecs).run := by
  intro left now rations
  apply ends_loop (fun reception more now => Room empties commands left maxResponseSize
    reception.responseData.length more now) ?_ Reception.empty
    (Room.start maxResponseSize rations)
  intro reception more now room
  apply (recv_ends manager timeoutSecs room).bind
  rintro answer later ⟨rations, narrows⟩
  cases answer with
  | error err => cases err <;> exact ends_done 1 rations
  | ok event =>
    cases event with
    | disconnected reason => exact ends_done 1 rations
    | data bytes =>
      dsimp only
      cases accepted : reception.accept bytes with
      | error err => exact ends_done 1 rations
      | ok grown =>
        obtain ⟨appended, fits⟩ := accept_grows accepted
        obtain ⟨fewer, less, narrow⟩ : ∃ fewer < more, Room empties commands left
            maxResponseSize grown.responseData.length fewer later := by
          apply narrows bytes rfl _ _ fits
          · intro something
            rw [appended, List.length_append]
            exact Nat.lt_add_of_pos_right (List.length_pos_of_ne_nil something)
          · rw [appended, List.length_append]
            exact Nat.le_add_right _ _
        have checked : EndsWithin anyAnswer (Rationed empties commands) 1
            (fun _ later => Room empties commands left maxResponseSize grown.responseData.length
              fewer later) (ask (.loadAbort manager)) later :=
          ask_ends fun _ _ occurs rationed => narrow.step occurs rationed rfl
        refine checked.returns fun aborted latest room => ?_
        cases aborted with
        | true => exact room.rations
        | false =>
          rw [if_neg Bool.false_ne_true]
          cases examined : grown.examine with
          | inr result => exact room.rations
          | inl next =>
            refine ⟨fewer, less, ?_⟩
            rw [examine_data examined]
            exact room

end Receiving

section Commands

variable {empties commands : Nat} {α : Type} (manager : ManagerId)

/-- A value needs no operation. -/
theorem finishes_pure (value : α) : Finishes empties commands 0 (pure value : Attempt α).run :=
  finishes_done (Except.ok value)

/-- A failure needs no operation. -/
theorem finishes_throw (err : AgwpeError) :
    Finishes empties commands 0 (throw err : Attempt α).run :=
  finishes_done (Except.error err)

/-- An operation that cannot fail is one operation. -/
theorem lift_finishes (op : Op) :
    Finishes empties commands 1 (ExceptT.lift (ask op) : Attempt (Answer op)).run :=
  finishes_lift (finishes_ask op)

/-- A call of the modem is one operation. -/
theorem callModem_finishes (call : ModemCall) :
    Finishes empties commands 1 (callModem manager call).run :=
  (finishes_ask _).returns

/-- Sending is one operation. -/
theorem sendBytes_finishes (purpose : Purpose) (data : Bytes) :
    Finishes empties commands 1 (sendBytes manager purpose data).run :=
  (finishes_ask _).returns

/-- Reading the flag is one operation. -/
theorem bailIfAborted_finishes : Finishes empties commands 1 (bailIfAborted manager).run :=
  (finishes_ask _).returns

/-- The command to the node takes two operations. -/
theorem bpqSendAppCommand_finishes :
    Finishes empties commands 2 (bpqSendAppCommand manager).run :=
  (lift_finishes .readConfig).attempt fun _ => sendBytes_finishes manager _ _

/-- Entering the application takes two operations at most. -/
theorem enterApplication_finishes (skipBpqApp : Bool) :
    Finishes empties commands 2 (enterApplication manager skipBpqApp).run := by
  cases skipBpqApp with
  | true => exact (finishes_pure ()).within (Nat.zero_le 2)
  | false => exact bpqSendAppCommand_finishes manager

/-- Telling the callsign takes one operation behind the wait for the prompt. -/
theorem sendCallsign_finishes (localCallsign : Text) :
    Finishes empties commands (1 + textRounds empties)
      (bpqAwaitCallsignPromptAndSendCallsign manager localCallsign).run :=
  (awaitText_finishes manager _).attempt fun _ => sendBytes_finishes manager _ _

/-- Receiving the disclaimer takes two waits and four operations at most. -/
theorem receiveDisclaimer_finishes (localCallsign : Text) :
    Finishes empties commands (2 * textRounds empties + 4)
      (receiveDisclaimer manager localCallsign).run :=
  ((lift_finishes .readConfig).attempt fun config =>
    (enterApplication_finishes manager config.skipBpqApp).attempt fun _ =>
    (sendCallsign_finishes manager localCallsign).attempt fun _ =>
    awaitText_finishes manager _).within (by omega)

/-- Waiting for the operator takes two operations at most. -/
theorem awaitOperator_finishes (consent : ConsentId) :
    Finishes empties commands 2 (awaitOperator consent).run := by
  refine (finishes_ask (.awaitConsent consent)).bind fun waited => ?_
  cases waited with
  | decided accepted => exact (finishes_done _).within (Nat.zero_le 1)
  | senderDropped => exact (finishes_done _).within (Nat.zero_le 1)
  | timedOut => exact (finishes_ask .withdrawConsent).returns

/-- Looking at the decision takes no operation. -/
theorem requireAccepted_finishes (accepted : Bool) :
    Finishes empties commands 0 (requireAccepted accepted).run := by
  cases accepted with
  | true => exact finishes_pure ()
  | false => exact finishes_throw _

/-- Asking the operator takes three operations at most. -/
theorem askOperator_finishes (receivedText : Text) :
    Finishes empties commands 3 (askOperator receivedText).run :=
  (lift_finishes (.parkConsent receivedText)).attempt fun consent =>
    (awaitOperator_finishes consent).attempt requireAccepted_finishes

/-- The handshake takes two waits and eight operations at most. -/
theorem performBpqHandshake_finishes (localCallsign : Text) :
    Finishes empties commands (2 * textRounds empties + 8)
      (performBpqHandshake manager localCallsign).run :=
  ((receiveDisclaimer_finishes manager localCallsign).attempt fun receivedText =>
    (askOperator_finishes receivedText).attempt fun _ =>
    sendBytes_finishes manager _ _).within (by omega)

/-- The report is one operation. -/
theorem reportHandshake_finishes (result : Except AgwpeError Unit) :
    Finishes empties commands 1 (reportHandshake result) := by
  cases result with
  | ok _ => exact (finishes_ask (.setConnectionState .connected)).returns
  | error err => exact (finishes_ask (.setConnectionState _)).returns

/-- Opening a link takes five operations at most. -/
theorem openLink_finishes (target : Text) (portNum : UInt8) (localCallsign : Text) :
    Finishes empties commands 5 (openLink manager target portNum localCallsign).run :=
  (lift_finishes .readConfig).attempt fun _ =>
    (lift_finishes .readConfig).attempt fun _ =>
    (callModem_finishes manager _).attempt fun _ =>
    (lift_finishes (.setConnectionState .connecting)).attempt fun _ =>
    callModem_finishes manager _

/-- Opening a session takes two waits and fifteen operations at most. -/
theorem handleOpenSession_finishes (target : Text) (portNum : UInt8) (localCallsign : Text) :
    Finishes empties commands (2 * textRounds empties + 15)
      (handleOpenSession manager target portNum localCallsign).run :=
  ((lift_finishes (.storeAbort manager false)).attempt fun _ =>
    (openLink_finishes manager target portNum localCallsign).attempt fun _ =>
    (performBpqHandshake_finishes manager localCallsign).bind
      reportHandshake_finishes).within (by omega)

/-- A request takes the rounds of its response and two operations at most. -/
theorem handleSendRequest_finishes (timeoutSecs : Nat) (data : Bytes) :
    Finishes empties commands (2 * responseRounds empties + 2)
      (handleSendRequest manager timeoutSecs data).run :=
  ((bailIfAborted_finishes manager).attempt fun _ =>
    (sendBytes_finishes manager _ _).attempt fun _ =>
    receiveResponse_finishes manager timeoutSecs).within (by omega)

/-- Entering the application again takes three operations at most. -/
theorem reenterApplication_finishes (skipBpqApp : Bool) :
    Finishes empties commands 3 (reenterApplication manager skipBpqApp).run := by
  cases skipBpqApp with
  | true => exact (finishes_pure ()).within (Nat.zero_le 3)
  | false =>
    exact (bpqSendAppCommand_finishes manager).attempt fun _ => bailIfAborted_finishes manager

/-- The handshake of a reconnect takes two waits and twelve operations at most. -/
theorem receiveAgain_finishes (reason localCallsign : Text) :
    Finishes empties commands (2 * textRounds empties + 12)
      (receiveAgain manager reason localCallsign).run :=
  ((callModem_finishes manager _).attempt fun _ =>
    (lift_finishes (.setConnectionState _)).attempt fun _ =>
    (bailIfAborted_finishes manager).attempt fun _ =>
    (callModem_finishes manager _).attempt fun _ =>
    (bailIfAborted_finishes manager).attempt fun _ =>
    (lift_finishes .readConfig).attempt fun config =>
    (reenterApplication_finishes manager config.skipBpqApp).attempt fun _ =>
    (sendCallsign_finishes manager localCallsign).attempt fun _ =>
    (bailIfAborted_finishes manager).attempt fun _ =>
    (awaitText_finishes manager _).attempt fun disclaimer =>
    (bailIfAborted_finishes manager).attempt fun _ =>
    finishes_pure disclaimer).within (by omega)

/-- Comparing the disclaimers takes one operation at most. -/
theorem requireStored_finishes (disclaimer : Text) (stored : Option Text) :
    Finishes empties commands 1 (requireStored disclaimer stored).run := by
  rw [requireStored]
  split
  · exact (finishes_pure ()).within (Nat.zero_le 1)
  · exact (lift_finishes (.setConnectionState _)).attempt fun _ => finishes_throw _

/-- Setting a session up again takes two waits and seventeen operations at most. -/
theorem reestablish_finishes (reason localCallsign : Text) :
    Finishes empties commands (2 * textRounds empties + 17)
      (reestablish manager reason localCallsign).run :=
  ((receiveAgain_finishes manager reason localCallsign).attempt fun disclaimer =>
    ((lift_finishes .readLastAgreed).attempt (requireStored_finishes disclaimer)).attempt fun _ =>
    (bailIfAborted_finishes manager).attempt fun _ =>
    (sendBytes_finishes manager _ _).attempt fun _ =>
    lift_finishes (.setConnectionState _)).within (by omega)

/-- A reconnect takes two operations more than that. -/
theorem handleReconnect_finishes (reason localCallsign : Text) :
    Finishes empties commands (2 * textRounds empties + 19)
      (handleReconnect manager reason localCallsign).run := by
  have reported : Finishes empties commands (1 + (2 * textRounds empties + 17) + 1)
      (handleReconnect manager reason localCallsign).run := by
    refine (finishes_ask (.setConnectionState _)).bind fun _ =>
      (reestablish_finishes manager reason localCallsign).bind fun result => ?_
    cases result with
    | ok _ => exact (finishes_done _).within (Nat.zero_le 1)
    | error err =>
      cases err <;> first
        | exact (finishes_done _).within (Nat.zero_le 1)
        | exact (finishes_ask _).returns
  exact reported.within (by omega)

/-- A reconnect and the second try take the operations of both. -/
theorem reconnectAndRetry_finishes (timeoutSecs : Nat) (data : Bytes)
    (reason localCallsign : Text) :
    Finishes empties commands (2 * textRounds empties + 2 * responseRounds empties + 22)
      (reconnectAndRetry manager timeoutSecs data reason localCallsign).run :=
  ((handleReconnect_finishes manager reason localCallsign).attempt fun _ =>
    (bailIfAborted_finishes manager).attempt fun _ =>
    handleSendRequest_finishes manager timeoutSecs data).within (by omega)

/-- A request is tried again once at most. -/
theorem afterFirstTry_finishes (timeoutSecs : Nat) (data : Bytes) (localCallsign : Text)
    (result : Except AgwpeError Bytes) :
    Finishes empties commands (2 * textRounds empties + 2 * responseRounds empties + 22)
      (afterFirstTry manager timeoutSecs data localCallsign result) := by
  cases result with
  | ok bytes => exact (finishes_done _).within (Nat.zero_le _)
  | error err =>
    cases err with
    | sessionDied reason =>
      exact reconnectAndRetry_finishes manager timeoutSecs data reason localCallsign
    | _ => exact (finishes_done _).within (Nat.zero_le _)

/-- The operations of a command, at most. -/
def commandBound (empties : Nat) : Nat :=
  2 * textRounds empties + 4 * responseRounds empties + 25

/-- A request with its reconnect is the longest command. -/
theorem handleSendRequestWithReconnect_finishes (timeoutSecs : Nat) (data : Bytes)
    (localCallsign : Text) : Finishes empties commands (commandBound empties)
      (handleSendRequestWithReconnect manager timeoutSecs data localCallsign).run :=
  ((bailIfAborted_finishes manager).attempt fun _ =>
    (handleSendRequest_finishes manager timeoutSecs data).bind
      (afterFirstTry_finishes manager timeoutSecs data localCallsign)).within
    (by rw [commandBound]; omega)

/-- Every command is over after a bounded number of operations. -/
theorem runCommand_finishes (timeoutSecs : Nat) (localCallsign : Text) (command : Command) :
    Finishes empties commands (commandBound empties)
      (runCommand manager timeoutSecs localCallsign command) := by
  have enough : 2 * textRounds empties + 2 * responseRounds empties + 25 ≤
      commandBound empties := by
    rw [commandBound]
    omega
  cases command with
  | connectModem config =>
    exact ((finishes_ask (.storeAbort manager false)).bind fun _ =>
      (callModem_finishes manager _).returns).within (by omega)
  | disconnectModem => exact (callModem_finishes manager _).returns.within (by omega)
  | queryPorts =>
    have query (supported : Bool) :
        Finishes empties commands 1 (queryIfSupported manager supported).run := by
      cases supported with
      | true => exact callModem_finishes manager _
      | false => exact (finishes_pure ()).within (Nat.zero_le 1)
    exact ((lift_finishes (.portQuerySupported manager)).attempt query).returns.within (by omega)
  | openSession target portNum =>
    exact (handleOpenSession_finishes manager target portNum localCallsign).returns.within
      (by omega)
  | closeSession =>
    exact ((lift_finishes (.storeAbort manager true)).attempt fun _ =>
      (callModem_finishes manager _).attempt fun _ =>
      lift_finishes (.setConnectionState .agwpeConnected)).returns.within (by omega)
  | sendRequest data =>
    exact (handleSendRequest_finishes manager timeoutSecs data).returns.within (by omega)
  | sendRequestWithReconnect data =>
    exact (handleSendRequestWithReconnect_finishes manager timeoutSecs data
      localCallsign).returns

/-- A round ends the task or serves one of the commands to come. -/
theorem serveNext_ends (timeoutSecs : Nat) (localCallsign : Text) {left : Nat} {now : CallMoment}
    (rations : Rations empties commands left now) :
    EndsWithin anyAnswer (Rationed empties commands) (commandBound empties + 1 + 1)
      (fun result later => Sum.elim
        (fun _ => ∃ fewer < left, Rations empties commands fewer later) (fun _ => True) result)
      (serveNext manager timeoutSecs localCallsign) now := by
  have taken : EndsWithin anyAnswer (Rationed empties commands) 1
      (fun answer later => answer.isSome = true →
        ∃ fewer < left, Rations empties commands fewer later)
      (ask (.nextCommand manager)) now := by
    apply ask_ends
    rintro (rfl | command) later occurs rationed some
    · cases some
    · exact rations.take occurs rationed
  refine taken.bind fun answer later coming => ?_
  cases answer with
  | none => exact ends_done _ trivial
  | some submitted =>
    obtain ⟨ticket, command⟩ := submitted
    obtain ⟨fewer, less, kept⟩ := coming rfl
    have served : Finishes empties commands (1 + commandBound empties)
        (serve manager timeoutSecs localCallsign ticket command) :=
      (runCommand_finishes manager timeoutSecs localCallsign command).bind fun _ =>
        (finishes_ask _).returns
    apply ((served fewer later kept).returns fun _ _ kept => ⟨fewer, less, kept⟩).within
    omega

/-- Whatever is answered, the background task is never stuck. As long as no more than so many
commands come and no more than so many reads bring nothing, it is over after a bounded number
of operations for each command: no command keeps the others waiting for ever.

Each command costs a bounded number of operations, from the costs of its parts, and each round
takes a command off those that are left. -/
theorem backgroundTask_ends (configuredTimeout empties commands : Nat) (world : World) :
    EndsWithin anyAnswer (Rationed empties commands)
      ((commands + 1) * (commandBound empties + 2)) (fun _ _ => True)
      (backgroundTask manager configuredTimeout) ⟨world, []⟩ := by
  apply ends_loop (fun _ left now => Rations empties commands left now)
  · intro localCallsign left now rations
    exact serveNext_ends manager _ localCallsign rations
  · exact ⟨Nat.zero_le empties, Nat.le_add_left commands 0⟩

end Commands

end PacketBrowser.Client
