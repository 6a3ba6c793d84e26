import PacketBrowser.Client.Roles
import PacketBrowser.Foundation.Alone

/-!
# One request with at most one reconnect

One call of `handleSendRequestWithReconnect` on its own, against any transport. What
other tasks do meanwhile shows in the answers: the abort flag, the configuration and
the stored disclaimer may be different at every look, so every answer is possible.

The history of the call is counted: requests written, modems reopened, agreements sent.
Each routine is given by what it adds to these counts. The text of the disclaimer is
read off the history too, as what was received since the callsign was sent.
-/

namespace PacketBrowser.Client

open Protocol Foundation Program Setting

variable {α : Type}

/-- An operation of the call with its answer. -/
abbrev CallEvent := Event Unit Answer

/-- The state and the history of the call, newest event first. -/
abbrev CallMoment := Snapshot World Unit Answer

/-- Every answer is possible. -/
def anyAnswer (op : Op) (answer : Answer op) (world : World) : Option World :=
  some (world.apply op answer)

/-- The moment after an operation. -/
def nextMoment (now : CallMoment) (op : Op) (answer : Answer op) : CallMoment :=
  ⟨now.world.apply op answer, ⟨(), op, answer⟩ :: now.history⟩

/-- An attempt to write the request. -/
def Op.writesRequest : Op → Bool
  | .send _ .request _ => true
  | _ => false

/-- The first transport call of a reconnect. -/
def Op.reopensModem : Op → Bool
  | .modem _ .reopenModemConnection => true
  | _ => false

/-- An attempt to send the agreement. -/
def Op.writesAgree : Op → Bool
  | .send _ (.agreeByOperator _) _ => true
  | .send _ (.autoAgree _) _ => true
  | _ => false

/-- What one attempt to send a request consists of. -/
def Op.attempts : Op → Prop
  | .loadAbort _ => True
  | .recv _ _ => True
  | .send _ .request _ => True
  | _ => False

/-- How many operations of a kind the history has. -/
def tally (kind : Op → Bool) (history : List CallEvent) : Nat :=
  history.countP fun event => kind event.op

/-- The text received since the callsign was sent. -/
def handshakeText : List CallEvent → Text
  | [] => []
  | event :: earlier =>
    match event.op, event.answer with
    | .send _ .callsign _, _ => []
    | .recv _ _, .ok (.data bytes) => handshakeText earlier ++ Utf8.lossy bytes
    | _, _ => handshakeText earlier

/-- The stored disclaimer, as it was last looked at. -/
def storedDisclaimer : List CallEvent → Option Text
  | [] => none
  | event :: earlier =>
    match event.op, event.answer with
    | .readLastAgreed, stored => stored
    | _, _ => storedDisclaimer earlier

/-- An agreement is sent only to the stored disclaimer. -/
def AgreesToStored (event : CallEvent) (earlier : List CallEvent) : Prop :=
  event.op.writesAgree = true → storedDisclaimer earlier = some (handshakeText earlier)

/-- At most one retry, one reconnect and one agreement, which is justified. -/
structure Disciplined (history : List CallEvent) : Prop where
  requests : tally Op.writesRequest history ≤ 2
  reconnects : tally Op.reopensModem history ≤ 1
  agreements : tally Op.writesAgree history ≤ 1
  justified : Throughout AgreesToStored history

/-- The counts of a history. -/
structure Tallied (requests reconnects agreements : Nat) (now : CallMoment) : Prop where
  requests : tally Op.writesRequest now.history = requests
  reconnects : tally Op.reopensModem now.history = reconnects
  agreements : tally Op.writesAgree now.history = agreements

/-- Any run of one call. -/
def discipline : Setting World Unit Answer where
  exec := anyAnswer
  meets := fun _ _ => True
  inv := fun now => Disciplined now.history

section Steps

/-- An operation that is not counted. -/
def Op.uncounted (op : Op) : Prop :=
  op.writesRequest = false ∧ op.reopensModem = false ∧ op.writesAgree = false

variable {op : Op} {answer : Answer op} {now : CallMoment} {history : List CallEvent}
variable {requests reconnects agreements : Nat}

/-- The events of a kind, with the latest one. -/
@[simp] theorem tally_cons (kind : Op → Bool) (event : CallEvent) :
    tally kind (event :: history) = tally kind history + if kind event.op then 1 else 0 :=
  List.countP_cons

/-- Every counted operation needs room for it; an agreement needs its reason. -/
theorem Disciplined.next (disciplined : Disciplined now.history)
    (request : op.writesRequest = true → tally Op.writesRequest now.history ≤ 1)
    (reopen : op.reopensModem = true → tally Op.reopensModem now.history = 0)
    (agree : op.writesAgree = true → tally Op.writesAgree now.history = 0 ∧
      storedDisclaimer now.history = some (handshakeText now.history)) :
    Disciplined (nextMoment now op answer).history := by
  obtain ⟨requests, reconnects, agreements, justified⟩ := disciplined
  constructor
  · simp only [nextMoment, tally_cons]
    split
    · rename_i writes
      exact Nat.succ_le_succ (request writes)
    · exact requests
  · simp only [nextMoment, tally_cons]
    split
    · rename_i reopens
      rw [reopen reopens]
    · exact reconnects
  · simp only [nextMoment, tally_cons]
    split
    · rename_i writes
      rw [(agree writes).1]
    · exact agreements
  · exact ⟨fun writes => (agree writes).2, justified⟩

/-- An operation that is not counted keeps the discipline. -/
theorem Disciplined.uncounted (disciplined : Disciplined now.history) (other : op.uncounted) :
    Disciplined (nextMoment now op answer).history := by
  obtain ⟨request, reopen, agree⟩ := other
  apply disciplined.next
  · simp [request]
  · simp [reopen]
  · simp [agree]

variable (op) (answer) in
/-- Each operation counts for what it is. -/
theorem Tallied.next (tallied : Tallied requests reconnects agreements now) :
    Tallied (requests + if op.writesRequest then 1 else 0)
      (reconnects + if op.reopensModem then 1 else 0)
      (agreements + if op.writesAgree then 1 else 0) (nextMoment now op answer) := by
  obtain ⟨rfl, rfl, rfl⟩ := tallied
  exact ⟨tally_cons _ _, tally_cons _ _, tally_cons _ _⟩

/-- An operation that is not counted keeps the counts. -/
theorem Tallied.uncounted (tallied : Tallied requests reconnects agreements now)
    (other : op.uncounted) :
    Tallied requests reconnects agreements (nextMoment now op answer) := by
  obtain ⟨request, reopen, agree⟩ := other
  simpa [request, reopen, agree] using tallied.next op answer

/-- One operation, whatever its answer. -/
theorem step_discipline {later : CallMoment}
    (moves : discipline.Moves now ⟨(), op, answer⟩ later) :
    later = nextMoment now op answer ∧ Disciplined now.history := by
  obtain ⟨⟨executed, grown⟩, _, disciplined⟩ := moves
  refine ⟨?_, disciplined⟩
  obtain ⟨world, history⟩ := later
  rw [nextMoment, ← grown, Option.some.inj executed]

/-- One operation whose answer only decides the value returned. -/
theorem ask_discipline {pre : CallMoment → Prop} {post : α → CallMoment → Prop}
    {value : Answer op → α}
    (each : ∀ now answer, pre now → Disciplined now.history →
      Disciplined (nextMoment now op answer).history ∧ post (value answer) (nextMoment now op answer)) :
    discipline.Triple () pre (Program.ask op >>= fun answer => pure (value answer)) post := by
  apply triple_ask_return (stable_alone _) (fun _ => stable_alone _)
  intro now answer later holds moves
  obtain ⟨rfl, disciplined⟩ := step_discipline moves
  exact each now answer holds disciplined

/-- An operation that is not counted keeps the counts, whatever it is told. -/
theorem ask_tallied (other : op.uncounted) :
    discipline.Triple () (Tallied requests reconnects agreements) (Program.ask op)
      fun _ => Tallied requests reconnects agreements := by
  apply triple_ask (stable_alone _) (fun _ => stable_alone _)
  intro now answer later tallied moves
  obtain ⟨rfl, disciplined⟩ := step_discipline moves
  exact ⟨disciplined.uncounted other, tallied.uncounted other⟩

end Steps

section Routines

variable (manager : ManagerId) {requests reconnects agreements : Nat}

/-- An error that says nothing of a changed disclaimer or a dead session. -/
structure Plain (err : AgwpeError) : Prop where
  agreed : err ≠ .needsReconsent
  alive : ∀ reason, err ≠ .sessionDied reason

/-- What holds of a routine that did not fail; its failures are plain. -/
def Unfailed (holds : α → CallMoment → Prop) : Except AgwpeError α → CallMoment → Prop :=
  outcome holds fun err _ => Plain err

/-- An error of a transport asks for no consent. -/
theorem transportErrToAgwpe_plain (err : TransportError) : Plain (transportErrToAgwpe err) := by
  constructor <;> cases err <;> simp [transportErrToAgwpe]

/-- A result of a transport that succeeds is one of the protocol. -/
theorem unfailed_mapErr {holds : α → CallMoment → Prop} {result : Except TransportError α}
    {now : CallMoment} (succeeds : ∀ value, result = .ok value → holds value now) :
    Unfailed holds (mapErr result) now := by
  cases result with
  | ok value => exact succeeds value rfl
  | error err => exact transportErrToAgwpe_plain err

/-- What holds whatever is answered is kept by the check of the flag. -/
theorem bailIfAborted_keeps {pre : CallMoment → Prop}
    (keeps : ∀ now answer, pre now → pre (nextMoment now (.loadAbort manager) answer)) :
    discipline.Triple () pre (bailIfAborted manager).run (Unfailed fun _ => pre) := by
  apply ask_discipline
  intro now answer holds disciplined
  refine ⟨disciplined.uncounted ⟨rfl, rfl, rfl⟩, ?_⟩
  cases answer with
  | false => exact keeps now false holds
  | true => exact ⟨by simp, by simp⟩

/-- Stopping for a disconnect keeps the counts. -/
theorem bailIfAborted_tallied :
    discipline.Triple () (Tallied requests reconnects agreements) (bailIfAborted manager).run
      (Unfailed fun _ => Tallied requests reconnects agreements) :=
  bailIfAborted_keeps manager fun _ _ tallied => tallied.uncounted ⟨rfl, rfl, rfl⟩

/-- A call of the modem that reopens nothing keeps the counts. -/
theorem callModem_tallied {call : ModemCall} (other : call ≠ .reopenModemConnection) :
    discipline.Triple () (Tallied requests reconnects agreements) (callModem manager call).run
      (Unfailed fun _ => Tallied requests reconnects agreements) := by
  have uncounted : (Op.modem manager call).uncounted := by
    cases call <;> first | exact ⟨rfl, rfl, rfl⟩ | exact absurd rfl other
  apply ask_discipline
  intro now answer tallied disciplined
  exact ⟨disciplined.uncounted uncounted, unfailed_mapErr fun _ _ => tallied.uncounted uncounted⟩

/-- The modem is reopened once. -/
theorem reopen_tallied : discipline.Triple () (Tallied requests 0 agreements)
    (callModem manager .reopenModemConnection).run (Unfailed fun _ => Tallied requests 1 agreements) := by
  apply ask_discipline
  intro now answer tallied disciplined
  refine ⟨disciplined.next (by simp [Op.writesRequest]) (fun _ => tallied.reconnects)
    (by simp [Op.writesAgree]), unfailed_mapErr fun _ _ => tallied.next _ answer⟩

/-- Sending what is not counted keeps the counts. -/
theorem sendBytes_tallied {purpose : Purpose} (data : Bytes)
    (uncounted : (Op.send manager purpose data).uncounted) :
    discipline.Triple () (Tallied requests reconnects agreements) (sendBytes manager purpose data).run
      (Unfailed fun _ => Tallied requests reconnects agreements) := by
  apply ask_discipline
  intro now answer tallied disciplined
  exact ⟨disciplined.uncounted uncounted, unfailed_mapErr fun _ _ => tallied.uncounted uncounted⟩

/-- Putting a state on display keeps the counts. -/
theorem setState_tallied (state : ConnectionState) :
    discipline.Triple () (Tallied requests reconnects agreements)
      (ExceptT.lift (setState state) : Attempt Unit).run
      (Unfailed fun _ => Tallied requests reconnects agreements) :=
  triple_lift (fun _ => stable_alone _) (ask_tallied ⟨rfl, rfl, rfl⟩)

/-- One round of waiting for a text: what was received is added. -/
theorem awaitRound_tallied (found : Text → Bool) (base received : Text) :
    discipline.Triple ()
      (fun now => Tallied requests reconnects agreements now ∧
        handshakeText now.history = base ++ received)
      (do
        let answer ← ask (.recv manager 30)
        return awaitStep found received answer)
      (Sum.elim
        (fun received now => Tallied requests reconnects agreements now ∧
          handshakeText now.history = base ++ received)
        (Unfailed fun text now => Tallied requests reconnects agreements now ∧
          handshakeText now.history = base ++ text)) := by
  apply ask_discipline
  rintro now answer ⟨tallied, text⟩ disciplined
  refine ⟨disciplined.uncounted ⟨rfl, rfl, rfl⟩, ?_⟩
  have later : Tallied requests reconnects agreements (nextMoment now (.recv manager 30) answer) :=
    tallied.uncounted ⟨rfl, rfl, rfl⟩
  cases answer with
  | error err => exact transportErrToAgwpe_plain err
  | ok event =>
    cases event with
    | disconnected reason => exact ⟨by simp, by simp⟩
    | data bytes =>
      have grown : handshakeText (nextMoment now (.recv manager 30) (.ok (.data bytes))).history =
          base ++ (received ++ Utf8.lossy bytes) := by
        simp [nextMoment, handshakeText, text]
      simp only [awaitStep, collectText]
      split
      · exact ⟨by simp, by simp⟩
      · split
        · exact ⟨later, grown⟩
        · exact ⟨later, grown⟩

/-- The text that is returned is the text that was received meanwhile. -/
theorem awaitText_tallied (found : Text → Bool) (base : Text) :
    discipline.Triple ()
      (fun now => Tallied requests reconnects agreements now ∧ handshakeText now.history = base)
      (awaitText manager found).run
      (Unfailed fun text now => Tallied requests reconnects agreements now ∧
        handshakeText now.history = base ++ text) := by
  rw [awaitText_run]
  apply (triple_loop _ (fun _ => stable_alone _) (fun _ => stable_alone _)
    (awaitRound_tallied manager found base) []).consequence
  · intro now holds
    rw [List.append_nil]
    exact holds
  · exact fun _ _ => id

/-- The result of a part that failed, in front of the rest. -/
theorem attempt_tallied {first : Attempt α} {β : Type} {after : α → Attempt β}
    {pre : CallMoment → Prop} {post : β → CallMoment → Prop} (middle : α → CallMoment → Prop)
    (one : discipline.Triple () pre first.run (Unfailed middle))
    (two : ∀ value, discipline.Triple () (middle value) (after value).run (Unfailed post)) :
    discipline.Triple () pre (first >>= after).run (Unfailed post) :=
  triple_attempt middle (fun _ => stable_alone _) one two

/-- Reading the configuration keeps the counts. -/
theorem readConfig_tallied : discipline.Triple () (Tallied requests reconnects agreements)
    (ExceptT.lift readConfig : Attempt AppConfig).run
    (Unfailed fun _ => Tallied requests reconnects agreements) :=
  triple_lift (fun _ => stable_alone _) (ask_tallied ⟨rfl, rfl, rfl⟩)

/-- Entering the application again keeps the counts. -/
theorem reenterApplication_tallied (skipBpqApp : Bool) :
    discipline.Triple () (Tallied requests reconnects agreements)
      (reenterApplication manager skipBpqApp).run
      (Unfailed fun _ => Tallied requests reconnects agreements) := by
  cases skipBpqApp with
  | true => exact triple_done (stable_alone _) fun _ => id
  | false =>
    apply attempt_tallied (fun _ => Tallied requests reconnects agreements)
    · apply attempt_tallied (fun _ => Tallied requests reconnects agreements) readConfig_tallied
      exact fun config => sendBytes_tallied manager _ ⟨rfl, rfl, rfl⟩
    · exact fun _ => bailIfAborted_tallied manager

/-- Once the callsign is sent, no handshake text has been received yet. -/
theorem callsign_tallied (localCallsign : Text) :
    discipline.Triple () (Tallied requests reconnects agreements)
      (bpqAwaitCallsignPromptAndSendCallsign manager localCallsign).run
      (Unfailed fun _ now => Tallied requests reconnects agreements now ∧
        handshakeText now.history = []) := by
  apply attempt_tallied (fun _ => Tallied requests reconnects agreements)
  · intro now tallied
    apply (awaitText_tallied manager _ (handshakeText now.history) now ⟨tallied, rfl⟩).mono
    rintro (err | text) later holds
    · exact holds
    · exact holds.1
  · intro _
    apply ask_discipline
    intro now answer tallied disciplined
    refine ⟨disciplined.uncounted ⟨rfl, rfl, rfl⟩, unfailed_mapErr fun _ _ => ?_⟩
    exact ⟨tallied.uncounted ⟨rfl, rfl, rfl⟩, rfl⟩

/-- The modem was reopened, and the disclaimer was received after the callsign was sent. -/
structure Received (disclaimer : Text) (now : CallMoment) : Prop where
  tallied : Tallied 1 1 0 now
  text : handshakeText now.history = disclaimer

/-- Stopping for a disconnect leaves the disclaimer that was received. -/
theorem bailIfAborted_received (disclaimer : Text) :
    discipline.Triple () (Received disclaimer) (bailIfAborted manager).run
      (Unfailed fun _ => Received disclaimer) :=
  bailIfAborted_keeps manager fun _ _ received =>
    ⟨received.tallied.uncounted ⟨rfl, rfl, rfl⟩, received.text⟩

/-- A reconnect up to the disclaimer. -/
theorem receiveAgain_tallied (reason localCallsign : Text) :
    discipline.Triple () (Tallied 1 0 0) (receiveAgain manager reason localCallsign).run
      (Unfailed Received) := by
  have bail : discipline.Triple () (Tallied 1 1 0) (bailIfAborted manager).run
      (Unfailed fun _ => Tallied 1 1 0) := bailIfAborted_tallied manager
  apply attempt_tallied (fun _ => Tallied 1 1 0) (reopen_tallied manager)
  intro _
  apply attempt_tallied (fun _ => Tallied 1 1 0) (setState_tallied _)
  intro _
  apply attempt_tallied (fun _ => Tallied 1 1 0) bail
  intro _
  apply attempt_tallied (fun _ => Tallied 1 1 0) (callModem_tallied manager (by simp))
  intro _
  apply attempt_tallied (fun _ => Tallied 1 1 0) bail
  intro _
  apply attempt_tallied (fun _ => Tallied 1 1 0) readConfig_tallied
  intro config
  apply attempt_tallied (fun _ => Tallied 1 1 0) (reenterApplication_tallied manager _)
  intro _
  apply attempt_tallied (fun _ => Received []) ((callsign_tallied manager localCallsign).consequence
    (fun _ => id) ?_)
  · intro _
    apply attempt_tallied (fun _ => Received []) (bailIfAborted_received manager [])
    intro _
    apply attempt_tallied Received
    · apply (awaitText_tallied manager _ []).consequence (fun _ received => ⟨received.tallied, received.text⟩)
      rintro (err | text) now holds
      · exact holds
      · exact ⟨holds.1, holds.2⟩
    · intro disclaimer
      apply attempt_tallied (fun _ => Received disclaimer) (bailIfAborted_received manager disclaimer)
      exact fun _ => triple_done (stable_alone _) fun _ => id
  · rintro (err | _) now holds
    · exact holds
    · exact ⟨holds.1, holds.2⟩

/-- How the automatic consent ends: with the stored text, with another text on display,
or with an error before. -/
def Consented (disclaimer : Text) : Except AgwpeError Unit → CallMoment → Prop :=
  outcome (fun _ now => Received disclaimer now ∧ storedDisclaimer now.history = some disclaimer)
    fun _ now => Received disclaimer now ∧ now.world.connectionState = .awaitingConsent disclaimer

/-- Behind the comparison the disclaimer is the one that was agreed to. -/
theorem requireAgreed_consented (disclaimer : Text) :
    discipline.Triple () (Received disclaimer) (requireAgreed disclaimer).run
      (Consented disclaimer) := by
  apply triple_attempt (fun stored now => Received disclaimer now ∧
    storedDisclaimer now.history = stored) (fun _ => stable_alone _)
  · apply ask_discipline
    intro now answer received disciplined
    exact ⟨disciplined.uncounted ⟨rfl, rfl, rfl⟩,
      ⟨received.tallied.uncounted ⟨rfl, rfl, rfl⟩, received.text⟩, rfl⟩
  · intro stored
    unfold requireStored
    split
    · rename_i matched
      apply triple_done (stable_alone _)
      rintro now ⟨received, rfl⟩
      refine ⟨received, ?_⟩
      cases stored : storedDisclaimer now.history with
      | none => simp [matchesStoredDisclaimer, stored] at matched
      | some text => simpa [matchesStoredDisclaimer, stored] using matched
    · apply triple_attempt (fun _ now => Received disclaimer now ∧
        now.world.connectionState = .awaitingConsent disclaimer) (fun _ => stable_alone _)
      · apply ask_discipline
        rintro now answer ⟨received, _⟩ disciplined
        exact ⟨disciplined.uncounted ⟨rfl, rfl, rfl⟩,
          ⟨received.tallied.uncounted ⟨rfl, rfl, rfl⟩, received.text⟩, rfl⟩
      · exact fun _ => triple_done (stable_alone _) fun _ => id

/-- How a reconnect ends. Only a changed disclaimer is reported as such. -/
def Reconnected : Except AgwpeError Unit → CallMoment → Prop :=
  outcome (fun _ => Tallied 1 1 1) fun err now => err = .needsReconsent →
    Tallied 1 1 0 now ∧ now.world.connectionState = .awaitingConsent (handshakeText now.history)

/-- A part that does not report a changed disclaimer, in front of the rest. -/
theorem attempt_reconnected {first : Attempt α} {after : α → Attempt Unit}
    {pre : CallMoment → Prop} (middle : α → CallMoment → Prop)
    (one : discipline.Triple () pre first.run (Unfailed middle))
    (two : ∀ value, discipline.Triple () (middle value) (after value).run Reconnected) :
    discipline.Triple () pre (first >>= after).run Reconnected := by
  apply triple_attempt middle (fun _ => stable_alone _) (one.consequence (fun _ => id) ?_) two
  rintro (err | value) now holds
  · exact fun same => absurd same holds.agreed
  · exact holds

/-- The agreement is sent to the stored text. -/
theorem agree_reconnected (disclaimer : Text) :
    discipline.Triple ()
      (fun now => Received disclaimer now ∧ storedDisclaimer now.history = some disclaimer)
      (sendBytes manager (.autoAgree disclaimer) agreeBytes).run
      (Unfailed fun _ => Tallied 1 1 1) := by
  apply ask_discipline
  rintro now answer ⟨⟨tallied, text⟩, stored⟩ disciplined
  refine ⟨disciplined.next (by simp [Op.writesRequest]) (by simp [Op.reopensModem]) fun _ => ?_,
    unfailed_mapErr fun _ _ => tallied.next _ answer⟩
  rw [stored, text]
  exact ⟨tallied.agreements, rfl⟩

/-- Setting a session up again is one reconnect. -/
theorem reestablish_reconnected (reason localCallsign : Text) :
    discipline.Triple () (Tallied 1 0 0) (reestablish manager reason localCallsign).run
      Reconnected := by
  apply attempt_reconnected Received (receiveAgain_tallied manager reason localCallsign)
  intro disclaimer
  apply triple_attempt (fun _ now => Received disclaimer now ∧
    storedDisclaimer now.history = some disclaimer) (fun _ => stable_alone _)
  · apply (requireAgreed_consented disclaimer).consequence (fun _ => id)
    rintro (err | _) now holds
    · obtain ⟨received, state⟩ := holds
      exact fun _ => ⟨received.tallied, by rw [received.text, state]⟩
    · exact holds
  · intro _
    apply attempt_reconnected _ (bailIfAborted_keeps manager ?_)
    · intro _
      apply attempt_reconnected (fun _ => Tallied 1 1 1) (agree_reconnected manager disclaimer)
      intro _
      apply (setState_tallied _).consequence (fun _ => id)
      rintro (err | _) now holds
      · exact fun same => absurd same holds.agreed
      · exact holds
    · rintro now answer ⟨received, stored⟩
      exact ⟨⟨received.tallied.uncounted ⟨rfl, rfl, rfl⟩, received.text⟩, stored⟩

/-- Any other failure is reported on display, and is returned as it is. -/
theorem handleReconnect_reconnected (reason localCallsign : Text) :
    discipline.Triple () (Tallied 1 0 0) (handleReconnect manager reason localCallsign).run
      Reconnected := by
  apply triple_bind (fun _ => Tallied 1 0 0) (ask_tallied ⟨rfl, rfl, rfl⟩)
  intro _
  apply triple_bind _ (reestablish_reconnected manager reason localCallsign)
  intro result
  split
  · exact triple_done (stable_alone _) fun _ => id
  · exact triple_done (stable_alone _) fun _ => id
  · rename_i err other
    apply triple_bind (fun _ _ => True)
    · apply (triple_only (stable_const True) (setState_only _) ?_).consequence (fun _ _ => trivial)
        fun _ _ => id
      rintro op rfl now answer later _ moves
      obtain ⟨rfl, disciplined⟩ := step_discipline moves
      exact ⟨disciplined.uncounted ⟨rfl, rfl, rfl⟩, trivial⟩
    · exact fun _ => triple_done (stable_alone _) fun _ _ same => absurd same other

/-- How an attempt ends. If it ends with a dead session, the request was written. -/
def Attempted (requests reconnects agreements : Nat) : Except AgwpeError Bytes → CallMoment → Prop :=
  outcome (fun _ => Tallied (requests + 1) reconnects agreements) fun err now =>
    err ≠ .needsReconsent ∧
      ((∃ reason, err = .sessionDied reason) → Tallied (requests + 1) reconnects agreements now)

/-- A plain error may end an attempt at any count. -/
theorem Plain.attempted {err : AgwpeError} (plain : Plain err) {now : CallMoment} :
    Attempted requests reconnects agreements
      (.error err) now :=
  ⟨plain.agreed, fun ⟨reason, same⟩ => absurd same (plain.alive reason)⟩

/-- The buffer of a response is never at odds with a disclaimer. -/
theorem accept_plain {reception : Reception} {bytes : Bytes} {err : AgwpeError}
    (failed : reception.accept bytes = .error err) : err ≠ .needsReconsent := by
  unfold Reception.accept at failed
  split at failed
  · rw [← Except.error.inj failed]
    simp
  · split at failed
    · rw [← Except.error.inj failed]
      simp
    · exact absurd failed (by simp)

/-- Looking at a response asks for no consent. -/
theorem examine_plain {reception : Reception} {err : AgwpeError}
    (failed : reception.examine = .inr (.error err)) : err ≠ .needsReconsent := by
  unfold Reception.examine at failed
  split at failed
  · rename_i found
    rw [← Except.error.inj (Sum.inr.inj failed)]
    unfold Reception.findHeader at found
    split at found
    · exact absurd found (by simp)
    · split at found
      · exact absurd found (by simp)
      · split at found
        · rw [← Except.error.inj found]
          simp
        · exact absurd found (by simp)
      · rw [← Except.error.inj found]
        simp
  · split at failed
    · split at failed <;> exact absurd failed (by simp)
    · exact absurd failed (by simp)

/-- One event of the response. -/
theorem receiveEvent_tallied (timeoutSecs : Nat) (reception : Reception) :
    discipline.Triple () (Tallied (requests + 1) reconnects agreements)
      (receiveEvent manager timeoutSecs reception)
      (Sum.elim (fun _ => Tallied (requests + 1) reconnects agreements)
        (Attempted requests reconnects agreements)) := by
  apply triple_bind (fun _ => Tallied (requests + 1) reconnects agreements)
    (ask_tallied ⟨rfl, rfl, rfl⟩)
  intro event
  split
  · exact triple_done (stable_alone _) fun _ tallied => ⟨by simp, fun _ => tallied⟩
  · rename_i err _
    apply triple_done (stable_alone _)
    intro now tallied
    exact (transportErrToAgwpe_plain err).attempted
  · exact triple_done (stable_alone _) fun _ tallied => ⟨by simp, fun _ => tallied⟩
  · split
    · rename_i failed
      exact triple_done (stable_alone _) fun _ tallied => ⟨accept_plain failed, fun _ => tallied⟩
    · rename_i grown _
      apply triple_bind (fun _ => Tallied (requests + 1) reconnects agreements)
        (ask_tallied ⟨rfl, rfl, rfl⟩)
      intro aborted
      apply triple_done (stable_alone _)
      intro now tallied
      cases aborted with
      | true => exact ⟨by simp, fun _ => tallied⟩
      | false =>
        cases examined : grown.examine with
        | inl later => simpa [examined] using tallied
        | inr result =>
          simp only [Bool.false_eq_true, if_false]
          cases result with
          | ok data => exact tallied
          | error err => exact ⟨examine_plain examined, fun _ => tallied⟩

/-- Sending a request is one more request. -/
theorem request_tallied (data : Bytes) (first : requests ≤ 1) :
    discipline.Triple () (Tallied requests reconnects agreements)
      (sendBytes manager .request data).run
      (Unfailed fun _ => Tallied (requests + 1) reconnects agreements) := by
  apply ask_discipline
  intro now answer tallied disciplined
  refine ⟨disciplined.next (fun _ => ?_) (by simp [Op.reopensModem]) (by simp [Op.writesAgree]),
    unfailed_mapErr fun _ _ => tallied.next _ answer⟩
  rw [tallied.requests]
  exact first

/-- One attempt writes the request once, unless it is stopped before. -/
theorem handleSendRequest_attempted (timeoutSecs : Nat) (data : Bytes) (first : requests ≤ 1) :
    discipline.Triple () (Tallied requests reconnects agreements)
      (handleSendRequest manager timeoutSecs data).run
      (Attempted requests reconnects agreements) := by
  apply triple_attempt (fun _ => Tallied requests reconnects agreements) (fun _ => stable_alone _)
  · apply (bailIfAborted_tallied manager).consequence (fun _ => id)
    rintro (err | _) now holds
    · exact holds.attempted
    · exact holds
  · intro _
    apply triple_attempt (fun _ => Tallied (requests + 1) reconnects agreements)
      (fun _ => stable_alone _)
    · apply (request_tallied manager data first).consequence (fun _ => id)
      rintro (err | _) now holds
      · exact holds.attempted
      · exact holds
    · intro _
      exact triple_loop _ (fun _ => stable_alone _) (fun _ => stable_alone _)
        (receiveEvent_tallied manager timeoutSecs) Reception.empty

/-- How the whole call ends. -/
theorem handleSendRequestWithReconnect_disciplined (timeoutSecs : Nat) (data : Bytes)
    (localCallsign : Text) : discipline.Triple () (Tallied 0 0 0)
      (handleSendRequestWithReconnect manager timeoutSecs data localCallsign).run
      fun result now => result = .error .needsReconsent →
        Tallied 1 1 0 now ∧ now.world.connectionState = .awaitingConsent (handshakeText now.history) := by
  apply triple_attempt (fun _ => Tallied 0 0 0) (fun _ => stable_alone _)
  · apply (bailIfAborted_tallied manager).consequence (fun _ => id)
    rintro (err | _) now holds
    · exact fun same => absurd (Except.error.inj same) holds.agreed
    · exact holds
  intro _
  apply triple_bind _ (handleSendRequest_attempted manager timeoutSecs data (Nat.zero_le _))
  intro first
  unfold afterFirstTry
  split
  · exact triple_done (stable_alone _) fun _ _ same => absurd same (by simp)
  · rename_i reason
    apply triple_attempt (fun _ => Tallied 1 1 1) (fun _ => stable_alone _)
    · apply (handleReconnect_reconnected manager reason localCallsign).consequence
      · exact fun now attempted => attempted.2 ⟨reason, rfl⟩
      · rintro (err | _) now holds
        · exact fun same => holds (Except.error.inj same)
        · exact holds
    intro _
    apply triple_attempt (fun _ => Tallied 1 1 1) (fun _ => stable_alone _)
    · apply (bailIfAborted_tallied manager).consequence (fun _ => id)
      rintro (err | _) now holds
      · exact fun same => absurd (Except.error.inj same) holds.agreed
      · exact holds
    intro _
    apply (handleSendRequest_attempted manager timeoutSecs data (Nat.le_refl 1)).consequence
      (fun _ => id)
    rintro (err | _) now holds same
    · exact absurd (Except.error.inj same) holds.1
    · exact absurd same (by simp)
  · apply triple_done (stable_alone _)
    exact fun now attempted same => absurd (Except.error.inj same) attempted.1

end Routines

section Course

variable (manager : ManagerId) (timeoutSecs : Nat) (data : Bytes) (localCallsign : Text)

/-- The operations of one attempt. -/
theorem handleSendRequest_attempts :
    (handleSendRequest manager timeoutSecs data).run.Only Op.attempts := by
  apply only_attempt
  · exact (bailIfAborted_only manager).mono (by rintro op rfl; trivial)
  intro _
  apply only_attempt
  · exact (sendBytes_only manager _ _).mono (by rintro op rfl; trivial)
  intro _
  apply (receiveResponse_listens manager timeoutSecs).mono
  intro op listening
  cases op <;> trivial

/-- The first attempt has ended with a dead session, and this came later. -/
def FirstDied (world : World) (history later : List CallEvent) : Prop :=
  ∃ middle left reason,
    Leads anyAnswer (fun _ _ => True) (handleSendRequest manager timeoutSecs data).run
      ⟨world, [⟨(), .loadAbort manager, false⟩]⟩ middle left ∧
    left.Ends (.error (.sessionDied reason)) ∧ history = later ++ middle.history

variable {manager} {timeoutSecs} {data} {localCallsign}

/-- Nothing has been counted yet. -/
theorem disciplined_start (world : World) : discipline.inv ⟨world, []⟩ :=
  ⟨Nat.zero_le _, Nat.zero_le _, Nat.zero_le _, trivial⟩

/-- The check in front of the first attempt is one operation. -/
theorem bailIfAborted_leads {world : World} {now : CallMoment} {left : Routine (Except AgwpeError Unit)}
    (leads : Leads anyAnswer (fun _ _ => True) (bailIfAborted manager).run ⟨world, []⟩ now left)
    (ends : left.Ends (.ok ())) : now = ⟨world, [⟨(), .loadAbort manager, false⟩]⟩ := by
  have checked : discipline.Triple () (· = ⟨world, []⟩) (bailIfAborted manager).run
      (outcome (fun _ now => now = ⟨world, [⟨(), .loadAbort manager, false⟩]⟩) fun _ _ => True) := by
    apply ask_discipline
    rintro _ answer rfl disciplined
    refine ⟨disciplined.uncounted ⟨rfl, rfl, rfl⟩, ?_⟩
    cases answer with
    | false => exact rfl
    | true => trivial
  obtain ⟨_, rest⟩ := alone (S := discipline) leads (disciplined_start world) (checked _ rfl)
  exact rest.ends ends

/-- A run of attempts adds nothing but attempts. -/
theorem attempts_only {program : Routine α} {start now : CallMoment} {left : Routine α}
    (only : program.Only Op.attempts)
    (leads : Leads anyAnswer (fun _ _ => True) program start now left)
    (before : ∀ event ∈ start.history, event.op.attempts) :
    ∀ event ∈ now.history, event.op.attempts := by
  obtain ⟨_, events, history, each⟩ := leads.only only
  rw [history]
  intro event member
  rcases List.mem_append.mp member with new | old
  · exact each event new
  · exact before event old

/-- What is done besides an attempt comes after a first attempt that ended with a dead
session. -/
theorem reconnect_after_death {world : World} {now : CallMoment} {left : Routine (Except AgwpeError Bytes)}
    (leads : Leads anyAnswer (fun _ _ => True)
      (handleSendRequestWithReconnect manager timeoutSecs data localCallsign).run ⟨world, []⟩ now left)
    {event : CallEvent} (member : event ∈ now.history) (other : ¬ event.op.attempts) :
    ∃ later, event ∈ later ∧ FirstDied manager timeoutSecs data world now.history later := by
  have checks : (bailIfAborted manager).run.Only Op.attempts :=
    (bailIfAborted_only manager).mono (by rintro op rfl; trivial)
  have attempt := handleSendRequest_attempts manager timeoutSecs data
  unfold handleSendRequestWithReconnect at leads
  rw [run_attempt] at leads
  rcases leads.of_bind with ⟨inner, checking, rfl⟩ | ⟨checked, inner, value, checking, ended, leads⟩
  · exact absurd (attempts_only checks checking (by simp) event member) other
  have checkedOnly := attempts_only checks checking (by simp)
  cases value with
  | error err =>
    obtain ⟨rfl, _⟩ := leads.of_done
    exact absurd (checkedOnly event member) other
  | ok value =>
    obtain rfl := bailIfAborted_leads checking ended
    rcases leads.of_bind with ⟨inner, trying, rfl⟩ | ⟨middle, inner, first, trying, died, leads⟩
    · exact absurd (attempts_only attempt trying checkedOnly event member) other
    have tried := attempts_only attempt trying checkedOnly
    obtain ⟨events, history⟩ := leads.grown
    unfold afterFirstTry at leads
    split at leads
    · obtain ⟨rfl, _⟩ := leads.of_done
      exact absurd (tried event member) other
    · rename_i reason
      refine ⟨events, ?_, middle, inner, reason, trying, died, history⟩
      rw [history] at member
      rcases List.mem_append.mp member with new | old
      · exact new
      · exact absurd (tried event old) other
    · obtain ⟨rfl, _⟩ := leads.of_done
      exact absurd (tried event member) other

variable (manager timeoutSecs data localCallsign) in
/-- Every run of one call writes the request at most twice, reconnects at most once and
only after a first attempt that ended with a dead session, and agrees at most once and
only to the stored disclaimer. Where it reports a changed disclaimer, it has not agreed,
has written the request once, and shows the disclaimer it received.

The discipline is one of the operations, kept by each part of the call in turn; the tally of
writes, reconnects and agreements is read off the history. -/
theorem reconnect_disciplined (world : World) (now : CallMoment)
    (left : Routine (Except AgwpeError Bytes))
    (leads : Leads anyAnswer (fun _ _ => True)
      (handleSendRequestWithReconnect manager timeoutSecs data localCallsign).run ⟨world, []⟩ now left) :
    Disciplined now.history ∧
      (∀ event ∈ now.history, ¬ event.op.attempts →
        ∃ later, event ∈ later ∧ FirstDied manager timeoutSecs data world now.history later) ∧
      (left.Ends (.error .needsReconsent) → Tallied 1 1 0 now ∧
        now.world.connectionState = .awaitingConsent (handshakeText now.history)) := by
  have safe := handleSendRequestWithReconnect_disciplined manager timeoutSecs data localCallsign
    ⟨world, []⟩ ⟨rfl, rfl, rfl⟩
  obtain ⟨disciplined, rest⟩ := alone (S := discipline) leads (disciplined_start world) safe
  exact ⟨disciplined, fun event member other => reconnect_after_death leads member other,
    fun ends => rest.ends ends rfl⟩

/-- The session dies, and after the reconnect the disclaimer is another one. -/
def changedDisclaimer : List (Sigma Answer) :=
  [⟨.loadAbort 0, false⟩, ⟨.loadAbort 0, false⟩, ⟨.send 0 .request [7], .ok ()⟩,
    ⟨.recv 0 30, .ok (.disconnected [])⟩, ⟨.setConnectionState (.reconnecting []), ()⟩,
    ⟨.modem 0 .reopenModemConnection, ⟨.ok (), some .agwpeConnected, .replaced⟩⟩,
    ⟨.setConnectionState (.reconnecting []), ()⟩, ⟨.loadAbort 0, false⟩,
    ⟨.modem 0 .openAx25Link, ⟨.ok (), none, .kept⟩⟩, ⟨.loadAbort 0, false⟩,
    ⟨.readConfig, ⟨[], true⟩⟩, ⟨.recv 0 30, .ok (.data (ascii "callsign"))⟩,
    ⟨.send 0 .callsign (ascii "N0CALL\n"), .ok ()⟩, ⟨.loadAbort 0, false⟩,
    ⟨.recv 0 30, .ok (.data (ascii "B "))⟩, ⟨.recv 0 30, .ok (.data (ascii "AGREE"))⟩,
    ⟨.loadAbort 0, false⟩, ⟨.readLastAgreed, some "A AGREE".toList⟩,
    ⟨.setConnectionState (.awaitingConsent "B AGREE".toList), ()⟩]

/-- The events above are a run that ends with the request for consent. -/
theorem changedDisclaimer_runs :
    ((handleSendRequestWithReconnect 0 30 [7] "N0CALL".toList).run.follow anyAnswer 1
      ⟨World.initial, []⟩ changedDisclaimer).map (fun reached => (reached.2.expose 1).value?) =
        some (some (.error .needsReconsent)) := by
  decide

/-- A changed disclaimer ends the call, and is on display. -/
theorem reconnect_disciplined_sample : ∃ now : CallMoment,
    now.history = (changedDisclaimer.map eventOf).reverse ∧ Disciplined now.history ∧
      Tallied 1 1 0 now ∧ now.world.connectionState = .awaitingConsent "B AGREE".toList := by
  obtain ⟨⟨now, left⟩, followed, finished⟩ := Option.map_eq_some_iff.mp changedDisclaimer_runs
  obtain ⟨leads, history⟩ := follow_leads 1 changedDisclaimer (fun _ _ => trivial) followed
  rw [List.append_nil] at history
  obtain ⟨disciplined, _, concluded⟩ := reconnect_disciplined 0 30 [7] _ World.initial now left leads
  obtain ⟨tallied, state⟩ := concluded (ends_of_expose 1 left _ finished)
  refine ⟨now, history, disciplined, tallied, ?_⟩
  rw [state, history]
  decide

end Course

end PacketBrowser.Client
