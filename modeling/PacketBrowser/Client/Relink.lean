import PacketBrowser.Client.Links
import PacketBrowser.Client.Roles
import PacketBrowser.Vara.Attention

/-!
# A reconnect opens the link again

After the death of a session, the handshake has to wait until a new link to the remote
station has been asked for and confirmed. The driver leaves this to two calls of the
transport. The one over an AGWPE modem asks for the link in them. The one over a VARA modem
does nothing in them, so the handshake goes out on whatever is left of the old session.
-/

namespace PacketBrowser.Client

open Protocol Foundation Program Setting Agwpe Vara

/-- Data for the remote station is written. -/
def LinkOp.speaks : LinkOp → Bool
  | .agwpe (.writeFrame frame) => frame.frameType == .sendData
  | .vara (.write .data _) => true
  | _ => false

/-- A link to the station has been asked for. -/
def requestsLink (remote : Text) (event : LinkEvent) : Prop :=
  match event.op, event.answer with
  | .agwpe (.writeFrame frame), .ok () => frame.frameType = .connect ∧ frame.callTo = remote
  | .vara (.write .cmd bytes), .ok () => ∃ localCall : Text,
      bytes = Utf8.encode ("CONNECT ".toList ++ localCall ++ " ".toList ++ remote)
  | _, _ => False

/-- The modem has confirmed a link. -/
def confirmsLink (event : LinkEvent) : Prop :=
  match event.op, event.answer with
  | .agwpe .readFrame, .ok frame => frame.confirms = true
  | .vara .takeLine, some line => ∃ localCall remote, parseLine line = .connected localCall remote
  | _, _ => False

/-- A link to the station has been asked for. -/
def Requested (remote : Text) (history : List LinkEvent) : Prop :=
  ∃ event ∈ history, requestsLink remote event

/-- A link to the station has been asked for and confirmed then. -/
def Relinked (remote : Text) (history : List LinkEvent) : Prop :=
  ∃ later event earlier, history = later ++ event :: earlier ∧ confirmsLink event ∧
    Requested remote earlier

/-- Data is written only over a new link. -/
def SpeaksRelinked (remote : Text) (event : LinkEvent) (earlier : List LinkEvent) : Prop :=
  event.op.speaks = true → Relinked remote earlier

/-- Another session is not opened. -/
def LinkOp.staying : LinkOp → Prop
  | .agwpe (.recordTarget _) => False
  | _ => True

section Sessions

variable (kind : TransportKind) (bandwidth : VaraBandwidth) (config : SessionConfig)

/-- A session has been opened, and whatever was done since then, by calls that may have been
given up, has not opened another one. -/
inductive InSession : LinkWorld → Prop
  | opened {world : LinkWorld} {now : LinkMoment} {left : LinkRoutine (Except TransportError Unit)}
      (leads : Leads linkExec anyLink (modemMethod kind bandwidth (.openSession config))
        ⟨world, []⟩ now left) (ends : left.Ends (.ok ())) : InSession now.world
  | goes {world : LinkWorld} {now : LinkMoment} {α : Type} {program left : LinkRoutine α}
      (earlier : InSession world) (only : program.Only LinkOp.staying)
      (leads : Leads linkExec anyLink program ⟨world, []⟩ now left) : InSession now.world

/-- The reconnect with the transport of this kind. -/
def reconnectMethod (manager : ManagerId) (reason localCallsign : Text) :
    LinkRoutine (Except AgwpeError Unit) :=
  (handleReconnect manager reason localCallsign).run.expand (method kind bandwidth)

end Sessions

section Steps

/-- The handshake of a reconnect with this remote station. -/
def relink (remote : Text) : Setting LinkWorld Unit LinkAnswer where
  exec := linkExec
  meets := anyLink
  inv := fun now => Throughout (SpeaksRelinked remote) now.history

/-- The transport addresses the station. -/
def Targeted (remote : Text) (now : LinkMoment) : Prop :=
  now.world.agwpe.target.remoteCallsign = remote

/-- Nothing is written to the station, and no other session is opened. -/
def LinkOp.quiet (op : LinkOp) : Prop := op.speaks = false ∧ op.staying

variable {remote : Text} {now later : LinkMoment} {op : LinkOp} {answer : LinkAnswer op}
variable {α β : Type}

/-- Only a new session changes whom the transport addresses. -/
theorem staying_target {world after : LinkWorld} (staying : op.staying)
    (executed : linkExec op answer world = some after) :
    after.agwpe.target.remoteCallsign = world.agwpe.target.remoteCallsign := by
  cases op with
  | shared op =>
    obtain rfl := Option.some.inj executed
    rfl
  | agwpe op =>
    simp only [linkExec] at executed
    split at executed
    · obtain rfl := Option.some.inj executed
      cases op with
      | recordTarget target => exact absurd staying id
      | _ => rfl
    · exact absurd executed (by simp)
  | vara op =>
    obtain ⟨vara, _, rfl⟩ := Option.map_eq_some_iff.mp executed
    rfl

/-- A link that was opened again is so behind any later event. -/
theorem relinked_cons (event : LinkEvent) {history : List LinkEvent}
    (relinked : Relinked remote history) : Relinked remote (event :: history) := by
  obtain ⟨front, confirm, earlier, rfl, confirms, requested⟩ := relinked
  exact ⟨event :: front, confirm, earlier, rfl, confirms, requested⟩

/-- A link that was asked for is so behind any later event. -/
theorem requested_cons (event : LinkEvent) {history : List LinkEvent}
    (requested : Requested remote history) : Requested remote (event :: history) := by
  obtain ⟨request, member, requests⟩ := requested
  exact ⟨request, List.mem_cons_of_mem _ member, requests⟩

/-- A quiet operation keeps what the law says. -/
theorem quiet_step (quiet : op.quiet) (moves : (relink remote).Moves now ⟨(), op, answer⟩ later) :
    (relink remote).inv later ∧ (Targeted remote now → Targeted remote later) := by
  obtain ⟨⟨executed, grown⟩, _, kept⟩ := moves
  constructor
  · show Throughout _ later.history
    rw [grown]
    exact ⟨fun speaks => absurd quiet.1 (by simp [speaks]), kept⟩
  · intro targeted
    exact (staying_target quiet.2 executed).trans targeted

/-- Over a new link, anything may be done. -/
theorem relinked_step (relinked : Relinked remote now.history)
    (moves : (relink remote).Moves now ⟨(), op, answer⟩ later) :
    (relink remote).inv later ∧ Relinked remote later.history := by
  obtain ⟨⟨_, grown⟩, _, kept⟩ := moves
  constructor
  · show Throughout _ later.history
    rw [grown]
    exact ⟨fun _ => relinked, kept⟩
  · rw [grown]
    exact relinked_cons _ relinked

/-- Whom the transport addresses, and whether it has asked for a link. -/
def Asking (requested : Bool) (remote : Text) (now : LinkMoment) : Prop :=
  Targeted remote now ∧ (requested = true → Requested remote now.history)

/-- A quiet step leaves what was asked for. -/
theorem asking_step {requested : Bool} (quiet : op.quiet) (asking : Asking requested remote now)
    (moves : (relink remote).Moves now ⟨(), op, answer⟩ later) :
    (relink remote).inv later ∧ Asking requested remote later := by
  obtain ⟨kept, targeted⟩ := quiet_step quiet moves
  refine ⟨kept, targeted asking.1, fun given => ?_⟩
  rw [moves.occurs.2]
  exact requested_cons _ (asking.2 given)

/-- What only performs quiet operations. -/
theorem quiet_asking {requested : Bool} {program : LinkRoutine α} (only : program.Only LinkOp.quiet) :
    (relink remote).Triple () (Asking requested remote) program fun _ => Asking requested remote :=
  triple_only (stable_alone _) only fun _ quiet _ _ _ asking moves => asking_step quiet asking moves

/-- Whatever is done over a new link. -/
theorem over_relinked (program : LinkRoutine α) :
    (relink remote).Triple () (fun now => Relinked remote now.history) program
      fun _ now => Relinked remote now.history :=
  triple_only (stable_alone _) (only_any program) fun _ _ _ _ _ relinked moves =>
    relinked_step relinked moves

end Steps

section Reopening

/-! Reopening the modem connection writes nothing to the station. -/

/-- The operation is quiet, seen from the driver. -/
def quietAgwpe (op : AgwpeOp) : Prop := (LinkOp.agwpe op).quiet

variable {α : Type} {program : AgwpeRoutine α}

/-- A quiet program of the transport is quiet in the client. -/
theorem onAgwpe_quiet (only : program.Only quietAgwpe) : (onAgwpe program).Only LinkOp.quiet := by
  apply only_expand _ only
  exact fun op quiet => ⟨quiet, fun _ => trivial⟩

/-- Errors make no difference to what is done. -/
theorem mapTransportErr_quiet {attempt : AgwpeAttempt AgwpeError α}
    (only : attempt.run.Only quietAgwpe) : (mapTransportErr attempt).run.Only quietAgwpe :=
  only_bind _ only fun _ => trivial

/-- Asking whether there is a connection is quiet. -/
theorem requireConnected_quiet {ε : Type} (notConnected : ε) :
    (requireConnected notConnected).run.Only quietAgwpe :=
  only_bind _ (only_ask _ ⟨rfl, trivial⟩) fun _ => trivial

/-- Writing a frame that asks for no link is quiet. -/
theorem writeFrame_quiet {frame : AgwpeFrame} (other : quietAgwpe (.writeFrame frame)) :
    (writeFrame frame).run.Only quietAgwpe := only_bind _ (only_ask _ other) fun _ => trivial

/-- Flushing is quiet. -/
theorem flush_quiet : Agwpe.flush.run.Only quietAgwpe :=
  only_bind _ (only_ask _ ⟨rfl, trivial⟩) fun _ => trivial

/-- Asking whether there is a state is quiet. -/
theorem requireState_quiet : requireState.run.Only quietAgwpe :=
  only_bind _ (only_ask _ ⟨rfl, trivial⟩) fun _ => trivial

/-- Sending a frame that asks for no link is quiet. -/
theorem sendFrameInternal_quiet {frame : AgwpeFrame} (other : quietAgwpe (.writeFrame frame)) :
    (sendFrameInternal frame).run.Only quietAgwpe := by
  apply only_attempt _ (requireConnected_quiet _)
  intro _
  apply only_attempt _ (writeFrame_quiet other)
  exact fun _ => flush_quiet

/-- Giving the registration up is quiet. -/
theorem giveUpRegistration_quiet (message : Text) :
    (giveUpRegistration message).Only quietAgwpe := by
  apply only_bind _ (only_ask _ ⟨rfl, trivial⟩)
  intro _
  apply only_bind _ (only_ask _ ⟨rfl, trivial⟩)
  exact fun _ => trivial

/-- The end of the registration is quiet. -/
theorem registrationResult_quiet (result : Except AgwpeError AgwpeFrame) :
    (registrationResult result).Only quietAgwpe := by
  cases result with
  | error err => exact giveUpRegistration_quiet _
  | ok frame =>
    unfold registrationResult
    dsimp only
    split
    · apply only_bind _ (only_ask _ ⟨rfl, trivial⟩)
      exact fun _ => trivial
    · exact giveUpRegistration_quiet _

/-- Waiting for the registration is quiet. -/
theorem awaitRegistration_quiet (written : Except Text Unit) :
    (awaitRegistration written).Only quietAgwpe := by
  cases written with
  | error message => exact giveUpRegistration_quiet _
  | ok written =>
    apply only_bind _ (only_ask _ ⟨rfl, trivial⟩)
    intro _
    exact only_bind _ (only_ask _ ⟨rfl, trivial⟩) registrationResult_quiet

/-- Connecting the modem is quiet. -/
theorem connectModemInternal_quiet (callsign : Text) :
    (connectModemInternal callsign).run.Only quietAgwpe := by
  apply only_bind _ (only_ask _ ⟨rfl, trivial⟩)
  intro connected
  cases connected with
  | error message => exact only_bind _ (only_ask _ ⟨rfl, trivial⟩) fun _ => trivial
  | ok connected =>
    apply only_bind _ (only_ask _ ⟨rfl, trivial⟩)
    intro _
    exact only_bind _ (only_ask _ ⟨rfl, trivial⟩) awaitRegistration_quiet

/-- Taking a link down is quiet. -/
theorem disconnectLink_quiet (target : AgwpeTarget) : (disconnectLink target).Only quietAgwpe := by
  apply only_bind _ (sendFrameInternal_quiet ⟨rfl, trivial⟩)
  intro _
  apply only_loop
  intro _
  apply only_bind _ (only_ask _ ⟨rfl, trivial⟩)
  exact fun _ => trivial

/-- Ending a link is quiet. -/
theorem endLink_quiet : endLink.Only quietAgwpe := by
  apply only_bind _ (only_ask _ ⟨rfl, trivial⟩)
  intro connected
  split
  · apply only_bind _ (only_ask _ ⟨rfl, trivial⟩)
    intro target
    apply only_bind _ (only_ask _ ⟨rfl, trivial⟩)
    intro connected
    split
    · exact disconnectLink_quiet target
    · trivial
  · trivial

/-- Opening the connection again is quiet. -/
theorem reopenModemConnection_quiet : Agwpe.reopenModemConnection.run.Only quietAgwpe := by
  apply only_attempt _ requireState_quiet
  intro _
  apply only_attempt _ (only_lift _ (only_ask _ ⟨rfl, trivial⟩))
  intro target
  apply only_attempt _ (only_lift _ endLink_quiet)
  intro _
  apply only_attempt _ (only_lift _ (only_ask _ ⟨rfl, trivial⟩))
  exact fun _ => mapTransportErr_quiet (connectModemInternal_quiet _)

end Reopening

section Opening

variable {remote : Text}

/-- What a step of asking for the link establishes, where it does not fail. -/
def OnSuccess {α ε : Type} (holds : α → LinkMoment → Prop) : Except ε α → LinkMoment → Prop :=
  outcome holds fun _ _ => True

/-- A quiet part of asking for the link. -/
theorem quiet_asked {α ε : Type} {requested : Bool} {attempt : AgwpeAttempt ε α}
    (only : attempt.run.Only quietAgwpe) :
    (relink remote).Triple () (Asking requested remote) (onAgwpe attempt.run)
      (OnSuccess fun _ => Asking requested remote) := by
  apply (quiet_asking (onAgwpe_quiet only)).consequence (fun _ => id)
  intro result now asking
  cases result with
  | ok value => exact asking
  | error err => trivial

/-- The part that comes next in asking for the link. -/
theorem asked_attempt {α β ε : Type} {first : AgwpeAttempt ε α} {after : α → AgwpeAttempt ε β}
    {pre : LinkMoment → Prop} {post : β → LinkMoment → Prop} (middle : α → LinkMoment → Prop)
    (one : (relink remote).Triple () pre (onAgwpe first.run) (OnSuccess middle))
    (two : ∀ value, (relink remote).Triple () (middle value) (onAgwpe (after value).run) (OnSuccess post)) :
    (relink remote).Triple () pre (onAgwpe (first >>= after).run) (OnSuccess post) :=
  triple_expand_attempt middle (fun _ => stable_alone _) one two

/-- The frame that asks for the link is written. -/
theorem writeFrame_asked {frame : AgwpeFrame} (kind : frame.frameType = .connect)
    (callTo : frame.callTo = remote) :
    (relink remote).Triple () (Asking false remote) (onAgwpe (writeFrame frame).run)
      (OnSuccess fun _ => Asking true remote) := by
  have quiet : (LinkOp.agwpe (.writeFrame frame)).quiet := by
    refine ⟨?_, trivial⟩
    simp [LinkOp.speaks, kind]
  apply triple_bind fun answer => OnSuccess (fun _ => Asking true remote) (ioError answer)
  · apply triple_ask (stable_alone _) (fun _ => stable_alone _)
    intro now answer later asking moves
    obtain ⟨kept, targeted, _⟩ := asking_step quiet asking moves
    refine ⟨kept, ?_⟩
    cases answer with
    | error message => trivial
    | ok written =>
      refine ⟨targeted, fun _ => ⟨⟨(), .agwpe (.writeFrame frame), .ok written⟩, ?_, ?_⟩⟩
      · rw [moves.occurs.2]
        exact List.mem_cons_self
      · exact ⟨kind, callTo⟩
  · exact fun answer => triple_done (stable_alone _) fun _ => id

/-- Sending the frame that asks for a link is asking for it. -/
theorem sendFrameInternal_asked {frame : AgwpeFrame} (kind : frame.frameType = .connect)
    (callTo : frame.callTo = remote) :
    (relink remote).Triple () (Asking false remote) (onAgwpe (sendFrameInternal frame).run)
      (OnSuccess fun _ => Asking true remote) := by
  apply asked_attempt _ (quiet_asked (requireConnected_quiet _))
  intro _
  apply asked_attempt _ (writeFrame_asked kind callTo)
  exact fun _ => quiet_asked flush_quiet

/-- The link is up only once it is confirmed. -/
theorem readFrame_relinked :
    (relink remote).Triple () (Asking true remote) (onAgwpe readFrameWithTimeout)
      fun result now => match result with
        | .ok frame => Asking true remote now ∧ (frame.confirms = true → Relinked remote now.history)
        | .error _ => Asking true remote now := by
  apply triple_bind fun result now => match result with
    | .ok frame => Asking true remote now ∧ (frame.confirms = true → Relinked remote now.history)
    | .error _ => Asking true remote now
  · apply triple_ask (stable_alone _) (fun _ => stable_alone _)
    intro now answer later asking moves
    have quiet : (LinkOp.agwpe .readFrame).quiet := ⟨rfl, trivial⟩
    obtain ⟨kept, asks⟩ := asking_step quiet asking moves
    refine ⟨kept, ?_⟩
    cases answer with
    | error err => exact asks
    | ok frame =>
      refine ⟨asks, fun confirms => ⟨[], _, _, moves.occurs.2, confirms, asking.2 rfl⟩⟩
  · exact fun result => triple_done (stable_alone _) fun _ => id

/-- A round of waiting for the confirmation. -/
theorem linkRound_relinked (deadline : Nat) :
    (relink remote).Triple () (Asking true remote) (onAgwpe (linkRound deadline))
      (Sum.elim (fun _ => Asking true remote) (OnSuccess fun _ now => Relinked remote now.history)) := by
  apply triple_expand_bind fun result now => match result with
    | .ok frame => Asking true remote now ∧ (frame.confirms = true → Relinked remote now.history)
    | .error _ => Asking true remote now
  · apply triple_expand_bind (fun _ => Asking true remote)
    · exact quiet_asking (onAgwpe_quiet (only_ask _ ⟨rfl, trivial⟩))
    intro now
    split
    · exact triple_done (stable_alone _) fun _ => id
    · exact readFrame_relinked
  · intro result
    apply triple_done (stable_alone _)
    intro now read
    cases result with
    | error err => trivial
    | ok frame =>
      obtain ⟨asking, confirmed⟩ := read
      unfold linkStep
      dsimp only
      split
      · rename_i confirms
        exact confirmed confirms
      · split
        · trivial
        · exact asking

/-- The transport knows whom it addresses. -/
theorem target_answered {world after : LinkWorld} {target : AgwpeTarget}
    (executed : linkExec (.agwpe .target) target world = some after) :
    target = world.agwpe.target := by
  by_contra other
  simp [linkExec, AgwpeWorld.gives, other] at executed

/-- A link is opened again behind being asked for. -/
theorem openAx25Link_relinked :
    (relink remote).Triple () (Asking false remote) (onAgwpe Agwpe.openAx25Link.run)
      (OnSuccess fun _ now => Relinked remote now.history) := by
  apply asked_attempt _ (quiet_asked (requireConnected_quiet _))
  intro _
  apply asked_attempt fun target now => Asking false remote now ∧ target.remoteCallsign = remote
  · apply triple_bind fun target now => Asking false remote now ∧ target.remoteCallsign = remote
    · apply triple_ask (stable_alone _) (fun _ => stable_alone _)
      intro now target later asking moves
      have quiet : (LinkOp.agwpe .target).quiet := ⟨rfl, trivial⟩
      obtain ⟨kept, asks⟩ := asking_step quiet asking moves
      have answered : target = now.world.agwpe.target := target_answered moves.occurs.1
      exact ⟨kept, asks, (congrArg AgwpeTarget.remoteCallsign answered).trans asking.1⟩
    · exact fun target => triple_done (stable_alone _) fun _ => id
  intro target
  apply asked_attempt fun _ => Asking true remote
  · intro now holds
    obtain ⟨asking, callTo⟩ := holds
    apply (triple_expand_bind _ (sendFrameInternal_asked rfl callTo) _) now asking
    intro result
    apply triple_done (stable_alone _)
    intro later asked
    cases result with
    | ok value => exact asked
    | error err => trivial
  · intro _
    apply triple_expand_bind (fun _ => Asking true remote)
    · exact quiet_asking (onAgwpe_quiet (only_ask _ ⟨rfl, trivial⟩))
    · intro now
      exact triple_loop (fun _ => Asking true remote) (fun _ => stable_alone _)
        (fun _ => stable_alone _) (fun _ => linkRound_relinked _) ()

end Opening

section Reconnecting

variable {remote : Text} (bandwidth : VaraBandwidth) (manager : ManagerId)

/-- The part that comes next in the driver. -/
theorem driver_attempt {α β : Type} {first : Attempt α} {after : α → Attempt β}
    {pre : LinkMoment → Prop} (middle : α → LinkMoment → Prop)
    (one : (relink remote).Triple () pre (first.run.expand (method .ax25 bandwidth)) (OnSuccess middle))
    (two : ∀ value, (relink remote).Triple () (middle value)
      ((after value).run.expand (method .ax25 bandwidth)) fun _ _ => True) :
    (relink remote).Triple () pre ((first >>= after).run.expand (method .ax25 bandwidth))
      fun _ _ => True :=
  triple_expand_attempt middle (fun _ => stable_const True)
    (one.consequence (fun _ => id) fun result _ => by cases result <;> exact id) two

/-- Operations on the shared state are quiet. -/
def quietShared : Op → Prop
  | .setConnectionState _ => True
  | .loadAbort _ => True
  | _ => False

/-- A part of the driver that only looks at the shared state. -/
theorem shared_asking {α : Type} {first : Attempt α} (only : first.run.Only quietShared) :
    (relink remote).Triple () (Asking false remote) (first.run.expand (method .ax25 bandwidth))
      (OnSuccess fun _ => Asking false remote) := by
  have quiet : (first.run.expand (method .ax25 bandwidth)).Only LinkOp.quiet := by
    apply only_expand _ only
    intro op shared
    cases op with
    | setConnectionState state => exact ⟨⟨rfl, trivial⟩, fun _ => trivial⟩
    | loadAbort manager => exact ⟨⟨rfl, trivial⟩, fun _ => trivial⟩
    | _ => exact absurd shared id
  apply (quiet_asking quiet).consequence (fun _ => id)
  intro result now asking
  cases result with
  | ok value => exact asking
  | error err => trivial

/-- A transport call of the driver. -/
theorem callModem_asked (call : ModemCall) {pre : LinkMoment → Prop} {post : LinkMoment → Prop}
    (triple : (relink remote).Triple () pre (onAgwpe (agwpeCall call)) (OnSuccess fun _ => post)) :
    (relink remote).Triple () pre ((callModem manager call).run.expand (method .ax25 bandwidth))
      (OnSuccess fun _ => post) := by
  apply triple_bind fun (answer : ModemAnswer) now => OnSuccess (fun _ => post) answer.result now
  · apply triple_bind _ triple
    exact fun result => triple_done (stable_alone _) fun _ => id
  · intro answer
    apply triple_done (stable_alone _)
    intro now asked
    unfold mapErr
    cases result : answer.result with
    | ok value =>
      rw [result] at asked
      exact asked
    | error err => trivial

/-- Stopping for a disconnect leaves the modem alone. -/
theorem bailIfAborted_shared : (bailIfAborted manager).run.Only quietShared :=
  only_bind _ (only_ask _ trivial) fun _ => trivial

/-- Putting a state on display leaves the modem alone. -/
theorem setState_shared (state : ConnectionState) :
    (ExceptT.lift (setState state) : Attempt Unit).run.Only quietShared :=
  only_lift _ (only_ask _ trivial)

/-- The driver goes on over a new link. -/
theorem receiveAgain_relinks (reason localCallsign : Text) :
    (relink remote).Triple () (Asking false remote)
      ((receiveAgain manager reason localCallsign).run.expand (method .ax25 bandwidth))
      (OnSuccess fun _ now => Relinked remote now.history) := by
  have failed : ∀ (err : AgwpeError), (relink remote).Stable ()
      (OnSuccess (fun (_ : Text) now => Relinked remote now.history) (.error err)) :=
    fun _ => stable_alone _
  apply triple_expand_attempt _ failed
    (callModem_asked bandwidth manager .reopenModemConnection
      (quiet_asked reopenModemConnection_quiet))
  intro _
  apply triple_expand_attempt _ failed (shared_asking bandwidth (setState_shared _))
  intro _
  apply triple_expand_attempt _ failed (shared_asking bandwidth (bailIfAborted_shared manager))
  intro _
  apply triple_expand_attempt _ failed
    (callModem_asked bandwidth manager .openAx25Link openAx25Link_relinked)
  intro _
  apply (over_relinked _).consequence (fun _ => id)
  intro result now relinked
  cases result with
  | ok value => exact relinked
  | error err => trivial

/-- A reconnect over AX.25 opens a link of its own. -/
theorem reconnect_relinks (reason localCallsign : Text) :
    (relink remote).Triple () (Asking false remote)
      (reconnectMethod .ax25 bandwidth manager reason localCallsign) fun _ _ => True := by
  have quiet : ∀ state, ((setState state).expand (method .ax25 bandwidth)).Only LinkOp.quiet :=
    fun state => ⟨⟨rfl, trivial⟩, fun _ => trivial⟩
  have reporting : ∀ state, (relink remote).Triple () (fun _ => True)
      ((setState state).expand (method .ax25 bandwidth)) fun _ _ => True := by
    intro state
    exact triple_only (stable_alone _) (quiet state) fun _ quiet _ _ _ _ moves =>
      ⟨(quiet_step quiet moves).1, trivial⟩
  apply triple_expand_bind (fun _ => Asking false remote)
  · exact quiet_asking (quiet _)
  intro _
  apply triple_expand_bind (fun _ _ => True)
  · apply driver_attempt bandwidth _ (receiveAgain_relinks bandwidth manager reason localCallsign)
    exact fun _ => (over_relinked _).consequence (fun _ => id) fun _ _ _ => trivial
  intro result
  match result with
  | .ok () => exact triple_done (stable_alone _) fun _ => id
  | .error err =>
    cases err with
    | needsReconsent => exact triple_done (stable_alone _) fun _ => id
    | _ =>
      apply triple_expand_bind (fun _ _ => True) (reporting _)
      exact fun _ => triple_done (stable_alone _) fun _ => id

end Reconnecting

section Unlinked

/-! Over a VARA modem, a reconnect never asks for a link. -/

/-- No command is written. -/
def commandless (op : VaraOp) : Prop := ∀ bytes, op ≠ .write .cmd bytes

/-- A link is not asked for, whatever the answer. -/
def LinkOp.linkless (op : LinkOp) : Prop := ∀ answer remote, ¬ requestsLink remote ⟨(), op, answer⟩

/-- The calls of the transport that a reconnect makes. -/
def relinks : Op → Prop
  | .modem _ call => call = .reopenModemConnection ∨ call = .openAx25Link
  | _ => True

variable {α : Type}

/-- A program of this modem that sends no command asks for no link. -/
theorem onVara_linkless {program : VaraRoutine α} (only : program.Only commandless) :
    (onVara program).Only LinkOp.linkless := by
  apply only_expand _ only
  intro op quiet
  refine ⟨fun answer remote requests => ?_, fun _ => trivial⟩
  cases op with
  | write port bytes =>
    cases port with
    | cmd => exact quiet bytes rfl
    | data => exact requests
  | _ => exact requests

/-- Reading a line sends no command. -/
theorem readCmdLine_commandless (deadline : Nat) : (readCmdLine deadline).Only commandless := by
  apply only_loop
  intro _
  apply only_bind _ (only_ask _ (by simp [commandless]))
  intro taken
  cases taken with
  | some line => trivial
  | none =>
    apply only_bind _ (only_ask _ (by simp [commandless]))
    intro now
    split
    · trivial
    · apply only_bind _ (only_ask _ (by simp [commandless]))
      intro connected
      split
      · apply only_bind _ (only_ask _ (by simp [commandless]))
        exact fun _ => trivial
      · trivial

/-- Looking at what has come sends no command. -/
theorem heed_commandless (selected : Selected) : (heed selected).Only commandless := by
  cases selected with
  | data result => trivial
  | slept => trivial
  | cmdReady =>
    apply only_bind _ (only_ask _ (by simp [commandless]))
    intro now
    apply only_bind _ (readCmdLine_commandless _)
    exact fun _ => trivial

/-- Waiting for an event sends no command. -/
theorem recv_commandless (deadline : Nat) : (Vara.recv deadline).Only commandless := by
  apply only_loop
  intro _
  apply only_bind _ (only_ask _ (by simp [commandless]))
  intro now
  split
  · trivial
  apply only_bind _ (only_ask _ (by simp [commandless]))
  intro data
  split
  · apply only_bind _ (only_ask _ (by simp [commandless]))
    intro cmd
    split
    · apply only_bind _ (only_ask _ (by simp [commandless]))
      exact heed_commandless
    · trivial
  · trivial

/-- Sending data sends no command. -/
theorem send_commandless (data : Bytes) : (Vara.send data).run.Only commandless := by
  have opened : (requireOpen .data).run.Only commandless :=
    only_bind _ (only_ask _ (by simp [commandless])) fun _ => trivial
  have written : (Vara.write .data data).run.Only commandless :=
    only_bind _ (only_ask _ (by simp [commandless])) fun _ => trivial
  have flushed : (Vara.flush .data).run.Only commandless :=
    only_bind _ (only_ask _ (by simp [commandless])) fun _ => trivial
  apply only_attempt _ opened
  intro _
  apply only_attempt _ written
  exact fun _ => flushed

/-- What a reconnect does over a VARA modem. -/
theorem method_linkless {kind : TransportKind} (bandwidth : VaraBandwidth) (other : kind ≠ .ax25)
    (op : Op) (relink : relinks op) : (method kind bandwidth op).Only LinkOp.linkless := by
  have vara : kind = .varaFm ∨ kind = .varaHf := by
    cases kind with
    | ax25 => exact absurd rfl other
    | varaFm => exact Or.inl rfl
    | varaHf => exact Or.inr rfl
  cases op with
  | modem manager call =>
    apply only_bind
    · rcases vara with rfl | rfl <;> rcases relink with rfl | rfl <;> trivial
    · exact fun _ => trivial
  | portQuerySupported manager => trivial
  | send manager purpose data =>
    rcases vara with rfl | rfl <;> exact onVara_linkless (send_commandless data)
  | recv manager timeoutSecs =>
    have received : (varaRecv timeoutSecs).Only commandless :=
      only_bind _ (only_ask _ (by simp [commandless])) fun _ => recv_commandless _
    rcases vara with rfl | rfl <;> exact onVara_linkless received
  | _ => exact ⟨fun _ _ => id, fun _ => trivial⟩

/-- A reconnect asks the transport for nothing else. -/
theorem handleReconnect_relinks (manager : ManagerId) (reason localCallsign : Text) :
    (handleReconnect manager reason localCallsign).run.Only relinks := by
  have state : ∀ state, (setState state).Only relinks := fun _ => only_ask _ trivial
  have bail : (bailIfAborted manager).run.Only relinks :=
    (bailIfAborted_only manager).mono (by rintro op rfl; trivial)
  have again : (receiveAgain manager reason localCallsign).run.Only relinks := by
    apply (receiveAgain_reopens manager reason localCallsign).mono
    intro op reopen
    cases op with
    | modem manager call => cases call <;> first | exact Or.inl rfl | exact Or.inr rfl | exact reopen.elim
    | _ => trivial
  have agreed : ∀ disclaimer, (requireAgreed disclaimer).run.Only relinks := by
    intro disclaimer
    apply only_attempt _ (only_lift _ (only_ask _ trivial))
    intro stored
    unfold requireStored
    split
    · trivial
    · apply only_attempt _ (only_lift _ (state _))
      exact fun _ => trivial
  apply only_bind _ (state _)
  intro _
  apply only_bind
  · apply only_attempt _ again
    intro disclaimer
    apply only_attempt _ (agreed disclaimer)
    intro _
    apply only_attempt _ bail
    intro _
    apply only_attempt _ ((sendBytes_only manager _ _).mono (by rintro op rfl; trivial))
    exact fun _ => only_lift _ (state _)
  · intro result
    split
    · trivial
    · trivial
    · apply only_bind _ (state _)
      exact fun _ => trivial

/-- So whatever it writes, it writes without a new link. -/
theorem vara_speaks {kind : TransportKind} (other : kind ≠ .ax25) (bandwidth : VaraBandwidth)
    (manager : ManagerId) (reason localCallsign remote : Text) {world : LinkWorld} {now : LinkMoment}
    {left : LinkRoutine (Except AgwpeError Unit)}
    (leads : Leads linkExec anyLink (reconnectMethod kind bandwidth manager reason localCallsign)
      ⟨world, []⟩ now left) (relinked : Throughout (SpeaksRelinked remote) now.history) :
    ∀ event ∈ now.history, event.op.speaks = false := by
  have only : (reconnectMethod kind bandwidth manager reason localCallsign).Only LinkOp.linkless :=
    only_expand (method_linkless bandwidth other) (handleReconnect_relinks manager reason localCallsign)
  obtain ⟨_, events, history, each⟩ := leads.only only
  rw [List.append_nil] at history
  intro event member
  obtain ⟨later, earlier, split⟩ := List.append_of_mem member
  apply Bool.eq_false_iff.mpr
  intro speaks
  obtain ⟨front, confirm, rest, parts, _, request, before, requests⟩ :=
    throughout_iff.mp relinked later event earlier split speaks
  have inside : request ∈ events := by
    rw [← history, split, parts]
    simp [before]
  exact each request inside request.answer remote requests

end Unlinked

section Course

variable {kind : TransportKind} {bandwidth : VaraBandwidth} {config : SessionConfig}
variable {world : LinkWorld}

/-- Any run at all. -/
def anyCourse : Setting LinkWorld Unit LinkAnswer where
  exec := linkExec
  meets := anyLink
  inv := fun _ => True

/-- Any run in which the station stays addressed. -/
def addressing (remote : Text) : Setting LinkWorld Unit LinkAnswer where
  exec := linkExec
  meets := anyLink
  inv := Targeted remote

/-- An open session addresses the station it was opened to. -/
theorem session_target (session : InSession .ax25 bandwidth config world) :
    world.agwpe.target.remoteCallsign = config.remoteCallsign := by
  induction session with
  | @opened world now left leads ends =>
    have triple : anyCourse.Triple () (fun _ => True)
        (modemMethod .ax25 bandwidth (.openSession config))
        fun _ now => now.world.agwpe.target.remoteCallsign = config.remoteCallsign := by
      apply triple_bind fun _ now => now.world.agwpe.target.remoteCallsign = config.remoteCallsign
      · apply triple_ask (stable_alone _) (fun _ => stable_alone _)
        intro now answer later _ moves
        refine ⟨trivial, ?_⟩
        have recorded := Option.some.inj moves.occurs.1
        rw [← recorded]
        rfl
      · exact fun _ => triple_done (stable_alone _) fun _ => id
    exact (alone (S := anyCourse) leads trivial (triple _ trivial)).2.ends ends
  | goes _ only leads before =>
    have kept : ∀ op, op.staying → ∀ now answer later,
        (addressing config.remoteCallsign).Moves now ⟨(), op, answer⟩ later →
        (addressing config.remoteCallsign).inv later :=
      fun op staying now answer later moves =>
        (staying_target staying moves.occurs.1).trans moves.inv
    exact (alone (S := addressing config.remoteCallsign) leads before (safe_only only kept _)).1

/-- A session with a station over a VARA modem. -/
def strayedSession : SessionConfig := ⟨"W1TEST".toList, "N0CALL".toList, [], false, 0⟩

/-- The modem is connected and will open one session. -/
def varaModem : LinkWorld :=
  ⟨.initial, ⟨false, true, ⟨0, [], []⟩⟩, ⟨true, [], [okBatch, connectedBatch], 0⟩⟩

/-- The events that open a session over VARA. -/
def openingEvents : List (Sigma LinkAnswer) :=
  (openEvents connectedBatch).map fun event => ⟨.vara event.1, event.2⟩

/-- The application command goes out without a link. -/
def strayEvents : List (Sigma LinkAnswer) :=
  [⟨.shared (.setConnectionState (.reconnecting [])), ()⟩,
    ⟨.shared (.setConnectionState (.reconnecting [])), ()⟩, ⟨.shared (.loadAbort 0), false⟩,
    ⟨.shared (.loadAbort 0), false⟩, ⟨.shared .readConfig, ⟨"BPQ".toList, false⟩⟩,
    ⟨.shared .readConfig, ⟨"BPQ".toList, false⟩⟩, ⟨.vara (.isOpen .data), true⟩,
    ⟨.vara (.write .data (ascii "BPQ\n")), .ok ()⟩]

/-- The state and what is left behind the events of a program. -/
def afterEvents {α : Type} (program : LinkRoutine α) (world : LinkWorld)
    (events : List (Sigma LinkAnswer)) : Option (LinkMoment × LinkRoutine α) :=
  program.follow linkExec 3 ⟨world, []⟩ events

/-- The session has been opened, and the reconnect has written something. -/
def strays (kind : TransportKind) : Bool :=
  match afterEvents (modemMethod kind .vWide (.openSession strayedSession)) varaModem openingEvents with
  | none => false
  | some (opened, left) =>
    (left.expose 3).value? == some (.ok ()) &&
      match afterEvents (reconnectMethod kind .vWide 0 [] []) opened.world strayEvents with
      | none => false
      | some (now, _) => now.history.any fun event => event.op.speaks

/-- A reconnect over a VARA modem writes without a new link. -/
theorem vara_unlinked (strayed : strays kind = true) (other : kind ≠ .ax25) :
    ∃ world, InSession kind .vWide strayedSession world ∧ ∃ now left,
      Leads linkExec anyLink (reconnectMethod kind .vWide 0 [] []) ⟨world, []⟩ now left ∧
      ¬ Throughout (SpeaksRelinked strayedSession.remoteCallsign) now.history := by
  have any : ∀ moment event, anyLink moment event := fun _ _ => trivial
  unfold strays at strayed
  split at strayed
  · exact absurd strayed (by simp)
  · rename_i opened left followed
    obtain ⟨ended, wrote⟩ := Bool.and_eq_true_iff.mp strayed
    have session : InSession kind .vWide strayedSession opened.world :=
      .opened (follow_leads 3 _ any followed).1 (ends_of_expose 3 left _ (beq_iff_eq.mp ended))
    refine ⟨opened.world, session, ?_⟩
    split at wrote
    · exact absurd wrote (by simp)
    · rename_i now left followed
      have leads := (follow_leads 3 _ any followed).1
      refine ⟨now, left, leads, fun relinked => ?_⟩
      obtain ⟨event, member, speaks⟩ := List.any_eq_true.mp wrote
      have silent := vara_speaks other .vWide 0 [] [] _ leads relinked event member
      rw [silent] at speaks
      exact absurd speaks (by decide)

/-- With a transport of one kind, a reconnect of any session writes to the station only over
a link that has been asked for and confirmed during the reconnect, in all its runs, if and
only if it is the transport over an AGWPE modem.

Over VARA a reconnect has no link to ask for, which one run shows. Over AX.25, opening the link
comes before anything that is written to the station, and nothing in between takes it away. -/
theorem reconnect_relinked_iff (kind : TransportKind) :
    (∀ bandwidth config world, InSession kind bandwidth config world →
      ∀ manager reason localCallsign now left, Leads linkExec anyLink
        (reconnectMethod kind bandwidth manager reason localCallsign) ⟨world, []⟩ now left →
      Throughout (SpeaksRelinked config.remoteCallsign) now.history) ↔ kind = .ax25 := by
  constructor
  · intro every
    by_contra other
    have strayed : strays kind = true := by
      cases kind with
      | ax25 => exact absurd rfl other
      | varaFm => decide
      | varaHf => decide
    obtain ⟨world, session, now, left, leads, unlinked⟩ := vara_unlinked strayed other
    exact unlinked (every .vWide strayedSession world session 0 [] [] now left leads)
  · rintro rfl bandwidth config world session manager reason localCallsign now left leads
    have asking : Asking false config.remoteCallsign ⟨world, []⟩ :=
      ⟨session_target session, by simp⟩
    exact (alone (S := relink config.remoteCallsign) leads trivial
      (reconnect_relinks bandwidth manager reason localCallsign _ asking)).1

/-- Over a VARA modem, the handshake of a reconnect goes out without a link. -/
theorem reconnect_not_relinked : ¬ ∀ kind bandwidth config world,
    InSession kind bandwidth config world →
      ∀ manager reason localCallsign now left, Leads linkExec anyLink
        (reconnectMethod kind bandwidth manager reason localCallsign) ⟨world, []⟩ now left →
      Throughout (SpeaksRelinked config.remoteCallsign) now.history := by
  intro every
  obtain ⟨world, session, now, left, leads, unlinked⟩ :=
    vara_unlinked (show strays .varaFm = true by decide) (by decide)
  exact unlinked (every _ .vWide strayedSession world session 0 [] [] now left leads)

end Course

end PacketBrowser.Client
