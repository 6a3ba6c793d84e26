import PacketBrowser.Client.Relink

/-!
# What a failed open leaves behind

Opening a session shows its failure to the operator only where the handshake fails. A link
that is not confirmed is given up without a word: the state stays what it was when the link
was asked for. The transport over an AGWPE modem is asked for the link while the state is
`Connecting`; the one over a VARA modem brings the link up before, while the operator is
still shown the state of the session before.
-/

namespace PacketBrowser.Client

open Protocol Foundation Program Setting Agwpe Vara

/-- The operator is shown this state. -/
def Displays (shown : ConnectionState) (now : LinkMoment) : Prop :=
  now.world.client.connectionState = shown

/-- The operator is shown some error. -/
def DisplaysError (now : LinkMoment) : Prop := ∃ message, Displays (.error message) now

/-- The state shown while the link is awaited. -/
def awaitingState : TransportKind → ConnectionState → ConnectionState
  | .ax25, _ => .connecting
  | _, earlier => earlier

/-- The shown state, and how far the link to the station has come. -/
def Awaiting (requested : Bool) (remote : Text) (shown : ConnectionState) (now : LinkMoment) : Prop :=
  Displays shown now ∧ (Requested remote now.history ↔ requested = true) ∧
    ¬ Relinked remote now.history

/-- The link has not come up, and the shown state is this one. -/
def GivenUp (remote : Text) (shown : ConnectionState) (now : LinkMoment) : Prop :=
  Displays shown now ∧ ¬ Relinked remote now.history

/-- The operation leaves the shown state alone. -/
def LinkOp.steady : LinkOp → Prop
  | .shared .readConfig => True
  | .shared (.storeAbort _ _) => True
  | .shared _ => False
  | .agwpe (.setState _) => False
  | _ => True

/-- No answer to the operation confirms a link. -/
def LinkOp.unconfirming (op : LinkOp) : Prop := ∀ answer, ¬ confirmsLink ⟨(), op, answer⟩

/-- The operation does not bring the link any further. -/
def LinkOp.idle (requested : Bool) (op : LinkOp) : Prop :=
  op.steady ∧ op.linkless ∧ (requested = true → op.unconfirming)

section Steps

variable {remote : Text} {shown : ConnectionState} {requested : Bool}
variable {now later : LinkMoment} {op : LinkOp} {answer : LinkAnswer op} {α : Type}

/-- A steady operation leaves the state on display. -/
theorem steady_shows {world after : LinkWorld} (steady : op.steady)
    (executed : linkExec op answer world = some after) :
    after.client.connectionState = world.client.connectionState := by
  cases op with
  | shared op =>
    obtain rfl := Option.some.inj executed
    cases op with
    | readConfig => rfl
    | storeAbort manager value => rfl
    | _ => exact absurd steady id
  | agwpe op =>
    simp only [linkExec] at executed
    split at executed
    · obtain rfl := Option.some.inj executed
      cases op with
      | setState state => exact absurd steady id
      | _ => rfl
    · exact absurd executed (by simp)
  | vara op =>
    obtain ⟨vara, _, rfl⟩ := Option.map_eq_some_iff.mp executed
    rfl

/-- A link was requested by the latest event, or before. -/
theorem requested_cons_iff (event : LinkEvent) {history : List LinkEvent} :
    Requested remote (event :: history) ↔ requestsLink remote event ∨ Requested remote history := by
  simp only [Requested, List.mem_cons, exists_eq_or_imp]

/-- A link is up once its confirmation comes behind the request. -/
theorem relinked_cons_iff (event : LinkEvent) {history : List LinkEvent} :
    Relinked remote (event :: history) ↔
      Relinked remote history ∨ (confirmsLink event ∧ Requested remote history) := by
  constructor
  · rintro ⟨front, confirm, earlier, split, confirms, requested⟩
    cases front with
    | nil =>
      obtain ⟨rfl, rfl⟩ := List.cons.inj split
      exact Or.inr ⟨confirms, requested⟩
    | cons first front =>
      obtain ⟨_, rfl⟩ := List.cons.inj split
      exact Or.inl ⟨front, confirm, earlier, rfl, confirms, requested⟩
  · rintro (relinked | ⟨confirms, requested⟩)
    · exact relinked_cons event relinked
    · exact ⟨[], event, history, rfl, confirms, requested⟩

/-- What is idle neither asks for the link nor confirms it. -/
theorem idle_step (idle : op.idle requested) (awaiting : Awaiting requested remote shown now)
    (moves : anyCourse.Moves now ⟨(), op, answer⟩ later) : Awaiting requested remote shown later := by
  obtain ⟨⟨executed, grown⟩, _, _⟩ := moves
  obtain ⟨steady, linkless, unconfirming⟩ := idle
  obtain ⟨shows, asked, unlinked⟩ := awaiting
  have silent : ¬ requestsLink remote ⟨(), op, answer⟩ := linkless answer remote
  constructor
  · exact (steady_shows steady executed).trans shows
  · rw [grown, requested_cons_iff, relinked_cons_iff]
    constructor
    · rw [← asked]
      exact or_iff_right silent
    · rintro (relinked | ⟨confirms, already⟩)
      · exact unlinked relinked
      · exact unconfirming (asked.mp already) answer confirms

/-- A step that is not a confirmation leaves the link down. -/
theorem unconfirmed_step (moves : anyCourse.Moves now ⟨(), op, answer⟩ later) (steady : op.steady)
    (awaiting : Awaiting requested remote shown now)
    (unconfirmed : ¬ (confirmsLink ⟨(), op, answer⟩ ∧ Requested remote now.history)) :
    GivenUp remote shown later := by
  obtain ⟨⟨executed, grown⟩, _, _⟩ := moves
  constructor
  · exact (steady_shows steady executed).trans awaiting.1
  · rw [grown, relinked_cons_iff]
    exact not_or.mpr ⟨awaiting.2.2, unconfirmed⟩

/-- If the link is or was requested, it stays awaited. -/
theorem requested_step (moves : anyCourse.Moves now ⟨(), op, answer⟩ later) (steady : op.steady)
    (awaiting : Awaiting requested remote shown now)
    (unconfirmed : ¬ (confirmsLink ⟨(), op, answer⟩ ∧ Requested remote now.history))
    (requests : requestsLink remote ⟨(), op, answer⟩ ∨ Requested remote now.history) :
    Awaiting true remote shown later := by
  obtain ⟨shows, unlinked⟩ := unconfirmed_step moves steady awaiting unconfirmed
  constructor
  · exact shows
  · constructor
    · rw [moves.occurs.2, requested_cons_iff]
      exact ⟨fun _ => rfl, fun _ => requests⟩
    · exact unlinked

/-- What only performs idle operations. -/
theorem idle_awaiting {program : LinkRoutine α} (only : program.Only (LinkOp.idle requested)) :
    anyCourse.Triple () (Awaiting requested remote shown) program
      fun _ => Awaiting requested remote shown :=
  triple_only (stable_alone _) only fun _ idle _ _ _ awaiting moves =>
    ⟨trivial, idle_step idle awaiting moves⟩

/-- Once the link is up, it has been up. -/
theorem relinked_stays (program : LinkRoutine α) :
    anyCourse.Triple () (fun now => Relinked remote now.history) program
      fun _ now => Relinked remote now.history := by
  apply triple_only (stable_alone _) (only_any program)
  intro op _ now answer later relinked moves
  constructor
  · trivial
  · rw [moves.occurs.2]
    exact relinked_cons _ relinked

end Steps

section Parts

variable {remote : Text} {shown : ConnectionState} {requested : Bool} {α β ε : Type}

/-- What a part of opening the link establishes; where it fails, the link is down and the
shown state is this one. -/
def OrGivenUp (remote : Text) (shown : ConnectionState) (holds : α → LinkMoment → Prop) :
    Except ε α → LinkMoment → Prop :=
  outcome holds fun _ => GivenUp remote shown

/-- An idle part that may fail. -/
theorem idle_part {program : LinkRoutine (Except ε α)}
    (only : program.Only (LinkOp.idle requested)) :
    anyCourse.Triple () (Awaiting requested remote shown) program
      (OrGivenUp remote shown fun _ => Awaiting requested remote shown) := by
  apply (idle_awaiting only).consequence (fun _ => id)
  intro result now awaiting
  cases result with
  | ok value => exact awaiting
  | error err => exact ⟨awaiting.1, awaiting.2.2⟩

/-- One operation that may ask for the link. -/
theorem ask_part {op : LinkOp} {result : LinkAnswer op → Except ε α} {pre : LinkMoment → Prop}
    {post : α → LinkMoment → Prop}
    (each : ∀ now answer later, pre now → anyCourse.Moves now ⟨(), op, answer⟩ later →
      OrGivenUp remote shown post (result answer) later) :
    anyCourse.Triple () pre (Program.ask op >>= fun answer => pure (result answer))
      (OrGivenUp remote shown post) :=
  triple_ask_return (stable_alone _) (fun _ => stable_alone _) fun now answer later holds moves =>
    ⟨trivial, each now answer later holds moves⟩

end Parts

section Agwpe

/-! Over an AGWPE modem, the link is asked for by a frame. -/

variable {remote : Text} {shown : ConnectionState} {requested : Bool} {α β ε : Type}

/-- The part that comes next. -/
theorem agwpe_attempt {first : AgwpeAttempt ε α} {after : α → AgwpeAttempt ε β}
    {pre : LinkMoment → Prop} {post : β → LinkMoment → Prop} (middle : α → LinkMoment → Prop)
    (one : anyCourse.Triple () pre (onAgwpe first.run) (OrGivenUp remote shown middle))
    (two : ∀ value, anyCourse.Triple () (middle value) (onAgwpe (after value).run)
      (OrGivenUp remote shown post)) :
    anyCourse.Triple () pre (onAgwpe (first >>= after).run) (OrGivenUp remote shown post) :=
  triple_expand_attempt middle (fun _ => stable_alone _) one two

/-- The link is requested, and still down. -/
theorem writeFrame_awaiting {frame : AgwpeFrame} (kind : frame.frameType = .connect)
    (callTo : frame.callTo = remote) :
    anyCourse.Triple () (Awaiting false remote shown) (onAgwpe (writeFrame frame).run)
      (OrGivenUp remote shown fun _ => Awaiting true remote shown) := by
  apply ask_part
  intro now answer later awaiting moves
  cases answer with
  | error message => exact unconfirmed_step moves trivial awaiting fun confirmed => confirmed.1
  | ok written =>
    exact requested_step moves trivial awaiting (fun confirmed => confirmed.1)
      (Or.inl ⟨kind, callTo⟩)

/-- An operation that is steady and asks for no link does nothing that counts. -/
theorem agwpe_idle {op : AgwpeOp} (steady : (LinkOp.agwpe op).steady)
    (linkless : (LinkOp.agwpe op).linkless) (unconfirming : (LinkOp.agwpe op).unconfirming) :
    (LinkOp.agwpe op).idle requested :=
  ⟨steady, linkless, fun _ => unconfirming⟩

/-- Asking whether there is a connection does nothing that counts. -/
theorem isConnected_idle : (LinkOp.agwpe .isConnected).idle requested :=
  agwpe_idle trivial (fun _ _ => id) fun _ => id

/-- Stopping without a connection does nothing that counts. -/
theorem requireConnected_idle {notConnected : ε} :
    (onAgwpe (requireConnected notConnected).run).Only (LinkOp.idle requested) :=
  ⟨isConnected_idle, fun _ => trivial⟩

/-- Flushing does nothing that counts. -/
theorem flush_idle : (onAgwpe Agwpe.flush.run).Only (LinkOp.idle requested) :=
  ⟨agwpe_idle trivial (fun _ _ => id) (fun _ => id), fun _ => trivial⟩

/-- Sending the frame that asks for a link is asking for it. -/
theorem sendFrameInternal_awaiting {frame : AgwpeFrame} (kind : frame.frameType = .connect)
    (callTo : frame.callTo = remote) :
    anyCourse.Triple () (Awaiting false remote shown) (onAgwpe (sendFrameInternal frame).run)
      (OrGivenUp remote shown fun _ => Awaiting true remote shown) := by
  apply agwpe_attempt _ (idle_part requireConnected_idle)
  intro _
  apply agwpe_attempt _ (writeFrame_awaiting kind callTo)
  exact fun _ => idle_part flush_idle

/-- A frame that is read confirms the link, or leaves it down. -/
theorem readFrame_awaiting :
    anyCourse.Triple () (Awaiting true remote shown) (onAgwpe readFrameWithTimeout)
      (OrGivenUp remote shown fun frame now => if frame.confirms then Relinked remote now.history
        else Awaiting true remote shown now) := by
  apply triple_ask (stable_alone _) (fun _ => stable_alone _)
  intro now answer later awaiting moves
  have requested : Requested remote now.history := awaiting.2.1.mpr rfl
  constructor
  · trivial
  · cases answer with
    | error err => exact unconfirmed_step moves trivial awaiting fun confirmed => confirmed.1
    | ok frame =>
      show ite _ _ _
      split
      · rename_i confirms
        rw [moves.occurs.2, relinked_cons_iff]
        exact Or.inr ⟨confirms, requested⟩
      · rename_i confirms
        exact requested_step moves trivial awaiting (fun confirmed => confirms confirmed.1)
          (Or.inr requested)

/-- A round of waiting for the confirmation. -/
theorem linkRound_awaiting (deadline : Nat) :
    anyCourse.Triple () (Awaiting true remote shown) (onAgwpe (linkRound deadline))
      (Sum.elim (fun _ => Awaiting true remote shown)
        (OrGivenUp remote shown fun _ now => Relinked remote now.history)) := by
  apply triple_expand_bind (OrGivenUp remote shown fun frame now =>
    if frame.confirms then Relinked remote now.history else Awaiting true remote shown now)
  · apply triple_expand_bind (fun _ => Awaiting true remote shown)
    · apply idle_awaiting
      exact ⟨agwpe_idle trivial (fun _ _ => id) (fun _ => id), fun _ => trivial⟩
    intro now
    split
    · exact triple_done (stable_alone _) fun _ awaiting => ⟨awaiting.1, awaiting.2.2⟩
    · exact readFrame_awaiting
  · intro result
    apply triple_done (stable_alone _)
    intro now read
    cases result with
    | error err => exact read
    | ok frame =>
      simp only [OrGivenUp, outcome] at read
      unfold linkStep
      dsimp only
      split
      · rename_i confirms
        rw [if_pos confirms] at read
        exact read
      · rename_i confirms
        rw [if_neg confirms] at read
        split
        · exact ⟨read.1, read.2.2⟩
        · exact read

/-- A link is opened again only by a confirmation behind the request. -/
theorem openAx25Link_awaiting :
    anyCourse.Triple () (fun now => Awaiting false remote shown now ∧ Targeted remote now)
      (onAgwpe Agwpe.openAx25Link.run) (OrGivenUp remote shown fun _ now => Relinked remote now.history) := by
  have connected : anyCourse.Triple ()
      (fun now => Awaiting false remote shown now ∧ Targeted remote now)
      (onAgwpe (requireConnected TransportError.notConnected).run)
      (OrGivenUp remote shown fun _ now => Awaiting false remote shown now ∧ Targeted remote now) := by
    apply ask_part
    intro now answer later awaiting moves
    have staying : (LinkOp.agwpe .isConnected).staying := trivial
    have kept := idle_step isConnected_idle awaiting.1 moves
    cases answer with
    | true => exact ⟨kept, (staying_target staying moves.occurs.1).trans awaiting.2⟩
    | false => exact ⟨kept.1, kept.2.2⟩
  have target : anyCourse.Triple ()
      (fun now => Awaiting false remote shown now ∧ Targeted remote now)
      (onAgwpe (ExceptT.lift (Agwpe.perform .target) : AgwpeAttempt TransportError _).run)
      (OrGivenUp remote shown fun target now =>
        Awaiting false remote shown now ∧ target.remoteCallsign = remote) := by
    apply ask_part
    intro now target later awaiting moves
    have idle : (LinkOp.agwpe .target).idle false := agwpe_idle trivial (fun _ _ => id) fun _ => id
    have kept := idle_step idle awaiting.1 moves
    have answered : target = now.world.agwpe.target := target_answered moves.occurs.1
    exact ⟨kept, (congrArg AgwpeTarget.remoteCallsign answered).trans awaiting.2⟩
  apply agwpe_attempt _ connected
  intro _
  apply agwpe_attempt _ target
  intro target
  apply agwpe_attempt fun _ => Awaiting true remote shown
  · intro now holds
    obtain ⟨awaiting, callTo⟩ := holds
    apply (triple_expand_bind _ (sendFrameInternal_awaiting rfl callTo) _) now awaiting
    intro result
    apply triple_done (stable_alone _)
    intro later sent
    cases result with
    | ok value => exact sent
    | error err => exact sent
  · intro _
    apply triple_expand_bind (fun _ => Awaiting true remote shown)
    · apply idle_awaiting
      exact ⟨agwpe_idle trivial (fun _ _ => id) (fun _ => id), fun _ => trivial⟩
    · intro now
      exact triple_loop (fun _ => Awaiting true remote shown) (fun _ => stable_alone _)
        (fun _ => stable_alone _) (fun _ => linkRound_awaiting _) ()

end Agwpe

section Vara

/-! Over a VARA modem, the link is asked for by a command, and confirmed by a line. -/

variable {remote : Text} {shown : ConnectionState} {requested : Bool} {α β : Type}

/-- The part that comes next. -/
theorem vara_attempt {first : VaraAttempt α} {after : α → VaraAttempt β}
    {pre : LinkMoment → Prop} {post : β → LinkMoment → Prop} (middle : α → LinkMoment → Prop)
    (one : anyCourse.Triple () pre (onVara first.run) (OrGivenUp remote shown middle))
    (two : ∀ value, anyCourse.Triple () (middle value) (onVara (after value).run)
      (OrGivenUp remote shown post)) :
    anyCourse.Triple () pre (onVara (first >>= after).run) (OrGivenUp remote shown post) :=
  triple_expand_attempt middle (fun _ => stable_alone _) one two

/-- Operations of the transport that never concern the link. -/
def unlinking : VaraOp → Prop
  | .write .cmd _ => False
  | .takeLine => False
  | _ => True

/-- Any other operation of this modem does nothing that counts. -/
theorem unlinking_idle {op : VaraOp} (other : unlinking op) : (LinkOp.vara op).idle requested := by
  have linkless : (LinkOp.vara op).linkless := by
    intro answer remote requests
    cases op with
    | write port bytes =>
      cases port with
      | cmd => exact other
      | data => exact requests
    | _ => exact requests
  have unconfirming : (LinkOp.vara op).unconfirming := by
    intro answer confirms
    cases op with
    | takeLine => exact other
    | _ => exact confirms
  exact ⟨trivial, linkless, fun _ => unconfirming⟩

/-- A command that asks for no link. -/
theorem write_idle {bytes : Bytes} (other : ∀ (localCall remote : Text),
      bytes ≠ Utf8.encode ("CONNECT ".toList ++ localCall ++ " ".toList ++ remote)) :
    (LinkOp.vara (.write .cmd bytes)).idle requested := by
  constructor
  · trivial
  · constructor
    · intro answer remote requests
      cases answer with
      | ok written =>
        obtain ⟨localCall, same⟩ := requests
        exact other localCall remote same
      | error message => exact requests
    · exact fun _ _ => id

/-- The line confirms the link. -/
def Confirms (line : Text) : Prop :=
  ∃ localCall remote, parseLine line = .connected localCall remote

/-- Before the link is requested, no line confirms it. -/
theorem takeLine_idle : (LinkOp.vara .takeLine).idle false :=
  ⟨trivial, fun _ _ => id, fun asked => absurd asked (by simp)⟩

/-- What a line that has been read says about the link. -/
def LineRead (remote : Text) (shown : ConnectionState) (line : Text) (now : LinkMoment) : Prop :=
  (Confirms line ∧ Relinked remote now.history) ∨ (¬ Confirms line ∧ Awaiting true remote shown now)

/-- A line that is taken is one that was read while the link was awaited. -/
theorem takeLine_awaiting :
    anyCourse.Triple () (Awaiting true remote shown) (Program.ask (.vara .takeLine))
      fun (taken : Option Text) now => match taken with
        | some line => LineRead remote shown line now
        | none => Awaiting true remote shown now := by
  apply triple_ask (stable_alone _) (fun _ => stable_alone _)
  intro now answer later awaiting moves
  have steady : (LinkOp.vara .takeLine).steady := trivial
  have requested : Requested remote now.history := awaiting.2.1.mpr rfl
  constructor
  · trivial
  · cases answer with
    | none => exact requested_step moves steady awaiting (fun confirmed => confirmed.1) (Or.inr requested)
    | some line =>
      by_cases confirms : Confirms line
      · apply Or.inl
        rw [moves.occurs.2, relinked_cons_iff]
        exact ⟨confirms, Or.inr ⟨confirms, requested⟩⟩
      · exact Or.inr ⟨confirms, requested_step moves steady awaiting
          (fun confirmed => confirms confirmed.1) (Or.inr requested)⟩

/-- Reading more bytes leaves the link as it is, and finds no line. -/
theorem readMore_awaiting (deadline : Nat) :
    anyCourse.Triple () (Awaiting requested remote shown) (onVara (readMore deadline))
      (Sum.elim (fun _ => Awaiting requested remote shown)
        (OrGivenUp remote shown fun _ _ => False)) := by
  have asking : ∀ op : VaraOp, unlinking op → anyCourse.Triple ()
      (Awaiting requested remote shown) (Program.ask (.vara op))
      fun _ => Awaiting requested remote shown :=
    fun op other => idle_awaiting ⟨unlinking_idle other, fun _ => trivial⟩
  have failing : ∀ err : TransportError, anyCourse.Triple () (Awaiting requested remote shown)
      (onVara (.done (.inr (.error err) : Unit ⊕ Except TransportError Text)))
      (Sum.elim (fun _ => Awaiting requested remote shown)
        (OrGivenUp remote shown fun _ _ => False)) := by
    intro err
    exact triple_done (stable_alone _) fun _ awaiting => ⟨awaiting.1, awaiting.2.2⟩
  apply triple_expand_bind _ (asking .clock trivial)
  intro now
  split
  · exact failing _
  · apply triple_expand_bind _ (asking (.isOpen .cmd) trivial)
    intro connected
    split
    · apply triple_expand_bind _ (asking .readCmd trivial)
      intro answer
      cases answer with
      | bytes batch => exact triple_done (stable_alone _) fun _ => id
      | closed => exact failing _
      | failed message => exact failing _
      | silent => exact failing _
    · exact failing _

/-- A line that is read is one that was read while the link was awaited. -/
theorem readCmdLine_awaiting (deadline : Nat) :
    anyCourse.Triple () (Awaiting true remote shown) (onVara (readCmdLine deadline))
      (OrGivenUp remote shown (LineRead remote shown)) := by
  apply triple_loop (fun _ => Awaiting true remote shown) (fun _ => stable_alone _)
    (fun _ => stable_alone _)
  intro _
  apply triple_expand_bind _ takeLine_awaiting
  intro taken
  cases taken with
  | some line => exact triple_done (stable_alone _) fun _ => id
  | none =>
    apply (readMore_awaiting deadline).consequence (fun _ => id)
    intro result now read
    match result with
    | .inl () => exact read
    | .inr (.ok line) => exact absurd read id
    | .inr (.error err) => exact read

/-- The link is up as soon as the modem says so. -/
theorem connectRound_awaiting (deadline : Nat) :
    anyCourse.Triple () (Awaiting true remote shown) (onVara (connectRound deadline))
      (Sum.elim (fun _ => Awaiting true remote shown)
        (OrGivenUp remote shown fun _ now => Relinked remote now.history)) := by
  apply triple_expand_bind _ (readCmdLine_awaiting deadline)
  intro result
  cases result with
  | error err => exact triple_done (stable_alone _) fun _ => id
  | ok line =>
    apply triple_done (stable_alone _)
    intro now read
    rcases read with ⟨⟨localCall, remote, confirms⟩, relinked⟩ | ⟨other, awaiting⟩
    · rw [confirms]
      exact relinked
    · cases response : parseLine line with
      | connected localCall remote => exact absurd ⟨localCall, remote, response⟩ other
      | pending => exact awaiting
      | unknown text => exact awaiting
      | _ => exact ⟨awaiting.1, awaiting.2.2⟩

/-- Before the link is requested, anything but a command is idle. -/
theorem commandless_idle {op : VaraOp} (commandless : commandless op) :
    (LinkOp.vara op).idle false := by
  cases op with
  | takeLine => exact takeLine_idle
  | write port bytes =>
    cases port with
    | cmd => exact absurd rfl (commandless bytes)
    | data => exact unlinking_idle trivial
  | _ => exact unlinking_idle trivial

/-- Waiting for an acknowledgement does nothing that counts. -/
theorem awaitOk_idle : (onVara awaitOk.run).Only (LinkOp.idle false) := by
  have quiet : awaitOk.run.Only commandless := by
    apply only_attempt _ (only_lift _ (only_ask _ (by simp [commandless])))
    intro now
    apply only_attempt _ (readCmdLine_commandless _)
    exact fun _ => trivial
  apply only_expand _ quiet
  exact fun op commandless => ⟨commandless_idle commandless, fun _ => trivial⟩

/-- The command in front of the request is another one. -/
theorem mycall_other (callsign localCall remote : Text) : Utf8.encode ("MYCALL ".toList ++ callsign) ≠
    Utf8.encode ("CONNECT ".toList ++ localCall ++ " ".toList ++ remote) := by
  intro same
  have heads := congrArg List.head? same
  exact absurd (show some (77 : UInt8) = some 67 from heads) (by decide)

/-- A line of the modem is not a carriage return. -/
theorem return_other (localCall remote : Text) :
    ascii "\r" ≠ Utf8.encode ("CONNECT ".toList ++ localCall ++ " ".toList ++ remote) := by
  intro same
  have heads := congrArg List.head? same
  exact absurd (show some (13 : UInt8) = some 67 from heads) (by decide)

/-- Telling the modem the callsign asks for no link. -/
theorem sendMycall_idle (callsign : Text) :
    (onVara (sendCmd ("MYCALL ".toList ++ callsign)).run).Only (LinkOp.idle false) := by
  have opened : (requireOpen .cmd).run.Only fun op => (LinkOp.vara op).idle false :=
    ⟨unlinking_idle trivial, fun _ => trivial⟩
  have written : ∀ bytes, (LinkOp.vara (.write .cmd bytes)).idle false →
      (write .cmd bytes).run.Only fun op => (LinkOp.vara op).idle false :=
    fun _ idle => ⟨idle, fun _ => trivial⟩
  have flushed : (flush .cmd).run.Only fun op => (LinkOp.vara op).idle false :=
    ⟨unlinking_idle trivial, fun _ => trivial⟩
  have quiet : (sendCmd ("MYCALL ".toList ++ callsign)).run.Only
      fun op => (LinkOp.vara op).idle false := by
    apply only_attempt _ opened
    intro _
    apply only_attempt _ (written _ (write_idle (mycall_other callsign)))
    intro _
    apply only_attempt _ (written _ (write_idle return_other))
    exact fun _ => flushed
  apply only_expand _ quiet
  exact fun op idle => ⟨idle, fun _ => trivial⟩

/-- The command asks for the link. -/
theorem sendConnect_awaiting (localCallsign : Text) :
    anyCourse.Triple () (Awaiting false remote shown)
      (onVara (sendCmd ("CONNECT ".toList ++ localCallsign ++ " ".toList ++ remote)).run)
      (OrGivenUp remote shown fun _ => Awaiting true remote shown) := by
  have opened : (onVara (requireOpen .cmd).run).Only (LinkOp.idle false) :=
    ⟨unlinking_idle trivial, fun _ => trivial⟩
  have returned : (onVara (write .cmd (ascii "\r")).run).Only (LinkOp.idle true) :=
    ⟨write_idle return_other, fun _ => trivial⟩
  have flushed : (onVara (flush .cmd).run).Only (LinkOp.idle true) :=
    ⟨unlinking_idle trivial, fun _ => trivial⟩
  apply vara_attempt _ (idle_part opened)
  intro _
  apply vara_attempt fun _ => Awaiting true remote shown
  · apply ask_part
    intro now answer later awaiting moves
    cases answer with
    | error message => exact unconfirmed_step moves trivial awaiting fun confirmed => confirmed.1
    | ok written =>
      exact requested_step moves trivial awaiting (fun confirmed => confirmed.1)
        (Or.inl ⟨localCallsign, rfl⟩)
  · intro _
    apply vara_attempt _ (idle_part returned)
    exact fun _ => idle_part flushed

/-- The session is open once the link is up. -/
theorem openSession_awaiting (config : SessionConfig) :
    anyCourse.Triple () (Awaiting false config.remoteCallsign shown)
      (onVara (Vara.openSession config).run)
      (OrGivenUp config.remoteCallsign shown fun _ now => Relinked config.remoteCallsign now.history) := by
  apply vara_attempt _ (idle_part (sendMycall_idle config.localCallsign))
  intro _
  apply vara_attempt _ (idle_part awaitOk_idle)
  intro _
  apply vara_attempt _ (sendConnect_awaiting config.localCallsign)
  intro _
  have clock : (onVara (Vara.perform .clock).run).Only (LinkOp.idle true) :=
    ⟨unlinking_idle trivial, fun _ => trivial⟩
  apply vara_attempt _ (idle_part clock)
  intro now
  exact triple_loop (fun _ => Awaiting true config.remoteCallsign shown) (fun _ => stable_alone _)
    (fun _ => stable_alone _) (fun _ => connectRound_awaiting _) ()

end Vara

section Driver

variable {shown : ConnectionState} (bandwidth : VaraBandwidth) (manager : ManagerId)

/-- How an open may end in failure: the handshake has shown an error, or the link has not
come up, and nothing has been shown since it was asked for. -/
def Failed (kind : TransportKind) (remote : Text) (earlier : ConnectionState) (now : LinkMoment) :
    Prop :=
  (Relinked remote now.history ∧ DisplaysError now) ∨ GivenUp remote (awaitingState kind earlier) now

/-- The error of a handshake is shown. -/
theorem handshakeAndReport_failed {kind : TransportKind} {remote : Text} {earlier : ConnectionState}
    (localCallsign : Text) : anyCourse.Triple () (fun now => Relinked remote now.history)
      ((handshakeAndReport manager localCallsign).run.expand (method kind bandwidth))
      (outcome (fun _ _ => True) fun _ => Failed kind remote earlier) := by
  apply triple_expand_bind _ (relinked_stays _)
  intro result
  cases result with
  | ok value =>
    apply triple_expand_bind (fun _ _ => True)
    · exact (relinked_stays _).consequence (fun _ => id) fun _ _ _ => trivial
    · exact fun _ => triple_done (stable_alone _) fun _ => id
  | error err =>
    apply triple_expand_bind fun _ => Failed kind remote earlier
    · apply triple_ask (stable_alone _) (fun _ => stable_alone _)
      intro now answer later relinked moves
      constructor
      · trivial
      · apply Or.inl
        constructor
        · rw [moves.occurs.2]
          exact relinked_cons _ relinked
        · obtain ⟨message, reported⟩ : ∃ message, ConnectionState.error message =
              (later.world.client).connectionState := by
            rw [← Option.some.inj moves.occurs.1]
            exact ⟨_, rfl⟩
          exact ⟨message, reported.symm⟩
    · exact fun _ => triple_done (stable_alone _) fun _ => id

/-- A transport call of the driver. -/
theorem callModem_part {kind : TransportKind} {remote : Text} {call : ModemCall}
    {pre : LinkMoment → Prop} {post : Unit → LinkMoment → Prop}
    (triple : anyCourse.Triple () pre (modemMethod kind bandwidth call) (OrGivenUp remote shown post)) :
    anyCourse.Triple () pre ((callModem manager call).run.expand (method kind bandwidth))
      (OrGivenUp remote shown post) := by
  apply triple_bind fun (answer : ModemAnswer) => OrGivenUp remote shown post answer.result
  · apply triple_bind _ triple
    exact fun result => triple_done (stable_alone _) fun _ => id
  · intro answer
    apply triple_done (stable_alone _)
    intro now called
    unfold mapErr
    cases result : answer.result with
    | ok value =>
      rw [result] at called
      exact called
    | error err =>
      rw [result] at called
      exact called

/-- Looking at the configuration does not concern the link. -/
theorem readConfig_idle {kind : TransportKind} :
    ((ExceptT.lift readConfig : Attempt AppConfig).run.expand (method kind bandwidth)).Only
      (LinkOp.idle false) :=
  ⟨⟨trivial, fun _ _ => id, fun _ _ => id⟩, fun _ => trivial⟩

/-- The transport over an AGWPE modem is told whom to address. -/
theorem recordTarget_awaiting (config : SessionConfig) :
    anyCourse.Triple () (Awaiting false config.remoteCallsign shown)
      (modemMethod .ax25 bandwidth (.openSession config))
      (outcome (fun _ now => Awaiting false config.remoteCallsign shown now ∧
        Targeted config.remoteCallsign now) fun (_ : TransportError) _ => False) := by
  have idle : (LinkOp.agwpe (.recordTarget
      ⟨config.agwpePort, config.localCallsign, config.remoteCallsign⟩)).idle false :=
    agwpe_idle trivial (fun _ _ => id) fun _ => id
  apply triple_ask_return (stable_alone _) (fun _ => stable_alone _)
  intro now answer later awaiting moves
  constructor
  · trivial
  · constructor
    · exact idle_step idle awaiting moves
    · rw [Targeted, ← Option.some.inj moves.occurs.1]
      rfl

/-- The state is shown, and the link is as it was. -/
theorem setConnecting_awaiting {kind : TransportKind} {remote : Text} :
    anyCourse.Triple () (fun now => Awaiting false remote shown now ∧ Targeted remote now)
      ((ExceptT.lift (setState .connecting) : Attempt Unit).run.expand (method kind bandwidth))
      (OrGivenUp remote .connecting fun _ now =>
        Awaiting false remote .connecting now ∧ Targeted remote now) := by
  apply ask_part
  intro now answer later awaiting moves
  obtain ⟨⟨_, asked, unlinked⟩, targeted⟩ := awaiting
  have shared : later.history =
      ⟨(), .shared (.setConnectionState .connecting), answer⟩ :: now.history := moves.occurs.2
  have after := Option.some.inj moves.occurs.1
  constructor
  · constructor
    · rw [Displays, ← after]
      rfl
    · rw [shared, requested_cons_iff, relinked_cons_iff, asked]
      exact ⟨or_iff_right id, not_or.mpr ⟨unlinked, fun confirmed => confirmed.1⟩⟩
  · rw [Targeted, ← after]
    exact targeted

/-- Over an AGWPE modem, the link is awaited while the state is `Connecting`. -/
theorem openLink_ax25 (target : Text) (portNum : UInt8) (localCallsign : Text) :
    anyCourse.Triple () (Awaiting false target shown)
      ((openLink manager target portNum localCallsign).run.expand (method .ax25 bandwidth))
      (OrGivenUp target .connecting fun _ now => Relinked target now.history) := by
  have read : anyCourse.Triple () (Awaiting false target shown)
      ((ExceptT.lift readConfig : Attempt AppConfig).run.expand (method .ax25 bandwidth))
      (OrGivenUp target .connecting fun _ => Awaiting false target shown) := by
    have idle : (LinkOp.shared .readConfig).idle false := ⟨trivial, fun _ _ => id, fun _ _ => id⟩
    apply ask_part
    intro now answer later awaiting moves
    exact idle_step idle awaiting moves
  have failed : ∀ err : AgwpeError, anyCourse.Stable ()
      (OrGivenUp target .connecting (fun (_ : Unit) now => Relinked target now.history) (.error err)) :=
    fun _ => stable_alone _
  apply triple_expand_attempt _ failed read
  intro first
  apply triple_expand_attempt _ failed read
  intro second
  apply triple_expand_attempt _ failed
  · apply callModem_part
    exact (recordTarget_awaiting bandwidth _).consequence (fun _ => id) fun result _ recorded => by
      cases result with
      | ok value => exact recorded
      | error err => exact absurd recorded id
  intro _
  apply triple_expand_attempt _ failed (setConnecting_awaiting bandwidth)
  exact fun _ => callModem_part bandwidth manager openAx25Link_awaiting

/-- A transport over a VARA modem. -/
theorem vara_modemMethod {kind : TransportKind} (other : kind ≠ .ax25) (call : ModemCall) :
    modemMethod kind bandwidth call = onVara (varaCall bandwidth call) := by
  cases kind with
  | ax25 => exact absurd rfl other
  | varaFm => rfl
  | varaHf => rfl

/-- Over a VARA modem, the link is up before anything new is shown, and nothing fails
behind it. -/
theorem openLink_vara {kind : TransportKind} (other : kind ≠ .ax25) (target : Text)
    (portNum : UInt8) (localCallsign : Text) :
    anyCourse.Triple () (Awaiting false target shown)
      ((openLink manager target portNum localCallsign).run.expand (method kind bandwidth))
      (OrGivenUp target shown fun _ now => Relinked target now.history) := by
  have failed : ∀ err : AgwpeError, anyCourse.Stable ()
      (OrGivenUp target shown (fun (_ : Unit) now => Relinked target now.history) (.error err)) :=
    fun _ => stable_alone _
  apply triple_expand_attempt _ failed (idle_part (readConfig_idle bandwidth))
  intro first
  apply triple_expand_attempt _ failed (idle_part (readConfig_idle bandwidth))
  intro second
  apply triple_expand_attempt _ failed
  · apply callModem_part
    rw [vara_modemMethod bandwidth other]
    exact openSession_awaiting
      ⟨localCallsign, target, first.bpqCommand, second.skipBpqApp, portNum⟩
  intro _
  have connecting : anyCourse.Triple () (fun now => Relinked target now.history)
      ((ExceptT.lift (setState .connecting) : Attempt Unit).run.expand (method kind bandwidth))
      (OrGivenUp target shown fun _ now => Relinked target now.history) := by
    apply ask_part
    intro now answer later relinked moves
    show Relinked target later.history
    rw [moves.occurs.2]
    exact relinked_cons _ relinked
  apply triple_expand_attempt _ failed connecting
  intro _
  apply callModem_part
  rw [vara_modemMethod bandwidth other]
  exact triple_done (stable_alone _) fun _ => id

/-- The link of either modem. -/
theorem openLink_awaiting (kind : TransportKind) (target : Text) (portNum : UInt8)
    (localCallsign : Text) :
    anyCourse.Triple () (Awaiting false target shown)
      ((openLink manager target portNum localCallsign).run.expand (method kind bandwidth))
      (OrGivenUp target (awaitingState kind shown) fun _ now => Relinked target now.history) := by
  cases kind with
  | ax25 => exact openLink_ax25 bandwidth manager target portNum localCallsign
  | varaFm => exact openLink_vara bandwidth manager (by decide) target portNum localCallsign
  | varaHf => exact openLink_vara bandwidth manager (by decide) target portNum localCallsign

/-- An open that fails shows the error of a handshake, or nothing new. -/
theorem handleOpenSession_failed (kind : TransportKind) (target : Text) (portNum : UInt8)
    (localCallsign : Text) :
    anyCourse.Triple () (Awaiting false target shown)
      ((handleOpenSession manager target portNum localCallsign).run.expand (method kind bandwidth))
      (outcome (fun _ _ => True) fun _ => Failed kind target shown) := by
  have reset : anyCourse.Triple () (Awaiting false target shown)
      ((ExceptT.lift (resetAbort manager) : Attempt Unit).run.expand (method kind bandwidth))
      (outcome (fun _ => Awaiting false target shown) fun (_ : AgwpeError) => Failed kind target shown) := by
    have idle : (LinkOp.shared (.storeAbort manager false)).idle false :=
      ⟨trivial, fun _ _ => id, fun _ _ => id⟩
    apply triple_ask_return (stable_alone _) (fun _ => stable_alone _)
    intro now answer later awaiting moves
    exact ⟨trivial, idle_step idle awaiting moves⟩
  have failed : ∀ err : AgwpeError, anyCourse.Stable ()
      (outcome (fun (_ : Unit) _ => True) (fun _ => Failed kind target shown) (.error err)) :=
    fun _ => stable_alone _
  apply triple_expand_attempt _ failed reset
  intro _
  apply triple_expand_attempt (fun _ now => Relinked target now.history) failed
  · apply (openLink_awaiting bandwidth manager kind target portNum localCallsign).consequence
      fun _ => id
    intro result now opened
    cases result with
    | ok value => exact opened
    | error err => exact Or.inr opened
  · exact fun _ => handshakeAndReport_failed bandwidth manager localCallsign

end Driver

section Opens

/-- Opening a session with the transport of this kind. -/
def openMethod (kind : TransportKind) (bandwidth : VaraBandwidth) (manager : ManagerId)
    (target : Text) (portNum : UInt8) (localCallsign : Text) : LinkRoutine (Except AgwpeError Unit) :=
  (handleOpenSession manager target portNum localCallsign).run.expand (method kind bandwidth)

/-- An open that fails leaves an error on display if and only if the link had come up, or it
was asked for over a VARA modem while an error was on display already.

Once the link is up, a failure sets the state to an error. Before, the state is the one that
asking for a link leaves: none of an error over AX.25, and the old one over VARA. -/
theorem failed_open_shows_error_iff (kind : TransportKind) (bandwidth : VaraBandwidth)
    (manager : ManagerId) (target : Text) (portNum : UInt8) (localCallsign : Text)
    {world : LinkWorld} {now : LinkMoment} {left : LinkRoutine (Except AgwpeError Unit)}
    (leads : Leads linkExec anyLink (openMethod kind bandwidth manager target portNum localCallsign)
      ⟨world, []⟩ now left) {err : AgwpeError} (ends : left.Ends (.error err)) :
    DisplaysError now ↔
      Relinked target now.history ∨ (kind ≠ .ax25 ∧ DisplaysError ⟨world, []⟩) := by
  have awaiting : Awaiting false target world.client.connectionState ⟨world, []⟩ := by
    constructor
    · rfl
    · simp [Requested, Relinked]
  have failed : Failed kind target world.client.connectionState now :=
    (alone (S := anyCourse) leads trivial
      (handleOpenSession_failed bandwidth manager kind target portNum localCallsign _ awaiting)).2.ends ends
  rcases failed with ⟨relinked, shows⟩ | ⟨shows, unlinked⟩
  · exact iff_of_true shows (Or.inl relinked)
  · rw [or_iff_right unlinked]
    by_cases ax25 : kind = .ax25
    · subst ax25
      apply iff_of_false
      · rintro ⟨message, error⟩
        exact absurd (shows.symm.trans error) (by simp [awaitingState])
      · exact fun other => other.1 rfl
    · have same : now.world.client.connectionState = world.client.connectionState := by
        cases kind with
        | ax25 => exact absurd rfl ax25
        | varaFm => exact shows
        | varaHf => exact shows
      rw [and_iff_right ax25]
      simp only [DisplaysError, Displays, same]

/-- The modem is connected, and the operator is told so. -/
def readyModem (shown : ConnectionState) : LinkWorld :=
  ⟨{ World.initial with connectionState := shown }, ⟨true, true, ⟨0, "W1TEST".toList, []⟩⟩, .new 0⟩

/-- The stations of the runs below. -/
def openedTarget : AgwpeTarget := ⟨1, "W1TEST".toList, "N0CALL".toList⟩

/-- The station is asked for a link, and this frame comes back. -/
def askEvents (answer : FrameType) : List (Sigma LinkAnswer) :=
  [⟨.shared (.storeAbort 0 false), ()⟩, ⟨.shared .readConfig, ⟨"BPQ".toList, true⟩⟩,
    ⟨.shared .readConfig, ⟨"BPQ".toList, true⟩⟩, ⟨.agwpe (.recordTarget openedTarget), ()⟩,
    ⟨.shared (.setConnectionState .connecting), ()⟩, ⟨.agwpe .isConnected, true⟩,
    ⟨.agwpe .target, openedTarget⟩, ⟨.agwpe .isConnected, true⟩,
    ⟨.agwpe (.writeFrame (connectFrame openedTarget)), .ok ()⟩, ⟨.agwpe .flush, .ok ()⟩,
    ⟨.agwpe .clock, (0 : Nat)⟩, ⟨.agwpe .clock, (0 : Nat)⟩,
    ⟨.agwpe .readFrame, .ok (.new 1 answer "N0CALL".toList "W1TEST".toList [])⟩]

/-- What is shown and returned if nothing comes over the link. -/
def handshakeTimeout : Text := "BPQ handshake failed: Timeout".toList

/-- Nothing comes over the link, and the handshake is over. -/
def silentEvents : List (Sigma LinkAnswer) :=
  [⟨.shared .readConfig, ⟨"BPQ".toList, true⟩⟩, ⟨.agwpe .clock, (0 : Nat)⟩,
    ⟨.agwpe .clock, (0 : Nat)⟩, ⟨.agwpe .readFrame, .error .timeout⟩,
    ⟨.shared (.setConnectionState (.error handshakeTimeout)), ()⟩]

/-- A session is opened over the modem for AX.25. -/
def sampleOpen : LinkRoutine (Except AgwpeError Unit) :=
  openMethod .ax25 .vWide 0 "N0CALL".toList 1 "W1TEST".toList

/-- The state shown behind these events of an open, and what it returns. -/
def openedTo (shown : ConnectionState) (events : List (Sigma LinkAnswer)) :
    Option (ConnectionState × Except AgwpeError Unit) :=
  match afterEvents sampleOpen (readyModem shown) events with
  | none => none
  | some (now, left) =>
    (left.expose 3).value?.map fun result => (now.world.client.connectionState, result)

/-- A run that opens with this result shows this state. -/
theorem openedTo_run {shown state : ConnectionState} {events : List (Sigma LinkAnswer)}
    {result : Except AgwpeError Unit} (opened : openedTo shown events = some (state, result)) :
    ∃ now left, Leads linkExec anyLink sampleOpen ⟨readyModem shown, []⟩ now left ∧
      left.Ends result ∧ Displays state now := by
  unfold openedTo at opened
  split at opened
  · exact absurd opened (by simp)
  · rename_i now left followed
    obtain ⟨value, ended, pair⟩ := Option.map_eq_some_iff.mp opened
    obtain ⟨rfl, rfl⟩ := Prod.mk.inj pair
    exact ⟨now, left, (follow_leads 3 _ (fun _ _ => trivial) followed).1,
      ends_of_expose 3 left _ ended, rfl⟩

/-- The link comes up, and the handshake fails. -/
theorem failed_handshake_shows_error : ∃ now left err,
    Leads linkExec anyLink sampleOpen ⟨readyModem .disconnected, []⟩ now left ∧
      left.Ends (.error err) ∧ DisplaysError now ∧ Relinked "N0CALL".toList now.history := by
  have opened : openedTo .disconnected (askEvents .connected ++ silentEvents) =
      some (.error handshakeTimeout, .error (.connectionFailed handshakeTimeout)) := by decide
  obtain ⟨now, left, leads, ends, displays⟩ := openedTo_run opened
  have error : DisplaysError now := ⟨_, displays⟩
  have linked := (failed_open_shows_error_iff .ax25 _ _ _ _ _ leads ends).mp error
  exact ⟨now, left, _, leads, ends, error, linked.resolve_right fun other => other.1 rfl⟩

/-- The station refuses the link, and the operator is still told that it is asked for. -/
theorem failed_open_shows_connecting : ¬ ∀ (kind : TransportKind) (bandwidth : VaraBandwidth)
    (manager : ManagerId) (target : Text) (portNum : UInt8) (localCallsign : Text)
    (world : LinkWorld) (now : LinkMoment) (left : LinkRoutine (Except AgwpeError Unit)) (err : AgwpeError),
    Leads linkExec anyLink (openMethod kind bandwidth manager target portNum localCallsign)
      ⟨world, []⟩ now left → left.Ends (.error err) → DisplaysError now := by
  intro every
  have opened : openedTo .connected (askEvents .connectionRejected) =
      some (.connecting, .error (transportErrToAgwpe
        (.sessionRejected "connection rejected by peer: ".toList))) := by decide
  obtain ⟨now, left, leads, ends, displays⟩ := openedTo_run opened
  obtain ⟨message, error⟩ := every _ _ _ _ _ _ _ _ _ _ leads ends
  exact absurd (displays.symm.trans error) (by simp)

end Opens

end PacketBrowser.Client
