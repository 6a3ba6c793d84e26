import PacketBrowser.Agwpe.Confirmations
import PacketBrowser.Client.Failures
import PacketBrowser.Foundation.Guided
import PacketBrowser.Vara.Opening

/-!
# Whom a connection calls

The connect handler looks at a target up to its first hyphen, and hands on the whole. Over
an AGWPE modem it goes into a field of nine bytes, over a VARA modem onto a line of words.
So the station that is called is the one that was accepted exactly if the target fits into
the field, and neither callsign has white space in it.
-/

namespace PacketBrowser.Client

open Protocol Foundation Program Setting Agwpe Vara

section Handing

/-! The target of a request is the one that the transport is given. -/

/-- Sessions are only asked for with this target. -/
def orders (target : Text) : Op → Prop
  | .submit _ _ (.openSession called _) => called = target
  | _ => True

/-- Sessions are only opened between these two stations. -/
def opens (localCallsign target : Text) : Op → Prop
  | .modem _ (.openSession config) =>
    config.localCallsign = localCallsign ∧ config.remoteCallsign = target
  | _ => True

variable {localCallsign target : Text}

/-- A call orders the target if its command does. -/
theorem call_orders {manager : ManagerId} {command : Command}
    (ordered : ∀ ticket, orders target (.submit manager ticket command)) :
    (call manager command).Only (orders target) := by
  apply only_bind _ (only_ask _ trivial)
  intro ticket
  apply only_bind _ (only_ask _ (ordered ticket))
  intro queued
  split
  · exact only_bind _ (only_ask _ trivial) fun _ => trivial
  · trivial

/-- Opening a session orders its target. -/
theorem openSession_orders (manager : ManagerId) (target : Text) (portNum : UInt8) :
    (openSession manager target portNum).Only (orders target) := call_orders fun _ => rfl

/-- Connecting the modem orders no other target. -/
theorem connectModem_orders (manager : ManagerId) (config : TransportConfig) :
    (connectModem manager config).Only (orders target) := call_orders fun _ => trivial

/-- A connect request orders its target. -/
theorem openThrough_orders (request : ConnectRequest) (manager : ManagerId) :
    (openThrough request manager).Only (orders request.targetCallsign) := by
  apply only_bind _ (openSession_orders manager _ _)
  intro result
  cases result with
  | ok value => exact only_bind _ (only_ask _ trivial) fun _ => trivial
  | error err => trivial

/-- Connecting by VARA orders its target. -/
theorem connectVara_orders (request : ConnectRequest) (kind : TransportKind) :
    (connectVara request kind).Only (orders request.targetCallsign) := by
  apply only_bind _ (only_ask _ trivial)
  intro localCallsign
  apply only_bind _ (only_ask _ trivial)
  intro manager
  apply only_bind _ (connectModem_orders manager _)
  intro connected
  cases connected with
  | error err => trivial
  | ok value =>
    apply only_bind _ (only_ask _ trivial)
    exact fun _ => openThrough_orders request manager

/-- Whatever transport a request names, its target is asked for and no other. -/
theorem apiConnectHandler_orders (request : ConnectRequest) :
    (apiConnectHandler request).Only (orders request.targetCallsign) := by
  unfold apiConnectHandler
  split
  · apply only_bind
    · unfold resolveTransport
      split
      · trivial
      · exact only_bind _ (only_ask _ trivial) fun _ => trivial
    · intro resolved
      cases resolved with
      | error message => trivial
      | ok kind =>
        cases kind with
        | varaFm => exact connectVara_orders request .varaFm
        | varaHf => exact connectVara_orders request .varaHf
        | ax25 =>
          apply only_bind _ (only_ask _ trivial)
          exact fun manager => openThrough_orders request manager
  · trivial

/-- A call of the modem opens the target if it is permitted to. -/
theorem callModem_opens {manager : ManagerId} {call : ModemCall}
    (permitted : opens localCallsign target (.modem manager call)) :
    (callModem manager call).run.Only (opens localCallsign target) :=
  (callModem_only manager call).mono (by rintro op rfl; exact permitted)

/-- Opening a session opens its target. -/
theorem callOpenSession_opens (manager : ManagerId) (config : SessionConfig) :
    (callModem manager (.openSession config)).run.Only
      (opens config.localCallsign config.remoteCallsign) := callModem_opens ⟨rfl, rfl⟩

/-- Putting a state on display opens nothing. -/
theorem setState_opens (state : ConnectionState) :
    (setState state).Only (opens localCallsign target) :=
  (setState_only state).mono (by rintro op rfl; trivial)

/-- The handshake opens nothing. -/
theorem performBpqHandshake_opens (manager : ManagerId) (callsign : Text) :
    (performBpqHandshake manager callsign).run.Only (opens localCallsign target) := by
  apply only_attempt _ ((receiveDisclaimer_talks manager callsign).mono _)
  · intro receivedText
    apply only_attempt
    · apply only_attempt _ (only_lift _ (only_ask _ trivial))
      intro consent
      apply only_attempt
      · apply only_bind _ (only_ask _ trivial)
        intro waited
        split
        · trivial
        · trivial
        · exact only_bind _ (only_ask _ trivial) fun _ => trivial
      · intro accepted
        cases accepted <;> trivial
    · intro agreed
      exact (sendBytes_only manager _ _).mono (by rintro op rfl; trivial)
  · intro op talk
    cases op with
    | modem => exact talk.elim
    | _ => trivial

/-- The manager opens the session that was asked for, with the callsign it remembers. -/
theorem handleOpenSession_opens (manager : ManagerId) (target : Text) (portNum : UInt8)
    (localCallsign : Text) : (handleOpenSession manager target portNum localCallsign).run.Only
      (opens localCallsign target) := by
  apply only_attempt _ (only_lift _ (only_ask _ trivial))
  intro _
  apply only_attempt
  · apply only_attempt _ (only_lift _ (only_ask _ trivial))
    intro first
    apply only_attempt _ (only_lift _ (only_ask _ trivial))
    intro second
    apply only_attempt _ (callOpenSession_opens manager
      ⟨localCallsign, target, first.bpqCommand, second.skipBpqApp, portNum⟩)
    intro _
    apply only_attempt _ (only_lift _ (setState_opens _))
    exact fun _ => callModem_opens trivial
  · intro _
    apply only_bind _ (performBpqHandshake_opens manager localCallsign)
    intro result
    cases result with
    | ok value => exact only_bind _ (setState_opens _) fun _ => trivial
    | error err => exact only_bind _ (setState_opens _) fun _ => trivial

end Handing

section Fields

/-! What stands in the fields of a request for a link. -/

/-- The part of a callsign that goes into its field is a text. -/
def Legible (callsign : Text) : Prop :=
  (Utf8.decode (((Utf8.encode callsign).take 9).takeWhile (· != 0))).isSome = true

/-- A callsign is read from its field exactly if it is legible. -/
theorem extract_legible (callsign : Text) :
    (∃ read, AgwpeFrame.extractCallsign (callsignField callsign) = .ok read) ↔
      Legible callsign := by
  unfold AgwpeFrame.extractCallsign Legible
  rw [field_visible]
  cases Utf8.decode (((Utf8.encode callsign).take 9).takeWhile (· != 0)) with
  | none => simp
  | some read => simp

/-- The request for a link is read as what stands in its fields. -/
theorem decode_connectFrame (target : AgwpeTarget) :
    AgwpeFrame.decode (connectFrame target).encode = do
      let callFrom ← AgwpeFrame.extractCallsign (callsignField target.localCallsign)
      let callTo ← AgwpeFrame.extractCallsign (callsignField target.remoteCallsign)
      return ⟨target.agwpePort, .connect, 0, callFrom, callTo, 0, 0, []⟩ := by
  obtain ⟨port, kind, callFrom, callTo, dataLen, userData, data⟩ :=
    Agwpe.encode_fields (connectFrame target) []
  rw [List.append_nil] at port kind callFrom callTo dataLen userData data
  have length := length_encode (connectFrame target)
  have announced : AgwpeFrame.announced (connectFrame target).encode = 0 := by
    unfold AgwpeFrame.announced
    rw [dataLen, fromLeBytes_toLeBytes]
    rfl
  unfold AgwpeFrame.decode
  rw [if_neg (by rw [length]; omega), kind, callFrom, callTo, tryFrom_code]
  show (AgwpeFrame.extractCallsign (callsignField target.localCallsign) >>= fun callFrom =>
    AgwpeFrame.extractCallsign (callsignField target.remoteCallsign) >>= fun callTo =>
      AgwpeFrame.withPayload (connectFrame target).encode .connect callFrom callTo) = _
  have payload : ∀ callFrom callTo,
      AgwpeFrame.withPayload (connectFrame target).encode .connect callFrom callTo =
        .ok ⟨target.agwpePort, .connect, 0, callFrom, callTo, 0, 0, []⟩ := by
    intro callFrom callTo
    unfold AgwpeFrame.withPayload
    rw [announced, if_neg (by decide), if_neg (by rw [length]; omega), port, userData, data,
      fromLeBytes_toLeBytes]
    rfl
  simp only [payload]
  rfl

/-- The frame names the station exactly if both fields can be read, and the target fits. -/
theorem connectFrame_names_iff (target : AgwpeTarget) :
    (∃ read, AgwpeFrame.decode (connectFrame target).encode = .ok read ∧
      read.callTo = target.remoteCallsign) ↔
    Legible target.localCallsign ∧ (Utf8.encode target.remoteCallsign).length ≤ 9 ∧
      '\x00' ∉ target.remoteCallsign := by
  rw [decode_connectFrame, ← extract_legible, ← extract_callsignField_iff]
  constructor
  · rintro ⟨read, decoded, named⟩
    cases callFrom : AgwpeFrame.extractCallsign (callsignField target.localCallsign) with
    | error err =>
      rw [callFrom] at decoded
      cases decoded
    | ok station =>
      cases callTo : AgwpeFrame.extractCallsign (callsignField target.remoteCallsign) with
      | error err =>
        rw [callFrom, callTo] at decoded
        cases decoded
      | ok remote =>
        rw [callFrom, callTo] at decoded
        obtain rfl := Except.ok.inj decoded
        exact ⟨⟨station, rfl⟩, congrArg Except.ok named⟩
  · rintro ⟨⟨station, callFrom⟩, callTo⟩
    rw [callFrom, callTo]
    exact ⟨_, rfl, rfl⟩

end Fields

section Commands

/-- One line of words. It ends where the transport itself would see its end. -/
def CommandLine (bytes : Bytes) (words : List Text) : Prop :=
  ∃ line, bytes = Utf8.encode line ++ ascii "\r" ∧ (∀ c ∈ line, terminator c = false) ∧
    Text.words line = words

/-- A text that can be a word of a line. -/
def Word (text : Text) : Prop := text ≠ [] ∧ ∀ c ∈ text, Text.whitespace c = false

/-- The line that tells the modem our callsign. -/
def mycallCommand (localCallsign : Text) : Bytes :=
  Utf8.encode ("MYCALL ".toList ++ localCallsign) ++ ascii "\r"

/-- The line that has the modem call a station. -/
def connectCommand (localCallsign target : Text) : Bytes :=
  Utf8.encode ("CONNECT ".toList ++ localCallsign ++ " ".toList ++ target) ++ ascii "\r"

/-- What ends a line is white space. -/
theorem whitespace_terminator {c : Char} (ends : terminator c = true) :
    Text.whitespace c = true := by
  unfold terminator at ends
  rcases Bool.or_eq_true_iff.mp ends with same | same
  · rw [beq_iff_eq.mp same]
    decide
  · rw [beq_iff_eq.mp same]
    decide

/-- The line has the two callsigns as its words exactly if each is one. -/
theorem connectCommand_iff (localCallsign target : Text) :
    CommandLine (connectCommand localCallsign target)
      ["CONNECT".toList, localCallsign, target] ↔ Word localCallsign ∧ Word target := by
  constructor
  · rintro ⟨line, same, _, words⟩
    have station : localCallsign ∈ Text.words line := by simp [words]
    have remote : target ∈ Text.words line := by simp [words]
    exact ⟨Text.of_mem_words station, Text.of_mem_words remote⟩
  · rintro ⟨⟨some, visible⟩, ⟨some', visible'⟩⟩
    refine ⟨_, rfl, ?_, ?_⟩
    · intro c member
      apply Bool.eq_false_iff.mpr
      intro ends
      have blank := whitespace_terminator ends
      simp only [List.append_assoc, List.mem_append] at member
      rcases member with first | station | space | remote
      · have plain : "CONNECT ".toList.all (fun c => !terminator c) = true := by decide
        simpa [ends] using List.all_eq_true.mp plain c first
      · exact absurd blank (by simp [visible c station])
      · rw [List.mem_singleton.mp space] at ends
        exact absurd ends (by decide)
      · exact absurd blank (by simp [visible' c remote])
    · have split : "CONNECT ".toList ++ localCallsign ++ " ".toList ++ target =
          "CONNECT".toList ++ ' ' :: (localCallsign ++ ' ' :: target) := by simp
      have plain : ∀ c ∈ "CONNECT".toList, Text.whitespace c = false := by
        have all : "CONNECT".toList.all (fun c => !Text.whitespace c) = true := by decide
        intro c member
        simpa using List.all_eq_true.mp all c member
      rw [split, Text.words_cons (by decide) plain rfl, Text.words_cons some visible rfl,
        Text.words_single some' visible']

end Commands

section Frames

/-! Over an AGWPE modem the only frame of a call is the request for the link. -/

/-- The transport is told the target, and asked for the link. -/
def linkRequest (config : SessionConfig) : AgwpeAttempt TransportError Unit := do
  Agwpe.openSession config
  Agwpe.openAx25Link

/-- The target that a session has. -/
def sessionTarget (config : SessionConfig) : AgwpeTarget :=
  ⟨config.agwpePort, config.localCallsign, config.remoteCallsign⟩

/-- The frame that is written, if one is. -/
def frameWritten (event : AgwpeEvent) : Option AgwpeFrame :=
  match event.op with
  | .writeFrame frame => some frame
  | _ => none

/-- The frames that were written, newest first. -/
def framesWritten (history : List AgwpeEvent) : List AgwpeFrame :=
  history.filterMap frameWritten

/-- Every answer that the world gives is met with. -/
def anyCall (_ : AgwpeMoment) (_ : AgwpeEvent) : Prop := True

variable {target : AgwpeTarget}

/-- The transport is told its target. -/
def tellsTo (target : AgwpeTarget) : (op : AgwpeOp) → AgwpeAnswer op → Prop
  | .target, answer => answer = target
  | _, _ => True

/-- Nothing is written but the request for the link, and the target stays. -/
def requestsOnly (target : AgwpeTarget) : AgwpeOp → Prop
  | .writeFrame frame => frame = connectFrame target
  | .recordTarget _ => False
  | .attach _ => False
  | _ => True

/-- Asking whether there is a connection requests nothing. -/
theorem requireConnected_requests {ε : Type} (notConnected : ε) :
    (requireConnected notConnected).run.Only (requestsOnly target) :=
  only_bind _ (only_ask _ trivial) fun _ => trivial

/-- The frame that is sent requests the target. -/
theorem sendConnect_requests :
    (mapTransportErr (sendFrameInternal (connectFrame target))).run.Only (requestsOnly target) := by
  apply only_bind
  · apply only_attempt _ (requireConnected_requests _)
    intro _
    apply only_attempt
    · exact only_bind _ (only_ask _ rfl) fun _ => trivial
    · intro _
      exact only_bind _ (only_ask _ trivial) fun _ => trivial
  · exact fun _ => trivial

/-- Waiting for a link requests nothing. -/
theorem awaitLink_requests : awaitLink.run.Only (requestsOnly target) := by
  apply only_bind _ (only_ask _ trivial)
  intro now
  apply only_loop
  intro _
  apply only_bind
  · apply only_bind _ (only_ask _ trivial)
    intro now
    split
    · trivial
    · exact only_ask _ trivial
  · exact fun _ => trivial

/-- Opening a link requests the target and no other. -/
theorem guided_openLink : Agwpe.openAx25Link.run.Guided (tellsTo target) (requestsOnly target)
    (Succeeds fun _ => True) := by
  apply guided_only_attempt (requireConnected_requests _)
  intro _
  apply guided_attempt (· = target)
  · apply guided_lift
    exact guided_ask trivial fun _ => id
  · rintro _ rfl
    apply guided_only_attempt sendConnect_requests
    exact fun _ => guided_only_run awaitLink_requests

/-- Every frame that was written is the request for the link. -/
def calling (target : AgwpeTarget) : Setting AgwpeWorld Unit AgwpeAnswer where
  exec := agwpeExec
  meets := anyCall
  inv now := ∀ frame ∈ framesWritten now.history, frame = connectFrame target

/-- One permitted operation, with the target recorded. -/
theorem requests_keeps (op : AgwpeOp) (permitted : requestsOnly target op) (now : AgwpeMoment)
    (answer : AgwpeAnswer op) (later : AgwpeMoment) (recorded : now.world.target = target)
    (moves : (calling target).Moves now ⟨(), op, answer⟩ later) :
    tellsTo target op answer ∧ (calling target).inv later ∧ later.world.target = target := by
  obtain ⟨⟨executed, history⟩, _, kept⟩ := moves
  obtain ⟨given, world⟩ := Option.ite_some_none_eq_some.mp executed
  refine ⟨?_, ?_, ?_⟩
  · cases op with
    | target => exact (beq_iff_eq.mp given).trans recorded
    | _ => trivial
  · intro frame member
    rw [history, framesWritten, List.filterMap_cons] at member
    cases op with
    | writeFrame written =>
      rcases List.mem_cons.mp member with rfl | before
      · exact permitted
      · exact kept frame before
    | _ => exact kept frame member
  · rw [← world]
    cases op with
    | recordTarget other => exact permitted.elim
    | attach callsign => exact permitted.elim
    | _ => exact recorded

/-- Every frame of a call is the request for the link, with the target of the session. -/
theorem linkRequest_frames {config : SessionConfig} {world : AgwpeWorld} {now : AgwpeMoment}
    {left : AgwpeRoutine (Except TransportError Unit)}
    (leads : Leads agwpeExec anyCall (linkRequest config).run ⟨world, []⟩ now left) :
    ∀ frame ∈ framesWritten now.history, frame = connectFrame (sessionTarget config) := by
  have recorded : (calling (sessionTarget config)).Triple () (fun _ => True)
      (Agwpe.openSession config).run (outcome (fun _ now => now.world.target = sessionTarget config)
        fun _ _ => True) := by
    apply triple_ask_return (stable_alone _) (fun _ => stable_alone _)
    intro now answer later _ ⟨⟨executed, history⟩, _, kept⟩
    constructor
    · intro frame member
      rw [history] at member
      exact kept frame member
    · show later.world.target = _
      rw [← Option.some.inj executed]
      rfl
  have safe : (calling (sessionTarget config)).Triple () (fun _ => True) (linkRequest config).run
      fun _ _ => True := by
    apply triple_attempt _ (fun _ => stable_alone _) recorded
    intro _
    apply (triple_guided (stable_alone _) requests_keeps guided_openLink).consequence
    · exact fun _ => id
    · exact fun _ _ _ => trivial
  exact (alone leads (by simp [calling, framesWritten]) (safe _ trivial)).1

/-- Some call writes its request. -/
theorem linkRequest_writes (config : SessionConfig) : ∃ world now left,
    Leads agwpeExec anyCall (linkRequest config).run ⟨world, []⟩ now left ∧
      connectFrame (sessionTarget config) ∈ framesWritten now.history := by
  have step : ∀ {now : AgwpeMoment} {op : AgwpeOp} {world : AgwpeWorld}
      {next : AgwpeAnswer op → AgwpeRoutine (Except TransportError Unit)} (answer : AgwpeAnswer op),
      Leads agwpeExec anyCall (linkRequest config).run ⟨world, []⟩ now (.perform op next) →
      now.world.gives op answer = true →
      Leads agwpeExec anyCall (linkRequest config).run ⟨world, []⟩
        ⟨now.world.apply op answer, ⟨(), op, answer⟩ :: now.history⟩ (next answer) :=
    fun answer leads given => .step leads (.here _ _) ⟨if_pos given, rfl⟩ trivial
  have begun : Leads agwpeExec anyCall (linkRequest config).run
      ⟨⟨true, true, sessionTarget config⟩, []⟩ _ (linkRequest config).run := .start
  have recorded := step () begun rfl
  have connected := step true recorded rfl
  have told := step (sessionTarget config) connected (beq_self_eq_true _)
  have still := step true told rfl
  have written := step (Except.ok () : Except Text Unit) still rfl
  exact ⟨_, _, _, written, List.mem_cons_self⟩

end Frames

section Lines

/-! Over a VARA modem a call is two command lines, one after the other. -/

/-- The bytes that an event brings to the command port. -/
def bytesSent (event : VaraEvent) : Bytes :=
  match event.op, event.answer with
  | .write .cmd bytes, .ok () => bytes
  | _, _ => []

/-- The bytes that were sent to the command port. -/
def cmdSent (history : List VaraEvent) : Bytes := history.reverse.flatMap bytesSent

/-- These bytes have been sent to the command port. -/
def Sent (bytes : Bytes) (now : VaraMoment) : Prop := cmdSent now.history = bytes

/-- No more than these bytes go to the command port. -/
def commanding (whole : Bytes) : Setting VaraWorld Unit VaraAnswer where
  exec := varaExec
  meets := anyRun
  inv now := cmdSent now.history <+: whole

variable {whole before behind : Bytes} {α : Type}

/-- The bytes that were sent, with the latest event. -/
theorem cmdSent_cons (event : VaraEvent) (history : List VaraEvent) :
    cmdSent (event :: history) = cmdSent history ++ bytesSent event := by
  simp [cmdSent, List.flatMap_append]

/-- Nothing goes to the command port without a command. -/
theorem mute_keeps (op : VaraOp) (mute : commandless op) (now : VaraMoment) (answer : VaraAnswer op)
    (later : VaraMoment) (sent : Sent before now)
    (moves : (commanding whole).Moves now ⟨(), op, answer⟩ later) :
    (commanding whole).inv later ∧ Sent before later := by
  have nothing : bytesSent ⟨(), op, answer⟩ = [] := by
    cases op with
    | write port bytes =>
      cases port with
      | cmd => exact absurd rfl (mute bytes)
      | data => rfl
    | _ => rfl
  have same : cmdSent later.history = cmdSent now.history := by
    rw [moves.occurs.2, cmdSent_cons, nothing, List.append_nil]
  constructor
  · show cmdSent later.history <+: whole
    rw [same]
    exact moves.inv
  · exact same.trans sent

/-- A part that sends no command, in front of the rest. -/
theorem mute_first {first : VaraAttempt α} {after : α → VaraAttempt Unit} {last : Bytes}
    (mute : first.run.Only commandless)
    (rest : ∀ value, (commanding whole).Triple () (Sent before) (after value).run
      (outcome (fun _ => Sent last) fun _ _ => True)) :
    (commanding whole).Triple () (Sent before) (first >>= after).run
      (outcome (fun _ => Sent last) fun _ _ => True) :=
  triple_attempt_only (stable_alone _) mute mute_keeps (fun _ => stable_alone _)
    (fun _ _ _ => trivial) rest

/-- Bytes that are to come next are sent, or the write fails. -/
theorem write_sends (bytes : Bytes) (next : before ++ bytes <+: whole) :
    (commanding whole).Triple () (Sent before) (write .cmd bytes).run
      (outcome (fun _ => Sent (before ++ bytes)) fun _ _ => True) := by
  apply triple_ask_return (stable_alone _) (fun _ => stable_alone _)
  intro now answer later sent moves
  have grown : cmdSent later.history =
      before ++ bytesSent ⟨(), .write .cmd bytes, answer⟩ := by
    rw [moves.occurs.2, cmdSent_cons, sent]
  cases answer with
  | error message =>
    constructor
    · show cmdSent later.history <+: whole
      rw [moves.occurs.2, cmdSent_cons]
      exact (List.append_nil _).symm ▸ moves.inv
    · trivial
  | ok value =>
    constructor
    · show cmdSent later.history <+: whole
      rw [grown]
      exact next
    · exact grown

/-- A command is sent as one line, if no write fails. -/
theorem sendCmd_sends (line : Text)
    (next : before ++ (Utf8.encode line ++ ascii "\r") <+: whole) :
    (commanding whole).Triple () (Sent before) (sendCmd line).run
      (outcome (fun _ => Sent (before ++ (Utf8.encode line ++ ascii "\r"))) fun _ _ => True) := by
  have opened : (requireOpen .cmd).run.Only commandless :=
    only_bind _ (only_ask _ (by simp [commandless])) fun _ => trivial
  have flushed : (flush .cmd).run.Only commandless :=
    only_bind _ (only_ask _ (by simp [commandless])) fun _ => trivial
  rw [← List.append_assoc] at next ⊢
  apply mute_first opened
  intro _
  apply triple_attempt _ (fun _ => stable_alone _)
    (write_sends _ ((List.prefix_append _ _).trans next))
  intro _
  apply triple_attempt _ (fun _ => stable_alone _) (write_sends _ next)
  intro _
  apply (triple_only (stable_alone _) flushed mute_keeps).consequence (fun _ => id)
  intro result now sent
  cases result with
  | ok value => exact sent
  | error err => trivial

/-- Waiting for an acknowledgement sends nothing. -/
theorem awaitOk_mute : awaitOk.run.Only commandless := by
  apply only_attempt _ (only_lift _ (only_ask _ (by simp [commandless])))
  intro now
  apply only_attempt _ (readCmdLine_commandless _)
  exact fun _ => trivial

/-- Waiting for the call to be answered sends nothing. -/
theorem connectRounds_mute (deadline : Nat) :
    (Program.loop (fun _ => connectRound deadline) ()).Only commandless := by
  apply only_loop
  intro _
  apply only_bind _ (readCmdLine_commandless _)
  intro result
  cases result <;> trivial

/-- The two lines of a call. -/
def callCommands (config : SessionConfig) : Bytes :=
  mycallCommand config.localCallsign ++ connectCommand config.localCallsign config.remoteCallsign

/-- A session that is opened has sent its two commands. -/
theorem openSession_sends (config : SessionConfig) :
    (commanding (callCommands config)).Triple () (Sent []) (Vara.openSession config).run
      (outcome (fun _ => Sent (callCommands config)) fun _ _ => True) := by
  have first : [] ++ mycallCommand config.localCallsign <+: callCommands config :=
    List.prefix_append _ _
  apply triple_attempt _ (fun _ => stable_alone _) (sendCmd_sends _ first)
  intro _
  apply mute_first awaitOk_mute
  intro _
  apply triple_attempt _ (fun _ => stable_alone _) (sendCmd_sends _ (List.prefix_refl _))
  intro _
  apply mute_first (only_lift _ (only_ask _ (by simp [commandless])))
  intro now
  apply (triple_only (stable_alone _) (connectRounds_mute _) mute_keeps).consequence (fun _ => id)
  intro result now sent
  cases result with
  | ok value => exact sent
  | error err => trivial

/-- No more than the two lines is sent, and all of them if the session comes up. -/
theorem openSession_commands {config : SessionConfig} {world : VaraWorld} {now : VaraMoment}
    {left : VaraRoutine (Except TransportError Unit)}
    (leads : Leads varaExec anyRun (Vara.openSession config).run ⟨world, []⟩ now left) :
    cmdSent now.history <+: callCommands config ∧
      (left.Ends (.ok ()) → cmdSent now.history = callCommands config) := by
  obtain ⟨kept, safe⟩ := alone leads List.nil_prefix (openSession_sends config ⟨world, []⟩ rfl)
  exact ⟨kept, fun ends => safe.ends ends⟩

/-- Some session comes up. -/
theorem openSession_up (config : SessionConfig) : ∃ world now left,
    Leads varaExec anyRun (Vara.openSession config).run ⟨world, []⟩ now left ∧
      left.Ends (.ok ()) := by
  let world : VaraWorld := ⟨true, "OK\rCONNECTED A B\r".toList, [], 0⟩
  have up : Except.ok () = sessionResult .silent world.lines := by
    have first : world.lines = "OK".toList :: linesTo "CONNECTED A B\r".toList (texts []) :=
      linesTo_taken (by decide) _
    have second : linesTo "CONNECTED A B\r".toList (texts []) =
        "CONNECTED A B".toList :: linesTo [] (texts []) := linesTo_taken (by decide) _
    have accepts : okResult .silent
        ("OK".toList :: "CONNECTED A B".toList :: linesTo [] (texts [])) = .ok () := by
      show okOutcome (parseLine "OK".toList) = _
      decide
    have connects : connectOutcome (parseLine "CONNECTED A B".toList) = .inr (.ok ()) := by
      decide
    rw [first, second, sessionResult, accepts]
    simp only [List.tail_cons, connectResult, connects]
  have opens : OpensWith config .silent world (.ok ()) := (opensWith_iff rfl _).mpr up
  obtain ⟨schedule, _, _, now, left, leads, ends⟩ := opens
  exact ⟨world, now, left, leads.mono fun _ _ _ => trivial, ends⟩

end Lines

section Targets

/-- The station that is called is this one, in every run, whatever the modem. -/
structure TargetCalled (localCallsign target : Text) : Prop where
  agwpe : ∀ config : SessionConfig, config.localCallsign = localCallsign →
    config.remoteCallsign = target → ∀ world now left,
    Leads agwpeExec anyCall (linkRequest config).run ⟨world, []⟩ now left →
    ∀ frame ∈ framesWritten now.history, frame.frameType = .connect ∧
      ∃ read, AgwpeFrame.decode frame.encode = .ok read ∧ read.callTo = target
  vara : ∀ config : SessionConfig, config.localCallsign = localCallsign →
    config.remoteCallsign = target → ∀ world now left,
    Leads varaExec anyRun (Vara.openSession config).run ⟨world, []⟩ now left →
    ∃ command, CommandLine command ["CONNECT".toList, localCallsign, target] ∧
      cmdSent now.history <+: mycallCommand localCallsign ++ command ∧
      (left.Ends (.ok ()) → cmdSent now.history = mycallCommand localCallsign ++ command)

/-- Both callsigns are words, the target fits into its field, and what the field of the
other one takes is a text. -/
structure Callable (localCallsign target : Text) : Prop where
  station : Word localCallsign
  legible : Legible localCallsign
  called : ∀ c ∈ target, Text.whitespace c = false
  solid : '\x00' ∉ target
  short : (Utf8.encode target).length ≤ 9

variable {localCallsign target : Text}

/-- A target that is called can be. -/
theorem TargetCalled.callable (calls : TargetCalled localCallsign target) :
    Callable localCallsign target := by
  let config : SessionConfig := ⟨localCallsign, target, [], true, 0⟩
  obtain ⟨world, now, left, leads, written⟩ := linkRequest_writes config
  obtain ⟨_, named⟩ := calls.agwpe config rfl rfl world now left leads _ written
  obtain ⟨legible, short, solid⟩ := (connectFrame_names_iff (sessionTarget config)).mp named
  obtain ⟨world, now, left, leads, ends⟩ := openSession_up config
  obtain ⟨command, line, _, whole⟩ := calls.vara config rfl rfl world now left leads
  have same := (whole ends).symm.trans ((openSession_commands leads).2 ends)
  obtain rfl := List.append_cancel_left same
  obtain ⟨station, called⟩ := (connectCommand_iff localCallsign target).mp line
  exact ⟨station, legible, called.2, solid, short⟩

/-- A target that can be called and is not empty is called. -/
theorem Callable.calls (callable : Callable localCallsign target) (some : target ≠ []) :
    TargetCalled localCallsign target where
  agwpe := by
    rintro config rfl rfl world now left leads frame written
    obtain rfl := linkRequest_frames leads frame written
    exact ⟨rfl, (connectFrame_names_iff (sessionTarget config)).mpr
      ⟨callable.legible, callable.short, callable.solid⟩⟩
  vara := by
    rintro config rfl rfl world now left leads
    obtain ⟨within, whole⟩ := openSession_commands leads
    exact ⟨_, (connectCommand_iff _ _).mpr ⟨callable.station, some, callable.called⟩, within, whole⟩

/-- A callsign has a digit. -/
theorem target_nonempty (accepted : validTarget target = true) : target ≠ [] := by
  rintro rfl
  exact absurd accepted (by decide)

/-- A target that is accepted is handed on as it is, and the station that is called is the
one it names exactly if it can be called.

What handlers and background tasks hand on is the target itself, by the operations they are
allowed. What a station makes of it is read off the frame and the command line. -/
theorem target_called_iff (request : ConnectRequest) (localCallsign : Text)
    (accepted : validTarget request.targetCallsign = true) :
    (apiConnectHandler request).Only (orders request.targetCallsign) ∧
    (∀ manager portNum, (handleOpenSession manager request.targetCallsign portNum
      localCallsign).run.Only (opens localCallsign request.targetCallsign)) ∧
    (TargetCalled localCallsign request.targetCallsign ↔
      Callable localCallsign request.targetCallsign) :=
  ⟨apiConnectHandler_orders request,
    fun manager portNum => handleOpenSession_opens manager _ portNum localCallsign,
    TargetCalled.callable, fun callable => callable.calls (target_nonempty accepted)⟩

/-- A request to connect to a node. -/
def callNode : ConnectRequest := ⟨"N0CALL-8".toList, 0, none⟩

/-- The condition for this node. -/
theorem callNode_called_iff : TargetCalled "W1TEST".toList callNode.targetCallsign ↔
    Callable "W1TEST".toList callNode.targetCallsign :=
  (target_called_iff callNode "W1TEST".toList (by decide)).2.2

/-- A suffix of five digits is cut off, and one with a line end is another command. -/
theorem target_miscalled :
    validTarget "N0CALL-12345".toList = true ∧
    ¬ TargetCalled "W1TEST".toList "N0CALL-12345".toList ∧
    validTarget "N0CALL-8\rDISCONNECT".toList = true ∧
    ¬ TargetCalled "W1TEST".toList "N0CALL-8\rDISCONNECT".toList := by
  refine ⟨by decide, ?_, by decide, ?_⟩
  · intro calls
    exact absurd calls.callable.short (by decide)
  · intro calls
    exact absurd (calls.callable.called '\r' (by decide)) (by decide)

end Targets

end PacketBrowser.Client
