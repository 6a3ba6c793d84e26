import PacketBrowser.Foundation.Alone
import PacketBrowser.Vara.Codec

/-!
# The transport over a VARA modem

The modem has a port for commands and one for data. What the command port will deliver is
a list of batches, one for each read; which lines come together in a batch is up to the
network. Everything else answers what it likes: the clock never goes back, a socket may
seem ready although nothing has come, and any read or write may fail.

The line buffer belongs to the transport. Three calls read lines from it.
-/

namespace PacketBrowser.Vara

open Protocol Client Foundation Program

/-- Bytes of one read of the command port. -/
def chunkSize : Nat := 512

/-- The bytes of one read that has brought some. -/
structure Batch where
  bytes : Bytes
  some : bytes ≠ []
  fits : bytes.length ≤ chunkSize
  deriving DecidableEq

/-- The two ports of the modem. -/
inductive Port where
  | cmd
  | data
  deriving DecidableEq, Repr

/-- How a read of the command port ends. Within half a second nothing may come. -/
inductive CmdRead where
  | bytes (batch : Batch)
  | closed
  | failed (message : Text)
  | silent
  deriving DecidableEq

/-- What comes first: a read of the data port is over, the command port seems ready, or a
tenth of a second is over. -/
inductive Selected where
  | data (result : Except Text Bytes)
  | cmdReady
  | slept
  deriving DecidableEq

/-- What the transport asks of its sockets, its buffer and the clock. -/
inductive VaraOp where
  | clock
  | isOpen (port : Port)
  | connect (port : Port)
  | attach (arriving : List Batch)
  | detach
  | takeLine
  | readCmd
  | select
  | write (port : Port) (bytes : Bytes)
  | flush (port : Port)
  deriving DecidableEq

/-- The type of answers of each operation. A new connection comes with what it will
deliver. -/
abbrev VaraAnswer : VaraOp → Type
  | .clock => Nat
  | .isOpen _ => Bool
  | .connect _ => Except Text (List Batch)
  | .attach _ => Unit
  | .detach => Unit
  | .takeLine => Option Text
  | .readCmd => CmdRead
  | .select => Selected
  | .write _ _ => Except Text Unit
  | .flush _ => Except Text Unit

/-- The transport and what its command port will deliver. -/
structure VaraWorld where
  connected : Bool
  cmdLineBuf : Text
  arriving : List Batch
  now : Nat
  deriving DecidableEq

/-- A new transport. -/
def VaraWorld.new (now : Nat) : VaraWorld := ⟨false, [], [], now⟩

/-- The world can give this answer. -/
def VaraWorld.gives (world : VaraWorld) : (op : VaraOp) → VaraAnswer op → Bool
  | .clock, answer => decide (world.now ≤ answer)
  | .isOpen _, answer => answer == world.connected
  | .takeLine, answer => answer == (takeLine world.cmdLineBuf).map Prod.fst
  | .readCmd, .bytes batch => world.arriving.head? == some batch
  | _, _ => true

/-- The world after an answered operation. -/
def VaraWorld.apply (world : VaraWorld) : (op : VaraOp) → VaraAnswer op → VaraWorld
  | .clock, answer => { world with now := answer }
  | .attach arriving, _ => { world with connected := true, arriving := arriving }
  | .detach, _ => { world with connected := false, cmdLineBuf := [], arriving := [] }
  | .takeLine, _ =>
    match takeLine world.cmdLineBuf with
    | some (_, rest) => { world with cmdLineBuf := rest }
    | none => world
  | .readCmd, .bytes batch => { world with
      cmdLineBuf := world.cmdLineBuf ++ Utf8.lossy batch.bytes
      arriving := world.arriving.tail }
  | _, _ => world

/-- The world after an answered operation; none where the answer is impossible. -/
def varaExec (op : VaraOp) (answer : VaraAnswer op) (world : VaraWorld) : Option VaraWorld :=
  if world.gives op answer then some (world.apply op answer) else none

/-- An operation is possible with the answers that the world can give. -/
theorem varaExec_iff {op : VaraOp} {answer : VaraAnswer op} {world after : VaraWorld} :
    varaExec op answer world = some after ↔
      world.gives op answer = true ∧ after = world.apply op answer := by
  unfold varaExec
  by_cases possible : world.gives op answer = true
  · simp only [possible, if_true, Option.some.injEq, true_and]
    exact eq_comm
  · simp [possible]

/-- Code of the transport. -/
abbrev VaraRoutine := Program VaraOp VaraAnswer

/-- Program that may fail. -/
abbrev VaraAttempt := ExceptT TransportError VaraRoutine

/-- Perform one operation. -/
def perform (op : VaraOp) : VaraAttempt (VaraAnswer op) := ExceptT.lift (ask op)

/-- An error of the operating system. -/
def ioResult {α : Type} : Except Text α → Except TransportError α
  | .ok value => .ok value
  | .error message => .error (.io message)

/-- A port that is not connected is an error. -/
def requireOpen (port : Port) : VaraAttempt Unit := ExceptT.mk do
  let connected ← ask (.isOpen port)
  return if connected then .ok () else .error .notConnected

/-- Connecting to a port. -/
def connect (port : Port) : VaraAttempt (List Batch) := ExceptT.mk do
  let answer ← ask (.connect port)
  return ioResult answer

/-- Writing to a port. All of the bytes are written, or the write has failed. -/
def write (port : Port) (bytes : Bytes) : VaraAttempt Unit := ExceptT.mk do
  let answer ← ask (.write port bytes)
  return ioResult answer

/-- Flushing a port. -/
def flush (port : Port) : VaraAttempt Unit := ExceptT.mk do
  let answer ← ask (.flush port)
  return ioResult answer

/-- A command is ended by a carriage return. -/
def sendCmd (line : Text) : VaraAttempt Unit := do
  requireOpen .cmd
  write .cmd (Utf8.encode line)
  write .cmd (ascii "\r")
  flush .cmd

/-- What a read of the command port means for the reader of lines: without a result it
goes on. -/
def readOutcome : CmdRead → Unit ⊕ Except TransportError Text
  | .bytes _ => .inl ()
  | .closed => .inr (.error .notConnected)
  | .failed message => .inr (.error (.io message))
  | .silent => .inr (.error .timeout)

/-- Nothing is in the buffer yet: one read, unless the deadline is over. -/
def readMore (deadline : Nat) : VaraRoutine (Unit ⊕ Except TransportError Text) := do
  let now ← ask .clock
  if deadline ≤ now then return .inr (.error .timeout)
  else
    let connected ← ask (.isOpen .cmd)
    if connected then
      let answer ← ask .readCmd
      return readOutcome answer
    else return .inr (.error .notConnected)

/-- A line that is in the buffer is the result. -/
def lineFound (deadline : Nat) : Option Text → VaraRoutine (Unit ⊕ Except TransportError Text)
  | some line => return .inr (.ok line)
  | none => readMore deadline

/-- One round of the reader of lines. -/
def readLineRound (deadline : Nat) : VaraRoutine (Unit ⊕ Except TransportError Text) := do
  let taken ← ask .takeLine
  lineFound deadline taken

/-- The next line, which has to come by the deadline. Lines that are in the buffer come first,
even if the deadline is over. -/
def readCmdLine (deadline : Nat) : VaraRoutine (Except TransportError Text) :=
  Program.loop (fun _ => readLineRound deadline) ()

/-- How long an answer to a command is awaited. -/
def okTimeoutSecs : Nat := 5

/-- Times are in milliseconds. -/
def seconds (count : Nat) : Nat := 1000 * count

/-- What a response to a command means. -/
def okOutcome : VaraResponse → Except TransportError Unit
  | .ok => .ok ()
  | .missing field => .error (.modemError ("MISSING ".toList ++ field))
  | other => .error (.modemError ("expected OK, got ".toList ++ other.debug))

/-- The next line has to be the one that accepts the command. -/
def awaitOk : VaraAttempt Unit := do
  let now ← perform .clock
  let line ← ExceptT.mk (readCmdLine (now + seconds okTimeoutSecs))
  ExceptT.mk (pure (okOutcome (parseLine line)))

/-- Send each of the commands, and wait for the response to it. -/
def sendAll : List Text → VaraAttempt Unit
  | [] => pure ()
  | line :: lines => do
    sendCmd line
    awaitOk
    sendAll lines

/-- Both ports are connected, in this order, and the modem is set up. -/
def connectModem (config : TransportConfig) (bandwidth : VaraBandwidth) : VaraAttempt Unit := do
  if config.kind = .ax25 then
    throw (.modemError "VaraTransport called with non-VARA TransportKind".toList)
  let arriving ← connect .cmd
  let _ ← connect .data
  perform (.attach arriving)
  sendAll (setupCommands config.localCallsign bandwidth)

/-- Both connections are dropped, and the line buffer is emptied. -/
def disconnectModem : VaraAttempt Unit := perform .detach

/-- What a response means while the connection is awaited: without a result the next one
is awaited. -/
def connectOutcome : VaraResponse → Unit ⊕ Except TransportError Unit
  | .pending => .inl ()
  | .connected _ _ => .inr (.ok ())
  | .disconnected => .inr (.error (.sessionRejected "vara: link dropped during CONNECT".toList))
  | .busyDetected => .inr (.error (.sessionRejected "channel busy".toList))
  | .unknown _ => .inl ()
  | other => .inr (.error (.modemError ("unexpected during CONNECT: ".toList ++ other.debug)))

/-- One response to `CONNECT`. -/
def connectRound (deadline : Nat) : VaraRoutine (Unit ⊕ Except TransportError Unit) := do
  let result ← readCmdLine deadline
  match result with
  | .ok line => return connectOutcome (parseLine line)
  | .error err => return .inr (.error err)

/-- The session is opened with a call sign of its own, and the other station is called. It has a
minute to answer. -/
def openSession (config : SessionConfig) : VaraAttempt Unit := do
  sendCmd ("MYCALL ".toList ++ config.localCallsign)
  awaitOk
  sendCmd ("CONNECT ".toList ++ config.localCallsign ++ " ".toList ++ config.remoteCallsign)
  let now ← perform .clock
  ExceptT.mk (Program.loop (fun _ => connectRound (now + seconds 60)) ())

/-- Lines that are read at most while the session is closed. -/
def drainLimit : Nat := 64

/-- What a line means while the session is closed. -/
def drainOutcome (remaining : Nat) : Except TransportError Text → Nat ⊕ Except TransportError Unit
  | .ok line => if parseLine line = .disconnected then .inr (.ok ()) else .inl remaining
  | .error .timeout => .inr (.ok ())
  | .error err => .inr (.error err)

/-- One line while the session is closed. Only so many are read. -/
def drainRound (deadline : Nat) : Nat → VaraRoutine (Nat ⊕ Except TransportError Unit)
  | 0 => return .inr (.ok ())
  | remaining + 1 => do
    let result ← readCmdLine deadline
    return drainOutcome remaining result

/-- The modem is told to end the session. It has three seconds to report this, but need not. -/
def closeSession : VaraAttempt Unit := do
  sendCmd "DISCONNECT".toList
  let now ← perform .clock
  ExceptT.mk (Program.loop (drainRound (now + seconds 3)) drainLimit)

/-- Data is written to the data port. -/
def send (data : Bytes) : VaraAttempt Unit := do
  requireOpen .data
  write .data data
  flush .data

/-- What the data port has brought. -/
def dataEvent : Except Text Bytes → Except TransportError TransportEvent
  | .error message => .error (.io message)
  | .ok [] => .ok (.disconnected "data port closed".toList)
  | .ok bytes => .ok (.data bytes)

/-- What a line means during a session. -/
def lineOutcome : Except TransportError Text → Unit ⊕ Except TransportError TransportEvent
  | .ok line =>
    if parseLine line = .disconnected then
      .inr (.ok (.disconnected "vara modem reports disconnect".toList))
    else .inl ()
  | .error .timeout => .inl ()
  | .error err => .inr (.error err)

/-- The command port seems ready: read one line, for a tenth of a second. -/
def heedCmd : VaraRoutine (Unit ⊕ Except TransportError TransportEvent) := do
  let now ← ask .clock
  let result ← readCmdLine (now + 100)
  return lineOutcome result

/-- What follows from what came first. -/
def heed : Selected → VaraRoutine (Unit ⊕ Except TransportError TransportEvent)
  | .data result => return .inr (dataEvent result)
  | .cmdReady => heedCmd
  | .slept => return .inl ()

/-- The ports are open: wait for both of them. -/
def awaitPorts : VaraRoutine (Unit ⊕ Except TransportError TransportEvent) := do
  let selected ← ask .select
  heed selected

/-- One round of `recv`. -/
def recvRound (deadline : Nat) : VaraRoutine (Unit ⊕ Except TransportError TransportEvent) := do
  let now ← ask .clock
  if deadline ≤ now then return .inr (.error .timeout)
  else
    let data ← ask (.isOpen .data)
    if data then
      let cmd ← ask (.isOpen .cmd)
      if cmd then awaitPorts else return .inr (.error .notConnected)
    else return .inr (.error .notConnected)

/-- Data, or the end of the session, by the deadline. -/
def recv (deadline : Nat) : VaraRoutine (Except TransportError TransportEvent) :=
  Program.loop (fun _ => recvRound deadline) ()

/-- What the trait does where a transport has nothing of its own. -/
def openAx25Link : VaraAttempt Unit := pure ()

/-- The same for the connection to the modem. -/
def reopenModemConnection : VaraAttempt Unit := pure ()

/-- The same for the ports. -/
def queryPorts : VaraAttempt Unit := pure ()

/-- The calls of a transport. -/
inductive VaraCall where
  | connectModem (config : TransportConfig) (bandwidth : VaraBandwidth)
  | disconnectModem
  | openSession (config : SessionConfig)
  | closeSession
  | send (data : Bytes)
  | recv (deadline : Nat)
  | openAx25Link
  | reopenModemConnection
  | queryPorts
  deriving DecidableEq

/-- What a call does, apart from its result. -/
def VaraCall.routine : VaraCall → VaraRoutine Unit
  | .connectModem config bandwidth => do let _ ← (Vara.connectModem config bandwidth).run
  | .disconnectModem => do let _ ← Vara.disconnectModem.run
  | .openSession config => do let _ ← (Vara.openSession config).run
  | .closeSession => do let _ ← Vara.closeSession.run
  | .send data => do let _ ← (Vara.send data).run
  | .recv deadline => do let _ ← Vara.recv deadline
  | .openAx25Link => do let _ ← Vara.openAx25Link.run
  | .reopenModemConnection => do let _ ← Vara.reopenModemConnection.run
  | .queryPorts => do let _ ← Vara.queryPorts.run

/-- Every answer that the world gives is met with. -/
def anyRun (_ : Snapshot VaraWorld Unit VaraAnswer) (_ : Event Unit VaraAnswer) : Prop := True

/-- The states of a transport after any calls, the last of which may have been given up. -/
inductive Reached : VaraWorld → Prop
  | new (now : Nat) : Reached (.new now)
  | call {world : VaraWorld} (earlier : Reached world) (call : VaraCall)
      {now : Snapshot VaraWorld Unit VaraAnswer} {left : VaraRoutine Unit}
      (leads : Leads varaExec anyRun call.routine ⟨world, []⟩ now left) : Reached now.world

end PacketBrowser.Vara
