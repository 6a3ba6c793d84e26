import PacketBrowser.Agwpe.Recv

/-!
# Calls of the transport over an AGWPE modem

The calls of a transport as programs over its connection to the modem: they write frames,
read frames, and report a state to the application. How frames are read from the bytes of
the connection is not repeated here; any frame may come, and any read may fail or run into
its deadline.
-/

namespace PacketBrowser.Agwpe

open Protocol Client Foundation

/-- Whom the transport addresses. -/
structure AgwpeTarget where
  agwpePort : UInt8
  localCallsign : Text
  remoteCallsign : Text
  deriving DecidableEq, Repr

/-- What the transport does with its connection, its state and the clock. -/
inductive AgwpeOp where
  | clock
  | isConnected
  | hasState
  | target
  | recordTarget (target : AgwpeTarget)
  | connectTcp
  | attach (callsign : Text)
  | detach
  | writeFrame (frame : AgwpeFrame)
  | flush
  | readFrame
  | setState (state : ConnectionState)
  deriving DecidableEq

/-- The type of answers of each operation. -/
abbrev AgwpeAnswer : AgwpeOp → Type
  | .clock => Nat
  | .isConnected => Bool
  | .hasState => Bool
  | .target => AgwpeTarget
  | .recordTarget _ => Unit
  | .connectTcp => Except Text Unit
  | .attach _ => Unit
  | .detach => Unit
  | .writeFrame _ => Except Text Unit
  | .flush => Except Text Unit
  | .readFrame => Except AgwpeError AgwpeFrame
  | .setState _ => Unit

/-- The transport, apart from the bytes of its connection. -/
structure AgwpeWorld where
  connected : Bool
  hasState : Bool
  target : AgwpeTarget
  deriving DecidableEq

/-- The world can give this answer. -/
def AgwpeWorld.gives (world : AgwpeWorld) : (op : AgwpeOp) → AgwpeAnswer op → Bool
  | .isConnected, answer => answer == world.connected
  | .hasState, answer => answer == world.hasState
  | .target, answer => answer == world.target
  | _, _ => true

/-- The world after an answered operation. -/
def AgwpeWorld.apply (world : AgwpeWorld) : (op : AgwpeOp) → AgwpeAnswer op → AgwpeWorld
  | .recordTarget target, _ => { world with target := target }
  | .attach callsign, _ => { world with
      connected := true
      target := { world.target with localCallsign := callsign } }
  | .detach, _ => { world with connected := false }
  | _, _ => world

/-- What the transport does, step by step. -/
abbrev AgwpeRoutine := Program AgwpeOp AgwpeAnswer

/-- Program that may fail. -/
abbrev AgwpeAttempt (ε : Type) := ExceptT ε AgwpeRoutine

/-- Perform one operation. -/
abbrev perform (op : AgwpeOp) : AgwpeRoutine (AgwpeAnswer op) := Program.ask op

/-- An error of the operating system. -/
def ioError : Except Text Unit → Except AgwpeError Unit
  | .ok () => .ok ()
  | .error message => .error (.io message)

/-- Stop where there is no connection. -/
def requireConnected {ε : Type} (notConnected : ε) : AgwpeAttempt ε Unit := ExceptT.mk do
  let connected ← perform .isConnected
  return if connected then .ok () else .error notConnected

/-- Write a frame to the connection. -/
def writeFrame (frame : AgwpeFrame) : AgwpeAttempt AgwpeError Unit := ExceptT.mk do
  let answer ← perform (.writeFrame frame)
  return ioError answer

/-- Flush the connection. -/
def flush : AgwpeAttempt AgwpeError Unit := ExceptT.mk do
  let answer ← perform .flush
  return ioError answer

/-- Write a frame and flush, if there is a connection. -/
def sendFrameInternal (frame : AgwpeFrame) : AgwpeAttempt AgwpeError Unit := do
  requireConnected .notConnected
  writeFrame frame
  flush

/-- One frame, within some time. -/
def readFrameWithTimeout : AgwpeRoutine (Except AgwpeError AgwpeFrame) := perform .readFrame

/-- One frame before the deadline. -/
def readFrameWithTimeoutDeadline (deadline : Nat) : AgwpeRoutine (Except AgwpeError AgwpeFrame) := do
  let now ← perform .clock
  if deadline ≤ now then return .error .timeout else readFrameWithTimeout

/-- The error of a part in the words of the trait. -/
def mapTransportErr {α : Type} (attempt : AgwpeAttempt AgwpeError α) : AgwpeAttempt TransportError α :=
  ExceptT.mk do
    let result ← attempt.run
    return result.mapError agwpeToTransportErr

/-- The name of a kind of frame. -/
def FrameType.debug : FrameType → Text
  | .registerCallsign => "RegisterCallsign".toList
  | .registrationResponse => "RegistrationResponse".toList
  | .connect => "Connect".toList
  | .connected => "Connected".toList
  | .disconnect => "Disconnect".toList
  | .sendData => "SendData".toList
  | .connectionRejected => "ConnectionRejected".toList
  | .queryPorts => "QueryPorts".toList
  | .portInfo => "PortInfo".toList

/-- Bytes as a list of numbers. -/
def debugBytes (bytes : Bytes) : Text :=
  "[".toList ++ ", ".toList.intercalate (bytes.map fun b => Decimal.printNat b.toNat) ++ "]".toList

/-- The text about a frame that is no answer to the registration. -/
def unexpectedRegistration (frame : AgwpeFrame) : Text :=
  "Unexpected response to registration: ".toList ++ frame.frameType.debug ++ " (port=".toList ++
    Decimal.printNat frame.port.toNat ++ ", call_from=".toList ++ frame.callFrom ++
    ", call_to=".toList ++ frame.callTo ++ ", data=".toList ++ debugBytes frame.data ++ ")".toList

/-- The registration has failed: the connection is dropped and the failure reported. -/
def giveUpRegistration (message : Text) : AgwpeRoutine (Except AgwpeError Unit) := do
  perform .detach
  perform (.setState (.error message))
  return .error (.registrationFailed message)

/-- What the response to the registration means. -/
def registrationResult : Except AgwpeError AgwpeFrame → AgwpeRoutine (Except AgwpeError Unit)
  | .ok frame =>
    if frame.frameType = .registerCallsign ∧ frame.data = [1] then do
      perform (.setState .agwpeConnected)
      return .ok ()
    else giveUpRegistration (unexpectedRegistration frame)
  | .error err => giveUpRegistration ("Registration timeout: ".toList ++ err.display)

/-- The registration is on its way. -/
def awaitRegistration : Except Text Unit → AgwpeRoutine (Except AgwpeError Unit)
  | .error message => giveUpRegistration ("Registration send failed: ".toList ++ message)
  | .ok () => do
    let _ ← perform .flush
    let result ← readFrameWithTimeout
    registrationResult result

/-- The callsign is registered on a new connection. -/
def registerOn (callsign : Text) : Except Text Unit → AgwpeRoutine (Except AgwpeError Unit)
  | .error message => do
    let text := "TCP connection failed: ".toList ++ message
    perform (.setState (.error text))
    return .error (.connectionFailed text)
  | .ok () => do
    perform (.attach callsign)
    let written ← perform (.writeFrame (.new 0 .registerCallsign callsign [] []))
    awaitRegistration written

/-- Connect to the modem and register the callsign. -/
def connectModemInternal (callsign : Text) : AgwpeAttempt AgwpeError Unit := ExceptT.mk do
  let connected ← perform .connectTcp
  registerOn callsign connected

/-- Connect the modem, with the errors of a transport. -/
def connectModem (config : TransportConfig) : AgwpeAttempt TransportError Unit :=
  mapTransportErr (connectModemInternal config.localCallsign)

/-- Drop the connection and show that it is gone. -/
def disconnectModem : AgwpeAttempt TransportError Unit := ExceptT.mk do
  perform .detach
  perform (.setState .disconnected)
  return .ok ()

/-- Only the target is recorded. -/
def openSession (config : SessionConfig) : AgwpeAttempt TransportError Unit := ExceptT.mk do
  perform (.recordTarget ⟨config.agwpePort, config.localCallsign, config.remoteCallsign⟩)
  return .ok ()

/-- Frames of the old session are read away until the end of the link is confirmed. -/
def drainStep : Except AgwpeError AgwpeFrame → Unit ⊕ Unit
  | .ok frame => if frame.frameType = .disconnect then .inr () else .inl ()
  | .error _ => .inr ()

/-- One read while the link is drained. -/
def drainRound : AgwpeRoutine (Unit ⊕ Unit) := do
  let result ← readFrameWithTimeout
  return drainStep result

/-- The end of the link is asked for, on a connection. -/
def disconnectLink (target : AgwpeTarget) : AgwpeRoutine Unit := do
  let _ ← (sendFrameInternal
    (.new target.agwpePort .disconnect target.localCallsign target.remoteCallsign [])).run
  Program.loop (fun _ => drainRound) ()

/-- Take the link down where there is a connection. -/
def sendDisconnectAndDrain : AgwpeRoutine Unit := do
  let target ← perform .target
  let connected ← perform .isConnected
  if connected then disconnectLink target else return ()

/-- Take the link down; an error where there is no connection. -/
def closeSession : AgwpeAttempt TransportError Unit := do
  requireConnected .notConnected
  ExceptT.lift sendDisconnectAndDrain

/-- The data in frames, as long as writing does not fail. -/
def sendChunks : List Bytes → AgwpeAttempt AgwpeError Unit
  | [] => pure ()
  | chunk :: others => do
    let target ← ExceptT.lift (perform .target)
    writeFrame (.new target.agwpePort .sendData target.localCallsign target.remoteCallsign chunk)
    sendChunks others

/-- Send data in frames, one chunk each. -/
def send (data : Bytes) : AgwpeAttempt TransportError Unit := do
  requireConnected .notConnected
  mapTransportErr do
    sendChunks (chunks chunkSize data)
    flush

/-- Wait for the next frame, and tell what it means. -/
def recv (deadline : Nat) : AgwpeAttempt TransportError TransportEvent := do
  let frame ← mapTransportErr (ExceptT.mk (readFrameWithTimeoutDeadline deadline))
  return frame.event

/-- The link is up: either kind of confirmation. -/
def AgwpeFrame.confirms (frame : AgwpeFrame) : Bool :=
  match frame.frameType with
  | .connected => true
  | .connect => (ascii "***").isPrefixOf frame.data && containsSlice frame.data (ascii "CONNECTED")
  | _ => false

/-- What a frame means while the link is awaited. -/
def linkStep : Except AgwpeError AgwpeFrame → Unit ⊕ Except TransportError Unit
  | .ok frame =>
    if frame.confirms then .inr (.ok ())
    else if frame.frameType = .connectionRejected then
      .inr (.error (.sessionRejected
        ("connection rejected by peer: ".toList ++ Utf8.lossy frame.data)))
    else .inl ()
  | .error err => .inr (.error (agwpeToTransportErr err))

/-- One read while the link is awaited. -/
def linkRound (deadline : Nat) : AgwpeRoutine (Unit ⊕ Except TransportError Unit) := do
  let result ← readFrameWithTimeoutDeadline deadline
  return linkStep result

/-- Wait for the confirmation of the link, for thirty seconds. -/
def awaitLink : AgwpeAttempt TransportError Unit := ExceptT.mk do
  let now ← perform .clock
  Program.loop (fun _ => linkRound (now + 30000)) ()

/-- The frame that asks for a link. -/
def connectFrame (target : AgwpeTarget) : AgwpeFrame :=
  .new target.agwpePort .connect target.localCallsign target.remoteCallsign []

/-- Ask for a link and wait until it is confirmed. -/
def openAx25Link : AgwpeAttempt TransportError Unit := do
  requireConnected .notConnected
  let target ← ExceptT.lift (perform .target)
  mapTransportErr (sendFrameInternal (connectFrame target))
  awaitLink

/-- The old link is ended as far as there is a connection. -/
def endLink : AgwpeRoutine Unit := do
  let connected ← perform .isConnected
  if connected then sendDisconnectAndDrain else return ()

/-- Stop where the transport is not attached to the application. -/
def requireState : AgwpeAttempt TransportError Unit := ExceptT.mk do
  let attached ← perform .hasState
  return if attached then .ok ()
    else .error (.modemError "reopen_modem_connection called without attached state".toList)

/-- The end of the link, a new connection and the registration. -/
def reopenModemConnection : AgwpeAttempt TransportError Unit := do
  requireState
  let target ← ExceptT.lift (perform .target)
  ExceptT.lift endLink
  ExceptT.lift (perform .detach)
  mapTransportErr (connectModemInternal target.localCallsign)

/-- What a frame means while the list of ports is awaited. The list itself is not kept. -/
def portsStep : Except AgwpeError AgwpeFrame → Unit ⊕ Except AgwpeError Unit
  | .ok frame =>
    if frame.frameType = .queryPorts ∨ frame.frameType = .portInfo then .inr (.ok ()) else .inl ()
  | .error err => .inr (.error err)

/-- One read while the ports are awaited. -/
def portsRound : AgwpeRoutine (Unit ⊕ Except AgwpeError Unit) := do
  let result ← readFrameWithTimeout
  return portsStep result

/-- Ask for the ports and wait for the answer. -/
def queryPortsInternal : AgwpeAttempt AgwpeError Unit := do
  requireConnected .notConnected
  let target ← ExceptT.lift (perform .target)
  sendFrameInternal (.new 0 .queryPorts target.localCallsign [] [])
  ExceptT.mk (Program.loop (fun _ => portsRound) ())

/-- Ask for the ports, with the errors of a transport. -/
def queryPorts : AgwpeAttempt TransportError Unit := mapTransportErr queryPortsInternal

end PacketBrowser.Agwpe
