import PacketBrowser.Client.Session

/-!
# The transport manager

A manager is a bounded command queue, an abort flag and a background task. Its
methods queue a command and wait for the reply; closing and disconnecting first set
the abort flag, from outside the queue. The background task serves one command at a
time and clears the flag when it starts on a command that connects or opens.
-/

namespace PacketBrowser.Client

open Protocol Foundation

section Methods

variable (manager : ManagerId)

/-- Queue a command and wait for its reply. -/
def call (command : Command) : Routine Reply := do
  let ticket ← ask .newReply
  let queued ← ask (.submit manager ticket command)
  if queued then
    let answered ← ask (.awaitReply manager ticket)
    return answered.getD (.error .taskStopped)
  else return .error .taskStopped

/-- Have the modem connected. -/
def connectModem (config : TransportConfig) : Routine Reply :=
  call manager (.connectModem config)

/-- Have the modem disconnected, and stop what the task is at. -/
def disconnectModem : Routine Reply := do
  ask (.storeAbort manager true)
  call manager .disconnectModem

/-- Have the ports asked for. -/
def queryPorts : Routine Reply := call manager .queryPorts

/-- Have a session opened. -/
def openSession (target : Text) (portNum : UInt8) : Routine Reply :=
  call manager (.openSession target portNum)

/-- Have the session closed, and stop what the task is at. -/
def closeSession : Routine Reply := do
  ask (.storeAbort manager true)
  call manager .closeSession

/-- Have a request sent. -/
def sendRequest (data : Bytes) : Routine Reply := call manager (.sendRequest data)

/-- Have a request sent, in a new session if the one that is open has died. -/
def sendRequestWithReconnect (data : Bytes) : Routine Reply :=
  call manager (.sendRequestWithReconnect data)

end Methods

section Actor

variable (manager : ManagerId)

/-- The task is to stop for nobody. -/
def resetAbort : Routine Unit := ask (.storeAbort manager false)

/-- Connect the modem. -/
def handleConnectModem (config : TransportConfig) : Attempt Unit :=
  callModem manager (.connectModem config)

/-- Disconnect the modem. -/
def handleDisconnectModem : Attempt Unit := callModem manager .disconnectModem

/-- Modems with a single channel have no ports to list. -/
def queryIfSupported (supported : Bool) : Attempt Unit :=
  if supported then callModem manager .queryPorts else pure ()

/-- Ask for the ports, if the transport has any. -/
def handleQueryPorts : Attempt Unit := do
  let supported ← ExceptT.lift (ask (.portQuerySupported manager))
  queryIfSupported manager supported

/-- Report the result of a handshake in the shared state. -/
def reportHandshake : Except AgwpeError Unit → Routine (Except AgwpeError Unit)
  | .ok () => do
    setState .connected
    return .ok ()
  | .error err => do
    let message := "BPQ handshake failed: ".toList ++ err.display
    setState (.error message)
    return .error (.connectionFailed message)

/-- The handshake, and how it ended on display. -/
def handshakeAndReport (localCallsign : Text) : Attempt Unit := ExceptT.mk do
  let result ← (performBpqHandshake manager localCallsign).run
  reportHandshake result

/-- Configure the transport for the target and open the link. -/
def openLink (target : Text) (portNum : UInt8) (localCallsign : Text) : Attempt Unit := do
  let first ← ExceptT.lift readConfig
  let second ← ExceptT.lift readConfig
  callModem manager (.openSession
    ⟨localCallsign, target, first.bpqCommand, second.skipBpqApp, portNum⟩)
  ExceptT.lift (setState .connecting)
  ax25OpenAndAwaitConnected manager

/-- Open a link and go through the handshake. -/
def handleOpenSession (target : Text) (portNum : UInt8) (localCallsign : Text) :
    Attempt Unit := do
  ExceptT.lift (resetAbort manager)
  openLink manager target portNum localCallsign
  handshakeAndReport manager localCallsign

/-- Close the session and show that the modem is still there. -/
def handleCloseSession : Attempt Unit := do
  ExceptT.lift (ask (.storeAbort manager true))
  callModem manager .closeSession
  ExceptT.lift (setState .agwpeConnected)

/-- The reply to a command without a value. -/
def unitReply : Except AgwpeError Unit → Reply
  | .ok () => .ok []
  | .error err => .error err

/-- The callsign is remembered once the modem accepted it. -/
def rememberCallsign (config : TransportConfig) (localCallsign : Text) :
    Except AgwpeError Unit → Text
  | .ok () => config.localCallsign
  | .error _ => localCallsign

/-- Serve one command: its reply, and the callsign remembered from now on. -/
def runCommand (timeoutSecs : Nat) (localCallsign : Text) : Command → Routine (Reply × Text)
  | .connectModem config => do
    resetAbort manager
    let result ← (handleConnectModem manager config).run
    return (unitReply result, rememberCallsign config localCallsign result)
  | .disconnectModem => do
    let result ← (handleDisconnectModem manager).run
    return (unitReply result, localCallsign)
  | .queryPorts => do
    let result ← (handleQueryPorts manager).run
    return (unitReply result, localCallsign)
  | .openSession target portNum => do
    let result ← (handleOpenSession manager target portNum localCallsign).run
    return (unitReply result, localCallsign)
  | .closeSession => do
    let result ← (handleCloseSession manager).run
    return (unitReply result, localCallsign)
  | .sendRequest data => do
    let result ← (handleSendRequest manager timeoutSecs data).run
    return (result, localCallsign)
  | .sendRequestWithReconnect data => do
    let result ← (handleSendRequestWithReconnect manager timeoutSecs data localCallsign).run
    return (result, localCallsign)

/-- Serve a command and send its reply. -/
def serve (timeoutSecs : Nat) (localCallsign : Text) (ticket : TicketId) (command : Command) :
    Routine Text := do
  let (result, remembered) ← runCommand manager timeoutSecs localCallsign command
  ask (.reply ticket result)
  return remembered

/-- One round of the background task; it ends when nobody can queue commands. -/
def serveNext (timeoutSecs : Nat) (localCallsign : Text) : Routine (Text ⊕ Unit) := do
  let next ← ask (.nextCommand manager)
  match next with
  | none => return .inr ()
  | some (ticket, command) =>
    let remembered ← serve manager timeoutSecs localCallsign ticket command
    return .inl remembered

/-- Serve commands one after the other, until the queue is closed. -/
def backgroundTask (configuredTimeout : Nat) : Routine Unit :=
  Program.loop (serveNext manager (responseTimeoutSecs configuredTimeout)) []

end Actor

end PacketBrowser.Client
