import PacketBrowser.Client.Operations

/-!
# The session driver

The BPQ handshake, sending one request and reading its response, and the automatic
reconnect. Each routine is written over the atomic operations in the order in which
the program performs them; what happens between two operations of one routine is
the business of the other tasks.
-/

namespace PacketBrowser.Client

open Protocol Foundation

/-- Largest response buffer. -/
def maxResponseSize : Nat := 10 * 1024 * 1024

/-- Largest handshake text in bytes. -/
def maxHandshakeText : Nat := 64 * 1024

/-- Bytes without a frame start after which a response counts as malformed. -/
def maxNoise : Nat := 32 * 1024

/-- The configured timeout, at least one second. -/
def responseTimeoutSecs (configured : Nat) : Nat := max configured 1

/-- The pattern occurs in the text. -/
def containsText (pattern : String) (text : Text) : Bool :=
  Search.occurs pattern.toList text

/-- The bytes occur in the others, and are not empty. -/
def containsSlice (haystack needle : Bytes) : Bool :=
  needle ≠ [] ∧ Search.occurs needle haystack

/-- Tear-down text of a node or modem anywhere in the data. -/
def isSessionDeadPayload (data : Bytes) : Bool :=
  containsSlice data (ascii "*** DISCONNECTED") || containsSlice data (ascii "Returned to Node")

/-- Nothing stored means nothing matches. -/
def matchesStoredDisclaimer (serverText : Text) : Option Text → Bool
  | some stored => stored == serverText
  | none => false

section Handshake

variable (manager : ManagerId)

/-- Have the transport open its link. -/
def ax25OpenAndAwaitConnected : Attempt Unit := callModem manager .openAx25Link

/-- Send the command that enters the application. -/
def bpqSendAppCommand : Attempt Unit := do
  let config ← ExceptT.lift readConfig
  sendBytes manager .appCommand (Utf8.encode (config.bpqCommand ++ ['\n']))

/-- One event while handshake text is collected. -/
def collectText (found : Text → Bool) (received : Text) : TransportEvent → Text ⊕ Except AgwpeError Text
  | .data bytes =>
    let text := Utf8.lossy bytes
    if Utf8.byteLength received + Utf8.byteLength text > maxHandshakeText then
      .inr (.error (.connectionFailed "Handshake text exceeded maximum size".toList))
    else if found (received ++ text) then .inr (.ok (received ++ text))
    else .inl (received ++ text)
  | .disconnected reason =>
    .inr (.error (.connectionFailed
      ("Peer disconnected during BPQ handshake: ".toList ++ reason)))

/-- Collect text until it contains what is waited for; every event has 30 seconds. -/
def awaitText (found : Text → Bool) : Attempt Text := ExceptT.mk <|
  Program.loop (fun received => do
    let event ← (recvEvent manager 30).run
    return match event with
      | .ok event => collectText found received event
      | .error err => .inr (.error err)) []

/-- What a round makes of the answer to it. -/
def awaitStep (found : Text → Bool) (received : Text) :
    Except TransportError TransportEvent → Text ⊕ Except AgwpeError Text
  | .ok event => collectText found received event
  | .error err => .inr (.error (transportErrToAgwpe err))

/-- A round is one operation. -/
theorem awaitText_run (found : Text → Bool) : (awaitText manager found).run =
    Program.loop (fun received => do
      let answer ← ask (.recv manager 30)
      return awaitStep found received answer) [] := by
  show Program.loop _ [] = _
  congr 1
  funext received
  show Program.perform (Op.recv manager 30) _ = Program.perform (Op.recv manager 30) _
  congr 1
  funext answer
  cases answer <;> rfl

/-- Wait until the callsign is asked for, or consent, and tell the callsign. -/
def bpqAwaitCallsignPromptAndSendCallsign (localCallsign : Text) : Attempt Unit := do
  let _ ← awaitText manager fun received =>
    containsText "callsign" received || containsText "AGREE" received
  sendBytes manager .callsign (Utf8.encode (localCallsign ++ ['\n']))

/-- The disclaimer is everything received up to and with the prompt. Only ASCII
letters can become the letters of the prompt in upper case. -/
def bpqAwaitDisclaimer : Attempt Text :=
  awaitText manager fun received => containsText "AGREE" (received.map Char.toUpper)

/-- The application command, unless the node runs the application directly. -/
def enterApplication (skipBpqApp : Bool) : Attempt Unit :=
  if skipBpqApp then pure () else bpqSendAppCommand manager

/-- Wait for the operator. A dropped sender declines; after the timeout the slot in
the shared state is cleared, whatever it holds by then. -/
def awaitOperator (consent : ConsentId) : Attempt Bool := ExceptT.mk do
  let waited ← ask (.awaitConsent consent)
  match waited with
  | .decided accepted => return .ok accepted
  | .senderDropped => return .ok false
  | .timedOut =>
    ask .withdrawConsent
    return .error (.connectionFailed "Consent timeout: operator did not respond".toList)

/-- Stop where the operator has declined. -/
def requireAccepted (accepted : Bool) : Attempt Unit :=
  if accepted then pure ()
  else throw (.connectionFailed "Operator declined the logging disclaimer".toList)

/-- The line of consent. -/
def agreeBytes : Bytes := ascii "AGREE\n"

/-- The handshake up to the disclaimer. -/
def receiveDisclaimer (localCallsign : Text) : Attempt Text := do
  let config ← ExceptT.lift readConfig
  enterApplication manager config.skipBpqApp
  bpqAwaitCallsignPromptAndSendCallsign manager localCallsign
  bpqAwaitDisclaimer manager

/-- Show the disclaimer and wait until the operator accepts it. -/
def askOperator (receivedText : Text) : Attempt Unit := do
  let consent ← ExceptT.lift (ask (.parkConsent receivedText))
  let accepted ← awaitOperator consent
  requireAccepted accepted

/-- Receive the disclaimer, ask the operator, and agree. -/
def performBpqHandshake (localCallsign : Text) : Attempt Unit := do
  let receivedText ← receiveDisclaimer manager localCallsign
  askOperator receivedText
  sendBytes manager (.agreeByOperator receivedText) agreeBytes

end Handshake

/-- The response buffer of one request, and the header once it is found. -/
structure Reception where
  responseData : Bytes
  expectedLen : Option UInt32
  frameStart : Nat
  deriving DecidableEq

/-- Nothing has been received. -/
def Reception.empty : Reception := ⟨[], none, 0⟩

/-- Append a chunk, unless the buffer would grow too large or now contains
tear-down text. -/
def Reception.accept (reception : Reception) (bytes : Bytes) : Except AgwpeError Reception :=
  if reception.responseData.length + bytes.length > maxResponseSize then
    .error (.invalidFrame ("Response exceeded maximum size of ".toList ++
      Decimal.printNat maxResponseSize ++ " bytes".toList))
  else if isSessionDeadPayload (reception.responseData ++ bytes) then
    .error (.sessionDied "remote sent AX.25 disconnect notification".toList)
  else .ok { reception with responseData := reception.responseData ++ bytes }

/-- Reason of a session without a frame start. -/
def malformedResponse (data : Bytes) : Text :=
  "malformed response (".toList ++ Decimal.printNat data.length ++
    " bytes with no RESP magic: ".toList ++
    debugText (Utf8.lossy (data.take 256)) ++ ")".toList

/-- Look for the header, unless an earlier chunk completed it. -/
def Reception.findHeader (reception : Reception) : Except AgwpeError Reception :=
  match reception.expectedLen with
  | some _ => .ok reception
  | none =>
    match decodeHeader reception.responseData with
    | .ok (some header) =>
      .ok { reception with expectedLen := some header.payloadLen, frameStart := header.headerEnd }
    | .ok none =>
      if ¬ Search.occurs Response.magic reception.responseData ∧
          reception.responseData.length > maxNoise then
        .error (.sessionDied (malformedResponse reception.responseData))
      else .ok reception
    | .error err => .error (.sessionDied ("malformed response header: ".toList ++ err.debug))

/-- Decide after a chunk: the response is complete, cannot become one, or the next
chunk is awaited. -/
def Reception.examine (reception : Reception) : Reception ⊕ Except AgwpeError Bytes :=
  match reception.findHeader with
  | .error err => .inr (.error err)
  | .ok reception =>
    match reception.expectedLen with
    | some len =>
      if reception.responseData.length ≥ reception.frameStart + len.toNat then
        .inr (.ok reception.responseData)
      else .inl reception
    | none => .inl reception

section Requests

variable (manager : ManagerId) (timeoutSecs : Nat)

/-- One event while the response is read. A timeout or a lost link means that the
session died. -/
def receiveEvent (reception : Reception) : Routine (Reception ⊕ Except AgwpeError Bytes) := do
  let event ← ask (.recv manager timeoutSecs)
  match event with
  | .error .timeout =>
    return .inr (.error (.sessionDied
      ("no response after ".toList ++ Decimal.printNat timeoutSecs ++ "s".toList)))
  | .error err => return .inr (.error (transportErrToAgwpe err))
  | .ok (.disconnected reason) => return .inr (.error (.sessionDied reason))
  | .ok (.data bytes) =>
    match reception.accept bytes with
    | .error err => return .inr (.error err)
    | .ok grown =>
      let aborted ← isAborted manager
      return if aborted then .inr (.error .disconnectedByOperator) else grown.examine

/-- Receive until the response is complete or something goes wrong. -/
def receiveResponse : Attempt Bytes :=
  ExceptT.mk (Program.loop (receiveEvent manager timeoutSecs) Reception.empty)

/-- Send a request and receive its response. -/
def handleSendRequest (data : Bytes) : Attempt Bytes := do
  bailIfAborted manager
  sendBytes manager .request data
  receiveResponse manager timeoutSecs

end Requests

section Reconnect

variable (manager : ManagerId)

/-- The application command with the check behind it, as the reconnect makes it. -/
def reenterApplication (skipBpqApp : Bool) : Attempt Unit :=
  if skipBpqApp then pure ()
  else do
    bpqSendAppCommand manager
    bailIfAborted manager

/-- The modem, the link and the handshake once more, up to the disclaimer. -/
def receiveAgain (reason localCallsign : Text) : Attempt Text := do
  callModem manager .reopenModemConnection
  ExceptT.lift (setState (.reconnecting reason))
  bailIfAborted manager
  ax25OpenAndAwaitConnected manager
  bailIfAborted manager
  let config ← ExceptT.lift readConfig
  reenterApplication manager config.skipBpqApp
  bpqAwaitCallsignPromptAndSendCallsign manager localCallsign
  bailIfAborted manager
  let disclaimer ← bpqAwaitDisclaimer manager
  bailIfAborted manager
  return disclaimer

/-- Consent is automatic only for exactly the text agreed to before. -/
def requireStored (disclaimer : Text) (stored : Option Text) : Attempt Unit :=
  if matchesStoredDisclaimer disclaimer stored then pure ()
  else do
    ExceptT.lift (setState (.awaitingConsent disclaimer))
    throw .needsReconsent

/-- Stop where the disclaimer is not the one that was agreed to. -/
def requireAgreed (disclaimer : Text) : Attempt Unit := do
  let stored ← ExceptT.lift (ask .readLastAgreed)
  requireStored disclaimer stored

/-- Everything of a reconnect that can fail. -/
def reestablish (reason localCallsign : Text) : Attempt Unit := do
  let disclaimer ← receiveAgain manager reason localCallsign
  requireAgreed disclaimer
  bailIfAborted manager
  sendBytes manager (.autoAgree disclaimer) agreeBytes
  ExceptT.lift (setState .connected)

/-- Set the session up again, with the reason and the end on display; a new disclaimer leaves
what is on display. -/
def handleReconnect (reason localCallsign : Text) : Attempt Unit := ExceptT.mk do
  setState (.reconnecting reason)
  let result ← (reestablish manager reason localCallsign).run
  match result with
  | .ok () => return .ok ()
  | .error .needsReconsent => return .error .needsReconsent
  | .error err =>
    setState (.error ("Reconnect failed: ".toList ++ err.display))
    return .error err

/-- The one retry after a reconnect. -/
def reconnectAndRetry (timeoutSecs : Nat) (data : Bytes) (reason localCallsign : Text) :
    Attempt Bytes := do
  handleReconnect manager reason localCallsign
  bailIfAborted manager
  handleSendRequest manager timeoutSecs data

/-- Only a session that died is reconnected; every other error is final. -/
def afterFirstTry (timeoutSecs : Nat) (data : Bytes) (localCallsign : Text) :
    Except AgwpeError Bytes → Routine (Except AgwpeError Bytes)
  | .ok bytes => return .ok bytes
  | .error (.sessionDied reason) =>
    (reconnectAndRetry manager timeoutSecs data reason localCallsign).run
  | .error err => return .error err

/-- Send a request, and once more in a new session if the first one dies. -/
def handleSendRequestWithReconnect (timeoutSecs : Nat) (data : Bytes) (localCallsign : Text) :
    Attempt Bytes := do
  bailIfAborted manager
  ExceptT.mk do
    let first ← (handleSendRequest manager timeoutSecs data).run
    afterFirstTry manager timeoutSecs data localCallsign first

end Reconnect

end PacketBrowser.Client
