import PacketBrowser.Client.Manager

/-!
# The connect handler

A request to connect names a station and perhaps a transport. For a VARA transport a
new manager is made, and it is installed once its modem is connected; for AX.25 the
manager installed at the moment is used as it is. Either way the session is opened
through the manager, and the state on display is the answer.

Host names, ports and radio settings of a request are only passed through to the modem
and are left out.
-/

namespace PacketBrowser.Client

open Protocol Foundation

/-- A request to connect. -/
structure ConnectRequest where
  targetCallsign : Text
  portNum : UInt8
  transport : Option Text
  deriving DecidableEq, Repr

/-- A callsign whose digit stands behind this many characters. -/
def matchesCallsignAt (count : Nat) (text : Text) : Bool :=
  (text.take count).length == count && (text.take count).all Char.isAlphanum &&
    match text.drop count with
    | [] => false
    | digit :: rest =>
      digit.isDigit && decide (rest.length ≤ 4) && rest.dropLast.all Char.isAlphanum &&
        rest.getLast?.any Char.isAlpha

/-- One to three letters or digits, a digit, at most three letters or digits, a letter. -/
def matchesCallsign (text : Text) : Bool :=
  matchesCallsignAt 1 text || matchesCallsignAt 2 text || matchesCallsignAt 3 text

example : matchesCallsign "N0CALL".toList ∧ ¬ matchesCallsign "NOCALL".toList := by decide

/-- The station without its secondary identifier has to be a callsign. -/
def validTarget (targetCallsign : Text) : Bool :=
  matchesCallsign (targetCallsign.takeWhile (· ≠ '-'))

/-- The transport a request names, or the configured one. -/
def resolveTransport : Option Text → Routine (Except Text TransportKind)
  | some text => return (TransportKind.parse text).mapError ("Unknown transport: ".toList ++ ·)
  | none => do
    let configured ← ask .readTransportDefault
    return .ok configured

section Connecting

variable (request : ConnectRequest)

/-- Open the session and show what became of it. -/
def openThrough (manager : ManagerId) : Routine (Except Text Text) := do
  let result ← openSession manager request.targetCallsign request.portNum
  match result with
  | .ok _ =>
    let state ← ask .readConnectionState
    return .ok state.display
  | .error err => return .error err.display

/-- A new manager is installed once its modem is connected. -/
def connectVara (kind : TransportKind) : Routine (Except Text Text) := do
  let localCallsign ← ask .readMyCallsign
  let manager ← ask (.spawnManager .varaTransport)
  let connected ← connectModem manager ⟨kind, localCallsign⟩
  match connected with
  | .error err => return .error ("VARA modem connect failed: ".toList ++ err.display)
  | .ok _ =>
    ask (.installManager manager)
    openThrough request manager

/-- The manager installed at the moment is used. -/
def connectAx25 : Routine (Except Text Text) := do
  let manager ← ask .activeManager
  openThrough request manager

/-- Connect through the transport of this kind. -/
def connectBy : TransportKind → Routine (Except Text Text)
  | .varaFm => connectVara request .varaFm
  | .varaHf => connectVara request .varaHf
  | .ax25 => connectAx25 request

/-- Connect to a target that has the form of a callsign, by the kind that the request names or
the default. -/
def apiConnectHandler : Routine (Except Text Text) :=
  if validTarget request.targetCallsign then do
    let resolved ← resolveTransport request.transport
    match resolved with
    | .error message => return .error message
    | .ok kind => connectBy request kind
  else return .error "Invalid target callsign format".toList

end Connecting

end PacketBrowser.Client
