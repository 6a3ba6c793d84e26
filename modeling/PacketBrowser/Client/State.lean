import PacketBrowser.Foundation.Unicode
import PacketBrowser.Protocol.Message

/-!
# Errors, events and the connection state of the client

The types the transport, the session driver and the web handlers exchange. Log
entries are modelled only where they are streamed to a page. An error of the
operating system is kept as its text.
-/

namespace PacketBrowser.Client

open Protocol Foundation

/-- What a transport reports instead of a result. -/
inductive TransportError where
  | notConnected
  | io (message : Text)
  | modemError (message : Text)
  | sessionRejected (message : Text)
  | timeout
  deriving DecidableEq, Repr

/-- What arrives from a transport. -/
inductive TransportEvent where
  | data (bytes : Bytes)
  | disconnected (reason : Text)
  deriving DecidableEq, Repr

/-- The kinds of transports. -/
inductive TransportKind where
  | ax25
  | varaFm
  | varaHf
  deriving DecidableEq, Repr

/-- The kind a request names. -/
def TransportKind.parse (text : Text) : Except Text TransportKind :=
  if text = "ax25".toList then .ok .ax25
  else if text = "vara_fm".toList then .ok .varaFm
  else if text = "vara_hf".toList then .ok .varaHf
  else .error ("unknown transport: ".toList ++ text)

/-- The transports a manager can be given. -/
inductive TransportImpl where
  | agwpeTransport
  | varaTransport
  deriving DecidableEq, Repr

/-- The transport that serves sessions of a kind. -/
def TransportKind.impl : TransportKind → TransportImpl
  | .ax25 => .agwpeTransport
  | .varaFm => .varaTransport
  | .varaHf => .varaTransport

/-- How to reach the modem. Host names, ports and radio settings are only passed
through to the transport and are left out. -/
structure TransportConfig where
  kind : TransportKind
  localCallsign : Text
  deriving DecidableEq, Repr

/-- What a transport needs to open a session. -/
structure SessionConfig where
  localCallsign : Text
  remoteCallsign : Text
  bpqCommand : Text
  skipBpqApp : Bool
  agwpePort : UInt8
  deriving DecidableEq, Repr

/-- Errors of the session driver and of calls to the manager. -/
inductive AgwpeError where
  | io (message : Text)
  | connectionFailed (message : Text)
  | registrationFailed (message : Text)
  | notConnected
  | invalidFrame (message : Text)
  | timeout
  | taskStopped
  | sessionDied (reason : Text)
  | needsReconsent
  | disconnectedByOperator
  deriving DecidableEq, Repr

/-- The text shown for an error. -/
def AgwpeError.display : AgwpeError → Text
  | .io message => "IO error: ".toList ++ message
  | .connectionFailed message => "Connection failed: ".toList ++ message
  | .registrationFailed message => "Registration failed: ".toList ++ message
  | .notConnected => "Not connected".toList
  | .invalidFrame message => "Invalid frame: ".toList ++ message
  | .timeout => "Timeout".toList
  | .taskStopped => "Background task stopped".toList
  | .sessionDied reason => "Session died: ".toList ++ reason
  | .needsReconsent => "Session dropped and requires re-consent".toList
  | .disconnectedByOperator => "Disconnected by operator".toList

/-- An error of a transport as an error of the protocol. -/
def transportErrToAgwpe : TransportError → AgwpeError
  | .notConnected => .notConnected
  | .timeout => .timeout
  | .io message => .io message
  | .modemError message => .connectionFailed message
  | .sessionRejected message => .connectionFailed message

/-- What is on display about the connection. -/
inductive ConnectionState where
  | disconnected
  | agwpeConnected
  | connecting
  | awaitingConsent (disclaimer : Text)
  | connected
  | reconnecting (reason : Text)
  | error (message : Text)
  deriving DecidableEq, Repr

/-- The text shown for a state. -/
def ConnectionState.display : ConnectionState → Text
  | .disconnected => "Disconnected".toList
  | .agwpeConnected => "AGWPE Connected".toList
  | .connecting => "Connecting".toList
  | .awaitingConsent _ => "Awaiting consent".toList
  | .connected => "Connected".toList
  | .reconnecting reason => "Reconnecting: ".toList ++ reason
  | .error message => "Error: ".toList ++ message

/-- The states a transport itself reports while it works on the modem. -/
inductive ModemState where
  | disconnected
  | agwpeConnected
  | error (message : Text)
  deriving DecidableEq, Repr

/-- What is on display about the state of a modem. -/
def ModemState.connectionState : ModemState → ConnectionState
  | .disconnected => .disconnected
  | .agwpeConnected => .agwpeConnected
  | .error message => .error message

/-- The part of the configuration the session driver reads. -/
structure AppConfig where
  bpqCommand : Text
  skipBpqApp : Bool
  deriving DecidableEq, Repr

/-- A character in quoted debug output. -/
def escapeDebug (c : Char) : Text :=
  if c = '"' then ['\\', '"']
  else if c = '\\' then ['\\', '\\']
  else if c = '\n' then ['\\', 'n']
  else if c = '\r' then ['\\', 'r']
  else if c = '\t' then ['\\', 't']
  else if c.toNat = 0 then ['\\', '0']
  else if Unicode.shown c then [c]
  else Unicode.escape c

/-- Quoted debug output of a text. -/
def debugText (text : Text) : Text := '"' :: text.flatMap escapeDebug ++ ['"']

end PacketBrowser.Client
