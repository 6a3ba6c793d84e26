import PacketBrowser.Client.Choice

/-!
# Whether `Connected` means the manager installed

The state on display is one for all managers, and the manager installed is the one browse
requests are sent through. While a request to connect is in progress the two may differ;
otherwise `Connected` should have been set by the handshake of the manager installed, and
its session should be the one that handshake established. `setter` and `inSession` read
this off the history.

Three things break it. A manager that has been replaced sets `Connected`; a manager is
installed while another one's `Connected` is on display and then fails to open its session
without touching the display; or the session of the manager installed ends and nobody
writes the state, because its transport does not report it or because a request finds it
dead and is not tried again.
-/

namespace PacketBrowser.Client

open Protocol Foundation Program Setting

/-- The manager whose handshake set the state on display, if it was set to `Connected`. -/
def setter : List ClientEvent → Option ManagerId
  | [] => none
  | event :: earlier =>
    if event.op.succeeds then
      match event.thread with
      | .actor m => some m
      | _ => none
    else if writesState event then none
    else setter earlier

/-- The command a background task is serving, from its own events. -/
def busy : List ClientEvent → Option Command
  | [] => none
  | event :: earlier =>
    match event.op, event.answer with
    | .nextCommand _, some (_, command) => some command
    | .reply _ _, _ => none
    | _, _ => busy earlier

/-- With this error a request leaves no session behind. -/
def AgwpeError.severs : AgwpeError → Bool
  | .invalidFrame _ => false
  | .taskStopped => false
  | .disconnectedByOperator => false
  | _ => true

/-- The result of a request that leaves no session behind. -/
def severing : Reply → Bool
  | .error err => err.severs
  | .ok _ => false

/-- With this result a command leaves no session behind: it closes one, starts over with the
modem, cannot open one, or is a request that fails at the transport. -/
def Command.parts : Command → Reply → Bool
  | .connectModem _, _ => true
  | .disconnectModem, _ => true
  | .queryPorts, _ => false
  | .openSession _ _, result => !result.isOk
  | .closeSession, _ => true
  | .sendRequest _, result => severing result
  | .sendRequestWithReconnect _, result => severing result

/-- The background task has a session: its latest handshake succeeded, no reconnect has
begun since, and no command was answered that leaves no session behind. -/
def inSession : List ClientEvent → Bool
  | [] => false
  | event :: earlier =>
    match event.op with
    | .setConnectionState .connected => true
    | .setConnectionState (.reconnecting _) => false
    | .reply _ result => inSession earlier && !(busy earlier).any fun command => command.parts result
    | _ => inSession earlier

/-- The manager a request to connect has installed and not asked for a session yet. -/
def installing : List ClientEvent → Option ManagerId
  | [] => none
  | event :: earlier =>
    match event.op with
    | .installManager m => some m
    | .submit _ _ (.openSession _ _) => none
    | _ => installing earlier

/-- The manager a request to connect has made and not installed or given up yet. -/
def held : List ClientEvent → Option ManagerId
  | [] => none
  | event :: earlier =>
    match event.op, event.answer with
    | .spawnManager _, m => some m
    | .installManager _, _ => none
    | .submit _ _ _, false => none
    | .awaitReply _ _, some (.ok _) => held earlier
    | .awaitReply _ _, _ => none
    | _, _ => held earlier

/-- A session is going to be asked for, or the command is in the queue. -/
def Awaits (m : ManagerId) (now : Moment) : Prop :=
  (∃ task, installing (own task now.history) = some m) ∨
    ∃ ticket command, (ticket, command) ∈ now.world.queue m ∧ command.opens = true

/-- A call of the transport with this result leaves no session behind that its manager
accounts for. -/
def ModemCall.parts : ModemCall → Except TransportError Unit → Bool
  | .connectModem _, _ => true
  | .disconnectModem, _ => true
  | .openSession _, result => !result.isOk
  | .closeSession, result => !result.isOk
  | _, _ => false

/-- With this event a background task is left without a session, and neither its transport
nor a reconnect says so. -/
def leaves (history : List ClientEvent) (event : ClientEvent) : Bool :=
  match event.op, event.answer with
  | .modem _ call, answer => answer.reported.isNone && call.parts answer.result
  | .send _ .request _, sent => !sent.isOk
  | .recv _ _, .error .timeout => lastAttempt history && fatal history event
  | .recv _ _, .error _ => true
  | _, _ => lastAttempt history && fatal history event

/-- The `Connected` on display is that of the manager, which is in session. -/
def Established (m : ManagerId) (now : Moment) : Prop :=
  setter now.history = some m ∧ inSession (own (.actor m) now.history) = true

/-- If this manager is the one installed, `Connected` is on display only while it is about to
be asked for a session. -/
def Parted (m : ManagerId) (now : Moment) : Prop :=
  now.world.active = m → now.world.connectionState = .connected → Awaits m now

section Proof

section World

variable {world : World} {op : Op} {answer : Answer op}

end World

section Ghosts

/-! What one event adds to what is read off the history. -/

end Ghosts

section Steps

variable {now later : Moment} {thread : Task} {op : Op} {answer : Answer op} {m : ManagerId}

/-- If this manager is the one installed, its `Connected` is on display, or an opening is
awaited. -/
def Owned (m : ManagerId) (now : Moment) : Prop :=
  now.world.active = m → now.world.connectionState = .connected → Established m now ∨ Awaits m now

/-- What is known once a command has been carried out with this result. -/
structure Carried (m : ManagerId) (command : Command) (result : Reply) (now : Moment) : Prop where
  opened : command.opens = true → result.isOk = true → Owned m now
  refused : command.opens = true → result.isOk = false → Parted m now
  parted : command.opens = false → command.parts result = true → reportsDeath result = false →
    inSession (own (.actor m) now.history) = false ∨ Parted m now

end Steps

end Proof

end PacketBrowser.Client
