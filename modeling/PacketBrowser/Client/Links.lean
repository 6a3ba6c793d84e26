import PacketBrowser.Agwpe.Link
import PacketBrowser.Client.Session
import PacketBrowser.Foundation.Alone
import PacketBrowser.Foundation.Expand
import PacketBrowser.Vara.Transport

/-!
# The session driver over a particular modem

The session driver is written against any transport. For each kind of modem its transport
calls are programs over the connection to that modem; everything else the driver does is
done to the state it shares with other tasks, as before.
-/

namespace PacketBrowser.Client

open Protocol Foundation Program Agwpe Vara

/-- An operation of the client, or of the transport below it. -/
inductive LinkOp where
  | shared (op : Op)
  | agwpe (op : AgwpeOp)
  | vara (op : VaraOp)
  deriving DecidableEq

/-- The type of answers of each operation. -/
abbrev LinkAnswer : LinkOp → Type
  | .shared op => Answer op
  | .agwpe op => AgwpeAnswer op
  | .vara op => VaraAnswer op

/-- The shared state and one transport of each kind. -/
structure LinkWorld where
  client : World
  agwpe : AgwpeWorld
  vara : VaraWorld

/-- A transport tells the shared state, if it has one, about its modem. -/
def LinkWorld.told (world : LinkWorld) : AgwpeOp → World
  | .setState state =>
    if world.agwpe.hasState then world.client.apply (.setConnectionState state) () else world.client
  | _ => world.client

/-- The world after an answered operation. Other tasks may change the shared state at any
time, so every answer about it is possible. -/
def linkExec : (op : LinkOp) → LinkAnswer op → LinkWorld → Option LinkWorld
  | .shared op, answer, world => some { world with client := world.client.apply op answer }
  | .agwpe op, answer, world =>
    if world.agwpe.gives op answer then
      some { world with client := world.told op, agwpe := world.agwpe.apply op answer }
    else none
  | .vara op, answer, world => (varaExec op answer world.vara).map fun vara => { world with vara := vara }

/-- What the client does down to its modem. -/
abbrev LinkRoutine := Program LinkOp LinkAnswer

/-- The transport for AX.25, in the client. -/
def onAgwpe {α : Type} (program : AgwpeRoutine α) : LinkRoutine α :=
  program.expand fun op => Program.ask (.agwpe op)

/-- The transport for VARA, in the client. -/
def onVara {α : Type} (program : VaraRoutine α) : LinkRoutine α :=
  program.expand fun op => Program.ask (.vara op)

/-- Calls of a transport over an AGWPE modem. -/
def agwpeCall : ModemCall → AgwpeRoutine (Except TransportError Unit)
  | .connectModem config => (Agwpe.connectModem config).run
  | .disconnectModem => Agwpe.disconnectModem.run
  | .openSession config => (Agwpe.openSession config).run
  | .closeSession => Agwpe.closeSession.run
  | .openAx25Link => Agwpe.openAx25Link.run
  | .reopenModemConnection => Agwpe.reopenModemConnection.run
  | .queryPorts => Agwpe.queryPorts.run

/-- Calls of a transport over a VARA modem with this setting of the radio. -/
def varaCall (bandwidth : VaraBandwidth) : ModemCall → VaraRoutine (Except TransportError Unit)
  | .connectModem config => (Vara.connectModem config bandwidth).run
  | .disconnectModem => Vara.disconnectModem.run
  | .openSession config => (Vara.openSession config).run
  | .closeSession => Vara.closeSession.run
  | .openAx25Link => Vara.openAx25Link.run
  | .reopenModemConnection => Vara.reopenModemConnection.run
  | .queryPorts => Vara.queryPorts.run

/-- Times are in milliseconds. -/
def agwpeRecv (timeoutSecs : Nat) : AgwpeRoutine (Except TransportError TransportEvent) := do
  let now ← Agwpe.perform .clock
  (Agwpe.recv (now + 1000 * timeoutSecs)).run

/-- Wait so many seconds for the next event. -/
def varaRecv (timeoutSecs : Nat) : VaraRoutine (Except TransportError TransportEvent) := do
  let now ← Program.ask .clock
  Vara.recv (now + 1000 * timeoutSecs)

section Methods

variable (kind : TransportKind) (bandwidth : VaraBandwidth)

/-- A call of the transport of this kind. -/
def modemMethod (call : ModemCall) : LinkRoutine (Except TransportError Unit) :=
  match kind with
  | .ax25 => onAgwpe (agwpeCall call)
  | _ => onVara (varaCall bandwidth call)

/-- Send data through the transport of this kind. -/
def sendMethod (data : Bytes) : LinkRoutine (Except TransportError Unit) :=
  match kind with
  | .ax25 => onAgwpe (Agwpe.send data).run
  | _ => onVara (Vara.send data).run

/-- Wait for the next event of the transport of this kind. -/
def recvMethod (timeoutSecs : Nat) : LinkRoutine (Except TransportError TransportEvent) :=
  match kind with
  | .ax25 => onAgwpe (agwpeRecv timeoutSecs)
  | _ => onVara (varaRecv timeoutSecs)

/-- What a call reports and does to the link shows in its own operations, and not in its
answer. -/
def modemResult (result : Except TransportError Unit) : ModemAnswer := ⟨result, none, .kept⟩

/-- What an operation of the session driver is with the transport of this kind. -/
def method : (op : Op) → LinkRoutine (Answer op)
  | .modem _ call => (modemMethod kind bandwidth call).bind fun result => .done (modemResult result)
  | .portQuerySupported _ => .done (kind == .ax25)
  | .send _ _ data => sendMethod kind data
  | .recv _ timeoutSecs => recvMethod kind timeoutSecs
  | op => Program.ask (LinkOp.shared op)

end Methods

/-- An operation with its answer. -/
abbrev LinkEvent := Event Unit LinkAnswer

/-- The state and the history of a run, newest event first. -/
abbrev LinkMoment := Snapshot LinkWorld Unit LinkAnswer

/-- Every answer that the world gives is met with. -/
def anyLink (_ : LinkMoment) (_ : LinkEvent) : Prop := True

end PacketBrowser.Client
