import PacketBrowser.Client.Manager
import PacketBrowser.Client.Relink
import PacketBrowser.Client.Updates
import PacketBrowser.Foundation.Guided

/-!
# What a reconnect takes up again

A reconnect is to bring back the session that was lost: with the host, the port and the
callsign of the last connection to the modem, and with the station, the radio port and the
command of the session. Some of this the transport remembers, and some the background task
remembers. The rest is read from the configuration, which the operator may have changed.

Host and port are only passed through to the connection, so they are added here to the
programs of the transport. The operator may change the configuration between two calls, and
in the middle of a call. There a change shows only where the configuration is read, so it is
placed in front of that.
-/

namespace PacketBrowser.Client

open Protocol Foundation Program Setting Agwpe

section Programs

/-- Where the modem listens. -/
structure Endpoint where
  host : Text
  port : UInt16
  deriving DecidableEq

/-- An operation of the client and its modem, with what is read of the configuration and what is
dialled. -/
inductive RestoreOp where
  | link (op : LinkOp)
  /-- The operator changes the configuration meanwhile. -/
  | meanwhile
  /-- Host and port are read from the configuration. -/
  | readEndpoint
  | dial (endpoint : Endpoint)
  /-- The transport is told of a session, and records whom to address. -/
  | opens (config : SessionConfig) (target : AgwpeTarget)
  /-- The driver hands data to the transport. -/
  | hand (purpose : Purpose) (data : Bytes)
  deriving DecidableEq

/-- The type of answers of each operation. -/
abbrev RestoreAnswer : RestoreOp → Type
  | .link op => LinkAnswer op
  | .meanwhile => List ConfigUpdate
  | .readEndpoint => Endpoint
  | .dial _ => Except Text Unit
  | .opens _ _ => Unit
  | .hand _ _ => Unit

/-- The client and its modem, and the configuration, which may change. -/
structure RestoreWorld where
  link : LinkWorld
  config : FileConfig

/-- Where the modem listens. -/
def FileConfig.endpoint (config : FileConfig) : Endpoint := ⟨config.agwpeHost, config.agwpePort⟩

/-- The part of the configuration that the session driver reads. -/
def FileConfig.app (config : FileConfig) : AppConfig := ⟨config.bpqCommand, config.skipBpqApp⟩

/-- The configuration after some changes. -/
def FileConfig.edited (config : FileConfig) (updates : List ConfigUpdate) : FileConfig :=
  updates.foldl (fun config update => update.apply config) config

/-- An operation on the modem or on the shared state. -/
def RestoreWorld.linked (world : RestoreWorld) (op : LinkOp) (answer : LinkAnswer op) :
    Option RestoreWorld :=
  (linkExec op answer world.link).map fun link => { world with link := link }

/-- The world after an answered operation. -/
def restoreExec : (op : RestoreOp) → RestoreAnswer op → RestoreWorld → Option RestoreWorld
  | .link (.shared .readConfig), answer, world =>
    if answer = world.config.app then some world else none
  | .link op, answer, world => world.linked op answer
  | .meanwhile, updates, world => some { world with config := world.config.edited updates }
  | .readEndpoint, answer, world => if answer = world.config.endpoint then some world else none
  | .dial _, _, world => some world
  | .opens _ target, answer, world => world.linked (.agwpe (.recordTarget target)) answer
  | .hand _ _, _, world => some world

/-- What the client does down to its modem, with its configuration. -/
abbrev RestoreRoutine := Program RestoreOp RestoreAnswer

/-- A call of the transport that neither makes a connection nor opens a session. -/
def onLink {α : Type} (program : AgwpeRoutine α) : RestoreRoutine α :=
  program.expand fun op => Program.ask (RestoreOp.link (.agwpe op))

/-- An operation of a call that connects to the endpoint. -/
def dialing (endpoint : Endpoint) : (op : AgwpeOp) → RestoreRoutine (AgwpeAnswer op)
  | .connectTcp => Program.ask (RestoreOp.dial endpoint)
  | op => Program.ask (RestoreOp.link (.agwpe op))

/-- An operation of a call that opens the session. -/
def recording (config : SessionConfig) : (op : AgwpeOp) → RestoreRoutine (AgwpeAnswer op)
  | .recordTarget target => Program.ask (RestoreOp.opens config target)
  | op => Program.ask (RestoreOp.link (.agwpe op))

/-- The configuration of the session, as it is when it is read. -/
def readConfigured : RestoreRoutine AppConfig := do
  let _ ← Program.ask RestoreOp.meanwhile
  Program.ask (RestoreOp.link (.shared .readConfig))

/-- Host and port, as they are when they are read. -/
def readEndpoint : RestoreRoutine Endpoint := do
  let _ ← Program.ask RestoreOp.meanwhile
  Program.ask RestoreOp.readEndpoint

/-- What a reopened connection does behind the look at the configuration. -/
def reopenAs : AgwpeAttempt TransportError Unit := do
  let target ← ExceptT.lift (Agwpe.perform .target)
  ExceptT.lift endLink
  ExceptT.lift (Agwpe.perform .detach)
  mapTransportErr (connectModemInternal target.localCallsign)

/-- Opening the connection again asks for a state first. -/
theorem reopenModemConnection_eq :
    Agwpe.reopenModemConnection = requireState >>= fun _ => reopenAs := rfl

/-- The endpoint is read from the shared state once it is found. -/
def reopenConfigured : ExceptT TransportError RestoreRoutine Unit := do
  ExceptT.mk (onLink requireState.run)
  let endpoint ← ExceptT.lift readEndpoint
  ExceptT.mk (reopenAs.run.expand (dialing endpoint))

/-- A call of the transport. The endpoint is that of a call that connects. -/
def restoreCall (endpoint : Endpoint) : ModemCall → RestoreRoutine (Except TransportError Unit)
  | .connectModem config => (Agwpe.connectModem config).run.expand (dialing endpoint)
  | .openSession config => (Agwpe.openSession config).run.expand (recording config)
  | .reopenModemConnection => reopenConfigured.run
  | .disconnectModem => onLink Agwpe.disconnectModem.run
  | .closeSession => onLink Agwpe.closeSession.run
  | .openAx25Link => onLink Agwpe.openAx25Link.run
  | .queryPorts => onLink Agwpe.queryPorts.run

/-- What an operation of the session driver is with a transport over an AGWPE modem. -/
def restoreMethod (endpoint : Endpoint) : (op : Op) → RestoreRoutine (Answer op)
  | .modem _ call => (restoreCall endpoint call).bind fun result => .done (modemResult result)
  | .portQuerySupported _ => .done true
  | .send _ purpose data => do
    Program.ask (RestoreOp.hand purpose data)
    onLink (Agwpe.send data).run
  | .recv _ timeoutSecs => onLink (agwpeRecv timeoutSecs)
  | .readConfig => readConfigured
  | op => Program.ask (RestoreOp.link (.shared op))

end Programs

section Histories

/-- As whom the modem was connected to, and where. -/
structure ModemIdentity where
  endpoint : Endpoint
  callsign : Text
  deriving DecidableEq

/-- The client between two commands: the callsign that the background task remembers, the
last connection to the modem that succeeded, and the session that was opened last. -/
structure Station where
  world : RestoreWorld
  localCallsign : Text
  modem : Option ModemIdentity
  session : Option SessionConfig

/-- An operation and its answer. -/
abbrev RestoreEvent := Event Unit RestoreAnswer

/-- The state and the history of a run, newest event first. -/
abbrev RestoreMoment := Snapshot RestoreWorld Unit RestoreAnswer

/-- Nothing is asked of the answers. -/
def anyRestore (_ : RestoreMoment) (_ : RestoreEvent) : Prop := True

/-- A run of a program from a state. -/
abbrev Runs {α : Type} (program : RestoreRoutine α) (world : RestoreWorld) (now : RestoreMoment)
    (left : RestoreRoutine α) : Prop :=
  Leads restoreExec anyRestore program ⟨world, []⟩ now left

/-- The session that an event opens. -/
def openedBy (event : RestoreEvent) : Option SessionConfig :=
  match event.op with
  | .opens config _ => some config
  | _ => none

/-- The session that was opened last, in the history or before it. -/
def lastOpened (history : List RestoreEvent) (before : Option SessionConfig) : Option SessionConfig :=
  (history.findSome? openedBy).or before

variable (manager : ManagerId)

/-- The modem is connected. -/
def connectCall (endpoint : Endpoint) (config : TransportConfig) :
    RestoreRoutine (Except AgwpeError Unit) :=
  (handleConnectModem manager config).run.expand (restoreMethod endpoint)

/-- A session is opened. -/
def openCall (endpoint : Endpoint) (target : Text) (portNum : UInt8) (localCallsign : Text) :
    RestoreRoutine (Except AgwpeError Unit) :=
  (handleOpenSession manager target portNum localCallsign).run.expand (restoreMethod endpoint)

/-- A session is opened again. -/
def reconnectCall (endpoint : Endpoint) (reason localCallsign : Text) :
    RestoreRoutine (Except AgwpeError Unit) :=
  (handleReconnect manager reason localCallsign).run.expand (restoreMethod endpoint)

/-- The identity of a connection, if it succeeds. -/
def rememberModem (endpoint : Endpoint) (config : TransportConfig) (before : Option ModemIdentity) :
    Except AgwpeError Unit → Option ModemIdentity
  | .ok () => some ⟨endpoint, config.localCallsign⟩
  | .error _ => before

/-- Only a session that is opened changes whom the transport addresses, and to its station. -/
def RestoreOp.honest : RestoreOp → Prop
  | .link (.agwpe (.recordTarget _)) => False
  | .opens config target =>
    target.remoteCallsign = config.remoteCallsign ∧ target.agwpePort = config.agwpePort
  | _ => True

/-- The histories of a client: the modem is connected to, sessions are opened, the
configuration is changed, and whatever else is done, by calls that may have been given up. -/
inductive Reached : Station → Prop
  | start (world : RestoreWorld) : Reached ⟨world, [], none, none⟩
  | connectModem {station : Station} {now : RestoreMoment}
      {left : RestoreRoutine (Except AgwpeError Unit)} {result : Except AgwpeError Unit}
      (endpoint : Endpoint) (config : TransportConfig) (earlier : Reached station)
      (leads : Runs (connectCall manager endpoint config) station.world now left)
      (ends : left.Ends result) :
      Reached ⟨now.world, rememberCallsign config station.localCallsign result,
        rememberModem endpoint config station.modem result, lastOpened now.history station.session⟩
  | openSession {station : Station} {now : RestoreMoment}
      {left : RestoreRoutine (Except AgwpeError Unit)} (endpoint : Endpoint) (target : Text)
      (portNum : UInt8) (earlier : Reached station)
      (leads : Runs (openCall manager endpoint target portNum station.localCallsign) station.world
        now left) :
      Reached { station with
        world := now.world
        session := lastOpened now.history station.session }
  | edit {station : Station} (update : ConfigUpdate) (earlier : Reached station) :
      Reached { station with world :=
        { station.world with config := update.apply station.world.config } }
  | goes {station : Station} {now : RestoreMoment} {α : Type} {program left : RestoreRoutine α}
      (earlier : Reached station) (only : program.Only RestoreOp.honest)
      (leads : Runs program station.world now left) :
      Reached { station with
        world := now.world
        session := lastOpened now.history station.session }

end Histories

section Restoring

variable (modem : ModemIdentity) (session : SessionConfig)

/-- Whom the transport has to address. -/
def restoredTarget : AgwpeTarget := ⟨session.agwpePort, modem.callsign, session.remoteCallsign⟩

/-- The callsign is registered, or the frame belongs to the session. -/
def Addressed (frame : AgwpeFrame) : Prop :=
  frame = .new 0 .registerCallsign modem.callsign [] [] ∨
  ∃ kind data, frame = .new session.agwpePort kind modem.callsign session.remoteCallsign data

/-- The command has been handed to the transport. -/
def Commanded (history : List RestoreEvent) : Prop :=
  ∃ event ∈ history, ∃ data, event.op = .hand .appCommand data

/-- What an operation of the transport may use, where it may or may not connect. -/
def Addresses (dials : Prop) : AgwpeOp → Prop
  | .attach callsign => callsign = modem.callsign
  | .writeFrame frame => Addressed modem session frame
  | .recordTarget _ => False
  | .connectTcp => dials
  | _ => True

/-- What an operation of a reconnect may use. The callsign comes behind the command, unless
the session does without one. -/
def RestoreOp.restores (commanded : Prop) : RestoreOp → Prop
  | .dial endpoint => endpoint = modem.endpoint
  | .link (.agwpe op) => Addresses modem session False op
  | .opens _ _ => False
  | .hand .appCommand data =>
    session.skipBpqApp = false ∧ data = Utf8.encode (session.bpqCommand ++ ['\n'])
  | .hand .callsign data =>
    data = Utf8.encode (modem.callsign ++ ['\n']) ∧ (session.skipBpqApp = false → commanded)
  | _ => True

/-- The event uses what belongs to the connection and to the session. -/
def Restores (event : RestoreEvent) (earlier : List RestoreEvent) : Prop :=
  event.op.restores modem session (Commanded earlier)

/-- The configuration has the endpoint of the connection and the command of the session. -/
structure FileConfig.Fits (config : FileConfig) : Prop where
  endpoint : config.endpoint = modem.endpoint
  app : config.app = ⟨session.bpqCommand, session.skipBpqApp⟩

/-- Besides, no callsign was registered in vain since the connection. -/
structure RestoreWorld.Unaltered (world : RestoreWorld) : Prop where
  config : world.config.Fits modem session
  callsign : world.link.agwpe.target.localCallsign = modem.callsign

instance (config : FileConfig) : Decidable (config.Fits modem session) :=
  decidable_of_iff (config.endpoint = modem.endpoint ∧
      config.app = ⟨session.bpqCommand, session.skipBpqApp⟩)
    ⟨fun both => ⟨both.1, both.2⟩, fun fits => ⟨fits.endpoint, fits.app⟩⟩

/-- What the operator changes meanwhile leaves the configuration fitting. -/
def Unedited (now : RestoreMoment) (event : RestoreEvent) : Prop :=
  ∀ updates, event = ⟨(), .meanwhile, updates⟩ →
    (now.world.config.edited updates).Fits modem session

end Restoring

section Targets

variable {world after : RestoreWorld} {session : Option SessionConfig} {α : Type}

/-- Whom the transport addresses after an operation. -/
def RestoreOp.retarget : RestoreOp → AgwpeTarget → AgwpeTarget
  | .opens _ target, _ => target
  | .link (.agwpe (.recordTarget target)), _ => target
  | .link (.agwpe (.attach callsign)), target => { target with localCallsign := callsign }
  | _, target => target

/-- The configuration after an answered operation. -/
def FileConfig.behind (config : FileConfig) : (op : RestoreOp) → RestoreAnswer op → FileConfig
  | .meanwhile, updates => config.edited updates
  | _, _ => config

/-- What is looked at is answered as it is. -/
def RestoreWorld.tells (world : RestoreWorld) : (op : RestoreOp) → RestoreAnswer op → Prop
  | .link (.agwpe .target), answer => answer = world.link.agwpe.target
  | .link (.shared .readConfig), answer => answer = world.config.app
  | .readEndpoint, answer => answer = world.config.endpoint
  | _, _ => True

/-- What an operation on the modem does to whom the transport addresses. -/
theorem agwpe_cases {op : AgwpeOp} {answer : AgwpeAnswer op}
    (linked : world.linked (.agwpe op) answer = some after) :
    world.tells (.link (.agwpe op)) answer ∧ after.config = world.config ∧
      after.link.agwpe.target =
        (RestoreOp.link (.agwpe op)).retarget world.link.agwpe.target := by
  obtain ⟨link, executed, rfl⟩ := Option.map_eq_some_iff.mp linked
  simp only [linkExec] at executed
  split at executed
  · rename_i gives
    obtain rfl := Option.some.inj executed
    cases op with
    | target => exact ⟨beq_iff_eq.mp gives, rfl, rfl⟩
    | _ => exact ⟨trivial, rfl, rfl⟩
  · exact absurd executed (by simp)

/-- What an answered operation means for the configuration and for whom the transport
addresses. -/
theorem restore_cases {op : RestoreOp} {answer : RestoreAnswer op}
    (executed : restoreExec op answer world = some after) :
    world.tells op answer ∧ after.config = world.config.behind op answer ∧
      after.link.agwpe.target = op.retarget world.link.agwpe.target := by
  cases op with
  | link op =>
    cases op with
    | shared op =>
      cases op with
      | readConfig =>
        simp only [restoreExec] at executed
        split at executed
        · obtain rfl := Option.some.inj executed
          exact ⟨‹answer = _›, rfl, rfl⟩
        · exact absurd executed (by simp)
      | _ =>
        obtain rfl := Option.some.inj executed
        exact ⟨trivial, rfl, rfl⟩
    | agwpe op => exact agwpe_cases executed
    | vara op =>
      obtain ⟨link, changed, rfl⟩ := Option.map_eq_some_iff.mp executed
      obtain ⟨vara, _, rfl⟩ := Option.map_eq_some_iff.mp changed
      exact ⟨trivial, rfl, rfl⟩
  | opens config target =>
    obtain ⟨_, kept, recorded⟩ := agwpe_cases executed
    exact ⟨trivial, kept, recorded⟩
  | readEndpoint =>
    simp only [restoreExec] at executed
    split at executed
    · obtain rfl := Option.some.inj executed
      exact ⟨‹answer = _›, rfl, rfl⟩
    · exact absurd executed (by simp)
  | _ =>
    obtain rfl := Option.some.inj executed
    exact ⟨trivial, rfl, rfl⟩

/-- The transport addresses the station and the port of the session, if there is one. -/
def Agrees (target : AgwpeTarget) (session : Option SessionConfig) : Prop :=
  ∀ config, session = some config →
    target.remoteCallsign = config.remoteCallsign ∧ target.agwpePort = config.agwpePort

/-- Only a session that is opened changes the station, and it changes the session as well. -/
theorem honest_agrees {op : RestoreOp} {answer : RestoreAnswer op} {history : List RestoreEvent}
    (honest : op.honest) (executed : restoreExec op answer world = some after)
    (agrees : Agrees world.link.agwpe.target (lastOpened history session)) :
    Agrees after.link.agwpe.target (lastOpened (⟨(), op, answer⟩ :: history) session) := by
  rw [(restore_cases executed).2.2]
  cases op with
  | link op =>
    cases op with
    | agwpe op =>
      cases op with
      | recordTarget target => exact absurd honest id
      | _ => exact agrees
    | _ => exact agrees
  | opens config target =>
    intro opened equal
    obtain rfl : config = opened := Option.some.inj equal
    exact honest
  | _ => exact agrees

/-- Any run in which the transport keeps addressing the station of the session. -/
def keepingStation (session : Option SessionConfig) : Setting RestoreWorld Unit RestoreAnswer where
  exec := restoreExec
  meets := anyRestore
  inv := fun now => Agrees now.world.link.agwpe.target (lastOpened now.history session)

/-- Along a run the transport's target is the one of the session that was opened last. -/
theorem runs_agrees {program left : RestoreRoutine α} {now : RestoreMoment}
    (only : program.Only RestoreOp.honest) (leads : Runs program world now left)
    (agrees : Agrees world.link.agwpe.target session) :
    Agrees now.world.link.agwpe.target (lastOpened now.history session) := by
  have kept : ∀ op, RestoreOp.honest op → ∀ now answer later,
      (keepingStation session).Moves now ⟨(), op, answer⟩ later → (keepingStation session).inv later := by
    intro op honest now answer later moves
    show Agrees _ (lastOpened later.history session)
    rw [moves.occurs.2]
    exact honest_agrees honest moves.occurs.1 moves.inv
  exact (alone (S := keepingStation session) leads agrees (safe_only only kept _)).1

end Targets

section Honesty

/-! Every command of the background task is honest. -/

variable {α : Type}

/-- The operation records no target. -/
def targetless (op : AgwpeOp) : Prop := (LinkOp.agwpe op).staying

/-- A quiet program sets no target. -/
theorem quiet_targetless {program : AgwpeRoutine α} (quiet : program.Only quietAgwpe) :
    program.Only targetless := quiet.mono fun _ quiet => quiet.2

/-- An operation that records no target is an honest one. -/
theorem link_honest {op : AgwpeOp} (recordless : targetless op) :
    (RestoreOp.link (.agwpe op)).honest := by
  cases op with
  | recordTarget target => exact absurd recordless id
  | _ => trivial

/-- A program that sets no target is honest. -/
theorem onLink_honest {program : AgwpeRoutine α} (only : program.Only targetless) :
    (onLink program).Only RestoreOp.honest :=
  only_expand (fun _ recordless => only_ask _ (link_honest recordless)) only

/-- A program that dials and sets no target is honest. -/
theorem dialing_honest {endpoint : Endpoint} {program : AgwpeRoutine α}
    (only : program.Only targetless) :
    (program.expand (dialing endpoint)).Only RestoreOp.honest := by
  apply only_expand _ only
  intro op recordless
  cases op with
  | recordTarget target => exact absurd recordless id
  | _ => exact only_ask _ trivial

/-- Disconnecting sets no target. -/
theorem disconnectModem_targetless : Agwpe.disconnectModem.run.Only targetless := by
  apply only_bind _ (only_ask _ trivial)
  intro _
  apply only_bind _ (only_ask _ trivial)
  exact fun _ => trivial

/-- Closing a session sets no target. -/
theorem closeSession_targetless : Agwpe.closeSession.run.Only targetless := by
  apply only_attempt _ (quiet_targetless (requireConnected_quiet _))
  intro _
  apply only_lift
  apply only_bind _ (only_ask _ trivial)
  intro target
  apply only_bind _ (only_ask _ trivial)
  intro connected
  split
  · exact quiet_targetless (disconnectLink_quiet target)
  · trivial

/-- Waiting for a link sets no target. -/
theorem awaitLink_targetless : awaitLink.run.Only targetless := by
  apply only_bind _ (only_ask _ trivial)
  intro now
  apply only_loop
  intro _
  apply only_bind
  · apply only_bind _ (only_ask _ trivial)
    intro now
    split
    · trivial
    · exact only_ask _ trivial
  · exact fun _ => trivial

/-- Opening a link sets no target. -/
theorem openAx25Link_targetless : Agwpe.openAx25Link.run.Only targetless := by
  apply only_attempt _ (quiet_targetless (requireConnected_quiet _))
  intro _
  apply only_attempt _ (only_lift _ (only_ask _ trivial))
  intro target
  apply only_attempt _ (quiet_targetless (mapTransportErr_quiet (sendFrameInternal_quiet ⟨rfl, trivial⟩)))
  exact fun _ => awaitLink_targetless

/-- Asking for ports sets no target. -/
theorem queryPorts_targetless : Agwpe.queryPorts.run.Only targetless := by
  apply only_bind
  · apply only_attempt _ (quiet_targetless (requireConnected_quiet _))
    intro _
    apply only_attempt _ (only_lift _ (only_ask _ trivial))
    intro target
    apply only_attempt _ (quiet_targetless (sendFrameInternal_quiet ⟨rfl, trivial⟩))
    intro _
    apply only_loop
    intro _
    apply only_bind _ (only_ask _ trivial)
    exact fun _ => trivial
  · exact fun _ => trivial

/-- Sending pieces sets no target. -/
theorem sendChunks_targetless (pieces : List Bytes) : (sendChunks pieces).run.Only targetless := by
  induction pieces with
  | nil => trivial
  | cons chunk others inductionHypothesis =>
    apply only_attempt _ (only_lift _ (only_ask _ trivial))
    intro target
    apply only_attempt
    · apply only_bind _ (only_ask _ trivial)
      exact fun _ => trivial
    · exact fun _ => inductionHypothesis

/-- Sending data sets no target. -/
theorem send_targetless (data : Bytes) : (Agwpe.send data).run.Only targetless := by
  apply only_attempt _ (quiet_targetless (requireConnected_quiet _))
  intro _
  apply only_bind
  · apply only_attempt _ (sendChunks_targetless _)
    exact fun _ => quiet_targetless flush_quiet
  · exact fun _ => trivial

/-- Waiting for an event sets no target. -/
theorem agwpeRecv_targetless (timeoutSecs : Nat) : (agwpeRecv timeoutSecs).Only targetless := by
  apply only_bind _ (only_ask _ trivial)
  intro now
  apply only_attempt
  · apply only_bind
    · apply only_bind _ (only_ask _ trivial)
      intro now
      split
      · trivial
      · exact only_ask _ trivial
    · exact fun _ => trivial
  · exact fun _ => trivial

/-- Opening the connection again is honest. -/
theorem reopenConfigured_honest : reopenConfigured.run.Only RestoreOp.honest := by
  apply only_attempt _ (onLink_honest (quiet_targetless requireState_quiet))
  intro _
  apply only_attempt
  · apply only_lift
    apply only_bind _ (only_ask _ trivial)
    exact fun _ => only_ask _ trivial
  · intro endpoint
    apply dialing_honest
    apply only_attempt _ (only_lift _ (only_ask _ trivial))
    intro target
    apply only_attempt _ (only_lift _ (quiet_targetless endLink_quiet))
    intro _
    apply only_attempt _ (only_lift _ (only_ask _ trivial))
    exact fun _ => quiet_targetless (mapTransportErr_quiet (connectModemInternal_quiet _))

/-- Every call of the modem is honest. -/
theorem restoreCall_honest (endpoint : Endpoint) (call : ModemCall) :
    (restoreCall endpoint call).Only RestoreOp.honest := by
  cases call with
  | connectModem config =>
    exact dialing_honest (quiet_targetless (mapTransportErr_quiet (connectModemInternal_quiet _)))
  | disconnectModem => exact onLink_honest disconnectModem_targetless
  | openSession config =>
    apply only_bind _ (only_ask _ ⟨rfl, rfl⟩)
    exact fun _ => trivial
  | closeSession => exact onLink_honest closeSession_targetless
  | openAx25Link => exact onLink_honest openAx25Link_targetless
  | reopenModemConnection => exact reopenConfigured_honest
  | queryPorts => exact onLink_honest queryPorts_targetless

/-- Every method is honest. -/
theorem restoreMethod_honest (endpoint : Endpoint) (op : Op) :
    (restoreMethod endpoint op).Only RestoreOp.honest := by
  cases op with
  | modem manager call => exact only_bind _ (restoreCall_honest endpoint call) fun _ => trivial
  | portQuerySupported => trivial
  | send manager purpose data =>
    apply only_bind _ (only_ask _ trivial)
    exact fun _ => onLink_honest (send_targetless data)
  | recv manager timeoutSecs => exact onLink_honest (agwpeRecv_targetless timeoutSecs)
  | readConfig =>
    apply only_bind _ (only_ask _ trivial)
    exact fun _ => only_ask _ trivial
  | _ => exact only_ask _ trivial

/-- Whatever the driver does. -/
theorem driver_honest (endpoint : Endpoint) (program : Routine α) :
    (program.expand (restoreMethod endpoint)).Only RestoreOp.honest :=
  only_expand (fun op _ => restoreMethod_honest endpoint op) (only_any program)

variable {manager : ManagerId} {station : Station}

/-- The transport addresses the station of the session that was opened last. -/
theorem reached_agrees (reached : Reached manager station) :
    Agrees station.world.link.agwpe.target station.session := by
  induction reached with
  | start world => exact fun _ absent => absurd absent (by simp)
  | connectModem endpoint config _ leads _ inductionHypothesis =>
    exact runs_agrees (driver_honest endpoint _) leads inductionHypothesis
  | openSession endpoint target portNum _ leads inductionHypothesis =>
    exact runs_agrees (driver_honest endpoint _) leads inductionHypothesis
  | edit update _ inductionHypothesis => exact inductionHypothesis
  | goes _ only leads inductionHypothesis => exact runs_agrees only leads inductionHypothesis

/-- The background task remembers the callsign of the last connection to the modem. -/
theorem reached_callsign (reached : Reached manager station) :
    ∀ modem, station.modem = some modem → station.localCallsign = modem.callsign := by
  induction reached with
  | start world => exact fun _ absent => absurd absent (by simp)
  | @connectModem _ _ _ result endpoint config _ _ _ inductionHypothesis =>
    cases result with
    | ok done =>
      intro modem connected
      rw [← Option.some.inj connected]
      rfl
    | error error => exact inductionHypothesis
  | openSession _ _ _ _ _ inductionHypothesis => exact inductionHypothesis
  | edit _ _ inductionHypothesis => exact inductionHypothesis
  | goes _ _ _ inductionHypothesis => exact inductionHypothesis

end Honesty

section Transport

/-! What the transport does in a reconnect, with the answers of the connection and of the
session. -/

variable (modem : ModemIdentity) (session : SessionConfig)

/-- The transport is told whom it addresses. -/
def tellsTarget : (op : AgwpeOp) → AgwpeAnswer op → Prop
  | .target, answer => answer = restoredTarget modem session
  | _, _ => True

/-- The configuration and the transport are as they are to be. -/
def tellsRestored : (op : RestoreOp) → RestoreAnswer op → Prop
  | .link (.agwpe .target), answer => answer = restoredTarget modem session
  | .link (.shared .readConfig), answer => answer = ⟨session.bpqCommand, session.skipBpqApp⟩
  | .readEndpoint, answer => answer = modem.endpoint
  | _, _ => True

variable {modem} {session} {dials commanded : Prop} {α : Type}

variable (modem session dials) in
/-- The program keeps to the identity, and returns only values of which the assertion holds. -/
abbrev Keeping (program : AgwpeRoutine α) (post : α → Prop) : Prop :=
  program.Guided (tellsTarget modem session) (Addresses modem session dials) post

/-- The target that is read is the one that is to be restored. -/
theorem guided_target :
    Keeping modem session dials (Agwpe.perform .target) (· = restoredTarget modem session) :=
  guided_ask trivial fun _ => id

/-- A frame to the station of the session is addressed as it should be. -/
theorem addressed_frame (kind : FrameType) (data : Bytes) :
    Addressed modem session
      (.new session.agwpePort kind modem.callsign session.remoteCallsign data) :=
  Or.inr ⟨kind, data, rfl⟩

/-- Writing such a frame addresses as it should. -/
theorem writeFrame_addresses {frame : AgwpeFrame} (addressed : Addressed modem session frame) :
    (writeFrame frame).run.Only (Addresses modem session dials) :=
  only_bind _ (only_ask _ addressed) fun _ => trivial

/-- Flushing addresses nobody. -/
theorem flush_addresses : Agwpe.flush.run.Only (Addresses modem session dials) :=
  only_bind _ (only_ask _ trivial) fun _ => trivial

/-- Asking whether there is a connection addresses nobody. -/
theorem requireConnected_addresses {ε : Type} (notConnected : ε) :
    (requireConnected notConnected).run.Only (Addresses modem session dials) :=
  only_bind _ (only_ask _ trivial) fun _ => trivial

/-- Errors make no difference to who is addressed. -/
theorem mapTransportErr_addresses {attempt : AgwpeAttempt AgwpeError α}
    (only : attempt.run.Only (Addresses modem session dials)) :
    (mapTransportErr attempt).run.Only (Addresses modem session dials) :=
  only_bind _ only fun _ => trivial

/-- Sending such a frame addresses as it should. -/
theorem sendFrameInternal_addresses {frame : AgwpeFrame}
    (addressed : Addressed modem session frame) :
    (sendFrameInternal frame).run.Only (Addresses modem session dials) := by
  apply only_attempt _ (requireConnected_addresses _)
  intro _
  apply only_attempt _ (writeFrame_addresses addressed)
  exact fun _ => flush_addresses

/-- Taking the link down addresses the station of the session. -/
theorem disconnectLink_addresses :
    (disconnectLink (restoredTarget modem session)).Only (Addresses modem session dials) := by
  apply only_bind _ (sendFrameInternal_addresses (addressed_frame _ _))
  intro _
  apply only_loop
  intro _
  apply only_bind _ (only_ask _ trivial)
  exact fun _ => trivial

/-- Ending the link addresses the station of the session. -/
theorem guided_endLink : Keeping modem session dials endLink fun _ => True := by
  apply Guided.bind
  apply guided_ask trivial
  intro connected _
  cases connected with
  | false => trivial
  | true =>
    apply Guided.bind
    apply guided_target.mono
    rintro target rfl
    apply Guided.bind
    apply guided_ask trivial
    intro connected _
    cases connected with
    | false => trivial
    | true => exact guided_only disconnectLink_addresses

/-- Giving the registration up addresses nobody. -/
theorem giveUpRegistration_addresses (message : Text) :
    (giveUpRegistration message).Only (Addresses modem session dials) := by
  apply only_bind _ (only_ask _ trivial)
  intro _
  apply only_bind _ (only_ask _ trivial)
  exact fun _ => trivial

/-- The end of the registration addresses nobody. -/
theorem registrationResult_addresses (result : Except AgwpeError AgwpeFrame) :
    (registrationResult result).Only (Addresses modem session dials) := by
  cases result with
  | error err => exact giveUpRegistration_addresses _
  | ok frame =>
    unfold registrationResult
    dsimp only
    split
    · apply only_bind _ (only_ask _ trivial)
      exact fun _ => trivial
    · exact giveUpRegistration_addresses _

/-- Connecting registers the callsign of the modem. -/
theorem connectModemInternal_addresses :
    (connectModemInternal modem.callsign).run.Only (Addresses modem session True) := by
  apply only_bind _ (only_ask _ trivial)
  intro connected
  cases connected with
  | error message => exact only_bind _ (only_ask _ trivial) fun _ => trivial
  | ok connected =>
    have attach : Addresses modem session True (.attach modem.callsign) := rfl
    apply only_bind _ (only_ask _ attach)
    intro _
    have register : Addresses modem session True
        (.writeFrame (.new 0 .registerCallsign modem.callsign [] [])) := Or.inl rfl
    apply only_bind _ (only_ask _ register)
    intro written
    cases written with
    | error message => exact giveUpRegistration_addresses _
    | ok written =>
      apply only_bind _ (only_ask _ trivial)
      intro _
      exact only_bind _ (only_ask _ trivial) registrationResult_addresses

/-- Opening the connection again registers the callsign of the target. -/
theorem guided_reopenAs : Keeping modem session True reopenAs.run (Succeeds fun _ => True) := by
  apply guided_attempt _ (guided_lift guided_target)
  rintro target rfl
  apply guided_attempt _ (guided_lift guided_endLink)
  intro _ _
  apply guided_only_attempt (only_lift _ (only_ask _ trivial))
  exact fun _ => guided_only_run (mapTransportErr_addresses connectModemInternal_addresses)

/-- Waiting for a link addresses nobody. -/
theorem awaitLink_addresses : awaitLink.run.Only (Addresses modem session dials) := by
  apply only_bind _ (only_ask _ trivial)
  intro now
  apply only_loop
  intro _
  apply only_bind
  · apply only_bind _ (only_ask _ trivial)
    intro now
    split
    · trivial
    · exact only_ask _ trivial
  · exact fun _ => trivial

/-- Opening the link addresses the station of the session. -/
theorem guided_openAx25Link :
    Keeping modem session dials Agwpe.openAx25Link.run (Succeeds fun _ => True) := by
  apply guided_only_attempt (requireConnected_addresses _)
  intro _
  apply guided_attempt _ (guided_lift guided_target)
  rintro target rfl
  apply guided_only_attempt
    (mapTransportErr_addresses (sendFrameInternal_addresses (addressed_frame _ _)))
  exact fun _ => guided_only_run awaitLink_addresses

/-- Sending pieces addresses the station of the session. -/
theorem guided_sendChunks (pieces : List Bytes) :
    Keeping modem session dials (sendChunks pieces).run (Succeeds fun _ => True) := by
  induction pieces with
  | nil => trivial
  | cons chunk others inductionHypothesis =>
    apply guided_attempt _ (guided_lift guided_target)
    rintro target rfl
    apply guided_only_attempt (writeFrame_addresses (addressed_frame _ _))
    exact fun _ => inductionHypothesis

/-- Sending data addresses the station of the session. -/
theorem guided_send (data : Bytes) :
    Keeping modem session dials (Agwpe.send data).run (Succeeds fun _ => True) := by
  apply guided_only_attempt (requireConnected_addresses _)
  intro _
  have sent : Keeping modem session dials
      (sendChunks (chunks chunkSize data) >>= fun _ => Agwpe.flush).run (Succeeds fun _ => True) :=
    guided_attempt _ (guided_sendChunks _) fun _ _ => guided_only_run flush_addresses
  apply Guided.bind
  apply sent.mono
  intro result _
  cases result <;> trivial

/-- Waiting for an event addresses nobody. -/
theorem agwpeRecv_addresses (timeoutSecs : Nat) :
    (agwpeRecv timeoutSecs).Only (Addresses modem session dials) := by
  apply only_bind _ (only_ask _ trivial)
  intro now
  apply only_attempt
  · apply only_bind
    · apply only_bind _ (only_ask _ trivial)
      intro now
      split
      · trivial
      · exact only_ask _ trivial
    · exact fun _ => trivial
  · exact fun _ => trivial

end Transport

section Driver

variable {modem : ModemIdentity} {session : SessionConfig} {commanded : Prop} {α : Type}

variable (modem session commanded) in
/-- The program keeps to the identity and to the session. -/
abbrev Restoring (program : RestoreRoutine α) (post : α → Prop) : Prop :=
  program.Guided (tellsRestored modem session) (RestoreOp.restores modem session commanded) post

/-- A program of the transport restores what it keeps. -/
theorem restoring_onLink {program : AgwpeRoutine α} {post : α → Prop}
    (guided : Keeping modem session False program post) :
    Restoring modem session commanded (onLink program) post := by
  apply guided_expand _ guided
  intro op addresses
  have restores : (RestoreOp.link (.agwpe op)).restores modem session commanded := addresses
  apply guided_ask restores
  intro answer told
  cases op with
  | target => exact told
  | _ => trivial

/-- A program that dials restores what it keeps. -/
theorem restoring_dialing {program : AgwpeRoutine α} {post : α → Prop}
    (guided : Keeping modem session True program post) :
    Restoring modem session commanded (program.expand (dialing modem.endpoint)) post := by
  apply guided_expand _ guided
  intro op addresses
  cases op with
  | target => exact guided_ask trivial fun _ => id
  | connectTcp => exact guided_ask rfl fun _ _ => trivial
  | _ => exact guided_ask addresses fun _ _ => trivial

/-- Opening the connection again dials the modem's own endpoint. -/
theorem restoring_reopen :
    Restoring modem session commanded reopenConfigured.run (Succeeds fun _ => True) := by
  apply guided_attempt (fun _ => True)
  · apply restoring_onLink
    apply guided_only_run
    apply only_bind _ (only_ask _ trivial)
    exact fun _ => trivial
  · intro _ _
    apply guided_attempt (· = modem.endpoint)
    · apply guided_lift
      apply Guided.bind
      apply guided_ask trivial
      intro _ _
      exact guided_ask trivial fun _ => id
    · rintro endpoint rfl
      exact restoring_dialing guided_reopenAs

/-- What the driver may do in a reconnect. -/
def drives (modem : ModemIdentity) (session : SessionConfig) (commanded : Prop) : Op → Prop
  | .modem _ call => call = .reopenModemConnection ∨ call = .openAx25Link
  | .send _ purpose data => (RestoreOp.hand purpose data).restores modem session commanded
  | _ => True

/-- The driver is told the command of the session. -/
def tellsApp (session : SessionConfig) : (op : Op) → Answer op → Prop
  | .readConfig, answer => answer = ⟨session.bpqCommand, session.skipBpqApp⟩
  | _, _ => True

/-- A method that belongs to the reconnect restores. -/
theorem restoring_method (endpoint : Endpoint) {op : Op}
    (drive : drives modem session commanded op) :
    Restoring modem session commanded (restoreMethod endpoint op) (tellsApp session op) := by
  cases op with
  | modem manager call =>
    apply Guided.bind
    rcases drive with rfl | rfl
    · exact restoring_reopen.mono fun _ _ => trivial
    · exact (restoring_onLink guided_openAx25Link).mono fun _ _ => trivial
  | portQuerySupported => trivial
  | send manager purpose data =>
    have restores : (RestoreOp.hand purpose data).restores modem session commanded := drive
    apply Guided.bind
    apply guided_ask restores
    intro _ _
    exact (restoring_onLink (guided_send data)).mono fun _ _ => trivial
  | recv manager timeoutSecs =>
    exact (restoring_onLink (guided_only (agwpeRecv_addresses timeoutSecs))).mono fun _ _ => trivial
  | readConfig =>
    apply Guided.bind
    apply guided_ask trivial
    intro _ _
    exact guided_ask trivial fun _ => id
  | _ => exact guided_ask trivial fun _ _ => trivial

variable (modem session) in
/-- The reconnect on a station that fits. -/
def restoring : Setting RestoreWorld Unit RestoreAnswer where
  exec := restoreExec
  meets := Unedited modem session
  inv := fun now => Throughout (Restores modem session) now.history ∧
    now.world.config.Fits modem session ∧
    now.world.link.agwpe.target = restoredTarget modem session

/-- Less may be asked of what was commanded. -/
theorem restores_mono {op : RestoreOp} {weaker : Prop} (implies : commanded → weaker)
    (restores : op.restores modem session commanded) : op.restores modem session weaker := by
  cases op with
  | hand purpose data =>
    cases purpose with
    | callsign => exact ⟨restores.1, fun needed => implies (restores.2 needed)⟩
    | _ => exact restores
  | link op => cases op <;> exact restores
  | _ => exact restores

variable {now later : RestoreMoment}

/-- The answers are those of the connection and of the session, and nothing that the next
answers depend on changes. -/
theorem restores_world {op : RestoreOp} {answer : RestoreAnswer op}
    (restores : op.restores modem session commanded)
    (moves : (restoring modem session).Moves now ⟨(), op, answer⟩ later) :
    tellsRestored modem session op answer ∧ later.world.config.Fits modem session ∧
      later.world.link.agwpe.target = restoredTarget modem session := by
  obtain ⟨⟨executed, _⟩, unedited, _, fits, target⟩ := moves
  obtain ⟨tells, config, retargeted⟩ := restore_cases executed
  dsimp only at tells config retargeted
  rw [config, retargeted, target]
  cases op with
  | meanwhile => exact ⟨trivial, unedited answer rfl, rfl⟩
  | readEndpoint => exact ⟨tells.trans fits.endpoint, fits, rfl⟩
  | opens => exact absurd restores id
  | link op =>
    cases op with
    | shared op =>
      cases op with
      | readConfig => exact ⟨tells.trans fits.app, fits, rfl⟩
      | _ => exact ⟨trivial, fits, rfl⟩
    | agwpe op =>
      cases op with
      | target => exact ⟨tells.trans target, fits, rfl⟩
      | recordTarget => exact absurd restores id
      | attach callsign =>
        obtain rfl : callsign = modem.callsign := restores
        exact ⟨trivial, fits, rfl⟩
      | _ => exact ⟨trivial, fits, rfl⟩
    | vara op => exact ⟨trivial, fits, rfl⟩
  | _ => exact ⟨trivial, fits, rfl⟩

/-- What is guided keeps to the connection and to the session. -/
theorem triple_restoring {program : RestoreRoutine α} {post : α → Prop}
    (guided : Restoring modem session commanded program post) :
    (restoring modem session).Triple () (fun now => commanded → Commanded now.history) program
      fun value now => post value ∧ (commanded → Commanded now.history) := by
  apply triple_guided (stable_alone _) _ guided
  intro op restores now answer later holds moves
  obtain ⟨told, fits, target⟩ := restores_world restores moves
  obtain ⟨⟨_, grown⟩, _, kept, _⟩ := moves
  constructor
  · exact told
  · rw [grown]
    constructor
    · constructor
      · rw [grown]
        exact ⟨restores_mono holds restores, kept⟩
      · exact ⟨fits, target⟩
    · intro given
      obtain ⟨event, member, data, purpose⟩ := holds given
      exact ⟨event, List.mem_cons_of_mem _ member, data, purpose⟩

end Driver

section Reconnect

variable {modem : ModemIdentity} {session : SessionConfig} {commanded : Prop} {α β : Type}
variable {endpoint : Endpoint} {manager : ManagerId} {localCallsign : Text}

/-- The command has been handed over, if it was to be. -/
def Ready (commanded : Prop) (now : RestoreMoment) : Prop := commanded → Commanded now.history

/-- An assertion on success only. -/
def ifSucceeds (holds : RestoreMoment → Prop) : Except AgwpeError α → RestoreMoment → Prop :=
  outcome (fun _ => holds) fun _ _ => True

/-- A guided program of the driver restores, as its operations do. -/
theorem driver_guided {program : Routine α} {post : α → Prop}
    (guided : program.Guided (tellsApp session) (drives modem session commanded) post) :
    (restoring modem session).Triple () (Ready commanded)
      (program.expand (restoreMethod endpoint)) fun value now => post value ∧ Ready commanded now :=
  triple_restoring (guided_expand (fun _ drive => restoring_method endpoint drive) guided)

/-- What may do nothing else anyway. -/
theorem driver_only {program : Routine α} (only : program.Only (drives modem session commanded)) :
    (restoring modem session).Triple () (Ready commanded)
      (program.expand (restoreMethod endpoint)) fun _ => Ready commanded :=
  (driver_guided (guided_only only)).consequence (fun _ => id) fun _ _ holds => holds.2

/-- A part of what may fail, in front of the rest. -/
theorem reconnect_attempt {first : Attempt α} {after : α → Attempt β}
    {post : RestoreMoment → Prop} (only : first.run.Only (drives modem session commanded))
    (rest : ∀ value, (restoring modem session).Triple () (Ready commanded)
      ((after value).run.expand (restoreMethod endpoint)) (ifSucceeds post)) :
    (restoring modem session).Triple () (Ready commanded)
      ((first >>= after).run.expand (restoreMethod endpoint)) (ifSucceeds post) := by
  apply triple_expand_attempt (fun _ => Ready commanded) (fun _ => stable_alone _) _ rest
  apply (driver_only only).consequence (fun _ => id)
  intro result now ready
  cases result with
  | ok value => exact ready
  | error error => trivial

/-- Putting a state on display belongs to the reconnect. -/
theorem setState_drives (state : ConnectionState) :
    (setState state).Only (drives modem session commanded) := only_ask _ trivial

/-- The two calls of the modem belong to the reconnect. -/
theorem callModem_drives {call : ModemCall}
    (reopens : call = .reopenModemConnection ∨ call = .openAx25Link) :
    (callModem manager call).run.Only (drives modem session commanded) := by
  have permitted : drives modem session commanded (.modem manager call) := reopens
  exact only_bind _ (only_ask _ permitted) fun _ => trivial

/-- Stopping for a disconnect belongs to the reconnect. -/
theorem bailIfAborted_drives :
    (bailIfAborted manager).run.Only (drives modem session commanded) :=
  (bailIfAborted_only manager).mono (by rintro op rfl; trivial)

/-- Waiting for a text belongs to the reconnect. -/
theorem awaitText_drives (found : Text → Bool) :
    (awaitText manager found).run.Only (drives modem session commanded) := by
  rw [awaitText_run]
  apply only_loop
  intro _
  apply only_bind _ (only_ask _ trivial)
  exact fun _ => trivial

/-- The command goes to the transport before anything else is sent. -/
theorem sendCommand_commands (needed : session.skipBpqApp = false) :
    (restoring modem session).Triple () (Ready False)
      (restoreMethod endpoint
        (.send manager .appCommand (Utf8.encode (session.bpqCommand ++ ['\n']))))
      fun _ => Ready True := by
  have restores : (RestoreOp.hand .appCommand (Utf8.encode (session.bpqCommand ++ ['\n']))).restores
      modem session False := ⟨needed, rfl⟩
  apply triple_bind fun _ => Ready True
  · apply triple_ask (stable_alone _) (fun _ => stable_alone _)
    intro now answer later _ moves
    obtain ⟨_, fits, target⟩ := restores_world restores moves
    obtain ⟨⟨_, grown⟩, _, kept, _⟩ := moves
    constructor
    · constructor
      · rw [grown]
        exact ⟨restores_mono False.elim restores, kept⟩
      · exact ⟨fits, target⟩
    · intro _
      rw [grown]
      exact ⟨_, List.mem_cons_self, _, rfl⟩
  · intro _
    exact (triple_restoring (restoring_onLink (guided_send _))).consequence (fun _ => id)
      fun _ _ holds => holds.2

/-- The driver is told the command of the session. -/
theorem readApp_told :
    (restoring modem session).Triple () (Ready False)
      ((ExceptT.lift readConfig : Attempt AppConfig).run.expand (restoreMethod endpoint))
      (outcome (fun config _ => config = ⟨session.bpqCommand, session.skipBpqApp⟩)
        fun _ _ => True) := by
  have told : (ExceptT.lift readConfig : Attempt AppConfig).run.Guided (tellsApp session)
      (drives modem session False) (Succeeds (· = ⟨session.bpqCommand, session.skipBpqApp⟩)) :=
    guided_lift (guided_ask trivial fun _ => id)
  apply (driver_guided told).consequence (fun _ => id)
  intro result now holds
  cases result with
  | ok config => exact holds.1
  | error error => trivial

/-- Where the application is to be entered, its command is sent. -/
theorem sendAppCommand_commands (needed : session.skipBpqApp = false) :
    (restoring modem session).Triple () (Ready False)
      ((bpqSendAppCommand manager).run.expand (restoreMethod endpoint))
      (ifSucceeds (Ready True)) := by
  apply triple_expand_attempt (fun config _ => config = ⟨session.bpqCommand, session.skipBpqApp⟩)
    (fun _ => stable_alone _) readApp_told
  intro config now same
  have commands : (restoring modem session).Triple () (Ready False)
      ((sendBytes manager .appCommand (Utf8.encode (session.bpqCommand ++ ['\n']))).run.expand
        (restoreMethod endpoint)) (ifSucceeds (Ready True)) := by
    apply triple_bind (fun _ => Ready True) (sendCommand_commands needed)
    intro answer
    apply triple_done (stable_alone _)
    intro now ready
    cases answer with
    | ok sent => exact ready
    | error error => trivial
  subst same
  exact commands now False.elim

/-- Behind the application, the command has been handed over if the session has one. -/
theorem reenterApplication_ready :
    (restoring modem session).Triple () (Ready False)
      ((reenterApplication manager session.skipBpqApp).run.expand (restoreMethod endpoint))
      (ifSucceeds (Ready (session.skipBpqApp = false))) := by
  cases needed : session.skipBpqApp with
  | true =>
    apply triple_done (stable_alone _)
    intro now _ absent
    exact absurd absent (by simp)
  | false =>
    apply triple_expand_attempt (fun _ => Ready True) (fun _ => stable_alone _)
      (sendAppCommand_commands needed)
    intro _
    apply (driver_only bailIfAborted_drives).consequence (fun _ => id)
    intro result now ready
    cases result with
    | ok value => exact fun _ => ready trivial
    | error error => trivial

variable (manager localCallsign) in
/-- The handshake behind the application. -/
def receiveHandshake : Attempt Text := do
  bpqAwaitCallsignPromptAndSendCallsign manager localCallsign
  bailIfAborted manager
  let disclaimer ← bpqAwaitDisclaimer manager
  bailIfAborted manager
  return disclaimer

/-- The handshake tells the callsign of the modem. -/
theorem receiveHandshake_drives (same : localCallsign = modem.callsign) :
    (receiveHandshake manager localCallsign).run.Only
      (drives modem session (session.skipBpqApp = false)) := by
  subst same
  apply only_attempt
  · apply only_attempt _ (awaitText_drives _)
    intro _
    have callsign : drives modem session (session.skipBpqApp = false)
        (.send manager .callsign (Utf8.encode (modem.callsign ++ ['\n']))) := ⟨rfl, id⟩
    exact only_bind _ (only_ask _ callsign) fun _ => trivial
  · intro _
    apply only_attempt _ bailIfAborted_drives
    intro _
    apply only_attempt _ (awaitText_drives _)
    intro _
    apply only_attempt _ bailIfAborted_drives
    exact fun _ => trivial

/-- The handshake of a reconnect restores, and commands where it should. -/
theorem receiveAgain_restores {reason : Text} (same : localCallsign = modem.callsign) :
    (restoring modem session).Triple () (Ready False)
      ((receiveAgain manager reason localCallsign).run.expand (restoreMethod endpoint))
      (ifSucceeds (Ready (session.skipBpqApp = false))) := by
  apply reconnect_attempt (callModem_drives (Or.inl rfl))
  intro _
  apply reconnect_attempt (only_lift _ (setState_drives _))
  intro _
  apply reconnect_attempt bailIfAborted_drives
  intro _
  apply reconnect_attempt (callModem_drives (Or.inr rfl))
  intro _
  apply reconnect_attempt bailIfAborted_drives
  intro _
  apply triple_expand_attempt (fun config _ => config = ⟨session.bpqCommand, session.skipBpqApp⟩)
    (fun _ => stable_alone _) readApp_told
  intro config now told
  have shakes : (restoring modem session).Triple () (Ready False)
      ((reenterApplication manager session.skipBpqApp >>= fun _ =>
        receiveHandshake manager localCallsign).run.expand (restoreMethod endpoint))
      (ifSucceeds (Ready (session.skipBpqApp = false))) := by
    apply triple_expand_attempt (fun _ => Ready (session.skipBpqApp = false))
      (fun _ => stable_alone _) reenterApplication_ready
    intro _
    apply (driver_only (receiveHandshake_drives same)).consequence (fun _ => id)
    intro result now ready
    cases result with
    | ok disclaimer => exact ready
    | error error => trivial
  subst told
  exact shakes now False.elim

/-- Comparing the disclaimers belongs to the reconnect. -/
theorem requireAgreed_drives (disclaimer : Text) :
    (requireAgreed disclaimer).run.Only (drives modem session commanded) := by
  apply only_attempt _ (only_lift _ (only_ask _ trivial))
  intro stored
  unfold requireStored
  split
  · trivial
  · apply only_attempt _ (only_lift _ (setState_drives _))
    exact fun _ => trivial

/-- Setting the session up again restores it. -/
theorem reestablish_restores {reason : Text} (same : localCallsign = modem.callsign) :
    (restoring modem session).Triple () (Ready False)
      ((reestablish manager reason localCallsign).run.expand (restoreMethod endpoint))
      (ifSucceeds (Ready (session.skipBpqApp = false))) := by
  apply triple_expand_attempt (fun _ => Ready (session.skipBpqApp = false))
    (fun _ => stable_alone _) (receiveAgain_restores same)
  intro disclaimer
  apply reconnect_attempt (requireAgreed_drives disclaimer)
  intro _
  apply reconnect_attempt bailIfAborted_drives
  intro _
  apply reconnect_attempt
  · apply only_bind _ (only_ask _ trivial)
    exact fun _ => trivial
  · intro _
    apply (driver_only (only_lift _ (setState_drives _))).consequence (fun _ => id)
    intro result now ready
    cases result with
    | ok value => exact ready
    | error error => trivial

/-- On a station that fits, the reconnect keeps to the connection and to the session. -/
theorem reconnectCall_restores {reason : Text} (same : localCallsign = modem.callsign) :
    (restoring modem session).Triple () (Ready False)
      (reconnectCall manager endpoint reason localCallsign) fun _ _ => True := by
  apply triple_expand_bind (fun _ => Ready False) (driver_only (setState_drives _))
  intro _
  apply triple_expand_bind (fun _ => Ready False)
    ((reestablish_restores same).consequence (fun _ => id) fun _ _ _ => False.elim)
  intro result
  apply Triple.consequence _ (fun _ => id) fun _ _ _ => trivial
  · exact fun _ => Ready False
  · apply driver_only
    split
    · trivial
    · trivial
    · apply only_bind _ (setState_drives _)
      exact fun _ => trivial

end Reconnect

section Course

/-- The modem on this computer. -/
def localModem : ModemIdentity := ⟨⟨"127.0.0.1".toList, 8000⟩, "W1TEST".toList⟩

/-- The modem of the runs below. -/
def localConfig : TransportConfig := ⟨.ax25, "W1TEST".toList⟩

/-- A session without an application command. -/
def directSession : SessionConfig := ⟨"W1TEST".toList, "N0CALL".toList, "WEB".toList, true, 2⟩

/-- The station of the runs below. -/
def directTarget : AgwpeTarget := ⟨2, "W1TEST".toList, "N0CALL".toList⟩

/-- Nothing is connected yet. -/
def directStart : RestoreWorld :=
  ⟨⟨.initial, ⟨false, true, ⟨0, [], []⟩⟩, ⟨false, [], [], 0⟩⟩,
    { FileConfig.default with skipBpqApp := true }⟩

/-- An event of the modem. -/
def onModem (op : AgwpeOp) (answer : AgwpeAnswer op) : Sigma RestoreAnswer := ⟨.link (.agwpe op), answer⟩

/-- An event of the client. -/
def onShared (op : Op) (answer : Answer op) : Sigma RestoreAnswer := ⟨.link (.shared op), answer⟩

/-- The modem is connected to, and accepts the callsign. -/
def connectEvents : List (Sigma RestoreAnswer) :=
  [⟨.dial localModem.endpoint, .ok ()⟩, onModem (.attach "W1TEST".toList) (),
    onModem (.writeFrame (.new 0 .registerCallsign "W1TEST".toList [] [])) (.ok ()),
    onModem .flush (.ok ()),
    onModem .readFrame (.ok (.new 0 .registerCallsign "W1TEST".toList [] [1])),
    onModem (.setState .agwpeConnected) ()]

/-- The configuration is read, and nobody changes it. -/
def readConfigEvents : List (Sigma RestoreAnswer) :=
  [⟨.meanwhile, []⟩, onShared .readConfig ⟨"WEB".toList, true⟩]

/-- A frame goes out over the connection. -/
def frameEvents (kind : FrameType) (data : Bytes) : List (Sigma RestoreAnswer) :=
  [onModem (.writeFrame (.new 2 kind "W1TEST".toList "N0CALL".toList data)) (.ok ()),
    onModem .flush (.ok ())]

/-- Data is sent in one frame. -/
def sendEvents (purpose : Purpose) (data : Bytes) : List (Sigma RestoreAnswer) :=
  [⟨.hand purpose data, ()⟩, onModem .isConnected true, onModem .target directTarget] ++
    frameEvents .sendData data

/-- A frame comes. -/
def recvEvents (kind : FrameType) (data : Bytes) : List (Sigma RestoreAnswer) :=
  [onModem .clock 0, onModem .clock 0,
    onModem .readFrame (.ok (.new 2 kind "N0CALL".toList "W1TEST".toList data))]

/-- A session is opened, up to the agreement. -/
def openSessionEvents : List (Sigma RestoreAnswer) :=
  [onShared (.storeAbort 0 false) ()] ++ readConfigEvents ++ readConfigEvents ++
    [⟨.opens directSession directTarget, ()⟩, onShared (.setConnectionState .connecting) (),
      onModem .isConnected true, onModem .target directTarget, onModem .isConnected true] ++
    frameEvents .connect [] ++ recvEvents .connected [] ++ readConfigEvents ++
    recvEvents .sendData (ascii "callsign:") ++ sendEvents .callsign (ascii "W1TEST\n") ++
    recvEvents .sendData (ascii "AGREE?") ++
    [onShared (.parkConsent "AGREE?".toList) 0, onShared (.awaitConsent 0) (.decided true)] ++
    sendEvents (.agreeByOperator "AGREE?".toList) agreeBytes ++
    [onShared (.setConnectionState .connected) ()]

/-- The old link is ended, and the modem is connected to. -/
def reconnectEvents (endpoint : Endpoint) : List (Sigma RestoreAnswer) :=
  [onShared (.setConnectionState (.reconnecting [])) (), onModem .hasState true, ⟨.meanwhile, []⟩,
    ⟨.readEndpoint, endpoint⟩, onModem .target directTarget, onModem .isConnected true,
    onModem .target directTarget, onModem .isConnected true, onModem .isConnected true] ++
    frameEvents .disconnect [] ++
    [onModem .readFrame (.ok (.new 2 .disconnect "N0CALL".toList "W1TEST".toList [])),
      onModem .detach (), ⟨.dial endpoint, .ok ()⟩]

variable {exec : (op : RestoreOp) → RestoreAnswer op → RestoreWorld → Option RestoreWorld}
variable {α : Type} {program : RestoreRoutine α} {world : RestoreWorld}
variable {events : List (Sigma RestoreAnswer)}

/-- The moment behind the events. -/
def momentBehind (exec : (op : RestoreOp) → RestoreAnswer op → RestoreWorld → Option RestoreWorld)
    (program : RestoreRoutine α) (world : RestoreWorld) (events : List (Sigma RestoreAnswer)) :
    RestoreMoment :=
  match program.follow exec 3 ⟨world, []⟩ events with
  | some (now, _) => now
  | none => ⟨world, []⟩

/-- The events are those of a run. -/
theorem leads_momentBehind
    (followed : (program.follow exec 3 ⟨world, []⟩ events).isSome = true) :
    ∃ left, Leads exec anyRestore program ⟨world, []⟩ (momentBehind exec program world events) left := by
  obtain ⟨⟨now, left⟩, run⟩ := Option.isSome_iff_exists.mp followed
  refine ⟨left, ?_⟩
  unfold momentBehind
  rw [run]
  exact (follow_leads 3 events (fun _ _ => trivial) run).1

/-- The program is over behind the events. -/
def valueBehind (program : RestoreRoutine α) (world : RestoreWorld)
    (events : List (Sigma RestoreAnswer)) : Option α :=
  (program.follow restoreExec 3 ⟨world, []⟩ events).bind fun reached => (reached.2.expose 3).value?

/-- A program that has run along the events has ended at the moment behind them. -/
theorem ends_momentBehind {value : α} (finished : valueBehind program world events = some value) :
    ∃ left, Runs program world (momentBehind restoreExec program world events) left ∧
      left.Ends value := by
  obtain ⟨⟨now, left⟩, run, ended⟩ := Option.bind_eq_some_iff.mp finished
  refine ⟨left, ?_, ends_of_expose 3 left value ended⟩
  unfold momentBehind
  rw [run]
  exact (follow_leads 3 events (fun _ _ => trivial) run).1

/-- The modem has been connected to. -/
def directConnected : RestoreMoment :=
  momentBehind restoreExec (connectCall 0 localModem.endpoint localConfig) directStart connectEvents

/-- The session of the runs below is open. -/
def directOpened : RestoreMoment :=
  momentBehind restoreExec
    (openCall 0 localModem.endpoint directSession.remoteCallsign 2 localModem.callsign)
    directConnected.world openSessionEvents

/-- The operator names another target. -/
def otherTarget : ConfigUpdate := ⟨none, none, none, some "N0CALL-7".toList, none, none⟩

/-- The operator names another host. -/
def otherHost : ConfigUpdate := ⟨some "192.168.0.9".toList, none, none, none, none, none⟩

/-- Another host. -/
def otherEndpoint : Endpoint := ⟨"192.168.0.9".toList, 8000⟩

/-- The session is up, and the operator changes the configuration. -/
def directEdited (update : ConfigUpdate) : Station :=
  ⟨{ directOpened.world with config := update.apply directOpened.world.config },
    localModem.callsign, some localModem, some directSession⟩

/-- The moment behind an edit can be reached. -/
theorem directEdited_reached (update : ConfigUpdate) : Reached 0 (directEdited update) := by
  have connects : valueBehind (connectCall 0 localModem.endpoint localConfig) directStart
      connectEvents = some (.ok ()) := by decide
  have opens : ((openCall 0 localModem.endpoint directSession.remoteCallsign 2
      localModem.callsign).follow restoreExec 3 ⟨directConnected.world, []⟩
        openSessionEvents).isSome = true := by decide
  have session : lastOpened directOpened.history (lastOpened directConnected.history none) =
      some directSession := by decide
  obtain ⟨left, leads, ends⟩ := ends_momentBehind connects
  have connected : Reached 0 ⟨directConnected.world, localModem.callsign, some localModem,
      lastOpened directConnected.history none⟩ :=
    .connectModem localModem.endpoint localConfig (.start directStart) leads ends
  obtain ⟨left, leads⟩ := leads_momentBehind opens
  have opened : Reached 0 ⟨directOpened.world, localModem.callsign, some localModem,
      some directSession⟩ := by
    rw [← session]
    exact .openSession localModem.endpoint directSession.remoteCallsign 2 connected leads
  exact .edit update opened

/-- The session is not only begun, but opened. -/
example : valueBehind (openCall 0 localModem.endpoint directSession.remoteCallsign 2
    localModem.callsign) directConnected.world openSessionEvents = some (.ok ()) := by decide

/-- The events dial somewhere. -/
def dials (endpoint : Endpoint) (history : List RestoreEvent) : Bool :=
  history.any fun event => event.op == .dial endpoint

/-- Where a restored connection dials is where it was. -/
theorem restores_dials {modem : ModemIdentity} {session : SessionConfig}
    {history : List RestoreEvent} {endpoint : Endpoint}
    (restores : Throughout (Restores modem session) history)
    (dialed : dials endpoint history = true) : endpoint = modem.endpoint := by
  obtain ⟨event, member, same⟩ := List.any_eq_true.mp dialed
  obtain ⟨later, earlier, split⟩ := List.append_of_mem member
  have restored := throughout_iff.mp restores later event earlier split
  unfold Restores at restored
  rw [beq_iff_eq.mp same] at restored
  exact restored

/-- Only operations that leave the configuration fitting. -/
def undisturbed (modem : ModemIdentity) (session : SessionConfig) (op : RestoreOp)
    (answer : RestoreAnswer op) (world : RestoreWorld) : Option RestoreWorld :=
  (restoreExec op answer world).filter fun after => after.config.Fits modem session

/-- An undisturbed step leaves the configuration as it fits. -/
theorem undisturbed_unedited {modem : ModemIdentity} {session : SessionConfig}
    (moment : RestoreMoment) (event : RestoreEvent) (after : RestoreMoment)
    (occurs : Occurs (undisturbed modem session) moment event after) :
    Occurs restoreExec moment event after ∧ Unedited modem session moment event := by
  obtain ⟨executed, grown⟩ := occurs
  obtain ⟨possible, fits⟩ := Option.filter_eq_some_iff.mp executed
  constructor
  · exact ⟨possible, grown⟩
  · rintro updates rfl
    have edited := (restore_cases possible).2.1
    have still : after.world.config.Fits modem session := of_decide_eq_true fits
    rw [edited] at still
    exact still

/-- From every state that a history of the client leads to, a reconnect uses the endpoint
and the callsign of the last connection to the modem and what belongs to the last session,
if the configuration still has the endpoint, the command and whether to skip it, and no
callsign was registered in vain since.

In every state reached, the transport addresses what belongs to the last session, under the
callsign of the last connection. The reconnect follows the station, part by part, and each write
is judged by these. -/
theorem reconnect_restores {manager : ManagerId} {station : Station} {modem : ModemIdentity}
    {session : SessionConfig} (reached : Reached manager station)
    (connected : station.modem = some modem) (opened : station.session = some session)
    (unaltered : station.world.Unaltered modem session) (endpoint : Endpoint) (reason : Text)
    {now : RestoreMoment} {left : RestoreRoutine (Except AgwpeError Unit)}
    (leads : Leads restoreExec (Unedited modem session)
      (reconnectCall manager endpoint reason station.localCallsign) ⟨station.world, []⟩ now left) :
    Throughout (Restores modem session) now.history := by
  obtain ⟨remote, port⟩ := reached_agrees reached session opened
  have target : station.world.link.agwpe.target = restoredTarget modem session := by
    have callsign := unaltered.callsign
    generalize station.world.link.agwpe.target = target at remote port callsign
    cases target
    simp only at remote port callsign
    rw [remote, port, callsign]
    rfl
  have called : (restoring modem session).Triple () (Ready False)
      (reconnectCall manager endpoint reason station.localCallsign) fun _ _ => True :=
    reconnectCall_restores (reached_callsign reached modem connected)
  have safe := called ⟨station.world, []⟩ False.elim
  exact (alone (S := restoring modem session) leads ⟨trivial, unaltered.config, target⟩ safe).1.1

/-- The operator changes the target only, and the reconnect dials. -/
theorem reconnect_restores_direct : ∃ station now left,
    Reached 0 station ∧ station.modem = some localModem ∧ station.session = some directSession ∧
    Leads restoreExec (Unedited localModem directSession)
      (reconnectCall 0 localModem.endpoint [] station.localCallsign) ⟨station.world, []⟩ now left ∧
    dials localModem.endpoint now.history = true ∧
    Throughout (Restores localModem directSession) now.history := by
  have run : ((reconnectCall 0 localModem.endpoint [] localModem.callsign).follow
      (undisturbed localModem directSession) 3 ⟨(directEdited otherTarget).world, []⟩
        (reconnectEvents localModem.endpoint)).isSome = true := by decide
  obtain ⟨left, strict⟩ := leads_momentBehind run
  have leads := strict.within undisturbed_unedited
  have fits : (directEdited otherTarget).world.Unaltered localModem directSession :=
    ⟨⟨by decide, by decide⟩, by decide⟩
  exact ⟨directEdited otherTarget, _, left, directEdited_reached otherTarget, rfl, rfl, leads,
    by decide, reconnect_restores (directEdited_reached otherTarget) rfl rfl fits _ [] leads⟩

/-- The operator changes the host, and the reconnect dials another modem. -/
theorem reconnect_redirected : ¬ ∀ (manager : ManagerId) (station : Station)
    (modem : ModemIdentity) (session : SessionConfig), Reached manager station →
    station.modem = some modem → station.session = some session →
    ∀ (endpoint : Endpoint) (reason : Text) (now : RestoreMoment)
      (left : RestoreRoutine (Except AgwpeError Unit)),
      Runs (reconnectCall manager endpoint reason station.localCallsign) station.world now left →
      Throughout (Restores modem session) now.history := by
  intro every
  have run : ((reconnectCall 0 localModem.endpoint [] localModem.callsign).follow
      restoreExec 3 ⟨(directEdited otherHost).world, []⟩
        (reconnectEvents otherEndpoint)).isSome = true := by decide
  obtain ⟨left, leads⟩ := leads_momentBehind run
  have dialed : dials otherEndpoint (momentBehind restoreExec
      (reconnectCall 0 localModem.endpoint [] localModem.callsign)
      (directEdited otherHost).world (reconnectEvents otherEndpoint)).history = true := by
    decide
  have restores := every 0 (directEdited otherHost) localModem directSession
    (directEdited_reached otherHost) rfl rfl localModem.endpoint [] _ left leads
  exact absurd (restores_dials restores dialed) (by decide)

end Course

end PacketBrowser.Client
