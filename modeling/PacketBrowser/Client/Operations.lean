import PacketBrowser.Client.State
import PacketBrowser.Foundation.Pool

/-!
# What the tasks of the client do to the outside and to each other

Every operation is one atomic action of one task: a call of a transport method, one
locked section on the shared state, one access to an abort flag, or one action on a
channel. The transport is arbitrary: it answers what it likes, and may report a
modem state of its own while it works. So are the configuration and the cache; their
answers are not constrained either.

Some operations carry data the program does not have: what a write is for, and
which displayed text a consent decision answers. No definition here branches on it.
-/

namespace PacketBrowser.Client

open Protocol Foundation

/-- A transport manager: its command queue, its actor and its abort flag. -/
abbrev ManagerId := Nat

/-- A one-shot channel for the result of a command. -/
abbrev TicketId := Nat

/-- A one-shot channel for a consent decision. -/
abbrev ConsentId := Nat

/-- Calls of the transport other than sending and receiving. -/
inductive ModemCall where
  | connectModem (config : TransportConfig)
  | disconnectModem
  | openSession (config : SessionConfig)
  | closeSession
  | openAx25Link
  | reopenModemConnection
  | queryPorts
  deriving DecidableEq, Repr

/-- What a call does to bytes on their way from the peer: nothing, reading some of
them away, or starting over on a new connection. -/
inductive LinkEffect where
  | kept
  | drained (count : Nat)
  | replaced
  deriving DecidableEq, Repr

/-- Result of a call, the state the transport reported, and the effect on the link. -/
structure ModemAnswer where
  result : Except TransportError Unit
  reported : Option ModemState
  link : LinkEffect
  deriving DecidableEq

/-- What a write is for. The consent writes name the disclaimer text the handshake
received. -/
inductive Purpose where
  | appCommand
  | callsign
  | agreeByOperator (disclaimer : Text)
  | autoAgree (disclaimer : Text)
  | request
  deriving DecidableEq, Repr

/-- Commands in the queue of a manager. -/
inductive Command where
  | connectModem (config : TransportConfig)
  | disconnectModem
  | queryPorts
  | openSession (target : Text) (portNum : UInt8)
  | closeSession
  | sendRequest (data : Bytes)
  | sendRequestWithReconnect (data : Bytes)
  deriving DecidableEq, Repr

/-- Result of a command. Commands without a value return no bytes. -/
abbrev Reply := Except AgwpeError Bytes

/-- A consent decision, and the text of the prompt the operator answers with it. -/
structure Decision where
  accepted : Bool
  answering : Option Text
  deriving DecidableEq, Repr

/-- How waiting for a decision ends. -/
inductive ConsentWait where
  | decided (accepted : Bool)
  | senderDropped
  | timedOut
  deriving DecidableEq, Repr

/-- A cached page, as far as request handling looks at it. -/
structure Hit where
  etag : Text
  fresh : Bool
  deriving DecidableEq, Repr

/-- What the peer at the other end of a link does on its own. -/
inductive PeerMove where
  | answers (response : Response)
  | interjects (text : Bytes)
  | skips
  deriving DecidableEq

/-- What the client asks of its transports, its shared state, its operator and its own tasks. -/
inductive Op where
  | modem (manager : ManagerId) (call : ModemCall)
  | portQuerySupported (manager : ManagerId)
  | send (manager : ManagerId) (purpose : Purpose) (data : Bytes)
  | recv (manager : ManagerId) (timeoutSecs : Nat)
  | storeAbort (manager : ManagerId) (value : Bool)
  | loadAbort (manager : ManagerId)
  | readConfig
  | setConnectionState (state : ConnectionState)
  | readConnectionState
  | parkConsent (disclaimer : Text)
  | awaitConsent (consent : ConsentId)
  | withdrawConsent
  | consentGet
  | takePendingConsent (decision : Decision)
  | readAwaited (decision : Decision)
  | answerConsent (consent : ConsentId) (accepted : Bool)
  | readLastAgreed
  | recordAgreedDisclaimer (text : Text)
  | clearAgreedDisclaimer
  | newReply
  | submit (manager : ManagerId) (ticket : TicketId) (command : Command)
  | nextCommand (manager : ManagerId)
  | reply (ticket : TicketId) (result : Reply)
  | awaitReply (manager : ManagerId) (ticket : TicketId)
  | activeManager
  | readTransportDefault
  | readMyCallsign
  | spawnManager (transport : TransportImpl)
  | installManager (manager : ManagerId)
  | cacheLookup (url : Text)
  | cacheInsert (url etag : Text) (body : Bytes) (maxAge : Int32)
  | cacheTouchFresh (url : Text)
  | cacheTouchLastUsed (url : Text)
  | peerMove (manager : ManagerId)
  deriving DecidableEq

/-- The type of answers of each operation. -/
abbrev Answer : Op → Type
  | .modem _ _ => ModemAnswer
  | .portQuerySupported _ => Bool
  | .send _ _ _ => Except TransportError Unit
  | .recv _ _ => Except TransportError TransportEvent
  | .storeAbort _ _ => Unit
  | .loadAbort _ => Bool
  | .readConfig => AppConfig
  | .setConnectionState _ => Unit
  | .readConnectionState => ConnectionState
  | .parkConsent _ => ConsentId
  | .awaitConsent _ => ConsentWait
  | .withdrawConsent => Unit
  | .consentGet => Option Text
  | .takePendingConsent _ => Option ConsentId
  | .readAwaited _ => Option Text
  | .answerConsent _ _ => Bool
  | .readLastAgreed => Option Text
  | .recordAgreedDisclaimer _ => Unit
  | .clearAgreedDisclaimer => Unit
  | .newReply => TicketId
  | .submit _ _ _ => Bool
  | .nextCommand _ => Option (TicketId × Command)
  | .reply _ _ => Unit
  | .awaitReply _ _ => Option Reply
  | .activeManager => ManagerId
  | .readTransportDefault => TransportKind
  | .readMyCallsign => Text
  | .spawnManager _ => ManagerId
  | .installManager _ => Unit
  | .cacheLookup _ => Option Hit
  | .cacheInsert _ _ _ _ => Unit
  | .cacheTouchFresh _ => Unit
  | .cacheTouchLastUsed _ => Unit
  | .peerMove _ => PeerMove

/-- The life of a consent channel: its sender is held in the shared state or by a
web handler, is gone, or has sent; or its receiver has stopped waiting. -/
inductive ConsentStatus where
  | waiting
  | senderDropped
  | decided (accepted : Bool)
  | closed
  deriving DecidableEq, Repr

/-- A consent channel and the text its handshake received. -/
structure Consent where
  disclaimer : Text
  status : ConsentStatus
  deriving DecidableEq, Repr

/-- The state the tasks share: the fields of the application state, the consent and
reply channels, for each manager its transport, its abort flag and its queue, and the
manager installed at the moment. -/
structure World where
  connectionState : ConnectionState
  pendingConsent : Option ConsentId
  lastAgreedDisclaimer : Option Text
  consents : ConsentId → Consent
  consentCount : Nat
  abort : ManagerId → Bool
  queue : ManagerId → List (TicketId × Command)
  stopped : ManagerId → Bool
  replies : TicketId → Option Reply
  replyCount : Nat
  active : ManagerId
  transports : ManagerId → TransportImpl
  managerCount : Nat

/-- The state after start-up: nothing is connected, asked or queued, and one manager
with an AGWPE modem is installed. -/
def World.initial : World where
  connectionState := .disconnected
  pendingConsent := none
  lastAgreedDisclaimer := none
  consents := fun _ => ⟨[], .closed⟩
  consentCount := 0
  abort := fun _ => false
  queue := fun _ => []
  stopped := fun _ => false
  replies := fun _ => none
  replyCount := 0
  active := 0
  transports := fun _ => .agwpeTransport
  managerCount := 1

/-- Change one entry of a table. -/
def assign {β : Type} (table : Nat → β) (index : Nat) (value : β) : Nat → β :=
  fun other => if other = index then value else table other

/-- What is assigned is there. -/
@[simp] theorem assign_self {β : Type} (table : Nat → β) (index : Nat) (value : β) :
    assign table index value index = value := by simp [assign]

/-- An assignment leaves the other places. -/
theorem assign_other {β : Type} (table : Nat → β) (index other : Nat) (value : β)
    (different : other ≠ index) : assign table index value other = table other := by
  simp [assign, different]

/-- A request for consent gets another status. -/
def World.setStatus (world : World) (consent : ConsentId) (status : ConsentStatus) : World :=
  { world with
    consents := assign world.consents consent ⟨(world.consents consent).disclaimer, status⟩ }

/-- Drop the sender in the shared state, if there is one: its handshake is woken
unless it has stopped waiting. -/
def World.dropPending (world : World) : World :=
  match world.pendingConsent with
  | none => world
  | some consent =>
    let emptied := { world with pendingConsent := none }
    if (world.consents consent).status = .waiting then emptied.setStatus consent .senderDropped
    else emptied

/-- Put a new consent channel in the slot and show the text. -/
def World.park (world : World) (disclaimer : Text) : World :=
  let dropped := world.dropPending
  { dropped with
    connectionState := .awaitingConsent disclaimer
    pendingConsent := some world.consentCount
    consents := assign dropped.consents world.consentCount ⟨disclaimer, .waiting⟩
    consentCount := world.consentCount + 1 }

/-- The disclaimer text on display, if the operator is being asked. -/
def ConnectionState.awaited : ConnectionState → Option Text
  | .awaitingConsent disclaimer => some disclaimer
  | _ => none

/-- Capacity of a manager's command queue. -/
def queueCapacity : Nat := 32

/-- The status of a consent channel that ends a wait in this way. -/
def ConsentWait.status : ConsentWait → ConsentStatus
  | .decided accepted => .decided accepted
  | .senderDropped => .senderDropped
  | .timedOut => .waiting

/-- The world can give this answer. A full queue gives none: the sender waits. -/
def World.gives (world : World) : (op : Op) → Answer op → Bool
  | .loadAbort manager, answer => answer == world.abort manager
  | .readConnectionState, answer => answer == world.connectionState
  | .parkConsent _, consent => consent == world.consentCount
  | .awaitConsent consent, answer => (world.consents consent).status == answer.status
  | .consentGet, answer => answer == world.connectionState.awaited
  | .takePendingConsent _, answer => answer == world.pendingConsent
  | .readAwaited _, answer => answer == world.connectionState.awaited
  | .answerConsent consent _, answer => answer == ((world.consents consent).status == .waiting)
  | .readLastAgreed, answer => answer == world.lastAgreedDisclaimer
  | .newReply, ticket => ticket == world.replyCount
  | .activeManager, manager => manager == world.active
  | .spawnManager _, manager => manager == world.managerCount
  | .submit manager _ _, answer =>
    if world.stopped manager then !answer
    else answer && decide ((world.queue manager).length < queueCapacity)
  | .nextCommand manager, answer => answer == (world.queue manager).head?
  | .awaitReply manager ticket, answer => match answer with
    | some result => world.replies ticket == some result
    | none => world.stopped manager
  | _, _ => true

/-- The world after an answered operation. -/
def World.apply (world : World) : (op : Op) → Answer op → World
  | .modem _ _, answer => match answer.reported with
    | some state => { world with connectionState := state.connectionState }
    | none => world
  | .storeAbort manager value, _ => { world with abort := assign world.abort manager value }
  | .setConnectionState state, _ => { world with connectionState := state }
  | .parkConsent disclaimer, _ => world.park disclaimer
  | .awaitConsent consent, _ => world.setStatus consent .closed
  | .withdrawConsent, _ => world.dropPending
  | .takePendingConsent _, _ => { world with pendingConsent := none }
  | .answerConsent consent accepted, answer =>
    if answer then world.setStatus consent (.decided accepted) else world
  | .recordAgreedDisclaimer text, _ => { world with lastAgreedDisclaimer := some text }
  | .clearAgreedDisclaimer, _ => { world with lastAgreedDisclaimer := none }
  | .newReply, _ => { world with replyCount := world.replyCount + 1 }
  | .spawnManager transport, manager => { world with
      transports := assign world.transports manager transport
      managerCount := world.managerCount + 1 }
  | .installManager manager, _ => { world with active := manager }
  | .submit manager ticket command, answer =>
    if answer then { world with
      queue := assign world.queue manager (world.queue manager ++ [(ticket, command)]) }
    else world
  | .nextCommand manager, answer => match answer with
    | some _ => { world with queue := assign world.queue manager (world.queue manager).tail }
    | none => { world with stopped := assign world.stopped manager true }
  | .reply ticket result, _ => { world with replies := assign world.replies ticket (some result) }
  | _, _ => world

/-- The world after an answered operation; none where the answer is impossible. -/
def exec (op : Op) (answer : Answer op) (world : World) : Option World :=
  if world.gives op answer then some (world.apply op answer) else none

/-- An operation occurs exactly if the world gives the answer, and then changes as it says. -/
theorem exec_iff {op : Op} {answer : Answer op} {world after : World} :
    exec op answer world = some after ↔
      world.gives op answer = true ∧ after = world.apply op answer := by
  unfold exec
  by_cases possible : world.gives op answer = true
  · simp only [possible, if_true, Option.some.injEq, true_and]
    exact eq_comm
  · simp [possible]

section Frames

/-! What one operation leaves alone. -/

attribute [local simp] World.apply

variable (world : World) (op : Op) (answer : Answer op)

/-- Dropping the request that is pending leaves everything else. -/
@[simp] theorem dropPending_fields :
    world.dropPending.abort = world.abort ∧ world.dropPending.queue = world.queue ∧
      world.dropPending.replies = world.replies ∧ world.dropPending.stopped = world.stopped ∧
      world.dropPending.lastAgreedDisclaimer = world.lastAgreedDisclaimer ∧
      world.dropPending.consentCount = world.consentCount ∧
      world.dropPending.replyCount = world.replyCount := by
  unfold World.dropPending
  split
  · simp
  · dsimp only
    split <;> simp [World.setStatus]

/-- Only a store to the flag changes an abort flag. -/
theorem apply_abort (m : ManagerId) (kept : ∀ value, op ≠ .storeAbort m value) :
    (world.apply op answer).abort m = world.abort m := by
  cases op with
  | storeAbort manager value =>
    have different : m ≠ manager := by
      rintro rfl
      exact kept value rfl
    exact assign_other _ _ _ _ different
  | modem => simp only [World.apply]; split <;> rfl
  | nextCommand => cases answer <;> rfl
  | submit => simp only [World.apply]; split <;> rfl
  | answerConsent => simp only [World.apply]; split <;> rfl
  | parkConsent => simp [World.apply, World.park]
  | withdrawConsent => simp [World.apply]
  | _ => rfl

/-- Only recording an agreed text stores one. -/
theorem apply_lastAgreed {text : Text}
    (stored : (world.apply op answer).lastAgreedDisclaimer = some text)
    (other : op ≠ .recordAgreedDisclaimer text) : world.lastAgreedDisclaimer = some text := by
  cases op with
  | modem => revert stored; simp only [World.apply]; split <;> exact id
  | nextCommand => cases answer <;> exact stored
  | submit => revert stored; simp only [World.apply]; split <;> exact id
  | answerConsent => revert stored; simp only [World.apply]; split <;> exact id
  | parkConsent => simpa [World.apply, World.park] using stored
  | withdrawConsent => simpa [World.apply] using stored
  | recordAgreedDisclaimer recorded =>
    rw [Option.some.inj stored] at other
    exact absurd rfl other
  | clearAgreedDisclaimer => simp [World.apply] at stored
  | _ => exact stored

/-- Only a submission that is accepted puts a command into a queue. -/
theorem apply_queue (m : ManagerId) {ticket : TicketId} {command : Command}
    (member : (ticket, command) ∈ (world.apply op answer).queue m)
    (other : (⟨op, answer⟩ : Sigma Answer) ≠ ⟨.submit m ticket command, true⟩) :
    (ticket, command) ∈ world.queue m := by
  cases op with
  | modem => revert member; simp only [World.apply]; split <;> exact id
  | nextCommand manager =>
    cases answer with
    | none => exact member
    | some taken =>
      by_cases same : m = manager
      · subst same
        simp only [World.apply, assign_self] at member
        exact List.mem_of_mem_tail member
      · simpa [World.apply, assign_other _ _ _ _ same] using member
  | submit manager sent offered =>
    cases answer with
    | false => exact member
    | true =>
      by_cases same : m = manager
      · subst same
        simp only [World.apply, if_true, assign_self, List.mem_append, List.mem_singleton] at member
        rcases member with before | added
        · exact before
        · obtain ⟨rfl, rfl⟩ := Prod.mk.inj added
          exact absurd rfl other
      · simpa [World.apply, assign_other _ _ _ _ same] using member
  | answerConsent => revert member; simp only [World.apply]; split <;> exact id
  | parkConsent => simpa [World.apply, World.park] using member
  | withdrawConsent => simpa [World.apply] using member
  | _ => exact member

/-- Only taking a command and a submission that is accepted change a queue. -/
theorem apply_queue_kept (m : ManagerId) (takes : op ≠ .nextCommand m)
    (submits : ∀ ticket command, (⟨op, answer⟩ : Sigma Answer) ≠ ⟨.submit m ticket command, true⟩) :
    (world.apply op answer).queue m = world.queue m := by
  cases op with
  | modem => simp only [World.apply]; split <;> rfl
  | nextCommand manager =>
    have different : m ≠ manager := by
      rintro rfl
      exact takes rfl
    cases answer with
    | none => rfl
    | some taken => exact assign_other _ _ _ _ different
  | submit manager sent offered =>
    cases answer with
    | false => rfl
    | true =>
      have different : m ≠ manager := by
        rintro rfl
        exact submits sent offered rfl
      simp [World.apply, assign_other _ _ _ _ different]
  | answerConsent => simp only [World.apply]; split <;> rfl
  | parkConsent => simp [World.apply, World.park]
  | withdrawConsent => simp [World.apply]
  | _ => rfl

/-- Only a reply fills a reply channel. -/
theorem apply_replies {ticket : TicketId} {result : Reply}
    (filled : (world.apply op answer).replies ticket = some result)
    (other : op ≠ .reply ticket result) : world.replies ticket = some result := by
  cases op with
  | modem => revert filled; simp only [World.apply]; split <;> exact id
  | nextCommand => cases answer <;> exact filled
  | submit => revert filled; simp only [World.apply]; split <;> exact id
  | answerConsent => revert filled; simp only [World.apply]; split <;> exact id
  | parkConsent => simpa [World.apply, World.park] using filled
  | withdrawConsent => simpa [World.apply] using filled
  | reply sent value =>
    by_cases same : ticket = sent
    · subst same
      have equal : some value = some result := by simpa [World.apply] using filled
      obtain rfl := Option.some.inj equal
      exact absurd rfl other
    · simpa [World.apply, assign_other _ _ _ _ same] using filled
  | _ => exact filled

/-- Tickets are not taken back. -/
theorem apply_replyCount : world.replyCount ≤ (world.apply op answer).replyCount := by
  cases op with
  | modem => simp only [World.apply]; split <;> exact Nat.le_refl _
  | nextCommand => cases answer <;> exact Nat.le_refl _
  | submit => simp only [World.apply]; split <;> exact Nat.le_refl _
  | answerConsent => simp only [World.apply]; split <;> exact Nat.le_refl _
  | parkConsent => simp [World.apply, World.park]
  | withdrawConsent => simp [World.apply]
  | newReply => exact Nat.le_succ _
  | _ => exact Nat.le_refl _

section Consents

/-! The consent channels: a channel in use keeps its text, and only an answer
decides it. -/

variable (consent : ConsentId)

/-- A request for consent keeps its disclaimer. -/
@[simp] theorem setStatus_disclaimer (changed : ConsentId) (status : ConsentStatus) :
    ((world.setStatus changed status).consents consent).disclaimer =
      (world.consents consent).disclaimer := by
  by_cases same : consent = changed
  · subst same
    simp [World.setStatus]
  · simp [World.setStatus, assign_other _ _ _ _ same]

/-- A decision was there, or is the one that is made. -/
theorem setStatus_decided (changed : ConsentId) (status : ConsentStatus) {accepted : Bool}
    (decided : ((world.setStatus changed status).consents consent).status = .decided accepted) :
    (world.consents consent).status = .decided accepted ∨
      consent = changed ∧ status = .decided accepted := by
  by_cases same : consent = changed
  · subst same
    exact Or.inr ⟨rfl, by simpa [World.setStatus] using decided⟩
  · simp only [World.setStatus, assign_other _ _ _ _ same] at decided
    exact Or.inl decided

/-- Dropping the pending request leaves all disclaimers. -/
@[simp] theorem dropPending_disclaimer :
    (world.dropPending.consents consent).disclaimer = (world.consents consent).disclaimer := by
  unfold World.dropPending
  split
  · rfl
  · dsimp only
    split
    · exact setStatus_disclaimer _ consent _ _
    · rfl

/-- Dropping the pending request decides nothing. -/
theorem dropPending_decided {accepted : Bool}
    (decided : (world.dropPending.consents consent).status = .decided accepted) :
    (world.consents consent).status = .decided accepted := by
  unfold World.dropPending at decided
  split at decided
  · exact decided
  · dsimp only at decided
    split at decided
    · rcases setStatus_decided _ consent _ _ decided with before | ⟨_, status⟩
      · exact before
      · exact absurd status (by simp)
    · exact decided

/-- Behind dropping it no request is pending. -/
@[simp] theorem dropPending_pending : world.dropPending.pendingConsent = none := by
  unfold World.dropPending
  split
  · assumption
  · dsimp only
    split <;> rfl

/-- A channel in use stays in use with its text. -/
theorem apply_disclaimer (used : consent < world.consentCount) :
    consent < (world.apply op answer).consentCount ∧
      ((world.apply op answer).consents consent).disclaimer =
        (world.consents consent).disclaimer := by
  cases op with
  | modem => simp only [World.apply]; split <;> exact ⟨used, rfl⟩
  | nextCommand => cases answer <;> exact ⟨used, rfl⟩
  | submit => simp only [World.apply]; split <;> exact ⟨used, rfl⟩
  | answerConsent =>
    simp only [World.apply]
    split
    · exact ⟨used, setStatus_disclaimer _ _ _ _⟩
    · exact ⟨used, rfl⟩
  | awaitConsent => exact ⟨used, setStatus_disclaimer _ _ _ _⟩
  | parkConsent =>
    refine ⟨Nat.lt_succ_of_lt used, ?_⟩
    simp [World.apply, World.park, assign_other _ _ _ _ (Nat.ne_of_lt used)]
  | withdrawConsent => simp [World.apply, used]
  | _ => exact ⟨used, rfl⟩

/-- An answer changes no text. -/
theorem apply_answerConsent_disclaimer (answered : ConsentId) (accepted sent : Bool) :
    ((world.apply (.answerConsent answered accepted) sent).consents consent).disclaimer =
      (world.consents consent).disclaimer := by
  simp only [World.apply]
  split
  · exact setStatus_disclaimer _ _ _ _
  · rfl

/-- Only an answer decides a channel, and it decides it as it is given. -/
theorem apply_decided {accepted : Bool}
    (decided : ((world.apply op answer).consents consent).status = .decided accepted)
    (other : op ≠ .answerConsent consent accepted) :
    (world.consents consent).status = .decided accepted ∧
      ((world.apply op answer).consents consent).disclaimer =
        (world.consents consent).disclaimer := by
  cases op with
  | modem =>
    revert decided
    simp only [World.apply]
    split <;> exact fun decided => ⟨decided, rfl⟩
  | nextCommand => cases answer <;> exact ⟨decided, rfl⟩
  | submit =>
    revert decided
    simp only [World.apply]
    split <;> exact fun decided => ⟨decided, rfl⟩
  | answerConsent answered value =>
    by_cases sent : answer = true
    · simp only [World.apply, sent, if_true] at decided ⊢
      rcases setStatus_decided _ _ _ _ decided with before | ⟨rfl, status⟩
      · exact ⟨before, setStatus_disclaimer _ _ _ _⟩
      · obtain rfl := ConsentStatus.decided.inj status
        exact absurd rfl other
    · simp only [World.apply, sent] at decided ⊢
      exact ⟨decided, rfl⟩
  | awaitConsent awaited =>
    rcases setStatus_decided _ _ _ _ decided with before | ⟨_, status⟩
    · exact ⟨before, setStatus_disclaimer _ _ _ _⟩
    · exact absurd status (by simp)
  | parkConsent disclaimer =>
    by_cases fresh : consent = world.consentCount
    · subst fresh
      simp [World.apply, World.park] at decided
    · simp only [World.apply, World.park, assign_other _ _ _ _ fresh] at decided ⊢
      exact ⟨dropPending_decided _ _ decided, by simp⟩
  | withdrawConsent => exact ⟨dropPending_decided _ _ decided, dropPending_disclaimer _ _⟩
  | _ => exact ⟨decided, rfl⟩

/-- The channel in the slot is one in use. -/
theorem apply_pending (bound : ∀ pending, world.pendingConsent = some pending →
      pending < world.consentCount)
    (slot : (world.apply op answer).pendingConsent = some consent) :
    consent < (world.apply op answer).consentCount := by
  cases op with
  | modem => revert slot; simp only [World.apply]; split <;> exact bound _
  | nextCommand => cases answer <;> exact bound _ slot
  | submit => revert slot; simp only [World.apply]; split <;> exact bound _
  | answerConsent => revert slot; simp only [World.apply]; split <;> exact bound _
  | parkConsent =>
    obtain rfl := Option.some.inj slot
    exact Nat.lt_succ_self _
  | withdrawConsent => simp [World.apply] at slot
  | takePendingConsent => simp [World.apply] at slot
  | _ => exact bound _ slot

end Consents

end Frames

/-- The tasks: the background task of each manager, one task for each web request
or manager call, and the peers. -/
inductive Task where
  | actor (manager : ManagerId)
  | handler (index : Nat)
  | peer (manager : ManagerId)
  deriving DecidableEq, Repr

/-- An operation of a task and its answer. -/
abbrev ClientEvent := Event Task Answer

/-- The world at a moment, and what has happened. -/
abbrev Moment := Snapshot World Task Answer

/-- An event of a task. -/
def Task.does (task : Task) (op : Op) (answer : Answer op) : ClientEvent := ⟨task, op, answer⟩

/-- Program of a task. -/
abbrev Routine := Program Op Answer

/-- Program that may fail. -/
abbrev Attempt := ExceptT AgwpeError Routine

/-- Perform one operation. -/
abbrev ask (op : Op) : Routine (Answer op) := Program.ask op

/-- The result of a transport call, with the transport's error translated. -/
def mapErr {α : Type} : Except TransportError α → Except AgwpeError α
  | .ok value => .ok value
  | .error err => .error (transportErrToAgwpe err)

section Actions

variable (manager : ManagerId)

/-- Have the transport do something, with the errors of the protocol. -/
def callModem (call : ModemCall) : Attempt Unit := ExceptT.mk do
  let answer ← ask (.modem manager call)
  return mapErr answer.result

/-- Have the transport send bytes, with the errors of the protocol. -/
def sendBytes (purpose : Purpose) (data : Bytes) : Attempt Unit := ExceptT.mk do
  let answer ← ask (.send manager purpose data)
  return mapErr answer

/-- Have the transport wait for an event, with the errors of the protocol. -/
def recvEvent (timeoutSecs : Nat) : Attempt TransportEvent := ExceptT.mk do
  let answer ← ask (.recv manager timeoutSecs)
  return mapErr answer

/-- Whether the task is to stop what it is at. -/
def isAborted : Routine Bool := ask (.loadAbort manager)

/-- Stop with an error once the operator has disconnected. -/
def bailIfAborted : Attempt Unit := ExceptT.mk do
  let aborted ← isAborted manager
  return if aborted then .error .disconnectedByOperator else .ok ()

end Actions

/-- The part of the configuration that the session needs. -/
def readConfig : Routine AppConfig := ask .readConfig

/-- Put a state on display. -/
def setState (state : ConnectionState) : Routine Unit := ask (.setConnectionState state)

end PacketBrowser.Client
