import PacketBrowser.Client.Proxy
import PacketBrowser.Foundation.Triple

/-!
# Which task does what

Only the background task of a manager talks to its transport, takes commands from
its queue and clears its abort flag; web handlers never do, and raise the flag at
most. The footprints of the session routines are stated once and used wherever an
argument does not care about what they exchange with the peer.
-/

namespace PacketBrowser.Client

open Protocol Foundation Program Setting

/-- The operations of a task. -/
def Task.allowed : Task → Op → Prop
  | .actor m, .modem manager _ => manager = m
  | .actor m, .portQuerySupported manager => manager = m
  | .actor m, .send manager _ _ => manager = m
  | .actor m, .recv manager _ => manager = m
  | .actor m, .storeAbort manager _ => manager = m
  | .actor m, .loadAbort manager => manager = m
  | .actor m, .nextCommand manager => manager = m
  | .actor _, .readConfig => True
  | .actor _, .setConnectionState _ => True
  | .actor _, .parkConsent _ => True
  | .actor _, .awaitConsent _ => True
  | .actor _, .withdrawConsent => True
  | .actor _, .readLastAgreed => True
  | .actor _, .reply _ _ => True
  | .handler _, .storeAbort _ value => value = true
  | .handler _, .newReply => True
  | .handler _, .submit _ _ _ => True
  | .handler _, .awaitReply _ _ => True
  | .handler _, .readConnectionState => True
  | .handler _, .consentGet => True
  | .handler _, .takePendingConsent _ => True
  | .handler _, .readAwaited _ => True
  | .handler _, .answerConsent _ _ => True
  | .handler _, .recordAgreedDisclaimer _ => True
  | .handler _, .clearAgreedDisclaimer => True
  | .handler _, .activeManager => True
  | .handler _, .readTransportDefault => True
  | .handler _, .readMyCallsign => True
  | .handler _, .spawnManager _ => True
  | .handler _, .installManager _ => True
  | .handler _, .cacheLookup _ => True
  | .handler _, .cacheInsert _ _ _ _ => True
  | .handler _, .cacheTouchFresh _ => True
  | .handler _, .cacheTouchLastUsed _ => True
  | .peer m, .peerMove manager => manager = m
  | _, _ => False

/-- The manager whose background task alone performs an operation. -/
def Op.owner : Op → Option ManagerId
  | .modem manager _ => some manager
  | .portQuerySupported manager => some manager
  | .send manager _ _ => some manager
  | .recv manager _ => some manager
  | .storeAbort manager false => some manager
  | .loadAbort manager => some manager
  | .nextCommand manager => some manager
  | _ => none

/-- What a manager owns is done by its background task. -/
theorem owner_performs {thread : Task} {op : Op} {manager : ManagerId}
    (owned : op.owner = some manager) (permitted : thread.allowed op) : thread = .actor manager := by
  cases thread with
  | actor other =>
    cases op with
    | storeAbort stored value => cases value <;> simp_all [Op.owner, Task.allowed]
    | _ => simp_all [Op.owner, Task.allowed]
  | handler index => cases op <;> simp_all [Op.owner, Task.allowed]
  | peer other => cases op <;> simp_all [Op.owner, Task.allowed]

/-- Handshake text exchanged with the peer: everything but the consent itself. -/
def talks (m : ManagerId) : Op → Prop
  | .readConfig => True
  | .send manager .appCommand _ => manager = m
  | .send manager .callsign _ => manager = m
  | .recv manager _ => manager = m
  | .loadAbort manager => manager = m
  | _ => False

/-- Reading a response. -/
def listens (m : ManagerId) : Op → Prop
  | .recv manager _ => manager = m
  | .loadAbort manager => manager = m
  | _ => False

section Footprints

variable (manager : ManagerId)

/-- Stopping for a disconnect reads the flag. -/
theorem bailIfAborted_only : (bailIfAborted manager).run.Only (· = .loadAbort manager) :=
  only_bind _ (only_ask _ rfl) fun _ => trivial

/-- Sending sends. -/
theorem sendBytes_only (purpose : Purpose) (data : Bytes) :
    (sendBytes manager purpose data).run.Only (· = .send manager purpose data) :=
  only_bind _ (only_ask _ rfl) fun _ => trivial

/-- Calling the modem calls it. -/
theorem callModem_only (request : ModemCall) :
    (callModem manager request).run.Only (· = .modem manager request) :=
  only_bind _ (only_ask _ rfl) fun _ => trivial

/-- Putting a state on display does so. -/
theorem setState_only (state : ConnectionState) :
    (setState state).Only (· = .setConnectionState state) := only_ask _ rfl

/-- The command to the node is talking to it. -/
theorem bpqSendAppCommand_talks : (bpqSendAppCommand manager).run.Only (talks manager) := by
  apply only_attempt _ (only_lift _ (only_ask _ trivial))
  intro config
  exact (sendBytes_only manager _ _).mono (by rintro op rfl; rfl)

/-- Waiting for a text is talking to the node. -/
theorem awaitText_talks (found : Text → Bool) :
    (awaitText manager found).run.Only (talks manager) := by
  refine only_loop _ (fun received => ?_) _
  refine only_bind _ ?_ fun _ => trivial
  exact only_bind _ (only_ask _ rfl) fun _ => trivial

/-- Telling the callsign is talking to the node. -/
theorem callsign_talks (localCallsign : Text) :
    (bpqAwaitCallsignPromptAndSendCallsign manager localCallsign).run.Only (talks manager) := by
  apply only_attempt _ (awaitText_talks manager _)
  intro _
  exact (sendBytes_only manager _ _).mono (by rintro op rfl; rfl)

/-- Waiting for the disclaimer is talking to the node. -/
theorem disclaimer_talks : (bpqAwaitDisclaimer manager).run.Only (talks manager) :=
  awaitText_talks manager _

/-- Entering the application is talking to the node. -/
theorem enterApplication_talks (skipBpqApp : Bool) :
    (enterApplication manager skipBpqApp).run.Only (talks manager) := by
  cases skipBpqApp with
  | true => exact trivial
  | false => exact bpqSendAppCommand_talks manager

/-- Entering it again is talking to the node. -/
theorem reenterApplication_talks (skipBpqApp : Bool) :
    (reenterApplication manager skipBpqApp).run.Only (talks manager) := by
  cases skipBpqApp with
  | true => exact trivial
  | false =>
    apply only_attempt _ (bpqSendAppCommand_talks manager)
    intro _
    exact (bailIfAborted_only manager).mono (by rintro op rfl; rfl)

/-- A round of receiving listens. -/
theorem receiveEvent_listens (timeoutSecs : Nat) (reception : Reception) :
    (receiveEvent manager timeoutSecs reception).Only (listens manager) := by
  refine only_bind _ (only_ask _ rfl) fun event => ?_
  split
  · trivial
  · trivial
  · trivial
  · split
    · trivial
    · exact only_bind _ (only_ask _ rfl) fun _ => trivial

/-- Receiving a response listens. -/
theorem receiveResponse_listens (timeoutSecs : Nat) :
    (receiveResponse manager timeoutSecs).run.Only (listens manager) :=
  only_loop _ (receiveEvent_listens manager timeoutSecs) _

end Footprints

/-- What the background task does while it writes only for the given purposes and
does not clear the abort flag. -/
def serves (m : ManagerId) (purposes : Purpose → Prop) : Op → Prop
  | .send manager purpose _ => manager = m ∧ purposes purpose
  | .storeAbort manager value => manager = m ∧ value = true
  | .nextCommand _ => False
  | .reply _ _ => False
  | op => (Task.actor m).allowed op

/-- The same with the flag cleared at the start. -/
def starts (m : ManagerId) (purposes : Purpose → Prop) (op : Op) : Prop :=
  op = .storeAbort m false ∨ serves m purposes op

section Actor

variable (m : ManagerId) {purposes : Purpose → Prop}

/-- What serves a command is the background task's to do. -/
theorem serves_actor (op : Op) (serving : serves m purposes op) : (Task.actor m).allowed op := by
  unfold serves at serving
  split at serving
  · exact serving.1
  · exact serving.1
  · exact serving.elim
  · exact serving.elim
  · exact serving

/-- More purposes may be served. -/
theorem serves_mono {wider : Purpose → Prop} (implies : ∀ purpose, purposes purpose → wider purpose)
    (op : Op) (serving : serves m purposes op) : serves m wider op := by
  unfold serves at serving ⊢
  split at serving
  · exact ⟨serving.1, implies _ serving.2⟩
  · exact serving
  · exact serving.elim
  · exact serving.elim
  · exact serving

/-- What starts a session is the background task's to do. -/
theorem starts_actor (op : Op) (starting : starts m purposes op) : (Task.actor m).allowed op := by
  rcases starting with rfl | serving
  · rfl
  · exact serves_actor m op serving

/-- Talking to the node serves a command that may enter the application. -/
theorem talks_serves (command : purposes .appCommand) (callsign : purposes .callsign) (op : Op)
    (talk : talks m op) : serves m purposes op := by
  unfold talks at talk
  split at talk <;>
    first | exact ⟨talk, command⟩ | exact ⟨talk, callsign⟩ | exact talk | exact talk.elim

/-- Listening serves any command. -/
theorem listens_serves (op : Op) (listen : listens m op) : serves m purposes op := by
  unfold listens at listen
  split at listen <;> first | exact listen | exact listen.elim

/-- Stopping for a disconnect serves any command. -/
theorem bailIfAborted_serves : (bailIfAborted m).run.Only (serves m purposes) :=
  (bailIfAborted_only m).mono (by rintro op rfl; rfl)

/-- Sending serves a command that has its purpose. -/
theorem sendBytes_serves {purpose : Purpose} (data : Bytes) (serving : purposes purpose) :
    (sendBytes m purpose data).run.Only (serves m purposes) :=
  (sendBytes_only m purpose data).mono (by rintro op rfl; exact ⟨rfl, serving⟩)

/-- Calling the modem serves any command. -/
theorem callModem_serves (request : ModemCall) :
    (callModem m request).run.Only (serves m purposes) :=
  (callModem_only m request).mono (by rintro op rfl; rfl)

/-- Putting a state on display serves any command. -/
theorem setState_serves (state : ConnectionState) : (setState state).Only (serves m purposes) :=
  (setState_only state).mono (by rintro op rfl; trivial)

/-- Waiting for the operator serves any command. -/
theorem awaitOperator_serves (consent : ConsentId) :
    (awaitOperator consent).run.Only (serves m purposes) := by
  apply only_bind _ (only_ask _ trivial)
  intro waited
  split
  · trivial
  · trivial
  · exact only_bind _ (only_ask _ trivial) fun _ => trivial

/-- Receiving the disclaimer is talking to the node. -/
theorem receiveDisclaimer_talks (localCallsign : Text) :
    (receiveDisclaimer m localCallsign).run.Only (talks m) := by
  apply only_attempt _ (only_lift _ (only_ask _ trivial))
  intro config
  apply only_attempt _ (enterApplication_talks m _)
  intro _
  exact only_attempt _ (callsign_talks m _) fun _ => disclaimer_talks m

/-- Asking the operator serves any command. -/
theorem askOperator_serves (receivedText : Text) :
    (askOperator receivedText).run.Only (serves m purposes) := by
  apply only_attempt _ (only_lift _ (only_ask _ trivial))
  intro consent
  apply only_attempt _ (awaitOperator_serves m consent)
  intro accepted
  cases accepted <;> trivial

/-- The handshake sends no request. -/
theorem performBpqHandshake_serves (localCallsign : Text) :
    (performBpqHandshake m localCallsign).run.Only (serves m (· ≠ .request)) := by
  apply only_attempt _ ((receiveDisclaimer_talks m _).mono (talks_serves m (by simp) (by simp)))
  intro receivedText
  exact only_attempt _ (askOperator_serves m _) fun _ => sendBytes_serves m _ (by simp)

/-- A request sends nothing but itself. -/
theorem handleSendRequest_serves (timeoutSecs : Nat) (data : Bytes) :
    (handleSendRequest m timeoutSecs data).run.Only (serves m (· = .request)) := by
  apply only_attempt _ (bailIfAborted_serves m)
  intro _
  refine only_attempt _ (sendBytes_serves m _ rfl) fun _ => ?_
  exact (receiveResponse_listens m timeoutSecs).mono (listens_serves m)

/-- Comparing the disclaimers serves any command. -/
theorem requireAgreed_serves (disclaimer : Text) :
    (requireAgreed disclaimer).run.Only (serves m purposes) := by
  apply only_attempt _ (only_lift _ (only_ask _ trivial))
  intro stored
  unfold requireStored
  split
  · trivial
  · exact only_attempt _ (only_lift _ (setState_serves m _)) fun _ => trivial

/-- What a reconnect does before it looks at the agreed text. -/
def reopens (m : ManagerId) : Op → Prop
  | .modem manager .reopenModemConnection => manager = m
  | .modem manager .openAx25Link => manager = m
  | .setConnectionState (.reconnecting _) => True
  | op => talks m op

/-- Talking to the node belongs to opening again. -/
theorem talks_reopens (op : Op) (talk : talks m op) : reopens m op := by
  unfold talks at talk
  split at talk <;> first | exact talk | exact talk.elim

/-- Opening again serves a command that may enter the application. -/
theorem reopens_serves (command : purposes .appCommand) (callsign : purposes .callsign) (op : Op)
    (reopen : reopens m op) : serves m purposes op := by
  unfold reopens at reopen
  split at reopen
  · exact reopen
  · exact reopen
  · trivial
  · exact talks_serves m command callsign op reopen

/-- The handshake of a reconnect belongs to opening again. -/
theorem receiveAgain_reopens (reason localCallsign : Text) :
    (receiveAgain m reason localCallsign).run.Only (reopens m) := by
  have bail : (bailIfAborted m).run.Only (reopens m) :=
    (bailIfAborted_only m).mono (by rintro op rfl; rfl)
  apply only_attempt _ ((callModem_only m _).mono (by rintro op rfl; rfl))
  intro _
  apply only_attempt _ (only_lift _ ((setState_only _).mono (by rintro op rfl; trivial)))
  intro _
  apply only_attempt _ bail
  intro _
  apply only_attempt _ ((callModem_only m _).mono (by rintro op rfl; rfl))
  intro _
  apply only_attempt _ bail
  intro _
  apply only_attempt _ (only_lift _ (only_ask _ trivial))
  intro config
  apply only_attempt _ ((reenterApplication_talks m _).mono (talks_reopens m))
  intro _
  apply only_attempt _ ((callsign_talks m _).mono (talks_reopens m))
  intro _
  apply only_attempt _ bail
  intro _
  apply only_attempt _ ((disclaimer_talks m).mono (talks_reopens m))
  intro disclaimer
  exact only_attempt _ bail fun _ => trivial

/-- Setting a session up again sends no request. -/
theorem reestablish_serves (reason localCallsign : Text) :
    (reestablish m reason localCallsign).run.Only (serves m (· ≠ .request)) := by
  apply only_attempt _ ((receiveAgain_reopens m _ _).mono (reopens_serves m (by simp) (by simp)))
  intro disclaimer
  apply only_attempt _ (requireAgreed_serves m disclaimer)
  intro _
  apply only_attempt _ (bailIfAborted_serves m)
  intro _
  apply only_attempt _ (sendBytes_serves m _ (by simp))
  intro _
  exact only_lift _ (setState_serves m _)

/-- A reconnect sends no request. -/
theorem handleReconnect_serves (reason localCallsign : Text) :
    (handleReconnect m reason localCallsign).run.Only (serves m (· ≠ .request)) := by
  apply only_bind _ (setState_serves m _)
  intro _
  apply only_bind _ (reestablish_serves m reason localCallsign)
  intro result
  split
  · trivial
  · trivial
  · exact only_bind _ (setState_serves m _) fun _ => trivial

/-- A request with a reconnect may send anything. -/
theorem handleSendRequestWithReconnect_serves (timeoutSecs : Nat) (data localCallsign) :
    (handleSendRequestWithReconnect m timeoutSecs data localCallsign).run.Only
      (serves m fun _ => True) := by
  have request : (handleSendRequest m timeoutSecs data).run.Only (serves m fun _ => True) :=
    (handleSendRequest_serves m timeoutSecs data).mono (serves_mono m fun _ _ => trivial)
  apply only_attempt _ (bailIfAborted_serves m)
  intro _
  apply only_bind _ request
  intro first
  unfold afterFirstTry
  split
  · trivial
  · refine only_attempt _ ((handleReconnect_serves m _ _).mono
      (serves_mono m fun _ _ => trivial)) fun _ => ?_
    exact only_attempt _ (bailIfAborted_serves m) fun _ => request
  · trivial

/-- The handshake and its report send no request. -/
theorem handshakeAndReport_serves (localCallsign : Text) :
    (handshakeAndReport m localCallsign).run.Only (serves m (· ≠ .request)) := by
  apply only_bind _ (performBpqHandshake_serves m localCallsign)
  intro result
  unfold reportHandshake
  split
  · exact only_bind _ (setState_serves m _) fun _ => trivial
  · exact only_bind _ (setState_serves m _) fun _ => trivial

/-- Opening a link serves any command. -/
theorem openLink_serves (target : Text) (portNum : UInt8) (localCallsign : Text) :
    (openLink m target portNum localCallsign).run.Only (serves m purposes) := by
  apply only_attempt _ (only_lift _ (only_ask _ trivial))
  intro first
  apply only_attempt _ (only_lift _ (only_ask _ trivial))
  intro second
  apply only_attempt _ (callModem_serves m _)
  intro _
  apply only_attempt _ (only_lift _ (setState_serves m _))
  intro _
  exact callModem_serves m _

/-- Resetting the flag writes it. -/
theorem resetAbort_only : (resetAbort m).Only (· = .storeAbort m false) := only_ask _ rfl

/-- Opening a session sends no request. -/
theorem handleOpenSession_starts (target : Text) (portNum : UInt8) (localCallsign : Text) :
    (handleOpenSession m target portNum localCallsign).run.Only (starts m (· ≠ .request)) := by
  apply only_attempt _ (only_lift _ ((resetAbort_only m).mono fun _ => Or.inl))
  intro _
  refine only_attempt _ ((openLink_serves m target portNum localCallsign).mono
    fun _ => Or.inr) fun _ => ?_
  exact (handshakeAndReport_serves m localCallsign).mono fun _ => Or.inr

/-- Closing a session serves any command. -/
theorem handleCloseSession_serves : (handleCloseSession m).run.Only (serves m purposes) := by
  apply only_attempt _ (only_lift _ (only_ask _ ⟨rfl, rfl⟩))
  intro _
  apply only_attempt _ (callModem_serves m _)
  intro _
  exact only_lift _ (setState_serves m _)

/-- Asking for ports serves any command. -/
theorem handleQueryPorts_serves : (handleQueryPorts m).run.Only (serves m purposes) := by
  refine only_attempt _ (only_lift _ (only_ask _ rfl)) fun supported => ?_
  cases supported with
  | true => exact callModem_serves m _
  | false => trivial

/-- Writes that matter to the operator: requests and consents. -/
def Purpose.binding : Purpose → Bool
  | .request => true
  | .agreeByOperator _ => true
  | .autoAgree _ => true
  | _ => false

/-- Commands that start by clearing the abort flag. -/
def Command.enables : Command → Bool
  | .connectModem _ => true
  | .openSession _ _ => true
  | _ => false

/-- The command that opens a session. -/
def Command.opens : Command → Bool
  | .openSession _ _ => true
  | _ => false

/-- The bytes a command sends to the peer and expects an answer to. -/
def Command.request : Command → Option Bytes
  | .sendRequest data => some data
  | .sendRequestWithReconnect data => some data
  | _ => none

/-- Commands that make a request of the peer. -/
def Command.requests (command : Command) : Bool := command.request.isSome

/-- Every other command is served without writing a request. -/
theorem runCommand_starts (timeoutSecs : Nat) (localCallsign : Text) (command : Command)
    (other : command.requests = false) :
    (runCommand m timeoutSecs localCallsign command).Only (starts m (· ≠ .request)) := by
  have serving : ∀ {α : Type} {program : Routine α}, program.Only (serves m (· ≠ .request)) →
      program.Only (starts m (· ≠ .request)) := fun only => only.mono fun _ => Or.inr
  cases command with
  | connectModem config =>
    apply only_bind _ ((resetAbort_only m).mono fun _ => Or.inl)
    intro _
    exact only_bind _ (serving (callModem_serves m _)) fun _ => trivial
  | disconnectModem => exact only_bind _ (serving (callModem_serves m _)) fun _ => trivial
  | queryPorts => exact only_bind _ (serving (handleQueryPorts_serves m)) fun _ => trivial
  | openSession target portNum =>
    exact only_bind _ (handleOpenSession_starts m target portNum localCallsign) fun _ => trivial
  | closeSession => exact only_bind _ (serving (handleCloseSession_serves m)) fun _ => trivial
  | sendRequest data => exact absurd other (by simp [Command.requests, Command.request])
  | sendRequestWithReconnect data => exact absurd other (by simp [Command.requests, Command.request])

/-- More purposes may be started for. -/
theorem starts_mono {wider : Purpose → Prop} (implies : ∀ purpose, purposes purpose → wider purpose)
    (op : Op) (starting : starts m purposes op) : starts m wider op :=
  starting.imp id (serves_mono m implies op)

/-- Serving a command takes no further command and sends no reply. -/
theorem runCommand_only (timeoutSecs : Nat) (localCallsign : Text) (command : Command) :
    (runCommand m timeoutSecs localCallsign command).Only (starts m fun _ => True) := by
  by_cases other : command.requests = false
  · exact (runCommand_starts m timeoutSecs localCallsign command other).mono
      (starts_mono m fun _ _ => trivial)
  cases command with
  | sendRequest data =>
    exact only_bind _ ((handleSendRequest_serves m timeoutSecs data).mono fun op serving =>
      Or.inr (serves_mono m (fun _ _ => trivial) op serving)) fun _ => trivial
  | sendRequestWithReconnect data =>
    exact only_bind _ ((handleSendRequestWithReconnect_serves m timeoutSecs data localCallsign).mono
      fun _ => Or.inr) fun _ => trivial
  | _ => exact absurd rfl other

/-- The background task does only what is its own to do. -/
theorem backgroundTask_actor (configuredTimeout : Nat) :
    (backgroundTask m configuredTimeout).Only (Task.actor m).allowed := by
  refine only_loop _ (fun localCallsign => ?_) _
  refine only_bind _ (only_ask _ rfl) fun next => ?_
  split
  · trivial
  · refine only_bind _ ?_ fun _ => trivial
    apply only_bind _ ((runCommand_only m _ _ _).mono (starts_actor m))
    intro served
    exact only_bind _ (only_ask _ trivial) fun _ => trivial

end Actor

/-- What web requests and manager calls do, a consent decision and a request to connect
apart. -/
def handles : Op → Prop
  | .takePendingConsent _ => False
  | .readAwaited _ => False
  | .answerConsent _ _ => False
  | .recordAgreedDisclaimer _ => False
  | .readTransportDefault => False
  | .readMyCallsign => False
  | .spawnManager _ => False
  | .installManager _ => False
  | op => (Task.handler 0).allowed op

/-- The same with what a request to connect does. -/
def connects : Op → Prop
  | .readTransportDefault => True
  | .readMyCallsign => True
  | .spawnManager _ => True
  | .installManager _ => True
  | op => handles op

/-- What handles a request may also connect. -/
theorem handles_connects (op : Op) (handle : handles op) : connects op := by
  cases op <;> first | exact handle | trivial

section Handlers

/-- A call of a manager handles a request. -/
theorem call_handles (manager : ManagerId) (command : Command) :
    (call manager command).Only handles := by
  apply only_bind _ (only_ask _ trivial)
  intro ticket
  apply only_bind _ (only_ask _ trivial)
  intro queued
  split
  · exact only_bind _ (only_ask _ trivial) fun _ => trivial
  · trivial

/-- Having the session closed handles a request. -/
theorem closeSession_handles (manager : ManagerId) : (closeSession manager).Only handles :=
  only_bind _ (only_ask _ rfl) fun _ => call_handles manager _

/-- Having the modem disconnected handles a request. -/
theorem disconnectModem_handles (manager : ManagerId) : (disconnectModem manager).Only handles :=
  only_bind _ (only_ask _ rfl) fun _ => call_handles manager _

/-- Disconnecting handles a request. -/
theorem apiDisconnectHandler_handles : apiDisconnectHandler.Only handles := by
  apply only_bind _ (only_ask _ trivial)
  intro manager
  apply only_bind _ (closeSession_handles manager)
  intro result
  split
  · exact only_bind _ (only_ask _ trivial) fun _ => trivial
  · trivial

/-- Having a session opened handles a request. -/
theorem openThrough_handles (request : ConnectRequest) (manager : ManagerId) :
    (openThrough request manager).Only handles := by
  apply only_bind _ (call_handles manager _)
  intro result
  split
  · exact only_bind _ (only_ask _ trivial) fun _ => trivial
  · trivial

/-- Connecting by VARA connects. -/
theorem connectVara_connects (request : ConnectRequest) (kind : TransportKind) :
    (connectVara request kind).Only connects := by
  apply only_bind _ (only_ask _ trivial)
  intro localCallsign
  apply only_bind _ (only_ask _ trivial)
  intro manager
  apply only_bind _ ((call_handles manager _).mono handles_connects)
  intro connected
  split
  · trivial
  · apply only_bind _ (only_ask _ trivial)
    exact fun _ => (openThrough_handles request manager).mono handles_connects

/-- A connect request connects. -/
theorem apiConnectHandler_connects (request : ConnectRequest) :
    (apiConnectHandler request).Only connects := by
  unfold apiConnectHandler
  split
  · apply only_bind
    · unfold resolveTransport
      split
      · trivial
      · exact only_bind _ (only_ask _ trivial) fun _ => trivial
    · intro resolved
      cases resolved with
      | error message => trivial
      | ok kind =>
        cases kind with
        | ax25 =>
          apply only_bind _ (only_ask _ trivial)
          exact fun manager => (openThrough_handles request manager).mono handles_connects
        | varaFm => exact connectVara_connects request _
        | varaHf => exact connectVara_connects request _
  · trivial

/-- Rendering a response handles a request. -/
theorem renderResponse_handles (url : Text) (cacheForWrite : Bool) (cachedEtag : Option Text)
    (responseData : Bytes) :
    (renderResponse url cacheForWrite cachedEtag responseData).Only handles := by
  unfold renderResponse
  split
  · trivial
  · split
    · split
      · refine only_bind _ (only_ask _ trivial) fun _ => only_bind _ (only_ask _ trivial) fun hit => ?_
        split <;> trivial
      · trivial
    · split
      · trivial
      · refine only_bind _ ?_ fun _ => trivial
        unfold storePage
        split
        · exact only_ask _ trivial
        · trivial
    · split <;> trivial

/-- A request over the air handles a request. -/
theorem dispatchAx25_handles (url : Text) (autoReconnect : Bool) (request : Request)
    (cacheForWrite : Bool) :
    (dispatchAx25 url autoReconnect request cacheForWrite).Only handles := by
  refine only_bind _ (only_ask _ trivial) fun manager => only_bind _ ?_ fun result => ?_
  · unfold sendEncoded
    split
    · exact call_handles manager _
    · exact call_handles manager _
  · unfold renderResult
    split
    · exact renderResponse_handles url _ _ _
    all_goals trivial

/-- Browsing a page handles a request. -/
theorem browseGet_handles (url : Text) (autoReconnect hasCache nocache : Bool)
    (browserIfNoneMatch : Option Text) :
    (browseGet url autoReconnect hasCache nocache browserIfNoneMatch).Only
      handles := by
  refine only_bind _ ?_ fun fresh => ?_
  · unfold serveFresh
    split
    · apply only_bind _ (only_ask _ trivial)
      intro hit
      split
      · split
        · exact only_bind _ (only_ask _ trivial) fun _ => trivial
        · trivial
      · trivial
    · trivial
  · split
    · trivial
    · refine only_bind _ ?_ fun cachedEtag => dispatchAx25_handles url _ _ _
      unfold lookupEtag
      split
      · exact only_bind _ (only_ask _ trivial) fun _ => trivial
      · trivial

/-- Browsing handles a request. -/
theorem handleBrowse_handles (url : Text) (autoReconnect hasCache : Bool)
    (postBody : Option Bytes) (nocache : Bool) (browserIfNoneMatch : Option Text) :
    (handleBrowse url autoReconnect hasCache postBody nocache browserIfNoneMatch).Only
      handles := by
  apply only_bind _ (only_ask _ trivial)
  intro state
  split
  · trivial
  · split
    · exact dispatchAx25_handles url _ _ _
    · exact browseGet_handles url _ _ _ _

/-- A web request or manager call other than a consent decision. -/
theorem entry_handles (entry : Entry) (other : ∀ decision, entry ≠ .consentPost decision)
    (unconnected : ∀ request, entry ≠ .connect request) :
    entry.routine.Only handles := by
  cases entry with
  | connectModem manager config => exact only_bind _ (call_handles manager _) fun _ => trivial
  | disconnectModem manager => exact only_bind _ (disconnectModem_handles manager) fun _ => trivial
  | queryPorts manager => exact only_bind _ (call_handles manager _) fun _ => trivial
  | openSession manager target portNum =>
    exact only_bind _ (call_handles manager _) fun _ => trivial
  | closeSession manager => exact only_bind _ (closeSession_handles manager) fun _ => trivial
  | sendRequest manager data => exact only_bind _ (call_handles manager _) fun _ => trivial
  | sendRequestWithReconnect manager data =>
    exact only_bind _ (call_handles manager _) fun _ => trivial
  | consentGet => exact only_bind _ (only_ask _ trivial) fun _ => trivial
  | consentPost decision => exact absurd rfl (other decision)
  | connect request => exact absurd rfl (unconnected request)
  | disconnect => exact only_bind _ apiDisconnectHandler_handles fun _ => trivial
  | browse url autoReconnect hasCache postBody nocache browserIfNoneMatch =>
    exact only_bind _ (handleBrowse_handles url _ _ _ _ _) fun _ => trivial

/-- Every entry but a consent decision stays within what a request to connect may do. -/
theorem entry_connects (entry : Entry) (other : ∀ decision, entry ≠ .consentPost decision) :
    entry.routine.Only connects := by
  by_cases connecting : ∃ request, entry = .connect request
  · obtain ⟨request, rfl⟩ := connecting
    exact only_bind _ (apiConnectHandler_connects request) fun _ => trivial
  · exact (entry_handles entry other fun request same => connecting ⟨request, same⟩).mono
      handles_connects

variable (index : Nat)

/-- What connects is a handler's to do. -/
theorem connects_handler (op : Op) (connect : connects op) : (Task.handler index).allowed op := by
  cases op <;> first | exact connect | exact False.elim connect

/-- A decision of the operator is a handler's to do. -/
theorem apiConsentPost_handler (decision : Decision) :
    (apiConsentPost decision).Only (Task.handler index).allowed := by
  apply only_bind _ (only_ask _ trivial)
  intro sender
  split
  · refine only_bind _ ?_ fun _ => only_bind _ (only_ask _ trivial) fun _ => trivial
    unfold recordIfAccepted
    split
    · apply only_bind _ (only_ask _ trivial)
      intro awaited
      split
      · exact only_ask _ trivial
      · trivial
    · trivial
  · trivial

/-- A web request or manager call stays within the role of a handler. -/
theorem entry_handler (entry : Entry) : entry.routine.Only (Task.handler index).allowed := by
  by_cases post : ∃ decision, entry = .consentPost decision
  · obtain ⟨decision, rfl⟩ := post
    exact only_bind _ (apiConsentPost_handler index decision) fun _ => trivial
  · exact (entry_connects entry fun decision same => post ⟨decision, same⟩).mono
      (connects_handler index)

end Handlers

/-- Every task of the client stays within its role. -/
theorem client_only (entries : Nat → Entry) (configuredTimeout : ManagerId → Nat) (task : Task) :
    ((client entries configuredTimeout).threads task).Only task.allowed := by
  cases task with
  | actor m => exact backgroundTask_actor m _
  | handler index => exact entry_handler index _
  | peer m =>
    refine only_loop _ (fun _ => ?_) _
    exact only_bind _ (only_ask _ rfl) fun _ => trivial

/-- So in every run each operation is one its task is allowed. -/
theorem client_roles {entries : Nat → Entry} {configuredTimeout : ManagerId → Nat}
    {meets : Moment → ClientEvent → Prop} {pool : Pool World Task Answer}
    (reaches : Reaches exec meets (client entries configuredTimeout) pool) :
    Reaches exec (fun now event => meets now event ∧ event.thread.allowed event.op)
      (client entries configuredTimeout) pool :=
  (reaches.only (client_only entries configuredTimeout)).2

/-- No other task clears the abort flag of a manager. -/
theorem abort_elsewhere {m : ManagerId} {before after : Moment} {event : ClientEvent}
    (foreign : event.thread ≠ .actor m) (permitted : event.thread.allowed event.op)
    (occurs : Occurs exec before event after) (set : before.world.abort m = true) :
    after.world.abort m = true := by
  obtain ⟨thread, op, answer⟩ := event
  rw [(exec_iff.mp occurs.1).2]
  by_cases stored : ∃ value, op = .storeAbort m value
  · obtain ⟨value, rfl⟩ := stored
    cases thread with
    | actor manager => exact absurd (congrArg Task.actor permitted.symm) foreign
    | handler index =>
      obtain rfl : value = true := permitted
      exact assign_self _ _ _
    | peer manager => exact permitted.elim
  · rw [apply_abort _ _ _ _ fun value same => stored ⟨value, same⟩]
    exact set

section Serving

/-! Which command is being served. -/

/-- The command the background task took from its queue last. -/
def serving (m : ManagerId) : List ClientEvent → Option (TicketId × Command)
  | [] => none
  | event :: earlier =>
    match event.op, event.answer with
    | .nextCommand manager, some taken => if manager = m then some taken else serving m earlier
    | _, _ => serving m earlier

/-- No other task takes commands from the queue. -/
theorem serving_foreign {event : ClientEvent} (foreign : event.thread ≠ .actor m)
    (permitted : event.thread.allowed event.op) (earlier : List ClientEvent) :
    serving m (event :: earlier) = serving m earlier := by
  obtain ⟨thread, op, answer⟩ := event
  cases op with
  | nextCommand manager =>
    have different : manager ≠ m := by
      rintro rfl
      exact foreign (owner_performs rfl permitted)
    cases answer <;> simp [serving, different]
  | _ => rfl

/-- The background task is serving this command. -/
def Serves (m : ManagerId) (taken : TicketId × Command) (now : Moment) : Prop :=
  serving m now.history = some taken

end Serving

/-- Other tasks leave the command that a task serves. -/
theorem serves_stable {S : Setting World Task Answer} {m : ManagerId}
    (roles : ∀ now event, S.meets now event → event.thread.allowed event.op)
    (taken : TicketId × Command) : S.Stable (.actor m) (Serves m taken) := by
  rintro before after holds ⟨event, foreign, moves, _⟩
  rw [Serves, moves.occurs.2, serving_foreign foreign (roles _ _ moves.met)]
  exact holds

/-- A background task is safe if each command is served and answered so that what
holds between commands holds again. -/
theorem backgroundTask_triple {S : Setting World Task Answer} {m : ManagerId} {idle : Moment → Prop}
    (taken : Option (TicketId × Command) → Moment → Prop) (served : TicketId → Reply → Moment → Prop)
    (stable : S.Stable (.actor m) idle) (next : S.Triple (.actor m) idle (ask (.nextCommand m)) taken)
    (serves : ∀ timeoutSecs localCallsign ticket command,
      S.Triple (.actor m) (taken (some (ticket, command)))
        (runCommand m timeoutSecs localCallsign command) fun result => served ticket result.1)
    (replies : ∀ ticket result,
      S.Triple (.actor m) (served ticket result) (ask (.reply ticket result)) fun _ => idle)
    (configuredTimeout : Nat) :
    S.Triple (.actor m) idle (backgroundTask m configuredTimeout) fun _ _ => True := by
  apply triple_loop (fun _ => idle) (fun _ => stable) (fun _ => stable_const _)
  intro localCallsign
  apply triple_bind taken next
  intro command
  rcases command with _ | ⟨ticket, command⟩
  · exact triple_done (stable_const _) fun _ _ => trivial
  · refine triple_bind (fun _ => idle) ?_ fun _ => triple_done stable fun _ => id
    apply triple_bind _ (serves _ localCallsign ticket command)
    intro result
    exact triple_bind (fun _ => idle) (replies ticket result.1) fun _ => triple_done stable fun _ => id

section Commands

/-! Safety of every command, from safety of the three routines that write what binds
the operator. -/

variable {S : Setting World Task Answer} {m : ManagerId}
variable (quiet : ∀ op, serves m (·.binding = false) op → ∀ now answer later,
  S.Moves now ⟨.actor m, op, answer⟩ later → S.inv later)

include quiet

/-- What binds nobody is harmless. -/
theorem quiet_triple {α : Type} {program : Routine α}
    (only : program.Only (serves m (·.binding = false))) :
    S.Triple (.actor m) (fun _ => True) program fun _ _ => True :=
  triple_only (stable_const _) only fun op serving now answer later _ moves =>
    ⟨quiet op serving now answer later moves, trivial⟩

/-- A part that sends nothing binding may come first. -/
theorem quiet_attempt {α β : Type} {first : Attempt α} {after : α → Attempt β}
    (only : first.run.Only (serves m (·.binding = false)))
    (two : ∀ value, S.Triple (.actor m) (fun _ => True) (after value).run fun _ _ => True) :
    S.Triple (.actor m) (fun _ => True) (first >>= after).run fun _ _ => True :=
  triple_attempt_only (stable_const _) only (fun op serving now answer later _ moves =>
    ⟨quiet op serving now answer later moves, trivial⟩) (fun _ => stable_const _) (fun _ _ => id) two

section Handshake

variable (handshake : ∀ localCallsign, S.Triple (.actor m) (fun _ => True)
  (performBpqHandshake m localCallsign).run fun _ _ => True)

include handshake

/-- Opening a session keeps the invariant if resetting the flag and the handshake do. -/
theorem handleOpenSession_triple {taken : Moment → Prop}
    (reset : S.Triple (.actor m) taken (resetAbort m) fun _ _ => True)
    (target : Text) (portNum : UInt8) (localCallsign : Text) :
    S.Triple (.actor m) taken (handleOpenSession m target portNum localCallsign).run
      fun _ _ => True := by
  refine triple_attempt (fun _ _ => True) (fun _ => stable_const _)
    (triple_lift (fun _ => stable_const _) reset) fun _ => ?_
  apply quiet_attempt quiet (openLink_serves m target portNum localCallsign)
  intro _
  refine triple_bind (fun _ _ => True) (handshake localCallsign) fun result => quiet_triple quiet ?_
  cases result with
  | ok value => exact only_bind _ (setState_serves m _) fun _ => trivial
  | error error => exact only_bind _ (setState_serves m _) fun _ => trivial

end Handshake

section Requests

variable (reconnect : ∀ reason localCallsign, S.Triple (.actor m) (fun _ => True)
  (reestablish m reason localCallsign).run fun _ _ => True)
variable (request : ∀ timeoutSecs data, S.Triple (.actor m) (fun _ => True)
  (handleSendRequest m timeoutSecs data).run fun _ _ => True)

include reconnect

/-- A reconnect keeps the invariant if setting the session up again does. -/
theorem handleReconnect_triple (reason localCallsign : Text) :
    S.Triple (.actor m) (fun _ => True) (handleReconnect m reason localCallsign).run
      fun _ _ => True := by
  apply triple_bind (fun _ _ => True) (quiet_triple quiet (setState_serves m _))
  intro _
  apply triple_bind (fun _ _ => True) (reconnect reason localCallsign)
  intro result
  split
  · exact triple_done (stable_const _) fun _ => id
  · exact triple_done (stable_const _) fun _ => id
  · exact triple_bind (fun _ _ => True) (quiet_triple quiet (setState_serves m _)) fun _ =>
      triple_done (stable_const _) fun _ => id

include request

/-- A request with a reconnect keeps the invariant if its parts do. -/
theorem handleSendRequestWithReconnect_triple (timeoutSecs : Nat) (data localCallsign) :
    S.Triple (.actor m) (fun _ => True)
      (handleSendRequestWithReconnect m timeoutSecs data localCallsign).run fun _ _ => True := by
  apply quiet_attempt quiet (bailIfAborted_serves m)
  intro _
  apply triple_bind (fun _ _ => True) (request timeoutSecs data)
  intro first
  unfold afterFirstTry
  split
  · exact triple_done (stable_const _) fun _ => id
  · refine triple_attempt (fun _ _ => True) (fun _ => stable_const _)
      ((handleReconnect_triple quiet reconnect _ localCallsign).consequence (fun _ => id)
        (by rintro (error | value) _ _ <;> trivial)) fun _ => ?_
    exact quiet_attempt quiet (bailIfAborted_serves m) fun _ => request timeoutSecs data
  · exact triple_done (stable_const _) fun _ => id

end Requests

/-- Serving a command is safe if clearing the flag for it, its handshakes and its
requests are. -/
theorem runCommand_triple {taken : Moment → Prop} {command : Command}
    (handshake : ∀ localCallsign, S.Triple (.actor m) (fun _ => True)
      (performBpqHandshake m localCallsign).run fun _ _ => True)
    (reconnect : ∀ reason localCallsign, S.Triple (.actor m) (fun _ => True)
      (reestablish m reason localCallsign).run fun _ _ => True)
    (request : ∀ timeoutSecs data, S.Triple (.actor m) (fun _ => True)
      (handleSendRequest m timeoutSecs data).run fun _ _ => True)
    (reset : command.enables = true →
      S.Triple (.actor m) taken (resetAbort m) fun _ _ => True)
    (timeoutSecs : Nat) (localCallsign : Text) :
    S.Triple (.actor m) taken (runCommand m timeoutSecs localCallsign command) fun _ _ => True := by
  have reply : ∀ {α β : Type} {program : Routine α} {value : α → β},
      S.Triple (.actor m) taken program (fun _ _ => True) →
      S.Triple (.actor m) taken (program >>= fun result => pure (value result)) fun _ _ => True :=
    fun triple => triple_bind (fun _ _ => True) triple fun _ => triple_done (stable_const _) fun _ => id
  have anyway : ∀ {α : Type} {program : Routine α},
      S.Triple (.actor m) (fun _ => True) program (fun _ _ => True) →
      S.Triple (.actor m) taken program fun _ _ => True :=
    fun triple => triple.consequence (fun _ _ => trivial) fun _ _ => id
  cases command with
  | connectModem config =>
    apply triple_bind (fun _ _ => True) (reset rfl)
    intro _
    exact triple_bind (fun _ _ => True) (quiet_triple quiet (callModem_serves m _)) fun _ =>
      triple_done (stable_const _) fun _ => id
  | disconnectModem => exact reply (anyway (quiet_triple quiet (callModem_serves m _)))
  | queryPorts => exact reply (anyway (quiet_triple quiet (handleQueryPorts_serves m)))
  | openSession target portNum =>
    exact reply (handleOpenSession_triple quiet handshake (reset rfl) target portNum localCallsign)
  | closeSession => exact reply (anyway (quiet_triple quiet (handleCloseSession_serves m)))
  | sendRequest data => exact reply (anyway (request timeoutSecs data))
  | sendRequestWithReconnect data =>
    exact reply (anyway (handleSendRequestWithReconnect_triple quiet reconnect request timeoutSecs
      data localCallsign))

end Commands

end PacketBrowser.Client
