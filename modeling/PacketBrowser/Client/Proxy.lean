import PacketBrowser.Client.Connect

/-!
# The web handlers

Showing and answering the consent prompt, disconnecting, and browsing. A response
page is described by what it is made from; decompression and the rewriting of the
page behind the decoded payload are outside. The whole client is the pool of all
background tasks, any number of web requests or manager calls, and the peers.
-/

namespace PacketBrowser.Client

open Protocol Foundation

section Consent

/-- The disclaimer that is shown to the operator. -/
def apiConsentGet : Routine (Option Text) := ask .consentGet

/-- Remember the text on display as agreed to. -/
def recordAwaited (decision : Decision) : Routine Unit := do
  let awaited ← ask (.readAwaited decision)
  match awaited with
  | some text => ask (.recordAgreedDisclaimer text)
  | none => return ()

/-- Remember the disclaimer that was accepted. -/
def recordIfAccepted (decision : Decision) : Routine Unit :=
  if decision.accepted then recordAwaited decision else return ()

/-- The answer to a consent decision: done, or why not. -/
def apiConsentPost (decision : Decision) : Routine (Except Text Unit) := do
  let sender ← ask (.takePendingConsent decision)
  match sender with
  | some consent =>
    recordIfAccepted decision
    let sent ← ask (.answerConsent consent decision.accepted)
    return if sent then .ok () else .error "Handshake no longer awaiting consent".toList
  | none => return .error "No consent prompt is pending".toList

end Consent

/-- Close the session and forget the disclaimer. -/
def apiDisconnectHandler : Routine (Except Text Unit) := do
  let manager ← ask .activeManager
  let result ← closeSession manager
  match result with
  | .ok _ =>
    ask .clearAgreedDisclaimer
    return .ok ()
  | .error err => return .error err.display

/-- What a browse request is answered with. -/
inductive Page where
  | redirectToConnect
  | notModified (etag : Text)
  | cached (url : Text)
  | page (url etag : Text) (maxAge : Int32) (compressed : Bytes)
  | serverError (compressed : Bytes)
  | errorPage (message : Text)
  | sessionErrorPage (message : Text)
  deriving DecidableEq

/-- The header of a received response and the base64 text behind it. -/
def openResponse (responseData : Bytes) : Except Text (Header × Bytes) :=
  match decodeHeader responseData with
  | .ok none => .error "Incomplete response header".toList
  | .error err => .error ("Invalid response header: ".toList ++ err.display)
  | .ok (some header) =>
    if responseData.length < header.headerEnd + header.payloadLen.toNat then
      .error "Incomplete response payload".toList
    else .ok (header, (responseData.drop header.headerEnd).take header.payloadLen.toNat)

section Browse

variable (url : Text)

/-- A confirmed cache entry is served if it is still there. -/
def serveConfirmed : Routine Page := do
  ask (.cacheTouchFresh url)
  let hit ← ask (.cacheLookup url)
  match hit with
  | some _ => return .cached url
  | none => return .errorPage "Server sent NotModified but no cache entry is available".toList

/-- Store the body of an accepted page if there is a cache to write to. -/
def storePage (cacheForWrite : Bool) (header : Header) (compressed : Bytes) : Routine Unit :=
  if cacheForWrite then ask (.cacheInsert url header.etag compressed header.maxAge) else return ()

/-- The page for a response: what it brings, what it confirms, or what went wrong. -/
def renderResponse (cacheForWrite : Bool) (cachedEtag : Option Text) (responseData : Bytes) :
    Routine Page :=
  match openResponse responseData with
  | .error message => return .errorPage message
  | .ok (header, base64Bytes) =>
    match header.status with
    | .notModified =>
      if cacheForWrite ∧ cachedEtag = some header.etag then serveConfirmed url
      else return .errorPage "Server sent NotModified but no cache entry is available".toList
    | .ok =>
      match decodePayload base64Bytes with
      | .error err => return .errorPage ("Base64 decode failed: ".toList ++ err.display)
      | .ok compressed => do
        storePage url cacheForWrite header compressed
        return .page url header.etag header.maxAge compressed
    | _ =>
      match decodePayload base64Bytes with
      | .error err => return .errorPage ("Base64 decode failed: ".toList ++ err.display)
      | .ok compressed => return .serverError compressed

/-- The page for a reply of the manager, with a message for each way in which it failed. -/
def renderResult (cacheForWrite : Bool) (cachedEtag : Option Text) : Reply → Routine Page
  | .ok responseData => renderResponse url cacheForWrite cachedEtag responseData
  | .error .needsReconsent => return (.sessionErrorPage
      "Session dropped and the disclaimer text changed. Please reconnect and re-consent.".toList)
  | .error (.sessionDied reason) => return (.sessionErrorPage
      ("Session lost: ".toList ++ reason ++ ". Please reconnect.".toList))
  | .error .disconnectedByOperator => return (.sessionErrorPage
      "Request cancelled by operator disconnect.".toList)
  | .error err => return .errorPage ("Request failed: ".toList ++ err.display)

/-- The etag a request already carries. -/
def sentEtag : Request → Option Text
  | .get _ ifNoneMatch => ifNoneMatch
  | .post _ _ => none

/-- Send a request, with a reconnect where the operator wants it. -/
def sendEncoded (autoReconnect : Bool) (manager : ManagerId) (encoded : Bytes) : Routine Reply :=
  if autoReconnect then sendRequestWithReconnect manager encoded else sendRequest manager encoded

/-- Send a request through the active manager and show the reply. -/
def dispatchAx25 (autoReconnect : Bool) (request : Request) (cacheForWrite : Bool) :
    Routine Page := do
  let manager ← ask .activeManager
  let result ← sendEncoded autoReconnect manager request.encode
  renderResult url cacheForWrite (sentEtag request) result

/-- A fresh cache entry is served without any request. -/
def serveFresh (hasCache : Bool) (browserIfNoneMatch : Option Text) : Routine (Option Page) :=
  if hasCache then do
    let hit ← ask (.cacheLookup url)
    match hit with
    | some hit =>
      if hit.fresh then do
        ask (.cacheTouchLastUsed url)
        return some (if browserIfNoneMatch = some hit.etag then .notModified hit.etag
          else .cached url)
      else return none
    | none => return none
  else return none

/-- The ETag of the page in the cache, if there is a cache. -/
def lookupEtag (hasCache : Bool) : Routine (Option Text) :=
  if hasCache then do
    let hit ← ask (.cacheLookup url)
    return hit.map Hit.etag
  else return none

/-- A GET: from the cache if allowed and fresh, else with the cached etag. -/
def browseGet (autoReconnect hasCache nocache : Bool) (browserIfNoneMatch : Option Text) :
    Routine Page := do
  let fresh ← serveFresh url (hasCache && !nocache) browserIfNoneMatch
  match fresh with
  | some page => return page
  | none =>
    let cachedEtag ← lookupEtag url (hasCache && !nocache)
    dispatchAx25 url autoReconnect (.get url cachedEtag) hasCache

/-- Browsing needs a session; the check is made here, before anything is queued. -/
def handleBrowse (autoReconnect hasCache : Bool) (postBody : Option Bytes) (nocache : Bool)
    (browserIfNoneMatch : Option Text) : Routine Page := do
  let state ← ask .readConnectionState
  if state ≠ .connected then return .redirectToConnect
  else match postBody with
    | some body => dispatchAx25 url autoReconnect (.post url body) false
    | none => browseGet url autoReconnect hasCache nocache browserIfNoneMatch

end Browse

/-- One web request, or one direct call of a manager method. -/
inductive Entry where
  | connectModem (manager : ManagerId) (config : TransportConfig)
  | disconnectModem (manager : ManagerId)
  | queryPorts (manager : ManagerId)
  | openSession (manager : ManagerId) (target : Text) (portNum : UInt8)
  | closeSession (manager : ManagerId)
  | sendRequest (manager : ManagerId) (data : Bytes)
  | sendRequestWithReconnect (manager : ManagerId) (data : Bytes)
  | consentGet
  | consentPost (decision : Decision)
  | connect (request : ConnectRequest)
  | disconnect
  | browse (url : Text) (autoReconnect hasCache : Bool) (postBody : Option Bytes) (nocache : Bool)
      (browserIfNoneMatch : Option Text)

/-- Run a routine for its effects. -/
def discard {α : Type} (routine : Routine α) : Routine Unit := routine >>= fun _ => return ()

/-- What a web request or a direct call does. -/
def Entry.routine : Entry → Routine Unit
  | .connectModem manager config => discard (Client.connectModem manager config)
  | .disconnectModem manager => discard (Client.disconnectModem manager)
  | .queryPorts manager => discard (Client.queryPorts manager)
  | .openSession manager target portNum => discard (Client.openSession manager target portNum)
  | .closeSession manager => discard (Client.closeSession manager)
  | .sendRequest manager data => discard (Client.sendRequest manager data)
  | .sendRequestWithReconnect manager data =>
    discard (Client.sendRequestWithReconnect manager data)
  | .consentGet => discard apiConsentGet
  | .consentPost decision => discard (apiConsentPost decision)
  | .connect request => discard (apiConnectHandler request)
  | .disconnect => discard apiDisconnectHandler
  | .browse url autoReconnect hasCache postBody nocache browserIfNoneMatch =>
    discard (handleBrowse url autoReconnect hasCache postBody nocache browserIfNoneMatch)

/-- A peer may act at any time. -/
def peerTask (manager : ManagerId) : Routine Unit :=
  Program.loop (fun () => do
    let _ ← ask (.peerMove manager)
    return .inl ()) ()

/-- The client at start-up with the given requests and response timeouts. -/
def client (entries : Nat → Entry) (configuredTimeout : ManagerId → Nat) :
    Pool World Task Answer where
  now := ⟨World.initial, []⟩
  threads
    | .actor manager => backgroundTask manager (configuredTimeout manager)
    | .handler index => (entries index).routine
    | .peer manager => peerTask manager

/-- Events the client can perform one after the other are a run of it. No task
enters more than three loops before its next operation. -/
theorem client_replays (check : Moment → ClientEvent → Bool) (entries : Nat → Entry)
    (configuredTimeout : ManagerId → Nat) (events : List ClientEvent)
    (fits : ((client entries configuredTimeout).replay exec check 3 events).isSome) :
    ∃ pool, Reaches exec (fun now event => check now event = true)
      (client entries configuredTimeout) pool ∧ pool.now.history = events.reverse := by
  obtain ⟨pool, reaches, history⟩ := replay_reaches (fun _ _ => id) 3 events fits
  exact ⟨pool, reaches, by rw [history]; exact List.append_nil _⟩

/-- The same, with a check of the pool the events lead to. -/
theorem client_replays_to (check : Moment → ClientEvent → Bool) (entries : Nat → Entry)
    (configuredTimeout : ManagerId → Nat) (events : List ClientEvent) (final : Moment → Bool)
    (fits : ((client entries configuredTimeout).replay exec check 3 events).any
      (fun pool => final pool.now) = true) :
    ∃ pool, Reaches exec (fun now event => check now event = true)
      (client entries configuredTimeout) pool ∧ pool.now.history = events.reverse ∧
      final pool.now = true := by
  obtain ⟨pool, replayed, holds⟩ := (Option.any_eq_true _ _).mp fits
  obtain ⟨reaches, history⟩ := replay_leads (fun _ _ => id) 3 events _ pool replayed .start
  exact ⟨pool, reaches, by rw [history]; exact List.append_nil _, holds⟩

end PacketBrowser.Client
