import PacketBrowser.Browse.Store
import PacketBrowser.Client.Proxy
import PacketBrowser.Protocol.Compress

/-!
# Browsing with the cache

The handlers of `/browse` and of the cache page, as programs whose operations are the
statements on the cache table, readings of the clock and the exchange of a request over
the radio. Each statement is one locked section, so handlers that run at the same time
interleave at operations. What an exchange returns is not constrained.

The decoder behind the decompression and the rewriting of a page are parameters. A page is
described by what it is made from.
-/

namespace PacketBrowser.Browse

open Protocol Foundation

/-- Why a page is not rewritten. -/
inductive RewriteError where
  | invalidUrl (reason : Text)
  | rewriteFailed (reason : Text)
  deriving DecidableEq, Repr

/-- The text shown for an error. -/
def RewriteError.display : RewriteError → Text
  | .invalidUrl reason => "Invalid base URL: ".toList ++ reason
  | .rewriteFailed reason => "Rewrite failed: ".toList ++ reason

/-- What a request is answered with. -/
inductive Page where
  | redirectToConnect
  | redirectToCache
  | notModified (etag : Text)
  | browsePage (rewritten url etag : Text) (ttlSecs : Nat)
  | errorPage (message : Text)
  | sessionErrorPage (message : Text)
  deriving DecidableEq, Repr

/-- Libraries the rendering of a page uses. -/
structure Libraries where
  decompressor : Decompressor
  rewriteHtml : Text → Text → Except RewriteError Text

/-- What the handlers read of the application context. -/
structure AppContext where
  cache : Option Cache
  cacheMaxTtl : Nat
  libraries : Libraries

section Rendering

variable (libraries : Libraries)

/-- The text of a page, or what the error page says. -/
def decodeHtml (invalidUtf8 : Text) (compressed : Bytes) : Except Text Text :=
  match brotliDecompress libraries.decompressor compressed with
  | .error err => .error ("Decompression failed: ".toList ++ err.display)
  | .ok decompressed =>
    match Utf8.decode decompressed with
    | none => .error invalidUtf8
    | some html => .ok html

/-- The page with its links rewritten, or what the error page says. -/
def rewritePage (url html : Text) : Except Text Text :=
  match libraries.rewriteHtml html url with
  | .error err => .error ("Failed to rewrite HTML: ".toList ++ err.display)
  | .ok rewritten => .ok rewritten

/-- The page out of its compressed bytes, with its links rewritten. -/
def renderHtml (invalidUtf8 url : Text) (compressed : Bytes) : Except Text Text :=
  decodeHtml libraries invalidUtf8 compressed >>= rewritePage libraries url

/-- How long a page is fresh: what the server says, up to a cap of the client's own. -/
def effectiveTtlSecs (serverMaxAge : Int32) (configCapSecs : Nat) : Nat :=
  if serverMaxAge ≤ 0 then 0 else min serverMaxAge.toInt.toNat configCapSecs

/-- The page of a response just received. -/
def freshPage (cacheMaxTtl : Nat) (url : Text) (header : Header) (compressed : Bytes) : Page :=
  match renderHtml libraries "Invalid UTF-8 in response".toList url compressed with
  | .error message => .errorPage message
  | .ok rewritten =>
    .browsePage rewritten url header.etag (effectiveTtlSecs header.maxAge cacheMaxTtl)

/-- Seconds left of the lifetime of a hit. -/
def Hit.remainingSecs (hit : Hit) (now : SystemTime) : Nat :=
  let age := now - hit.fetchedAt * nanosPerSec
  if 0 ≤ age then ((hit.maxAge * nanosPerSec - age) / nanosPerSec).toNat else 0

/-- The page of a hit at a reading of the clock. -/
def storedPage (url : Text) (hit : Hit) (now : SystemTime) : Page :=
  match renderHtml libraries "Invalid UTF-8 in cached response".toList url hit.brotliBody with
  | .error message => .errorPage message
  | .ok rewritten => .browsePage rewritten url hit.etag (hit.remainingSecs now)

/-- The page of an error the server reports. -/
def reportedPage (compressed : Bytes) : Page :=
  match brotliDecompress libraries.decompressor compressed with
  | .error err => .errorPage ("Decompression failed: ".toList ++ err.display)
  | .ok decompressed => .errorPage ((Utf8.decode decompressed).getD "Invalid UTF-8".toList)

variable {libraries} in
/-- The error page of a body that cannot be shown names the step that failed. -/
theorem renderHtml_error {invalidUtf8 url message : Text} {compressed : Bytes}
    (failed : renderHtml libraries invalidUtf8 url compressed = .error message) :
    message = invalidUtf8 ∨ (∃ err, message = "Decompression failed: ".toList ++ err) ∨
      ∃ err, message = "Failed to rewrite HTML: ".toList ++ err := by
  unfold renderHtml decodeHtml at failed
  split at failed
  · exact Or.inr (Or.inl ⟨_, (Except.error.inj failed).symm⟩)
  · split at failed
    · exact Or.inl (Except.error.inj failed).symm
    · rename_i html _
      have rewriting : rewritePage libraries url html = .error message := failed
      unfold rewritePage at rewriting
      split at rewriting
      · exact Or.inr (Or.inr ⟨_, (Except.error.inj rewriting).symm⟩)
      · exact absurd rewriting (by simp)

end Rendering

/-- Operations of the handlers. -/
inductive Op where
  | readConnectionState
  | systemTime
  | lookup (url : Text)
  | write (url : Text) (row : CacheRow)
  | touchFresh (url : Text) (now : SystemTime)
  | touchLastUsed (url : Text) (now : SystemTime)
  | delete (url : Text)
  | clear
  | exchange (request : Request)
  | respond (page : Page)
  deriving DecidableEq

/-- The type of answers of each operation. A write answers what its queries returned if the
transaction was committed, a deletion whether it succeeded, and the update of a row which
etag the row has, if there is one; no program looks at these answers. -/
abbrev Answer : Op → Type
  | .readConnectionState => Client.ConnectionState
  | .systemTime => SystemTime
  | .lookup _ => Option Hit
  | .write _ _ => Option Queries
  | .touchFresh _ _ => Option Text
  | .touchLastUsed _ _ => Unit
  | .delete _ => Bool
  | .clear => Bool
  | .exchange _ => Client.Reply
  | .respond _ => Unit

/-- Program of a handler. -/
abbrev Routine := Program Op Answer

/-- Perform one operation. -/
abbrev ask (op : Op) : Routine (Answer op) := Program.ask op

/-- An operation of a request and its answer. -/
abbrev BrowseEvent := Event Nat Answer

/-- The table at a moment, and what has happened. -/
abbrev Moment := Snapshot Entries Nat Answer

section World

variable (cache : Cache) (entries : Entries)

/-- The table can give this answer. -/
def gives : (op : Op) → Answer op → Bool
  | .lookup url, answer => answer == Browse.lookup entries url
  | .write url row, some queries => decide (queries.Possible (entries.insert url row))
  | .touchFresh url _, answer => answer == (Browse.lookup entries url).map Hit.etag
  | _, _ => true

/-- The table after an answered operation. -/
def apply : (op : Op) → Answer op → Entries
  | .write url row, committed => cache.write entries url row committed
  | .touchFresh url now, _ => Browse.touchFresh entries url now
  | .touchLastUsed url now, _ => Browse.touchLastUsed entries url now
  | .delete url, executed => if executed then Browse.delete entries url else entries
  | .clear, executed => if executed then Browse.clear entries else entries
  | _, _ => entries

/-- The meaning of operations. -/
def exec (op : Op) (answer : Answer op) (entries : Entries) : Option Entries :=
  if gives entries op answer then some (apply cache entries op answer) else none

/-- An operation occurs exactly if the table gives the answer, and then changes as it says. -/
theorem exec_iff {op : Op} {answer : Answer op} {entries after : Entries} :
    exec cache op answer entries = some after ↔
      gives entries op answer = true ∧ after = apply cache entries op answer := by
  unfold exec
  by_cases possible : gives entries op answer = true
  · simp only [possible, if_true, Option.some.injEq, true_and]
    exact eq_comm
  · simp [possible]

end World

/-- A row that is there after a statement is the one written, or was there before but for
its times. Only a touch of its URL makes it younger. -/
theorem row_after {cache : Cache} {entries : Entries} {url : Text} {op : Op} {answer : Answer op}
    {row : CacheRow} (stored : (apply cache entries op answer).lookup url = some row) :
    (∃ queries, (⟨op, answer⟩ : Sigma Answer) = ⟨.write url row, some queries⟩) ∨
      ∃ old, entries.lookup url = some old ∧ row.Alike old ∧ (row.fetchedAt = old.fetchedAt ∨
        ∃ now, op = .touchFresh url now ∧ row.fetchedAt = unixSecs now) := by
  have unchanged : entries.lookup url = some row → ∃ old, entries.lookup url = some old ∧
      row.Alike old ∧ (row.fetchedAt = old.fetchedAt ∨
        ∃ now, op = .touchFresh url now ∧ row.fetchedAt = unixSecs now) := by
    intro same
    exact ⟨row, same, ⟨rfl, rfl, rfl⟩, Or.inl rfl⟩
  cases op with
  | write other written =>
    cases answer with
    | none => exact Or.inr (unchanged stored)
    | some queries =>
      simp only [apply, Cache.lookup_write] at stored
      split at stored
      · rename_i same
        obtain rfl := Option.some.inj stored
        exact Or.inl ⟨queries, by rw [same]⟩
      · split at stored
        · exact absurd stored (by simp)
        · exact Or.inr (unchanged stored)
  | touchFresh touched now =>
    simp only [apply, touchFresh, lookup_update] at stored
    split at stored
    · rename_i same
      subst same
      obtain ⟨old, before, rfl⟩ := Option.map_eq_some_iff.mp stored
      exact Or.inr ⟨old, before, ⟨rfl, rfl, rfl⟩, Or.inr ⟨now, rfl, rfl⟩⟩
    · exact Or.inr (unchanged stored)
  | touchLastUsed touched now =>
    simp only [apply, touchLastUsed, lookup_update] at stored
    split at stored
    · obtain ⟨old, before, rfl⟩ := Option.map_eq_some_iff.mp stored
      exact Or.inr ⟨old, before, ⟨rfl, rfl, rfl⟩, Or.inl rfl⟩
    · exact Or.inr (unchanged stored)
  | delete deleted =>
    simp only [apply] at stored
    split at stored
    · rw [lookup_delete] at stored
      split at stored
      · exact absurd stored (by simp)
      · exact Or.inr (unchanged stored)
    · exact Or.inr (unchanged stored)
  | clear =>
    simp only [apply] at stored
    split at stored
    · exact absurd stored (by simp)
    · exact Or.inr (unchanged stored)
  | _ => exact Or.inr (unchanged stored)

section Methods

/-! The methods of the cache that read the clock, as the statements they execute. -/

/-- Store a page with the time of now, unless the server does not want it stored. -/
def Cache.insertNow (cache : Cache) (url : Text) (header : Header) (brotliBody : Bytes) :
    Routine Unit :=
  if header.maxAge < 0 then return ()
  else do
    let now ← ask .systemTime
    let _ ← ask (.write url (cache.freshRow header.etag brotliBody header.maxAge now))
    return ()

/-- Note that a page is fresh from now on. -/
def touchFreshNow (url : Text) : Routine Unit := do
  let now ← ask .systemTime
  let _ ← ask (.touchFresh url now)
  return ()

/-- Note that a page is used now. -/
def touchLastUsedNow (url : Text) : Routine Unit := do
  let now ← ask .systemTime
  ask (.touchLastUsed url now)

end Methods

section Handlers

variable (ctx : AppContext) (url : Text)

/-- Show a page of the cache with the time it has left. -/
def serveFromHit (hit : Hit) : Routine Page :=
  match renderHtml ctx.libraries "Invalid UTF-8 in cached response".toList url hit.brotliBody with
  | .error message => return .errorPage message
  | .ok rewritten => do
    let now ← ask .systemTime
    return .browsePage rewritten url hit.etag (hit.remainingSecs now)

/-- The message about a confirmation of a page that is not there. -/
def noEntryMessage : Text :=
  "Server sent NotModified but no cache entry is available".toList

/-- A confirmed entry is touched and looked up again. -/
def serveConfirmed : Routine Page := do
  touchFreshNow url
  let hit ← ask (.lookup url)
  match hit with
  | some hit => serveFromHit ctx url hit
  | none => return .errorPage noEntryMessage

/-- Store the body of an accepted page if there is a cache to write to. -/
def storePage (cacheForWrite : Option Cache) (header : Header) (compressed : Bytes) :
    Routine Unit :=
  match cacheForWrite with
  | some cache => cache.insertNow url header compressed
  | none => return ()

/-- The page for a response: what it brings, what it confirms, or what went wrong. -/
def renderResponse (cacheForWrite : Option Cache) (cachedEtag : Option Text)
    (responseData : Bytes) : Routine Page :=
  match Client.openResponse responseData with
  | .error message => return .errorPage message
  | .ok (header, base64Bytes) =>
    match header.status with
    | .notModified =>
      if cacheForWrite.isSome ∧ cachedEtag = some header.etag then serveConfirmed ctx url
      else return .errorPage noEntryMessage
    | .ok =>
      match decodePayload base64Bytes with
      | .error err => return .errorPage ("Base64 decode failed: ".toList ++ err.display)
      | .ok compressed => do
        storePage url cacheForWrite header compressed
        return freshPage ctx.libraries ctx.cacheMaxTtl url header compressed
    | _ =>
      match decodePayload base64Bytes with
      | .error err => return .errorPage ("Base64 decode failed: ".toList ++ err.display)
      | .ok compressed => return reportedPage ctx.libraries compressed

/-- The page for a reply of the transport, with a message for each way in which it failed. -/
def renderResult (cacheForWrite : Option Cache) (cachedEtag : Option Text) :
    Client.Reply → Routine Page
  | .ok responseData => renderResponse ctx url cacheForWrite cachedEtag responseData
  | .error .needsReconsent => return (.sessionErrorPage
      "Session dropped and the disclaimer text changed. Please reconnect and re-consent.".toList)
  | .error (.sessionDied reason) => return (.sessionErrorPage
      ("Session lost: ".toList ++ reason ++ ". Please reconnect.".toList))
  | .error .disconnectedByOperator => return (.sessionErrorPage
      "Request cancelled by operator disconnect.".toList)
  | .error err => return .errorPage ("Request failed: ".toList ++ err.display)

section Replies

/-! The three ways a reply is rendered: a page is stored and shown, a confirmed entry is
served, and everything else is an error. -/

/-- The header and the payload of a reply that can be read. -/
def opened (reply : Client.Reply) : Option (Header × Bytes) :=
  match reply with
  | .error _ => none
  | .ok responseData => (Client.openResponse responseData).toOption

/-- The header of a reply that says that the page has not changed. -/
def confirmation (reply : Client.Reply) : Option Header :=
  match opened reply with
  | some (header, _) => if header.status = .notModified then some header else none
  | none => none

/-- The header and the compressed page of a reply that brings one. -/
def acceptedPage (reply : Client.Reply) : Option (Header × Bytes) :=
  match opened reply with
  | some (header, base64Bytes) =>
    if header.status = .ok then
      (decodePayload base64Bytes).toOption.map fun compressed => (header, compressed)
    else none
  | none => none

/-- Pages that tell of an error. -/
def Page.failed : Page → Bool
  | .errorPage _ => true
  | .sessionErrorPage _ => true
  | _ => false

variable {ctx url} {reply : Client.Reply} {header : Header}

/-- A confirmation of the ETag that was asked about shows the stored page. -/
theorem renderResult_confirmed {cacheForWrite : Option Cache} (confirms : confirmation reply = some header)
    (writable : cacheForWrite.isSome) :
    renderResult ctx url cacheForWrite (some header.etag) reply = serveConfirmed ctx url := by
  cases reply with
  | error err => exact absurd confirms (by simp [confirmation, opened])
  | ok responseData =>
    simp only [confirmation, opened] at confirms
    cases read : Client.openResponse responseData with
    | error message => exact absurd confirms (by simp [read, Except.toOption])
    | ok whole =>
      simp only [read, Except.toOption] at confirms
      split at confirms
      · rename_i status
        obtain rfl := Option.some.inj confirms
        simp only [renderResult, renderResponse, read, status, writable, true_and, if_true]
      · exact absurd confirms (by simp)

/-- A page that is accepted is stored and shown. -/
theorem renderResult_accepted {compressed : Bytes} (cacheForWrite : Option Cache)
    (cachedEtag : Option Text) (accepts : acceptedPage reply = some (header, compressed)) :
    renderResult ctx url cacheForWrite cachedEtag reply = (do
      storePage url cacheForWrite header compressed
      return freshPage ctx.libraries ctx.cacheMaxTtl url header compressed) := by
  cases reply with
  | error err => exact absurd accepts (by simp [acceptedPage, opened])
  | ok responseData =>
    simp only [acceptedPage, opened] at accepts
    cases read : Client.openResponse responseData with
    | error message => exact absurd accepts (by simp [read, Except.toOption])
    | ok whole =>
      simp only [read, Except.toOption] at accepts
      split at accepts
      · rename_i status
        obtain ⟨payload, decoded, same⟩ := Option.map_eq_some_iff.mp accepts
        obtain ⟨rfl, rfl⟩ := Prod.mk.inj same
        cases payloadRead : decodePayload whole.2 with
        | error err => exact absurd decoded (by simp [payloadRead])
        | ok content =>
          rw [payloadRead] at decoded
          obtain rfl := Option.some.inj decoded
          simp only [renderResult, renderResponse, read, status, payloadRead]
      · exact absurd accepts (by simp)

/-- A page about a failure counts as one. -/
theorem reportedPage_failed (libraries : Libraries) (compressed : Bytes) :
    (reportedPage libraries compressed).failed = true := by
  unfold reportedPage
  split <;> rfl

/-- Whatever neither brings a page nor confirms an entry there is ends in an error page,
and changes nothing. -/
theorem renderResult_other {cacheForWrite : Option Cache} {cachedEtag : Option Text}
    (unaccepted : acceptedPage reply = none)
    (unconfirmed : ∀ header, confirmation reply = some header →
      ¬ (cacheForWrite.isSome ∧ cachedEtag = some header.etag)) :
    ∃ page, page.failed = true ∧
      renderResult ctx url cacheForWrite cachedEtag reply = .done page := by
  cases reply with
  | error err => cases err <;> exact ⟨_, rfl, rfl⟩
  | ok responseData =>
    simp only [acceptedPage, confirmation, opened] at unaccepted unconfirmed
    simp only [renderResult, renderResponse]
    cases read : Client.openResponse responseData with
    | error message => exact ⟨_, rfl, rfl⟩
    | ok whole =>
      obtain ⟨header, base64Bytes⟩ := whole
      simp only [read, Except.toOption] at unaccepted unconfirmed
      cases status : header.status with
      | notModified =>
        simp only [status, if_true, Option.some.injEq, forall_eq'] at unconfirmed
        simp only [status, if_neg unconfirmed]
        exact ⟨_, rfl, rfl⟩
      | ok =>
        simp only [status]
        cases payload : decodePayload base64Bytes with
        | error err => exact ⟨_, rfl, rfl⟩
        | ok compressed => exact absurd unaccepted (by simp [status, payload])
      | err =>
        simp only [status]
        cases decodePayload base64Bytes with
        | error err => exact ⟨_, rfl, rfl⟩
        | ok compressed => exact ⟨_, reportedPage_failed ctx.libraries compressed, rfl⟩
      | blocked =>
        simp only [status]
        cases decodePayload base64Bytes with
        | error err => exact ⟨_, rfl, rfl⟩
        | ok compressed => exact ⟨_, reportedPage_failed ctx.libraries compressed, rfl⟩

end Replies

/-- The exchange sends the encoded request; whether it reconnects is a setting. -/
def dispatchAx25 (request : Request) (cacheForWrite : Option Cache) : Routine Page := do
  let result ← ask (.exchange request)
  renderResult ctx url cacheForWrite (Client.sentEtag request) result

/-- A fresh entry is served without any request. -/
def serveFresh (cache : Option Cache) (browserIfNoneMatch : Option Text) :
    Routine (Option Page) :=
  if cache.isSome then do
    let hit ← ask (.lookup url)
    match hit with
    | some hit =>
      let now ← ask .systemTime
      if hit.isFresh now then
        touchLastUsedNow url
        if browserIfNoneMatch = some hit.etag then return some (.notModified hit.etag)
        else
          let page ← serveFromHit ctx url hit
          return some page
      else return none
    | none => return none
  else return none

/-- The ETag of the page in the cache, if there is a cache. -/
def lookupEtag (cache : Option Cache) : Routine (Option Text) :=
  if cache.isSome then do
    let hit ← ask (.lookup url)
    return hit.map Hit.etag
  else return none

/-- A GET: from the cache if allowed and fresh, else with the etag stored. -/
def browseGet (nocache : Bool) (browserIfNoneMatch : Option Text) : Routine Page := do
  let readable := if nocache then none else ctx.cache
  let fresh ← serveFresh ctx url readable browserIfNoneMatch
  match fresh with
  | some page => return page
  | none =>
    let cachedEtag ← lookupEtag url readable
    dispatchAx25 ctx url (.get url cachedEtag) ctx.cache

/-- Operations that neither ask the server, nor store a page, nor answer. -/
def Op.plain : Op → Prop
  | .exchange _ => False
  | .write _ _ => False
  | .respond _ => False
  | _ => True

open Program in
/-- Noting that a page is fresh looks only at the table. -/
theorem touchFreshNow_plain : (touchFreshNow url).Only Op.plain :=
  only_bind _ (only_ask _ trivial) fun _ => only_bind _ (only_ask _ trivial) fun _ => trivial

open Program in
/-- Noting that a page is used looks only at the table. -/
theorem touchLastUsedNow_plain : (touchLastUsedNow url).Only Op.plain :=
  only_bind _ (only_ask _ trivial) fun _ => only_ask _ trivial

open Program in
/-- Showing a page of the cache looks only at the table. -/
theorem serveFromHit_plain (hit : Hit) : (serveFromHit ctx url hit).Only Op.plain := by
  unfold serveFromHit
  split
  · trivial
  · exact only_bind _ (only_ask _ trivial) fun _ => trivial

open Program in
/-- Looking for a fresh page looks only at the table. -/
theorem serveFresh_plain (cache : Option Cache) (browserIfNoneMatch : Option Text) :
    (serveFresh ctx url cache browserIfNoneMatch).Only Op.plain := by
  unfold serveFresh
  split
  · apply only_bind _ (only_ask _ trivial)
    intro answer
    cases answer with
    | none => trivial
    | some hit =>
      apply only_bind _ (only_ask _ trivial)
      intro now
      split
      · apply only_bind _ (touchLastUsedNow_plain url)
        intro _
        split
        · trivial
        · exact only_bind _ (serveFromHit_plain ctx url hit) fun _ => trivial
      · trivial
  · trivial

open Program in
/-- Looking for an ETag looks only at the table. -/
theorem lookupEtag_plain (cache : Option Cache) : (lookupEtag url cache).Only Op.plain := by
  unfold lookupEtag
  split
  · exact only_bind _ (only_ask _ trivial) fun _ => trivial
  · trivial

open Program in
/-- Showing a confirmed page looks only at the table. -/
theorem serveConfirmed_plain : (serveConfirmed ctx url).Only Op.plain := by
  apply only_bind _ (touchFreshNow_plain url)
  intro _
  apply only_bind _ (only_ask _ trivial)
  intro answer
  cases answer with
  | none => trivial
  | some hit => exact serveFromHit_plain ctx url hit

end Handlers

/-- The arguments of a browse request. -/
structure BrowseRequest where
  url : Text
  postBody : Option Bytes
  nocache : Bool
  browserIfNoneMatch : Option Text
  deriving DecidableEq

section Requests

variable (ctx : AppContext)

/-- Browse a page or send a form, if a session is open. -/
def handleBrowse (request : BrowseRequest) : Routine Page := do
  let state ← ask .readConnectionState
  if state ≠ .connected then return .redirectToConnect
  else match request.postBody with
    | some body => dispatchAx25 ctx request.url (.post request.url body) none
    | none => browseGet ctx request.url request.nocache request.browserIfNoneMatch

/-- Delete a page and go back to the list, whatever the statement gives. -/
def apiCacheDelete (url : Text) : Routine Page :=
  if ctx.cache.isSome then do
    let _ ← ask (.delete url)
    return .redirectToCache
  else return .redirectToCache

/-- Clear the cache and go back to the list, whatever the statement gives. -/
def apiCacheClear : Routine Page :=
  if ctx.cache.isSome then do
    let _ ← ask .clear
    return .redirectToCache
  else return .redirectToCache

/-- One web request. -/
inductive Entry where
  | browse (request : BrowseRequest)
  | cacheDelete (url : Text)
  | cacheClear
  deriving DecidableEq

/-- The page for a request. -/
def Entry.page : Entry → Routine Page
  | .browse request => handleBrowse ctx request
  | .cacheDelete url => apiCacheDelete ctx url
  | .cacheClear => apiCacheClear ctx

/-- Make the page for a request and send it. -/
def Entry.routine (entry : Entry) : Routine Unit := do
  let page ← entry.page ctx
  ask (.respond page)

/-- Any number of web requests at the same time, and an empty table. -/
def handlers (entries : Nat → Entry) : Pool Entries Nat Answer where
  now := ⟨∅, []⟩
  threads index := (entries index).routine ctx

/-- Events the handlers can perform one after the other are a run of them. -/
theorem handlers_replay (cache : Cache) (check : Moment → BrowseEvent → Bool)
    (entries : Nat → Entry) (events : List BrowseEvent)
    (fits : ((handlers ctx entries).replay (exec cache) check 0 events).isSome) :
    ∃ pool, Reaches (exec cache) (fun now event => check now event = true)
      (handlers ctx entries) pool ∧ pool.now.history = events.reverse := by
  obtain ⟨pool, reaches, history⟩ := replay_reaches (fun _ _ => id) 0 events fits
  exact ⟨pool, reaches, by rw [history]; exact List.append_nil _⟩

/-- The same, with a check of the moment the events lead to. -/
theorem handlers_replay_to (cache : Cache) (entries : Nat → Entry) (events : List BrowseEvent)
    (final : Moment → Bool)
    (fits : ((handlers ctx entries).replay (exec cache) (fun _ _ => true) 0 events).any
      (fun pool => final pool.now) = true) :
    ∃ pool, Reaches (exec cache) (fun _ _ => True) (handlers ctx entries) pool ∧
      pool.now.history = events.reverse ∧ final pool.now = true := by
  obtain ⟨pool, replayed, holds⟩ := (Option.any_eq_true _ _).mp fits
  obtain ⟨reaches, history⟩ := replay_leads (fun _ _ _ => trivial) 0 events _ pool replayed .start
  exact ⟨pool, reaches, by rw [history]; exact List.append_nil _, holds⟩

end Requests

section Samples

/-! A client whose pages are not compressed and not rewritten. -/

/-- A cache with a little room and ten minutes. -/
def sampleCache : Cache := ⟨1000, 600⟩

/-- Nothing is compressed, and no link is rewritten. -/
def sampleContext : AppContext where
  cache := some sampleCache
  cacheMaxTtl := 600
  libraries := ⟨fun data => [.ok data], fun html _ => .ok html⟩

/-- A URL of one letter. -/
def sampleUrl : Text := ['u']

/-- An ETag of one letter, as long as they are. -/
def sampleEtag (letter : Char) : Text := List.replicate 16 letter

end Samples

end PacketBrowser.Browse
