import PacketBrowser.Server.Operations

/-!
# A session of the server

The operator is asked for a callsign and for the word AGREE in plain text. From then
on the session reads requests and answers each with a response frame: a rejection of
the filter, a page from the browser, or an error.

Upper case and the hash behind an etag come from libraries and are parameters.
-/

namespace PacketBrowser.Server

open Protocol Foundation

/-- The part of the configuration a session reads. -/
structure Config where
  allowedCallsigns : List Text
  idleTimeoutMinutes : UInt64
  brotliQuality : Nat
  defaultMaxAgeSeconds : Int32
  deriving DecidableEq

/-- Time is counted in milliseconds. -/
def seconds (count : Nat) : Nat := count * 1000

/-- The handshake has five minutes. -/
def preAuthTimeout : Nat := seconds 300

/-- The time after which a peer is idle. The minutes are turned into seconds in 64 bits, where
a large setting wraps around, as in a build without overflow checks. -/
def Config.idleTimeout (config : Config) : Nat := seconds (config.idleTimeoutMinutes * 60).toNat

/-- Settings of any sensible size do not wrap around. -/
theorem idleTimeout_exact {config : Config}
    (small : config.idleTimeoutMinutes.toNat * 60 < UInt64.size) :
    config.idleTimeout = seconds (config.idleTimeoutMinutes.toNat * 60) := by
  have product : (config.idleTimeoutMinutes * 60).toNat =
      config.idleTimeoutMinutes.toNat * 60 % UInt64.size := UInt64.toNat_mul _ _
  rw [Config.idleTimeout, product, Nat.mod_eq_of_lt small]

/-- An operator, whether the terms were accepted, and when something was last heard. -/
structure Session where
  callsign : Text
  acknowledged : Bool
  lastActivity : Nat
  deriving DecidableEq

section Callsigns

/-- A letter or a digit of ASCII. -/
def asciiAlphanumeric (c : Char) : Bool := c.isAlphanum

/-- What stands behind the digit of a callsign: up to three letters or digits and a
letter. -/
def callsignSuffix (suffix : Text) : Bool :=
  decide (suffix.length ≤ 4) && suffix.dropLast.all asciiAlphanumeric && suffix.getLast?.any Char.isAlpha

/-- `^[a-zA-Z0-9]{1,3}[0-9][a-zA-Z0-9]{0,3}[a-zA-Z]$` -/
def callsignRegex (call : Text) : Bool :=
  [1, 2, 3].any fun count =>
    (call.take count).all asciiAlphanumeric && (call.drop count).head?.any Char.isDigit &&
      callsignSuffix (call.drop (count + 1))

/-- Equal up to the case of ASCII letters. -/
def eqIgnoreAsciiCase (left right : Text) : Bool := left.map Char.toLower == right.map Char.toLower

/-- The base of a callsign, without the SSID behind a dash. -/
def baseCallsign (callsign : Text) : Text := callsign.takeWhile (· != '-')

variable (casing : Text.Casing)

/-- The callsign without its suffix, in upper case, if it has the form of one or is in the list. -/
def validateCallsignWithAllowlist (callsign : Text) (allowlist : List Text) : Option Text :=
  let call := baseCallsign callsign
  if callsignRegex call then some (casing.toUppercase call)
  else if allowlist.any (eqIgnoreAsciiCase · call) then some (casing.toUppercase call)
  else none

/-- What a line in front of the consent is. -/
inductive PreAuthLine where
  | duplicateCallsign
  | linbpqStatus
  | candidate
  deriving DecidableEq, Repr

/-- How the node's own notices begin. -/
def noticeMark : Text := ['*', '*', '*']

/-- A second copy of the callsign, a notice of the node, or a line that may be the consent. -/
def classifyPreauthLine (line callsign : Text) : PreAuthLine :=
  let trimmed := casing.toUppercase (Text.trim line)
  if trimmed = callsign then .duplicateCallsign
  else if noticeMark <+: trimmed then .linbpqStatus
  else .candidate

end Callsigns

section Handshake

variable (casing : Text.Casing) (config : Config)

/-- The word of consent. -/
def agreeWord : Text := ['A', 'G', 'R', 'E', 'E']

/-- The first question. -/
def callsignPrompt : Text := "Enter your callsign: ".toList

/-- The answer to a callsign that is none. -/
def invalidCallsignNotice : Text := "Invalid callsign format. Disconnecting.\n".toList

/-- The terms, and the second question. -/
def termsPrompt : Text :=
  "All activity is logged including your callsign.\nType AGREE to proceed: ".toList

/-- The answer to any other word. -/
def refusalNotice : Text := "Acknowledgment required. Goodbye.\n".toList

/-- Something was heard now. -/
def touch (session : Session) : Routine Session := do
  let now ← clock
  return { session with lastActivity := now }

/-- The terms have been accepted, now. -/
def acknowledge (session : Session) : Routine Session :=
  touch { session with acknowledged := true }

/-- An operator who has not accepted the terms. -/
def newSession (callsign : Text) : Routine Session := do
  let now ← clock
  return ⟨callsign, false, now⟩

/-- The entry of a consent. -/
def agreedEntry (callsign : Text) : LogEntry := ⟨callsign, "AGREED".toList, .agreed, none⟩

/-- Read a line, or stop for an error. -/
def readLine (deadline : Nat) : Attempt (Option Text) := ExceptT.mk (ask (.readLine deadline))

/-- The callsign on a line, or a refusal. -/
def checkCallsign (line : Text) : Attempt (Option Text) :=
  match validateCallsignWithAllowlist casing (Text.trim line) config.allowedCallsigns with
  | some callsign => pure (some callsign)
  | none => ExceptT.lift do
    tryWriteText invalidCallsignNotice
    return none

/-- The first line has to be a callsign. -/
def awaitCallsign (deadline : Nat) : Attempt (Option Text) := do
  let line ← readLine deadline
  match line with
  | none => return none
  | some line => checkCallsign casing config line

/-- Read one more line; copies of the callsign line and notices of the node are skipped. -/
def awaitLine (deadline : Nat) (callsign : Text) : Routine (Unit ⊕ Except IoError (Option Text)) := do
  let line ← ask (.readLine deadline)
  match line with
  | .error err => return .inr (.error err)
  | .ok none => return .inr (.ok none)
  | .ok (some line) =>
    return match classifyPreauthLine casing line callsign with
      | .duplicateCallsign => .inl ()
      | .linbpqStatus => .inl ()
      | .candidate => .inr (.ok (some line))

/-- Read until a line may be the consent. -/
def awaitInput (deadline : Nat) (callsign : Text) : Attempt (Option Text) :=
  ExceptT.mk (Program.loop (fun _ => awaitLine casing deadline callsign) ())

/-- The operator's word, or a refusal. -/
def checkAgreement (session : Session) (input : Text) : Attempt (Option Session) :=
  if casing.toUppercase (Text.trim input) ≠ agreeWord then do
    writeText refusalNotice
    return none
  else ExceptT.lift do
    let session ← acknowledge session
    return some session

/-- The terms are shown to the operator, who has to agree to them. -/
def awaitAgreement (deadline : Nat) (callsign : Text) : Attempt (Option Session) := do
  let session ← ExceptT.lift (newSession callsign)
  writeText termsPrompt
  let input ← awaitInput casing deadline callsign
  match input with
  | none => return none
  | some input => checkAgreement casing session input

/-- Everything in plain text: the callsign and the agreement. -/
def authenticate : Attempt (Option Session) := do
  writeText callsignPrompt
  let now ← ExceptT.lift clock
  let deadline := now + preAuthTimeout
  let callsign ← awaitCallsign casing config deadline
  match callsign with
  | none => return none
  | some callsign => awaitAgreement casing deadline callsign

end Handshake

section Responses

/-- Compress a message, or send it as it is. -/
def sendStatusResponse (status : Status) (message : Text) : Attempt Unit := do
  let compressed ← ExceptT.lift (ask (.compress (Utf8.encode message) 11))
  writeBytes (Response.encode
    ⟨status, ['-'], -1, compressed.result.getD (Utf8.encode message)⟩)

/-- Answer with an error. -/
def sendErrorResponse (message : Text) : Attempt Unit := sendStatusResponse .err message

/-- The URL-safe alphabet in place of the standard one. -/
def urlSafe (symbol : UInt8) : Char :=
  if symbol = 43 then '-' else if symbol = 47 then '_' else Char.ofNat symbol.toNat

variable (sha256 : Bytes → Bytes)

/-- Twelve bytes of the hash of a page, in base64url. -/
def sanitizedHtmlEtag (html : Text) : Text :=
  (Base64.encode ((sha256 (Utf8.encode html)).take 12)).map urlSafe

variable (config : Config) (callsign : Text)

/-- How a rejection of the filter is reported to the client and to the log. -/
def UrlError.statuses : UrlError → Status × LogStatus
  | .blockedProtocol _ => (.blocked, .blocked)
  | .blockedHost _ => (.blocked, .blocked)
  | .unresolvableHost _ => (.err, .error)
  | .invalidUrl => (.err, .error)

/-- Log a refusal and answer with it. -/
def rejectUrl (url : Text) (err : UrlError) : Attempt Unit := do
  ExceptT.lift (logEntry ⟨callsign, url, err.statuses.2, some err.display⟩)
  sendStatusResponse err.statuses.1 err.display

/-- How loading a page ends: with its text, or with an answer that was sent instead. -/
inductive Fetched where
  | page (html : Text)
  | answered (sent : Except IoError Unit)

/-- A new browser; without one, the request fails. -/
def restartBrowser : Routine (Option BrowserId ⊕ Fetched × Option BrowserId) := do
  let created ← ask (.newBrowser callsign)
  match created.result with
  | .ok browser => return .inl (some browser)
  | .error _ =>
    let sent ← (sendErrorResponse "Browser unavailable".toList).run
    return .inr (.answered sent, none)

/-- One attempt to load the page. A browser that crashed is replaced. -/
def tryFetch (url : Text) : Option BrowserId →
    Routine (Option BrowserId ⊕ Fetched × Option BrowserId)
  | none => restartBrowser callsign
  | some browser => do
    let fetched ← ask (.fetchPage browser url)
    match fetched.result with
    | .ok html => return .inr (.page html, some browser)
    | .error .browserCrashed => restartBrowser callsign
    | .error err =>
      logEntry ⟨callsign, url, .error, some err.display⟩
      let sent ← (sendErrorResponse "Failed to load page".toList).run
      return .inr (.answered sent, some browser)

/-- Answer with the page, or with the news that the client has it already. -/
def sendPage (url : Text) (ifNoneMatch : Option Text) (html : Text) : Attempt Unit := do
  let etag := sanitizedHtmlEtag sha256 html
  let probed ← ExceptT.lift (ask .joinProbe)
  let maxAge := probed.result.getD config.defaultMaxAgeSeconds
  ExceptT.lift (logEntry ⟨callsign, url, .ok, none⟩)
  if ifNoneMatch = some etag then writeBytes (Response.encode ⟨.notModified, etag, maxAge, []⟩)
  else do
    let compressed ← ExceptT.lift (ask (.compress (Utf8.encode html) config.brotliQuality))
    match compressed.result with
    | none => sendErrorResponse "Compression error".toList
    | some compressed => writeBytes (Response.encode ⟨.ok, etag, maxAge, compressed⟩)

/-- Serve one page. The browser that is left may be another one, or none. -/
def handleRequest (browser : Option BrowserId) (url : Text) (ifNoneMatch : Option Text) :
    Routine (Except IoError Unit × Option BrowserId) := do
  let valid ← ask (.validateUrl url)
  match valid.result with
  | .error err =>
    let sent ← (rejectUrl callsign url err).run
    return (sent, browser)
  | .ok () =>
    ask (.startProbe url)
    let (fetched, browser) ← Program.loop (tryFetch callsign url) browser
    match fetched with
    | .answered sent => return (sent, browser)
    | .page html =>
      let sent ← (sendPage sha256 config callsign url ifNoneMatch html).run
      return (sent, browser)

end Responses

section Serving

variable (casing : Text.Casing) (sha256 : Bytes → Bytes) (config : Config)

/-- The last words to a peer that is not heard of. -/
def timedOutNotice : Text := "\nSession timed out due to inactivity.\n".toList

/-- A POST is refused; the session goes on if the refusal could be sent. -/
def refusePost (session : Session) (browser : Option BrowserId) :
    Routine (Session × Option BrowserId ⊕ Except IoError Unit) := do
  let sent ← (sendErrorResponse "POST requests are not supported".toList).run
  match sent with
  | .error _ => return .inr (.ok ())
  | .ok () =>
    let session ← touch session
    return .inl (session, browser)

/-- Serve a page, and note that something was heard. -/
def serveGet (session : Session) (browser : Option BrowserId) (url : Text)
    (ifNoneMatch : Option Text) : Routine (Session × Option BrowserId ⊕ Except IoError Unit) := do
  let (_, browser) ← handleRequest sha256 config session.callsign browser url ifNoneMatch
  let session ← touch session
  return .inl (session, browser)

/-- The next request, until the input ends, a read fails or the peer is idle. -/
def serveNext (state : Session × Option BrowserId) :
    Routine (Session × Option BrowserId ⊕ Except IoError Unit) := do
  let idleDeadline := state.1.lastActivity + config.idleTimeout
  let read ← ask (.readRequest idleDeadline)
  match read with
  | .ok none => return .inr (.ok ())
  | .error err =>
    if err.kind = .timedOut then do
      tryWriteText timedOutNotice
      return .inr (.ok ())
    else return .inr (.ok ())
  | .ok (some request) =>
    let session ← touch state.1
    match request with
    | .post _ _ => refusePost session state.2
    | .get url ifNoneMatch => serveGet sha256 config session state.2 url ifNoneMatch

/-- Requests are served once a browser runs. -/
def serve (session : Session) : Attempt Unit := do
  ExceptT.lift (logEntry (agreedEntry session.callsign))
  let created ← ExceptT.lift (ask (.newBrowser session.callsign))
  match created.result with
  | .error _ => sendErrorResponse "Browser initialization failed".toList
  | .ok browser =>
    ExceptT.mk (Program.loop (serveNext sha256 config) (session, some browser))

/-- Let the operator in and serve the requests. -/
def handleConnection : Attempt Unit := do
  let session ← authenticate casing config
  match session with
  | none => return ()
  | some session => serve sha256 config session

end Serving

end PacketBrowser.Server
