import PacketBrowser.Foundation.Monitor
import PacketBrowser.Server.Responses

/-!
# The conduct of a session

A session is watched by a monitor that knows who the operator is, which browser runs, until
when input is awaited, and how far the request at hand has come. It permits each operation
only where it has its place: a URL is put to the filter once and only while it is asked for,
a thread that probes its origin is started only after the filter accepted it, a page is loaded
only by the browser that was started last and has not crashed since, no second browser is
started beside one that runs, each request gets one response, and the next request is awaited
only then. In front of its response a page has one entry in the log, whether it is rejected,
not to be loaded, or sent; a POST that is refused has none, and neither has a page for which
no browser can be started.

Every run of a session conforms to this monitor, whatever the peer, the filter, the browser,
the log and the link do.
-/

namespace PacketBrowser.Server

open Protocol Foundation Program

/-- How far a session has come. -/
inductive Point where
  /-- The callsign is awaited. -/
  | greeting
  /-- The callsign is known, and the operator's word is awaited. -/
  | greeted
  | agreed
  /-- The agreement is in the log, and no browser runs yet. -/
  | starting
  /-- The next request is awaited. -/
  | ready
  /-- A POST is to be refused. -/
  | refusing
  | asked (url : Text)
  | rejected (url : Text) (err : UrlError)
  | accepted (url : Text)
  /-- The probe of the origin has been started, and the page is being loaded. -/
  | loading (url : Text)
  | failed (url : Text) (err : BrowserError)
  | loaded (url : Text)
  /-- The probe is over, too. -/
  | probed (url : Text)
  /-- The response is to be sent. -/
  | answering
  /-- A last notice may be sent. -/
  | closing
  | over
  deriving DecidableEq

/-- What the monitor knows of a session. -/
structure Conduct where
  callsign : Text
  browser : Option BrowserId
  /-- When the handshake has to be over: it is fixed by the first look at the clock. -/
  deadline : Option Nat
  /-- The last time the session was told. -/
  touched : Nat
  stage : Point

/-- Nothing is known yet. -/
def Conduct.opening : Conduct := ⟨[], none, none, 0, .greeting⟩

/-- The entry that is due in the log. -/
def Point.entry (callsign : Text) : Point → Option LogEntry
  | .agreed => some (agreedEntry callsign)
  | .rejected url err => some ⟨callsign, url, err.statuses.2, some err.display⟩
  | .failed url err => some ⟨callsign, url, .error, some err.display⟩
  | .probed url => some ⟨callsign, url, .ok, none⟩
  | _ => none

/-- Something may be sent. -/
def Point.speaks : Point → Bool
  | .greeting => true
  | .greeted => true
  | .refusing => true
  | .answering => true
  | .closing => true
  | _ => false

/-- A response may be prepared. -/
def Point.prepares : Point → Bool
  | .refusing => true
  | .answering => true
  | .closing => true
  | _ => false

section Watching

variable (casing : Text.Casing) (config : Config)

/-- What is permitted. Looking at the clock always is. -/
def Conduct.permits (conduct : Conduct) : Op → Prop
  | .now => True
  | .readLine deadline =>
    (conduct.stage = .greeting ∨ conduct.stage = .greeted) ∧ conduct.deadline = some deadline
  | .readRequest deadline =>
    conduct.stage = .ready ∧ deadline = conduct.touched + config.idleTimeout
  | .write _ => conduct.stage.speaks = true
  | .compress _ _ => conduct.stage.prepares = true
  | .log entry => conduct.stage.entry conduct.callsign = some entry
  | .newBrowser callsign => callsign = conduct.callsign ∧ conduct.browser = none ∧
    (conduct.stage = .starting ∨ ∃ url, conduct.stage = .loading url)
  | .validateUrl url => conduct.stage = .asked url
  | .startProbe url => conduct.stage = .accepted url
  | .fetchPage browser url => conduct.stage = .loading url ∧ conduct.browser = some browser
  | .joinProbe => ∃ url, conduct.stage = .loaded url

/-- A line that was read during the handshake. -/
def Conduct.hear (conduct : Conduct) (line : Text) : Conduct :=
  match conduct.stage with
  | .greeting =>
    match validateCallsignWithAllowlist casing (Text.trim line) config.allowedCallsigns with
    | some callsign => { conduct with callsign := callsign, stage := .greeted }
    | none => { conduct with stage := .closing }
  | _ =>
    match classifyPreauthLine casing line conduct.callsign with
    | .candidate =>
      if casing.toUppercase (Text.trim line) = agreeWord then { conduct with stage := .agreed }
      else conduct
    | _ => conduct

/-- A request that was read. -/
def Point.take : Request → Point
  | .get url _ => .asked url
  | .post _ _ => .refusing

/-- The stage behind something that was sent. A refusal that cannot be sent ends the
session, a response that cannot be sent does not. -/
def Point.sent (stage : Point) (result : Except IoError Unit) : Point :=
  match stage, result with
  | .answering, _ => .ready
  | .refusing, .ok () => .ready
  | .refusing, .error _ => .over
  | .closing, _ => .over
  | stage, _ => stage

/-- The stage behind an entry in the log. -/
def Point.logged : Point → Point
  | .agreed => .starting
  | _ => .answering

/-- The stage once a browser runs. -/
def Point.started : Point → Point
  | .starting => .ready
  | stage => stage

/-- The stage if no browser could be started. -/
def Point.unstarted : Point → Point
  | .starting => .closing
  | _ => .answering

/-- What the monitor knows after an answered operation. -/
def Conduct.after (conduct : Conduct) : (op : Op) → Answer op → Conduct
  | .now, time =>
    { conduct with
      deadline := conduct.deadline.or (some (time + preAuthTimeout))
      touched := time }
  | .readLine _, .ok (some line) => conduct.hear casing config line
  | .readLine _, _ => { conduct with stage := .over }
  | .readRequest _, .ok (some request) => { conduct with stage := .take request }
  | .readRequest _, .ok none => { conduct with stage := .over }
  | .readRequest _, .error err =>
    { conduct with stage := if err.kind = .timedOut then .closing else .over }
  | .write _, answer => { conduct with stage := conduct.stage.sent answer.result.result }
  | .compress _ _, _ => conduct
  | .log _, _ => { conduct with stage := conduct.stage.logged }
  | .newBrowser _, ⟨.ok browser, _⟩ =>
    { conduct with browser := some browser, stage := conduct.stage.started }
  | .newBrowser _, ⟨.error _, _⟩ =>
    { conduct with browser := none, stage := conduct.stage.unstarted }
  | .validateUrl url, ⟨.ok (), _⟩ => { conduct with stage := .accepted url }
  | .validateUrl url, ⟨.error err, _⟩ => { conduct with stage := .rejected url err }
  | .startProbe url, _ => { conduct with stage := .loading url }
  | .fetchPage _ url, ⟨.ok _, _⟩ => { conduct with stage := .loaded url }
  | .fetchPage _ _, ⟨.error .browserCrashed, _⟩ => { conduct with browser := none }
  | .fetchPage _ url, ⟨.error err, _⟩ => { conduct with stage := .failed url err }
  | .joinProbe, _ =>
    match conduct.stage with
    | .loaded url => { conduct with stage := .probed url }
    | _ => conduct

/-- The monitor of a session. -/
def watch : Monitor Conduct Answer := ⟨Conduct.permits config, Conduct.after casing config⟩

/-- A program of the session conforms to the monitor. -/
abbrev Conforms {α : Type} (pre : Conduct → Prop) (program : Routine α)
    (post : α → Conduct → Prop) : Prop :=
  (watch casing config).Conforms .opening exec pre program post

/-- Who the operator is, which browser runs, when the session was touched, and how far it
has come. -/
def Stands (callsign : Text) (browser : Option BrowserId) (touched : Nat) (stage : Point)
    (conduct : Conduct) : Prop :=
  conduct.callsign = callsign ∧ conduct.browser = browser ∧ conduct.touched = touched ∧
    conduct.stage = stage

variable {casing config} {callsign url : Text} {browser : Option BrowserId} {touched : Nat}
variable {stage : Point} {α : Type}

section Responses

/-- Writing is permitted where the session may speak. -/
theorem writeBytes_conforms (speaks : stage.speaks = true) (bytes : Bytes) :
    Conforms casing config (Stands callsign browser touched stage) (writeBytes bytes).run
      fun result => Stands callsign browser touched (stage.sent result) := by
  apply Monitor.conforms_bind fun written =>
    Stands callsign browser touched (stage.sent written.result.result)
  · apply Monitor.conforms_ask
    · rintro conduct ⟨-, -, -, rfl⟩
      exact speaks
    · rintro conduct answer ⟨rfl, rfl, rfl, rfl⟩
      exact ⟨rfl, rfl, rfl, rfl⟩
  · exact fun written => Monitor.conforms_done fun _ => id

/-- Writing a text is permitted where the session may speak, whether or not it is written. -/
theorem tryWriteText_conforms (speaks : stage.speaks = true) (text : Text) :
    Conforms casing config (Stands callsign browser touched stage) (tryWriteText text)
      fun _ conduct => ∃ stage, Stands callsign browser touched stage conduct := by
  apply Monitor.conforms_bind fun _ conduct => ∃ stage, Stands callsign browser touched stage conduct
  · apply Monitor.conforms_ask
    · rintro conduct ⟨-, -, -, rfl⟩
      exact speaks
    · rintro conduct answer ⟨rfl, rfl, rfl, rfl⟩
      exact ⟨_, rfl, rfl, rfl, rfl⟩
  · exact fun _ => Monitor.conforms_done fun _ => id

/-- The entry that is due is permitted. -/
theorem logEntry_conforms {entry : LogEntry} (due : stage.entry callsign = some entry) :
    Conforms casing config (Stands callsign browser touched stage) (logEntry entry)
      fun _ => Stands callsign browser touched stage.logged := by
  apply Monitor.conforms_bind fun _ => Stands callsign browser touched stage.logged
  · apply Monitor.conforms_ask
    · rintro conduct ⟨rfl, -, -, rfl⟩
      exact due
    · rintro conduct answer ⟨rfl, rfl, rfl, rfl⟩
      exact ⟨rfl, rfl, rfl, rfl⟩
  · exact fun _ => Monitor.conforms_done fun _ => id

/-- Compressing is permitted where a response is prepared. -/
theorem compress_conforms (prepares : stage.prepares = true) (data : Bytes) (quality : Nat) :
    Conforms casing config (Stands callsign browser touched stage) (ask (.compress data quality))
      fun _ => Stands callsign browser touched stage := by
  apply Monitor.conforms_ask
  · rintro conduct ⟨-, -, -, rfl⟩
    exact prepares
  · rintro conduct answer stands
    exact stands

/-- Where a response is prepared the session may speak. -/
theorem prepares_speaks (prepares : stage.prepares = true) : stage.speaks = true := by
  cases stage <;> first | rfl | exact absurd prepares Bool.false_ne_true

/-- A response without a page is compressed and sent. -/
theorem sendStatusResponse_conforms (prepares : stage.prepares = true) (status : Status)
    (message : Text) :
    Conforms casing config (Stands callsign browser touched stage)
      (sendStatusResponse status message).run
      fun result => Stands callsign browser touched (stage.sent result) := by
  apply Monitor.conforms_attempt fun _ => Stands callsign browser touched stage
  · exact Monitor.conforms_lift (compress_conforms prepares _ _)
  · exact fun _ => writeBytes_conforms (prepares_speaks prepares) _

/-- A refusal logs and responds in its order. -/
theorem rejectUrl_conforms (err : UrlError) :
    Conforms casing config (Stands callsign browser touched (.rejected url err))
      (rejectUrl callsign url err).run fun _ => Stands callsign browser touched .ready := by
  apply Monitor.conforms_attempt fun _ => Stands callsign browser touched .answering
  · exact Monitor.conforms_lift (logEntry_conforms rfl)
  · exact fun _ => sendStatusResponse_conforms rfl _ _

/-- While a page is loaded, the request goes on; otherwise it has been answered. -/
def FetchedAt (callsign url : Text) (touched : Nat) :
    Option BrowserId ⊕ Fetched × Option BrowserId → Conduct → Prop :=
  Sum.elim (fun browser => Stands callsign browser touched (.loading url)) fun result =>
    match result.1 with
    | .page _ => Stands callsign result.2 touched (.loaded url)
    | .answered _ => Stands callsign result.2 touched .ready

/-- With a new browser the page is loaded again; without one the failure is reported. -/
def Relaunched (callsign url : Text) (touched : Nat) :
    Except BrowserError BrowserId → Conduct → Prop
  | .ok browser => Stands callsign (some browser) touched (.loading url)
  | .error _ => Stands callsign none touched .answering

/-- The page has come, the browser has crashed, or the failure is reported. -/
def LoadEnds (callsign url : Text) (browser : BrowserId) (touched : Nat) :
    Except BrowserError Text → Conduct → Prop
  | .ok _ => Stands callsign (some browser) touched (.loaded url)
  | .error .browserCrashed => Stands callsign none touched (.loading url)
  | .error err => Stands callsign (some browser) touched (.failed url err)

/-- A browser is started where none runs. -/
theorem restartBrowser_conforms :
    Conforms casing config (Stands callsign none touched (.loading url))
      (restartBrowser callsign) (FetchedAt callsign url touched) := by
  apply Monitor.conforms_bind fun created => Relaunched callsign url touched created.result
  · apply Monitor.conforms_ask
    · rintro conduct ⟨rfl, idle, -, stage⟩
      exact ⟨rfl, idle, .inr ⟨url, stage⟩⟩
    · rintro conduct ⟨result, elapsed⟩ ⟨rfl, idle, rfl, stage⟩
      cases result with
      | ok browser => exact ⟨rfl, rfl, rfl, congrArg Point.started stage⟩
      | error err => exact ⟨rfl, rfl, rfl, congrArg Point.unstarted stage⟩
  · rintro ⟨result, elapsed⟩
    cases result with
    | ok browser => exact Monitor.conforms_done fun _ => id
    | error err =>
      apply Monitor.conforms_bind fun _ => Stands callsign none touched .ready
      · exact sendStatusResponse_conforms rfl _ _
      · exact fun _ => Monitor.conforms_done fun _ => id

/-- A page is loaded by the browser that runs. One that crashed is replaced. -/
theorem tryFetch_conforms (browser : Option BrowserId) :
    Conforms casing config (Stands callsign browser touched (.loading url))
      (tryFetch callsign url browser) (FetchedAt callsign url touched) := by
  cases browser with
  | none => exact restartBrowser_conforms
  | some browser =>
    apply Monitor.conforms_bind fun fetched =>
      LoadEnds callsign url browser touched fetched.result
    · apply Monitor.conforms_ask
      · rintro conduct ⟨-, runs, -, stage⟩
        exact ⟨stage, runs⟩
      · rintro conduct ⟨result, elapsed⟩ ⟨rfl, runs, rfl, stage⟩
        rcases result with (_ | _ | _ | _) | html
        · exact ⟨rfl, runs, rfl, rfl⟩
        · exact ⟨rfl, runs, rfl, rfl⟩
        · exact ⟨rfl, runs, rfl, rfl⟩
        · exact ⟨rfl, rfl, rfl, stage⟩
        · exact ⟨rfl, runs, rfl, rfl⟩
    · have reports (err : BrowserError) : Conforms casing config
          (Stands callsign (some browser) touched (.failed url err)) (do
            logEntry ⟨callsign, url, .error, some err.display⟩
            let sent ← (sendErrorResponse "Failed to load page".toList).run
            return .inr (.answered sent, some browser)) (FetchedAt callsign url touched) := by
        apply Monitor.conforms_bind fun _ => Stands callsign (some browser) touched .answering
        · exact logEntry_conforms rfl
        · intro _
          apply Monitor.conforms_bind fun _ => Stands callsign (some browser) touched .ready
          · exact sendStatusResponse_conforms rfl _ _
          · exact fun _ => Monitor.conforms_done fun _ => id
      rintro ⟨(_ | _ | _ | _) | html, elapsed⟩
      · exact reports _
      · exact reports _
      · exact reports _
      · exact restartBrowser_conforms
      · exact Monitor.conforms_done fun _ => id

/-- A page is logged, prepared and sent in this order. -/
theorem sendPage_conforms (sha256 : Bytes → Bytes) (ifNoneMatch : Option Text) (html : Text) :
    Conforms casing config (Stands callsign browser touched (.loaded url))
      (sendPage sha256 config callsign url ifNoneMatch html).run
      fun _ => Stands callsign browser touched .ready := by
  apply Monitor.conforms_attempt fun _ => Stands callsign browser touched (.probed url)
  · apply Monitor.conforms_lift
    apply Monitor.conforms_ask
    · rintro conduct ⟨-, -, -, stage⟩
      exact ⟨url, stage⟩
    · rintro ⟨_, _, _, _, _⟩ answer ⟨rfl, rfl, rfl, rfl⟩
      exact ⟨rfl, rfl, rfl, rfl⟩
  intro probed
  apply Monitor.conforms_attempt fun _ => Stands callsign browser touched .answering
  · exact Monitor.conforms_lift (logEntry_conforms rfl)
  intro _
  split
  · exact writeBytes_conforms rfl _
  · apply Monitor.conforms_attempt fun _ => Stands callsign browser touched .answering
    · exact Monitor.conforms_lift (compress_conforms rfl _ _)
    · rintro ⟨_ | compressed, elapsed⟩
      · exact sendStatusResponse_conforms rfl _ _
      · exact writeBytes_conforms rfl _

/-- A page that is asked for is answered, and the next request may be awaited. -/
theorem handleRequest_conforms (sha256 : Bytes → Bytes) (ifNoneMatch : Option Text) :
    Conforms casing config (Stands callsign browser touched (.asked url))
      (handleRequest sha256 config callsign browser url ifNoneMatch)
      fun result => Stands callsign result.2 touched .ready := by
  apply Monitor.conforms_bind fun valid => match valid.result with
    | .ok () => Stands callsign browser touched (.accepted url)
    | .error err => Stands callsign browser touched (.rejected url err)
  · apply Monitor.conforms_ask
    · rintro conduct ⟨-, -, -, stage⟩
      exact stage
    · rintro conduct ⟨_ | _, elapsed⟩ ⟨rfl, rfl, rfl, -⟩
      · exact ⟨rfl, rfl, rfl, rfl⟩
      · exact ⟨rfl, rfl, rfl, rfl⟩
  rintro ⟨err | _, elapsed⟩
  · apply Monitor.conforms_bind fun _ => Stands callsign browser touched .ready
    · exact rejectUrl_conforms err
    · exact fun _ => Monitor.conforms_done fun _ => id
  apply Monitor.conforms_bind fun _ => Stands callsign browser touched (.loading url)
  · apply Monitor.conforms_ask
    · rintro conduct ⟨-, -, -, stage⟩
      exact stage
    · rintro conduct answer ⟨rfl, rfl, rfl, -⟩
      exact ⟨rfl, rfl, rfl, rfl⟩
  intro _
  apply Monitor.conforms_bind fun result => FetchedAt callsign url touched (.inr result)
  · exact Monitor.conforms_loop (fun browser => Stands callsign browser touched (.loading url))
      (fun browser => (tryFetch_conforms browser).consequence (fun _ => id) (by
        rintro (_ | _) _ holds
        · exact holds
        · exact holds)) browser
  rintro ⟨html | sent, later⟩
  · apply Monitor.conforms_bind fun _ => Stands callsign later touched .ready
    · exact sendPage_conforms sha256 ifNoneMatch html
    · exact fun _ => Monitor.conforms_done fun _ => id
  · exact Monitor.conforms_done fun _ => id

end Responses

section Requests

/-- A session that has been touched, with its browser. -/
def Attends (session : Session) (browser : Option BrowserId) (stage : Point) : Conduct → Prop :=
  Stands session.callsign browser session.lastActivity stage

/-- The clock may be looked at. -/
theorem touch_conforms (session : Session) :
    Conforms casing config (Stands session.callsign browser touched stage) (touch session)
      fun session => Attends session browser stage := by
  apply Monitor.conforms_bind fun now => Stands session.callsign browser now stage
  · apply Monitor.conforms_ask
    · exact fun _ _ => trivial
    · rintro conduct now ⟨called, runs, -, stage⟩
      exact ⟨called, runs, rfl, stage⟩
  · exact fun now => Monitor.conforms_done fun _ => id

/-- The session goes on, or is over. -/
def Continues : (Session × Option BrowserId) ⊕ Except IoError Unit → Conduct → Prop :=
  Sum.elim (fun state => Attends state.1 state.2 .ready) fun _ _ => True

/-- A form is refused with one response. -/
theorem refusePost_conforms (session : Session) :
    Conforms casing config (Attends session browser .refusing) (refusePost session browser)
      Continues := by
  apply Monitor.conforms_bind fun sent => Attends session browser (Point.sent .refusing sent)
  · exact sendStatusResponse_conforms rfl _ _
  rintro (err | _)
  · exact Monitor.conforms_done fun _ _ => trivial
  apply Monitor.conforms_bind fun session => Attends session browser .ready
  · exact touch_conforms session
  · exact fun session => Monitor.conforms_done fun _ => id

/-- A page is asked for, checked, loaded and answered in this order. -/
theorem serveGet_conforms (sha256 : Bytes → Bytes) (session : Session) (ifNoneMatch : Option Text) :
    Conforms casing config (Attends session browser (.asked url))
      (serveGet sha256 config session browser url ifNoneMatch) Continues := by
  apply Monitor.conforms_bind fun result =>
    Stands session.callsign result.2 session.lastActivity .ready
  · exact handleRequest_conforms sha256 ifNoneMatch
  rintro ⟨_, later⟩
  apply Monitor.conforms_bind fun session => Attends session later .ready
  · exact touch_conforms session
  · exact fun session => Monitor.conforms_done fun _ => id

/-- A round is in order. -/
theorem serveNext_conforms (sha256 : Bytes → Bytes) (state : Session × Option BrowserId) :
    Conforms casing config (Attends state.1 state.2 .ready) (serveNext sha256 config state)
      Continues := by
  obtain ⟨session, browser⟩ := state
  apply Monitor.conforms_bind fun read => match read with
    | .ok (some request) => Attends session browser (.take request)
    | .ok none => fun _ => True
    | .error err => Attends session browser (if err.kind = .timedOut then .closing else .over)
  · apply Monitor.conforms_ask
    · rintro conduct ⟨-, -, touched, stage⟩
      exact ⟨stage, by rw [touched]⟩
    · rintro conduct (err | _ | request) ⟨called, runs, touched, -⟩
      · exact ⟨called, runs, touched, rfl⟩
      · exact trivial
      · exact ⟨called, runs, touched, rfl⟩
  rintro (err | _ | request)
  · by_cases late : err.kind = .timedOut
    · simp only [late, if_true]
      apply Monitor.conforms_bind fun _ _ => True
      · exact (tryWriteText_conforms rfl _).consequence (fun _ => id) fun _ _ _ => trivial
      · exact fun _ => Monitor.conforms_done fun _ _ => trivial
    · simp only [late, if_false]
      exact Monitor.conforms_done fun _ _ => trivial
  · exact Monitor.conforms_done fun _ _ => trivial
  · apply Monitor.conforms_bind fun later => Attends later browser (.take request)
    · exact touch_conforms session
    · intro session
      cases request with
      | get url ifNoneMatch => exact serveGet_conforms sha256 session ifNoneMatch
      | post url body => exact refusePost_conforms session

/-- A session that has a browser is served; without one it is over. -/
def Launched (session : Session) : Except BrowserError BrowserId → Conduct → Prop
  | .ok browser => Attends session (some browser) .ready
  | .error _ => Attends session none .closing

/-- What comes behind the handshake is in order. -/
theorem serve_conforms (sha256 : Bytes → Bytes) (session : Session) :
    Conforms casing config (Attends session none .agreed) (serve sha256 config session).run
      fun _ _ => True := by
  apply Monitor.conforms_attempt fun _ => Attends session none .starting
  · exact Monitor.conforms_lift (logEntry_conforms rfl)
  intro _
  apply Monitor.conforms_attempt fun created => Launched session created.result
  · apply Monitor.conforms_lift
    apply Monitor.conforms_ask
    · rintro conduct ⟨called, idle, -, stage⟩
      exact ⟨called.symm, idle, .inl stage⟩
    · rintro conduct ⟨_ | browser, elapsed⟩ ⟨called, -, touched, stage⟩
      · exact ⟨called, rfl, touched, congrArg Point.unstarted stage⟩
      · exact ⟨called, rfl, touched, congrArg Point.started stage⟩
  rintro ⟨err | browser, elapsed⟩
  · exact (sendStatusResponse_conforms rfl _ _).consequence (fun _ => id) fun _ _ _ => trivial
  · apply (Monitor.conforms_loop (fun state => Attends state.1 state.2 .ready)
      (serveNext_conforms sha256) (session, some browser)).consequence
    · exact fun _ => id
    · exact fun _ _ => id

end Requests

section Handshake

/-- Before the agreement no browser runs; how long the peer may take is fixed. -/
def Waits (callsign : Text) (deadline : Nat) (stage : Point) (conduct : Conduct) : Prop :=
  conduct.callsign = callsign ∧ conduct.browser = none ∧ conduct.deadline = some deadline ∧
    conduct.stage = stage

variable {deadline : Nat}

/-- A notice that is sent while input is awaited leaves things as they are, or the session
is over. -/
theorem writeText_waits (speaks : stage.speaks = true)
    (stays : ∀ result, stage.sent result = stage) (text : Text) :
    Conforms casing config (Waits callsign deadline stage) (writeText text).run
      fun _ => Waits callsign deadline stage := by
  apply Monitor.conforms_bind fun _ => Waits callsign deadline stage
  · apply Monitor.conforms_ask
    · rintro conduct ⟨-, -, -, rfl⟩
      exact speaks
    · rintro conduct answer ⟨called, idle, awaited, rfl⟩
      exact ⟨called, idle, awaited, stays _⟩
  · exact fun _ => Monitor.conforms_done fun _ => id

/-- What is known of an operator who has agreed. -/
def Agrees (deadline : Nat) : Except IoError (Option Session) → Conduct → Prop
  | .ok (some session) => fun conduct =>
    Waits session.callsign deadline .agreed conduct ∧ conduct.touched = session.lastActivity
  | _ => fun _ => True

/-- What is known of an operator whose callsign was read. -/
def Greets (deadline : Nat) : Option Text → Conduct → Prop
  | some callsign => Waits callsign deadline .greeted
  | none => fun _ => True

/-- A line was read in front of which the first assertion held. -/
def Hears (casing : Text.Casing) (config : Config) (pre : Conduct → Prop) (line : Text)
    (conduct : Conduct) : Prop :=
  ∃ before : Conduct, pre before ∧ conduct = before.hear casing config line

/-- A callsign that is accepted is greeted. -/
theorem checkCallsign_conforms (line : Text) :
    Conforms casing config (Hears casing config (Waits [] deadline .greeting) line)
      (checkCallsign casing config line).run
      (Monitor.either (Greets deadline) fun _ _ => True) := by
  unfold checkCallsign
  split
  · rename_i callsign valid
    apply Monitor.conforms_done
    rintro _ ⟨before, ⟨-, idle, awaited, stage⟩, rfl⟩
    simp only [Conduct.hear, stage, valid]
    exact ⟨rfl, idle, awaited, rfl⟩
  · rename_i invalid
    apply Monitor.conforms_lift
    apply Monitor.conforms_bind fun _ _ => True
    · apply Monitor.conforms_bind fun _ _ => True
      · apply Monitor.conforms_ask
        · rintro _ ⟨before, ⟨-, -, -, stage⟩, rfl⟩
          simp only [watch, Conduct.permits, Conduct.hear, stage, invalid, Point.speaks]
        · exact fun _ _ _ => trivial
      · exact fun _ => Monitor.conforms_done fun _ _ => trivial
    · exact fun _ => Monitor.conforms_done fun _ _ => trivial

/-- What is known once something was read: a line, or nothing. -/
def Reads (casing : Text.Casing) (config : Config) (pre : Conduct → Prop) :
    Except IoError (Option Text) → Conduct → Prop
  | .ok (some line) => Hears casing config pre line
  | _ => fun _ => True

/-- A line may be read while input is awaited. -/
theorem readLine_conforms (awaited : stage = .greeting ∨ stage = .greeted) :
    Conforms casing config (Waits callsign deadline stage) (ask (.readLine deadline))
      (Reads casing config (Waits callsign deadline stage)) := by
  apply Monitor.conforms_ask
  · rintro conduct ⟨-, -, until', rfl⟩
    exact ⟨awaited, until'⟩
  · rintro conduct (err | _ | line) waits
    · exact trivial
    · exact trivial
    · exact ⟨conduct, waits, rfl⟩

/-- The callsign is awaited and checked in this order. -/
theorem awaitCallsign_conforms :
    Conforms casing config (Waits [] deadline .greeting) (awaitCallsign casing config deadline).run
      (Monitor.either (Greets deadline) fun _ _ => True) := by
  apply Monitor.conforms_attempt fun line =>
    Reads casing config (Waits [] deadline .greeting) (.ok line)
  · apply (readLine_conforms (.inl rfl)).consequence fun _ => id
    rintro (err | _ | line) conduct holds
    · exact trivial
    · exact trivial
    · exact holds
  rintro (_ | line)
  · exact Monitor.conforms_done fun _ _ => trivial
  · exact checkCallsign_conforms line

/-- The stage behind the operator's word. -/
def wordStage (casing : Text.Casing) (line : Text) : Point :=
  if casing.toUppercase (Text.trim line) = agreeWord then .agreed else .greeted

/-- What is known once the operator's word was read. -/
def Worded (casing : Text.Casing) (callsign : Text) (deadline : Nat) :
    Option Text → Conduct → Prop
  | some line => Waits callsign deadline (wordStage casing line)
  | none => fun _ => True

/-- A line that decides is passed on, and another one skipped. -/
theorem awaitLine_conforms :
    Conforms casing config (Waits callsign deadline .greeted) (awaitLine casing deadline callsign)
      (Sum.elim (fun _ => Waits callsign deadline .greeted)
        (Monitor.either (Worded casing callsign deadline) fun _ _ => True)) := by
  apply Monitor.conforms_bind (Reads casing config (Waits callsign deadline .greeted))
  · exact readLine_conforms (.inr rfl)
  rintro (err | _ | line)
  · exact Monitor.conforms_done fun _ _ => trivial
  · exact Monitor.conforms_done fun _ _ => trivial
  apply Monitor.conforms_done
  rintro _ ⟨before, ⟨called, idle, awaited, stage⟩, rfl⟩
  simp only [Conduct.hear, stage, called]
  cases classifyPreauthLine casing line callsign with
  | duplicateCallsign => exact ⟨called, idle, awaited, stage⟩
  | linbpqStatus => exact ⟨called, idle, awaited, stage⟩
  | candidate =>
    by_cases agrees : casing.toUppercase (Text.trim line) = agreeWord
    · simp only [agrees, if_true, Sum.elim_inr, Monitor.either, Worded, wordStage]
      exact ⟨rfl, idle, awaited, rfl⟩
    · simp only [agrees, if_false, Sum.elim_inr, Monitor.either, Worded, wordStage]
      exact ⟨called, idle, awaited, stage⟩

/-- Lines are skipped until one decides. -/
theorem awaitInput_conforms :
    Conforms casing config (Waits callsign deadline .greeted)
      (awaitInput casing deadline callsign).run
      (Monitor.either (Worded casing callsign deadline) fun _ _ => True) :=
  Monitor.conforms_loop (fun _ => Waits callsign deadline .greeted)
    (fun _ => awaitLine_conforms) ()

/-- Only the line of consent agrees. -/
theorem checkAgreement_conforms (session : Session) (line : Text) :
    Conforms casing config (Waits session.callsign deadline (wordStage casing line))
      (checkAgreement casing session line).run (Agrees deadline) := by
  unfold checkAgreement wordStage
  by_cases same : casing.toUppercase (Text.trim line) = agreeWord
  · simp only [same, ne_eq, not_true_eq_false, if_false, if_true]
    apply Monitor.conforms_lift
    apply Monitor.conforms_bind fun session => Agrees deadline (.ok (some session))
    · apply Monitor.conforms_bind fun now conduct =>
        Waits session.callsign deadline .agreed conduct ∧ conduct.touched = now
      · apply Monitor.conforms_ask
        · exact fun _ _ => trivial
        · rintro conduct now ⟨called, idle, awaited, stage⟩
          exact ⟨⟨called, idle, by simp [watch, Conduct.after, awaited], stage⟩, rfl⟩
      · exact fun now => Monitor.conforms_done fun _ => id
    · exact fun _ => Monitor.conforms_done fun _ => id
  · simp only [same, ne_eq, not_false_eq_true, if_true, if_false]
    apply Monitor.conforms_attempt fun _ => Waits session.callsign deadline .greeted
    · apply (writeText_waits rfl (fun _ => rfl) refusalNotice).consequence fun _ => id
      rintro (err | _) conduct holds
      · exact trivial
      · exact holds
    · exact fun _ => Monitor.conforms_done fun _ _ => trivial

/-- The consent is asked for, awaited and checked in this order. -/
theorem awaitAgreement_conforms :
    Conforms casing config (Waits callsign deadline .greeted)
      (awaitAgreement casing deadline callsign).run (Agrees deadline) := by
  apply Monitor.conforms_attempt fun (session : Session) conduct =>
    session.callsign = callsign ∧ Waits callsign deadline .greeted conduct
  · apply Monitor.conforms_lift
    apply Monitor.conforms_bind fun _ => Waits callsign deadline .greeted
    · apply Monitor.conforms_ask
      · exact fun _ _ => trivial
      · rintro conduct now ⟨called, idle, awaited, stage⟩
        exact ⟨called, idle, by simp [watch, Conduct.after, awaited], stage⟩
    · exact fun _ => Monitor.conforms_done fun _ waits => ⟨rfl, waits⟩
  intro session
  by_cases same : session.callsign = callsign
  · subst same
    apply Monitor.conforms_attempt fun _ => Waits session.callsign deadline .greeted
    · apply (writeText_waits rfl (fun _ => rfl) termsPrompt).consequence fun _ holds => holds.2
      rintro (err | _) conduct holds
      · exact trivial
      · exact holds
    intro _
    apply Monitor.conforms_attempt (Worded casing session.callsign deadline)
    · apply awaitInput_conforms.consequence fun _ => id
      rintro (err | input) conduct holds
      · exact trivial
      · exact holds
    rintro (_ | line)
    · exact Monitor.conforms_done fun _ _ => trivial
    · exact checkAgreement_conforms session line
  · exact fun now holds => absurd holds.1 same

/-- The handshake begins with the clock that fixes its end. -/
theorem authenticate_conforms :
    Conforms casing config (· = .opening) (authenticate casing config).run
      fun result conduct => ∃ deadline, Agrees deadline result conduct := by
  apply Monitor.conforms_attempt fun _ => (· = Conduct.opening)
  · apply Monitor.conforms_bind fun _ => (· = Conduct.opening)
    · apply Monitor.conforms_ask
      · rintro _ rfl
        exact rfl
      · rintro _ answer rfl
        rfl
    · rintro ⟨err | _, sent⟩
      · exact Monitor.conforms_done fun _ _ => ⟨0, trivial⟩
      · exact Monitor.conforms_done fun _ => id
  intro _
  apply Monitor.conforms_attempt fun now => Waits [] (now + preAuthTimeout) .greeting
  · apply Monitor.conforms_lift
    apply Monitor.conforms_ask
    · exact fun _ _ => trivial
    · rintro _ now rfl
      exact ⟨rfl, rfl, rfl, rfl⟩
  intro now
  apply Monitor.conforms_attempt (Greets (now + preAuthTimeout))
  · apply awaitCallsign_conforms.consequence fun _ => id
    rintro (err | callsign) conduct holds
    · exact ⟨0, trivial⟩
    · exact holds
  rintro (_ | callsign)
  · exact Monitor.conforms_done fun _ _ => ⟨0, trivial⟩
  · exact awaitAgreement_conforms.consequence (fun _ => id) fun _ _ holds => ⟨_, holds⟩

/-- A session conforms from its first operation to its last. -/
theorem handleConnection_conforms (sha256 : Bytes → Bytes) :
    Conforms casing config (· = .opening) (handleConnection casing sha256 config).run
      fun _ _ => True := by
  apply Monitor.conforms_attempt fun session conduct =>
    ∃ deadline, Agrees deadline (.ok session) conduct
  · apply authenticate_conforms.consequence fun _ => id
    rintro (err | session) conduct holds
    · exact trivial
    · exact holds
  rintro (_ | session)
  · exact Monitor.conforms_done fun _ _ => trivial
  · apply (serve_conforms sha256 session).consequence _ fun _ _ => id
    rintro conduct ⟨deadline, ⟨called, idle, -, stage⟩, touched⟩
    exact ⟨called, idle, touched, stage⟩

end Handshake

/-- Whatever the peer sends and the world answers, a session never does what its monitor
does not permit.

Every routine of the session conforms to the monitor, from one phase to the next. -/
theorem session_conducted (casing : Text.Casing) (sha256 : Bytes → Bytes) (config : Config)
    (reader : Reader) {now : Moment} {left : Routine (Except IoError Unit)}
    (leads : Leads exec (fun _ _ => True) (handleConnection casing sha256 config).run
      (Moment.opening reader) now left) :
    (watch casing config).Obeyed .opening now.history :=
  ((handleConnection_conforms sha256).obeyed rfl rfl leads).1

end Watching

section Traces

/-- The page a request is about, until its entry is in the log. -/
def Point.url : Point → Option Text
  | .asked url => some url
  | .rejected url _ => some url
  | .accepted url => some url
  | .loading url => some url
  | .failed url _ => some url
  | .loaded url => some url
  | .probed url => some url
  | _ => none

/-- The page whose URL the filter has accepted. -/
def Point.vetted : Point → Option Text
  | .accepted url => some url
  | .loading url => some url
  | .failed url _ => some url
  | .loaded url => some url
  | .probed url => some url
  | _ => none

/-- This page was asked for. -/
def asksFor (url : Text) : SessionEvent → Prop
  | ⟨_, .readRequest _, .ok (some (.get asked _))⟩ => asked = url
  | _ => False

/-- The connection was read for a request. -/
def readsOn : SessionEvent → Prop
  | ⟨_, .readRequest _, _⟩ => True
  | _ => False

/-- The filter accepted this URL. -/
def accepts (url : Text) : SessionEvent → Prop
  | ⟨_, .validateUrl valid, ⟨.ok (), _⟩⟩ => valid = url
  | _ => False

/-- This browser was started for this operator. -/
def launches (browser : BrowserId) : SessionEvent → Prop
  | ⟨_, .newBrowser _, ⟨.ok started, _⟩⟩ => started = browser
  | _ => False

/-- The browser that runs may be another one from here on, or none. -/
def replaces : SessionEvent → Prop
  | ⟨_, .newBrowser _, _⟩ => True
  | ⟨_, .fetchPage _ _, ⟨.error .browserCrashed, _⟩⟩ => True
  | _ => False

variable {casing : Text.Casing} {config : Config} {conduct : Conduct} {url : Text}

/-- A reading of the stage that knows the page while it is loaded, and none while no page is
asked for. -/
structure FollowsPage (read : Point → Option Text) : Prop where
  idle : ∀ stage : Point, stage.url = none → read stage = none
  loading : ∀ stage url, stage.vetted = some url → read stage = some url

/-- Which page is asked for changes only with the request. -/
theorem follows_url : FollowsPage Point.url where
  idle := fun _ => id
  loading := by
    intro stage url holds
    cases stage <;> first | exact holds | exact absurd holds (by simp [Point.vetted])

/-- Which page has been accepted changes only with the filter's answer. -/
theorem follows_vetted : FollowsPage Point.vetted where
  idle := by
    intro stage none
    cases stage <;> first | rfl | exact absurd none (by simp [Point.url])
  loading := fun _ _ => id

/-- Operations that choose the page that is loaded. -/
def Op.chooses : Op → Prop
  | .readRequest _ => True
  | .validateUrl _ => True
  | _ => False

variable {read : Point → Option Text}

/-- What is known of a page behind a response was known before. -/
theorem FollowsPage.sent (follows : FollowsPage read) {stage : Point}
    {result : Except IoError Unit} (holds : read (stage.sent result) = some url) :
    read stage = some url := by
  have never {stage : Point} (idle : stage.url = none) : read stage ≠ some url := by
    rw [follows.idle stage idle]
    exact Option.some_ne_none url |>.symm
  unfold Point.sent at holds
  split at holds <;> first | exact holds | exact absurd holds (never rfl)

/-- What is known of a page behind a line was known before. -/
theorem FollowsPage.heard (follows : FollowsPage read) {line : Text}
    (holds : read (conduct.hear casing config line).stage = some url) :
    read conduct.stage = some url := by
  have never {stage : Point} (idle : stage.url = none) : read stage ≠ some url := by
    rw [follows.idle stage idle]
    exact Option.some_ne_none url |>.symm
  unfold Conduct.hear at holds
  split at holds
  · split at holds <;> exact absurd holds (never rfl)
  · split at holds
    · split at holds
      · exact absurd holds (never rfl)
      · exact holds
    · exact holds

/-- The page stays the same until the next one is chosen. -/
theorem FollowsPage.kept (follows : FollowsPage read) (op : Op) (answer : Answer op)
    (permitted : conduct.permits config op) (chosen : ¬ op.chooses)
    (holds : read (conduct.after casing config op answer).stage = some url) :
    read conduct.stage = some url := by
  have never {stage : Point} (idle : stage.url = none) : read stage ≠ some url := by
    rw [follows.idle stage idle]
    exact Option.some_ne_none url |>.symm
  -- While a page is loaded, both stages are read as this page.
  have same (page : Text) {before after : Point} (one : before.vetted = some page)
      (two : after.vetted = some page) (later : read after = some url) :
      read before = some url := by
    rw [follows.loading before page one]
    rwa [follows.loading after page two] at later
  cases op with
  | write bytes => exact follows.sent holds
  | now => exact holds
  | readLine deadline =>
    rcases answer with err | _ | line
    · exact absurd holds (never rfl)
    · exact absurd holds (never rfl)
    · exact follows.heard holds
  | readRequest deadline => exact absurd trivial chosen
  | log entry =>
    have idle : conduct.stage.logged.url = none := by
      unfold Point.logged
      split <;> rfl
    exact absurd holds (never idle)
  | newBrowser callsign =>
    obtain ⟨-, -, here⟩ := permitted
    rcases answer with ⟨err | browser, elapsed⟩
    · have idle : conduct.stage.unstarted.url = none := by
        rcases here with here | ⟨page, here⟩ <;> simp [here, Point.unstarted, Point.url]
      exact absurd holds (never idle)
    · rcases here with here | ⟨page, here⟩
      · exact absurd holds (never (by simp [Conduct.after, here, Point.started, Point.url]))
      · exact same page (by rw [here]; rfl)
          (by simp [Conduct.after, here, Point.started, Point.vetted]) holds
  | validateUrl valid => exact absurd trivial chosen
  | startProbe valid =>
    have here : conduct.stage = .accepted valid := permitted
    exact same valid (by rw [here]; rfl) rfl holds
  | fetchPage browser page =>
    obtain ⟨here, -⟩ := permitted
    have before : conduct.stage.vetted = some page := by
      rw [here]
      rfl
    rcases answer with ⟨(_ | _ | _ | _) | html, elapsed⟩
    · exact same page before rfl holds
    · exact same page before rfl holds
    · exact same page before rfl holds
    · exact holds
    · exact same page before rfl holds
  | joinProbe =>
    obtain ⟨page, here⟩ := permitted
    simp only [Conduct.after, here] at holds
    exact same page (by rw [here]; rfl) rfl holds
  | compress data quality => exact holds

/-- Only reading a request makes a page the one that is asked for. -/
theorem url_brought (op : Op) (answer : Answer op) (permitted : conduct.permits config op)
    (holds : (conduct.after casing config op answer).stage.url = some url) :
    asksFor url ⟨(), op, answer⟩ ∨
      conduct.stage.url = some url ∧ ¬ readsOn ⟨(), op, answer⟩ := by
  cases op with
  | readRequest deadline =>
    rcases answer with err | _ | ⟨asked, tag⟩ | ⟨asked, body⟩
    · by_cases late : err.kind = .timedOut <;>
        exact absurd holds (by simp [Conduct.after, late, Point.url])
    · exact absurd holds (by simp [Conduct.after, Point.url])
    · exact .inl (Option.some.inj holds)
    · exact absurd holds (by simp [Conduct.after, Point.take, Point.url])
  | validateUrl valid =>
    have here : conduct.stage = .asked valid := permitted
    rcases answer with ⟨err | _, elapsed⟩ <;> exact .inr ⟨by rw [here]; exact holds, id⟩
  | _ => exact .inr ⟨follows_url.kept _ answer permitted id holds, id⟩

/-- Only the filter makes a page one that may be loaded. -/
theorem vetted_brought (op : Op) (answer : Answer op) (permitted : conduct.permits config op)
    (holds : (conduct.after casing config op answer).stage.vetted = some url) :
    accepts url ⟨(), op, answer⟩ ∨
      conduct.stage.vetted = some url ∧ ¬ readsOn ⟨(), op, answer⟩ := by
  cases op with
  | readRequest deadline =>
    rcases answer with err | _ | ⟨asked, tag⟩ | ⟨asked, body⟩
    · by_cases late : err.kind = .timedOut <;>
        exact absurd holds (by simp [Conduct.after, late, Point.vetted])
    · exact absurd holds (by simp [Conduct.after, Point.vetted])
    · exact absurd holds (by simp [Conduct.after, Point.take, Point.vetted])
    · exact absurd holds (by simp [Conduct.after, Point.take, Point.vetted])
  | validateUrl valid =>
    rcases answer with ⟨err | _, elapsed⟩
    · exact absurd holds (by simp [Conduct.after, Point.vetted])
    · exact .inl (Option.some.inj holds)
  | _ => exact .inr ⟨follows_vetted.kept _ answer permitted id holds, id⟩

/-- A line changes nothing about the browser. -/
theorem heard_browser (line : Text) :
    (conduct.hear casing config line).browser = conduct.browser := by
  unfold Conduct.hear
  split
  · split <;> rfl
  · split
    · split <;> rfl
    · rfl

/-- Only starting a browser makes it the one that runs. -/
theorem browser_brought {browser : BrowserId} (op : Op) (answer : Answer op)
    (holds : (conduct.after casing config op answer).browser = some browser) :
    launches browser ⟨(), op, answer⟩ ∨
      conduct.browser = some browser ∧ ¬ replaces ⟨(), op, answer⟩ := by
  cases op with
  | readLine deadline =>
    rcases answer with err | _ | line
    · exact .inr ⟨holds, id⟩
    · exact .inr ⟨holds, id⟩
    · exact .inr ⟨(heard_browser line).symm.trans holds, id⟩
  | readRequest deadline =>
    rcases answer with err | _ | request <;> exact .inr ⟨holds, id⟩
  | newBrowser callsign =>
    rcases answer with ⟨err | started, elapsed⟩
    · exact absurd holds (by simp [Conduct.after])
    · exact .inl (Option.some.inj holds)
  | validateUrl valid => rcases answer with ⟨err | _, elapsed⟩ <;> exact .inr ⟨holds, id⟩
  | fetchPage other page =>
    rcases answer with ⟨(_ | _ | _ | _) | html, elapsed⟩
    · exact .inr ⟨holds, id⟩
    · exact .inr ⟨holds, id⟩
    · exact .inr ⟨holds, id⟩
    · exact absurd holds (by simp [Conduct.after])
    · exact .inr ⟨holds, id⟩
  | joinProbe =>
    simp only [Conduct.after] at holds
    split at holds <;> exact .inr ⟨holds, id⟩
  | _ => exact .inr ⟨holds, id⟩

/-- The page that a thread is started to probe, or that the browser is told to load. -/
def Op.commissioned : Op → Option Text
  | .startProbe url => some url
  | .fetchPage _ url => some url
  | _ => none

/-- In every run, a thread is started to probe a page, and the browser is told to load it, only
while this page is the one that was asked for last, only after the filter accepted its URL for
this very request, and only the browser that was started last and has not crashed since is told
so. What the thread and the browser send to the origin in turn is their own.

The monitor of the session remembers the page and the browser, and what it remembers has
happened since the request was read. -/
theorem commissions_vetted (casing : Text.Casing) (sha256 : Bytes → Bytes) (config : Config)
    (reader : Reader) {now : Moment} {left : Routine (Except IoError Unit)}
    (leads : Leads exec (fun _ _ => True) (handleConnection casing sha256 config).run
      (Moment.opening reader) now left) {later earlier : List SessionEvent} {event : SessionEvent}
    (happened : now.history = later ++ event :: earlier) {url : Text}
    (commissioned : event.op.commissioned = some url) :
    Monitor.Seen (asksFor url) readsOn earlier ∧ Monitor.Seen (accepts url) readsOn earlier ∧
      ∀ browser, event.op = .fetchPage browser url →
        Monitor.Seen (launches browser) replaces earlier := by
  have whole := session_conducted casing sha256 config reader leads
  rw [happened] at whole
  have obeyed : (watch casing config).Obeyed .opening earlier := whole.earlier.2
  obtain ⟨thread, op, answer⟩ := event
  have permitted : Conduct.permits config _ op := whole.permitted rfl
  have asked (holds : ((watch casing config).state .opening earlier).stage.url = some url) :
      Monitor.Seen (asksFor url) readsOn earlier :=
    obeyed.seen (fun conduct : Conduct => conduct.stage.url = some url)
      (by simp [Conduct.opening, Point.url]) (fun _ => url_brought) holds
  have vetted (holds : ((watch casing config).state .opening earlier).stage.vetted = some url) :
      Monitor.Seen (accepts url) readsOn earlier :=
    obeyed.seen (fun conduct : Conduct => conduct.stage.vetted = some url)
      (by simp [Conduct.opening, Point.vetted]) (fun _ => vetted_brought) holds
  cases op with
  | startProbe page =>
    obtain rfl := Option.some.inj commissioned
    have here : ((watch casing config).state .opening earlier).stage = .accepted page := permitted
    exact ⟨asked (by rw [here]; rfl), vetted (by rw [here]; rfl),
      fun _ other => absurd other Op.noConfusion⟩
  | fetchPage browser page =>
    obtain rfl := Option.some.inj commissioned
    obtain ⟨here, runs⟩ := permitted
    refine ⟨asked (by rw [here]; rfl), vetted (by rw [here]; rfl), ?_⟩
    rintro _ ⟨⟩
    exact obeyed.seen (fun conduct : Conduct => conduct.browser = some browser)
      (by simp [Conduct.opening]) (fun _ op answer _ => browser_brought op answer) runs
  | _ => exact absurd commissioned (by simp [Op.commissioned])

/-- The first browser crashes while it loads the page, and the second one loads it. -/
def reloadedEvents : List (Sigma Answer) :=
  handshakeEvents ++ startEvents ++
    [⟨.readRequest 600000, .ok (some (.get ['a'] none))⟩, ⟨.now, (0 : Nat)⟩,
      ⟨.validateUrl ['a'], ⟨.ok (), 0⟩⟩, ⟨.startProbe ['a'], ()⟩,
      ⟨.fetchPage 0 ['a'], ⟨.error .browserCrashed, 0⟩⟩,
      ⟨.newBrowser "N0CALL".toList, ⟨.ok 1, 0⟩⟩, ⟨.fetchPage 1 ['a'], ⟨.ok ['h'], 0⟩⟩]

/-- A peer that agrees, asks for a page and goes. -/
def reloadingReader : Reader := ⟨ascii "N0CALL\nAGREE\nGET a\n", [⟨0, .closed⟩], 0⟩

/-- The events above are a run. -/
theorem reloaded_runs : ((handleConnection .onlyAscii id sampleConfig).run.follow exec 3
    (Moment.opening reloadingReader) reloadedEvents).isSome := by decide +kernel

/-- A session whose browser crashes once. -/
theorem session_conducted_sample : ∃ now left,
    Leads exec (fun _ _ => True) (handleConnection .onlyAscii id sampleConfig).run
      (Moment.opening reloadingReader) now left ∧
      now.history = (reloadedEvents.map eventOf).reverse ∧
      (watch .onlyAscii sampleConfig).Obeyed .opening now.history := by
  obtain ⟨⟨now, left⟩, followed⟩ := Option.isSome_iff_exists.mp reloaded_runs
  obtain ⟨leads, history⟩ := follow_leads 3 reloadedEvents (fun _ _ => trivial) followed
  rw [Moment.opening, List.append_nil] at history
  exact ⟨now, left, leads, history,
    session_conducted .onlyAscii id sampleConfig reloadingReader leads⟩

/-- The page is loaded again by the browser that was started last. -/
theorem commissions_vetted_sample : ∃ now left,
    Leads exec (fun _ _ => True) (handleConnection .onlyAscii id sampleConfig).run
      (Moment.opening reloadingReader) now left ∧
      now.history = (reloadedEvents.map eventOf).reverse ∧
      Monitor.Seen (accepts ['a']) readsOn now.history.tail ∧
      Monitor.Seen (launches 1) replaces now.history.tail := by
  obtain ⟨⟨now, left⟩, followed⟩ := Option.isSome_iff_exists.mp reloaded_runs
  obtain ⟨leads, history⟩ := follow_leads 3 reloadedEvents (fun _ _ => trivial) followed
  rw [Moment.opening, List.append_nil] at history
  refine ⟨now, left, leads, history, ?_⟩
  have happened : now.history = [] ++
      ⟨(), .fetchPage 1 ['a'], ⟨.ok ['h'], 0⟩⟩ :: now.history.tail := by
    rw [history]
    rfl
  obtain ⟨-, accepted, launched⟩ :=
    commissions_vetted .onlyAscii id sampleConfig reloadingReader leads happened rfl
  exact ⟨accepted, launched 1 rfl⟩

end Traces

end PacketBrowser.Server
