import PacketBrowser.Server.Readable
import PacketBrowser.Server.Responses
import PacketBrowser.Server.Rounds

/-!
# What a response answers

A session reads the requests that were sent to it one after the other, and writes one
response for each. `RepliesTo` says what the response to a request is, from what happened
while that request was served: the URL was rejected, no browser or no page was to be had,
or a page was loaded, which the client may have already.

At every moment of every run the responses given to the connection so far answer the
requests sent to the session, in their order and without a gap. No condition is put on the
arrivals, and none on how the writes end. A write that fails sends a part of its response,
and the session may go on: what has gone out is what the connection took of each response.
-/

namespace PacketBrowser.Server

open Protocol Foundation Program Setting

section Replies

variable (sha256 : Bytes → Bytes) (config : Config) (events : List (Sigma Answer))

/-- A response that reports a message, compressed if the compressor has done that. -/
def Reports (status : Status) (message : Text) (response : Response) : Prop :=
  ∃ compressed : Timed (Option Bytes), ⟨.compress (Utf8.encode message) 11, compressed⟩ ∈ events ∧
    response = ⟨status, ['-'], -1, compressed.result.getD (Utf8.encode message)⟩

/-- The filter has passed the URL. -/
def Accepted (url : Text) : Prop :=
  ∃ time : Nat, ⟨.validateUrl url, ⟨.ok (), time⟩⟩ ∈ events

/-- The page was loaded from an accepted URL, and its maximal age is the one the probe
found, or the default. -/
def Loaded (url html : Text) (maxAge : Int32) : Prop :=
  Accepted events url ∧
    (∃ (browser : BrowserId) (time : Nat), ⟨.fetchPage browser url, ⟨.ok html, time⟩⟩ ∈ events) ∧
    ∃ probed : Timed (Option Int32), ⟨.joinProbe, probed⟩ ∈ events ∧
      maxAge = probed.result.getD config.defaultMaxAgeSeconds

/-- What the response to a request is, from the events while it was served. -/
inductive RepliesTo : Request → Response → Prop
  | refused {url : Text} {body : Bytes} {response : Response}
      (reports : Reports events .err "POST requests are not supported".toList response) :
      RepliesTo (.post url body) response
  | rejected {url : Text} {ifNoneMatch : Option Text} {response : Response} (err : UrlError)
      (time : Nat) (found : ⟨.validateUrl url, ⟨.error err, time⟩⟩ ∈ events)
      (reports : Reports events err.statuses.1 err.display response) :
      RepliesTo (.get url ifNoneMatch) response
  | browserless {url : Text} {ifNoneMatch : Option Text} {response : Response}
      (accepted : Accepted events url) (callsign : Text) (err : BrowserError) (time : Nat)
      (found : ⟨.newBrowser callsign, ⟨.error err, time⟩⟩ ∈ events)
      (reports : Reports events .err "Browser unavailable".toList response) :
      RepliesTo (.get url ifNoneMatch) response
  | unloadable {url : Text} {ifNoneMatch : Option Text} {response : Response}
      (accepted : Accepted events url) (browser : BrowserId) (err : BrowserError) (time : Nat)
      (found : ⟨.fetchPage browser url, ⟨.error err, time⟩⟩ ∈ events)
      (lasting : err ≠ .browserCrashed)
      (reports : Reports events .err "Failed to load page".toList response) :
      RepliesTo (.get url ifNoneMatch) response
  | unchanged {url html : Text} {maxAge : Int32} (loaded : Loaded config events url html maxAge) :
      RepliesTo (.get url (some (sanitizedHtmlEtag sha256 html)))
        ⟨.notModified, sanitizedHtmlEtag sha256 html, maxAge, []⟩
  | uncompressed {url html : Text} {maxAge : Int32} {ifNoneMatch : Option Text}
      {response : Response}
      (loaded : Loaded config events url html maxAge)
      (changed : ifNoneMatch ≠ some (sanitizedHtmlEtag sha256 html)) (time : Nat)
      (found : ⟨.compress (Utf8.encode html) config.brotliQuality, ⟨none, time⟩⟩ ∈ events)
      (reports : Reports events .err "Compression error".toList response) :
      RepliesTo (.get url ifNoneMatch) response
  | page {url html : Text} {maxAge : Int32} {ifNoneMatch : Option Text}
      (loaded : Loaded config events url html maxAge)
      (changed : ifNoneMatch ≠ some (sanitizedHtmlEtag sha256 html)) (body : Bytes) (time : Nat)
      (found : ⟨.compress (Utf8.encode html) config.brotliQuality, ⟨some body, time⟩⟩ ∈ events) :
      RepliesTo (.get url ifNoneMatch) ⟨.ok, sanitizedHtmlEtag sha256 html, maxAge, body⟩

end Replies

section Exchanges

/-- The requests that were read. -/
def received : List (Sigma Answer) → List Request
  | [] => []
  | ⟨.readRequest _, .ok (some request)⟩ :: later => request :: received later
  | _ :: later => received later

/-- The bytes that the connection has taken: of each piece as much as its write has sent. -/
def taken : List (Sigma Answer) → Bytes
  | [] => []
  | ⟨.write bytes, answer⟩ :: later => answer.result.bytes bytes ++ taken later
  | _ :: later => taken later

/-- A request, the response that was given to the connection for it, and what has happened
since the response before it. -/
structure Turn where
  request : Request
  response : Response
  events : List (Sigma Answer)

variable (sha256 : Bytes → Bytes) (config : Config)

/-- Nothing else was read or given to the connection, which took the whole response if the
write succeeded and a part of it if not, and the response answers the request. -/
structure Turn.Sound (turn : Turn) : Prop where
  received : received turn.events = [turn.request]
  offered : offered turn.events = [turn.response.encode]
  taken : ∃ ending : Written, ending.fits turn.response.encode = true ∧
    taken turn.events = ending.bytes turn.response.encode
  answers : RepliesTo sha256 config turn.events turn.request turn.response

/-- What may have happened since the last response: at most one request was read, and nothing
was given to the connection, or the notice to an idle peer, or that no browser starts. -/
inductive Rest (turns : List Turn) (rest : List (Sigma Answer)) : Prop
  | serving (reads : (received rest).length ≤ 1) (quiet : offered rest = [])
  | idle (reads : received rest = []) (deadline : Nat) (err : IoError)
      (late : err.kind = .timedOut) (found : ⟨.readRequest deadline, .error err⟩ ∈ rest)
      (notice : offered rest = [Utf8.encode timedOutNotice])
  | unserved (first : turns = []) (reads : received rest = []) (response : Response)
      (reports : Reports rest .err "Browser initialization failed".toList response)
      (wrote : offered rest = [response.encode])

/-- What a session is given: its parameters, and the requests that are sent to it from a
moment on. -/
structure Scene where
  sha256 : Bytes → Bytes
  config : Config
  requests : List Request
  start : Moment

/-- The events since a moment. -/
def Since (start : Moment) (events : List (Sigma Answer)) (now : Moment) : Prop :=
  now.history = (events.map eventOf).reverse ++ start.history

/-- The responses given to the connection since the start answer the first of the requests,
in their order, and the request that was read last may still be waiting for its own. -/
def Scene.InDialogue (scene : Scene) (now : Moment) : Prop :=
  ∃ (turns : List Turn) (rest : List (Sigma Answer)),
    Since scene.start (turns.flatMap Turn.events ++ rest) now ∧
    (∀ turn ∈ turns, turn.Sound scene.sha256 scene.config) ∧
    turns.map Turn.request ++ received rest <+: scene.requests ∧ Rest turns rest

variable {log events : List (Sigma Answer)}

/-- The requests of two stretches of events are read one after the other. -/
theorem received_append : received (log ++ events) = received log ++ received events := by
  induction log with
  | nil => rfl
  | cons event later inductionHypothesis =>
    obtain ⟨op, answer⟩ := event
    cases op with
    | readRequest deadline =>
      rcases answer with err | _ | request
      · exact inductionHypothesis
      · exact inductionHypothesis
      · exact congrArg (request :: ·) inductionHypothesis
    | _ => exact inductionHypothesis

/-- What is taken of two stretches of events goes out one after the other. -/
theorem taken_append : taken (log ++ events) = taken log ++ taken events := by
  induction log with
  | nil => rfl
  | cons event later inductionHypothesis =>
    obtain ⟨op, answer⟩ := event
    cases op with
    | write bytes =>
      show answer.result.bytes bytes ++ taken (later ++ events) = _
      rw [inductionHypothesis, ← List.append_assoc]
      rfl
    | _ => exact inductionHypothesis

/-- Where the connection was given nothing it took nothing. -/
theorem taken_nothing (quiet : offered events = []) : taken events = [] := by
  induction events with
  | nil => rfl
  | cons event later inductionHypothesis =>
    obtain ⟨op, answer⟩ := event
    cases op with
    | write bytes => exact absurd quiet (by simp [offered])
    | _ => exact inductionHypothesis quiet

/-- Operations that neither read from the connection nor write to it. -/
def Op.offline : Op → Prop
  | .write _ => False
  | .readRequest _ => False
  | .readLine _ => False
  | _ => True

/-- They leave the connection as it is. -/
theorem Op.offline.unnoticed {op : Op} (offline : op.offline) (answer : Answer op) (world : World) :
    received [⟨op, answer⟩] = [] ∧ offered [⟨op, answer⟩] = [] ∧
      (world.apply op answer).reader.pending = world.reader.pending := by
  cases op with
  | write bytes => exact offline.elim
  | readRequest deadline => exact offline.elim
  | readLine deadline => exact offline.elim
  | _ => exact ⟨rfl, rfl, rfl⟩

/-- Since the last response these requests were read and at least this has happened, and
what was not read yet is still to come. -/
structure Scene.Standing (scene : Scene) (current : List Request) (known : List (Sigma Answer))
    (turns : List Turn) (rest : List (Sigma Answer)) (reader : Reader) : Prop where
  sound : ∀ turn ∈ turns, turn.Sound scene.sha256 scene.config
  quiet : offered rest = []
  reads : received rest = current
  happened : ∀ event ∈ known, event ∈ rest
  unread : ∃ later : List Request, scene.requests = turns.map Turn.request ++ current ++ later ∧
    reader.pending = later.flatMap Request.encode

/-- A moment between two responses, after these turns. -/
def Scene.ServesAfter (scene : Scene) (turns : List Turn) (current : List Request)
    (known : List (Sigma Answer)) (now : Moment) : Prop :=
  ∃ rest : List (Sigma Answer), Since scene.start (turns.flatMap Turn.events ++ rest) now ∧
    scene.Standing current known turns rest now.world.reader

/-- A moment between two responses. -/
def Scene.Serves (scene : Scene) (current : List Request) (known : List (Sigma Answer))
    (now : Moment) : Prop := ∃ turns : List Turn, scene.ServesAfter turns current known now

/-- Every run, with the dialogue so far. -/
def Scene.dialogue (scene : Scene) : Setting World Unit Answer where
  exec := exec
  meets := fun _ _ => True
  inv := scene.InDialogue

variable {scene : Scene} {current : List Request} {known : List (Sigma Answer)}
variable {start now later : Moment} {turns : List Turn} {rest : List (Sigma Answer)}

/-- One more event has happened. -/
theorem Since.cons {op : Op} {answer : Answer op} (since : Since start events now)
    (grown : later.history = ⟨(), op, answer⟩ :: now.history) :
    Since start (events ++ [⟨op, answer⟩]) later := by
  rw [Since, grown, show now.history = _ from since]
  simp [eventOf]

/-- What has gone out is what the connection took: each step adds what its own write sent. -/
theorem output_taken {α : Type} {program left : Routine α} {meets : Moment → SessionEvent → Prop}
    (leads : Leads exec meets program start now left) :
    ∃ events, Since start events now ∧ now.world.output = start.world.output ++ taken events := by
  induction leads with
  | start => exact ⟨[], rfl, (List.append_nil _).symm⟩
  | @step now after left op next answer _ _ occurs met inductionHypothesis =>
    obtain ⟨events, since, output⟩ := inductionHypothesis
    obtain ⟨_, world⟩ := exec_iff.mp occurs.1
    refine ⟨events ++ [⟨op, answer⟩], since.cons occurs.2, ?_⟩
    rw [world, apply_output, output, taken_append, List.append_assoc]
    congr 2
    cases op with
    | write bytes => simp [trafficOf, Traffic.bytes, taken]
    | readRequest deadline =>
      rcases answer with err | _ | request
      · by_cases idle : err.kind = .timedOut <;> simp [trafficOf, idle, Traffic.bytes, taken]
      · rfl
      · rfl
    | _ => rfl

/-- The events since a moment are determined. -/
theorem since_unique {others : List (Sigma Answer)} (one : Since start events now)
    (two : Since start others now) : events = others := by
  have injective : Function.Injective (eventOf : Sigma Answer → SessionEvent) := by
    rintro ⟨op, answer⟩ ⟨op', answer'⟩ same
    obtain ⟨_, rfl, sameAnswer⟩ := Event.mk.inj same
    exact congrArg (Sigma.mk op) (eq_of_heq sameAnswer)
  have same := List.append_cancel_right (Eq.trans (Eq.symm one) two)
  exact List.map_injective_iff.mpr injective (List.reverse_injective same)

/-- Between two responses at most one request waits for its own. -/
theorem Scene.Standing.inDialogue {reader : Reader}
    (standing : scene.Standing current known turns rest reader)
    (few : current.length ≤ 1) (since : Since scene.start (turns.flatMap Turn.events ++ rest) now) :
    scene.InDialogue now := by
  obtain ⟨later, split, _⟩ := standing.unread
  refine ⟨turns, rest, since, standing.sound, ⟨later, ?_⟩, .serving ?_ standing.quiet⟩
  · rw [standing.reads, split]
  · rw [standing.reads]
    exact few

/-- So the dialogue stands at such a moment. -/
theorem Scene.ServesAfter.inDialogue (serves : scene.ServesAfter turns current known now)
    (few : current.length ≤ 1) : scene.InDialogue now := by
  obtain ⟨rest, since, standing⟩ := serves
  exact standing.inDialogue few since

/-- An operation off the connection is one more event that has happened. -/
theorem Scene.ServesAfter.offline {op : Op} {answer : Answer op} (offline : op.offline)
    (serves : scene.ServesAfter turns current known now)
    (occurs : Occurs exec now ⟨(), op, answer⟩ later) :
    scene.ServesAfter turns current (⟨op, answer⟩ :: known) later := by
  obtain ⟨rest, since, standing⟩ := serves
  obtain ⟨executed, grown⟩ := occurs
  obtain ⟨_, world⟩ := exec_iff.mp executed
  obtain ⟨unread, unwritten, pending⟩ := offline.unnoticed answer now.world
  have since' := since.cons grown
  rw [List.append_assoc] at since'
  refine ⟨rest ++ [⟨op, answer⟩], since', standing.sound, ?_, ?_, ?_, ?_⟩
  · rw [offered_append, standing.quiet, unwritten]
    rfl
  · rw [received_append, standing.reads, unread, List.append_nil]
  · intro event member
    rcases List.mem_cons.mp member with rfl | before
    · exact List.mem_append_right _ (List.mem_singleton_self _)
    · exact List.mem_append_left _ (standing.happened event before)
  · obtain ⟨ahead, split, bytes⟩ := standing.unread
    exact ⟨ahead, split, by rw [world, pending, bytes]⟩

/-- Less may be known of the turn at hand. -/
theorem Scene.ServesAfter.fewer {fewer : List (Sigma Answer)}
    (serves : scene.ServesAfter turns current known now)
    (within : ∀ event ∈ fewer, event ∈ known) : scene.ServesAfter turns current fewer now := by
  obtain ⟨rest, since, sound, quiet, reads, happened, unread⟩ := serves
  exact ⟨rest, since, sound, quiet, reads, fun event member => happened event (within event member),
    unread⟩

/-- A session that serves one request at most is in its dialogue. -/
theorem Scene.Serves.inDialogue (serves : scene.Serves current known now)
    (few : current.length ≤ 1) : scene.InDialogue now := by
  obtain ⟨turns, after⟩ := serves
  exact after.inDialogue few

/-- Less may be known of the request at hand. -/
theorem Scene.Serves.fewer {fewer : List (Sigma Answer)} (serves : scene.Serves current known now)
    (within : ∀ event ∈ fewer, event ∈ known) : scene.Serves current fewer now := by
  obtain ⟨turns, after⟩ := serves
  exact ⟨turns, after.fewer within⟩

/-- The response to the request that is served ends the turn. -/
theorem Scene.Serves.responds {request : Request} {response : Response}
    {answer : Answer (.write response.encode)}
    (serves : scene.Serves [request] known now)
    (replies : ∀ events, (∀ event ∈ known, event ∈ events) →
      RepliesTo scene.sha256 scene.config events request response)
    (occurs : Occurs exec now ⟨(), .write response.encode, answer⟩ later) :
    scene.Serves [] [] later := by
  obtain ⟨turns, rest, since, sound, quiet, reads, happened, ahead, split, bytes⟩ := serves
  obtain ⟨executed, grown⟩ := occurs
  obtain ⟨fits, world⟩ := exec_iff.mp executed
  let last : Turn := ⟨request, response, rest ++ [⟨.write response.encode, answer⟩]⟩
  have whole : last.Sound scene.sha256 scene.config := by
    constructor
    · show received (rest ++ _) = _
      rw [received_append, reads]
      rfl
    · show offered (rest ++ _) = _
      rw [offered_append, quiet]
      rfl
    · refine ⟨answer.result, fits, ?_⟩
      show taken (rest ++ _) = _
      rw [taken_append, taken_nothing quiet]
      exact List.append_nil _
    · exact replies _ fun event member => List.mem_append_left _ (happened event member)
  refine ⟨turns ++ [last], [], ?_, ?_, rfl, rfl, by simp, ahead, ?_, ?_⟩
  · have since' := since.cons grown
    simpa [last] using since'
  · intro turn member
    rcases List.mem_append.mp member with earlier | this
    · exact sound turn earlier
    · rw [List.mem_singleton.mp this]
      exact whole
  · simpa [last] using split
  · rw [world]
    exact bytes

/-- A request that is read is the next one that was sent. -/
theorem Scene.Serves.reads (readable : ∀ request ∈ scene.requests, Readable request)
    {deadline : Nat} {request : Request} (serves : scene.Serves [] known now)
    (occurs : Occurs exec now ⟨(), .readRequest deadline, .ok (some request)⟩ later) :
    scene.Serves [request] [] later := by
  obtain ⟨turns, rest, since, sound, quiet, reads, _, ahead, split, bytes⟩ := serves
  obtain ⟨executed, grown⟩ := occurs
  obtain ⟨given, world⟩ := exec_iff.mp executed
  have read : readRequest deadline now.world.reader =
      (.ok (some request), (readRequest deadline now.world.reader).2) :=
    Prod.ext (beq_iff_eq.mp given).symm rfl
  obtain ⟨parses, _⟩ := readRequest_parses read
  rw [bytes] at parses
  cases ahead with
  | nil => exact absurd parses Parses.nonempty
  | cons next ahead =>
    have member : next ∈ scene.requests := by
      rw [split]
      simp
    obtain ⟨rfl, behind⟩ := parses.unique
      (parses_of_readable next (ahead.flatMap Request.encode) (readable next member))
    have since' := since.cons grown
    rw [List.append_assoc] at since'
    refine ⟨turns, _, since', sound, ?_, ?_, by simp, ahead, ?_, ?_⟩
    · rw [offered_append, quiet]
      rfl
    · rw [received_append, reads]
      rfl
    · rw [split]
      simp
    · rw [world]
      exact behind

/-- Reading has ended with this answer. -/
def Scene.Stopped (scene : Scene) (deadline : Nat) (answer : Answer (.readRequest deadline))
    (now : Moment) : Prop :=
  ∃ (turns : List Turn) (rest : List (Sigma Answer)),
    Since scene.start (turns.flatMap Turn.events ++ rest) now ∧
    (∀ turn ∈ turns, turn.Sound scene.sha256 scene.config) ∧
    turns.map Turn.request <+: scene.requests ∧ received rest = [] ∧ offered rest = [] ∧
    ⟨.readRequest deadline, answer⟩ ∈ rest

/-- A read that brings no request stops the session behind its last turn. -/
theorem Scene.Serves.stops {deadline : Nat} {answer : Answer (.readRequest deadline)}
    (serves : scene.Serves [] known now) (nothing : ∀ request, answer ≠ .ok (some request))
    (occurs : Occurs exec now ⟨(), .readRequest deadline, answer⟩ later) :
    scene.Stopped deadline answer later := by
  obtain ⟨turns, rest, since, sound, quiet, reads, _, ahead, split, _⟩ := serves
  have since' := since.cons occurs.2
  rw [List.append_assoc] at since'
  refine ⟨turns, _, since', sound, ⟨ahead, by simpa using split.symm⟩, ?_, ?_, by simp⟩
  · rw [received_append, reads]
    rcases answer with err | _ | request
    · rfl
    · rfl
    · exact absurd rfl (nothing request)
  · rw [offered_append, quiet]
    rfl

/-- A session that has stopped is in its dialogue. -/
theorem Scene.Stopped.inDialogue {deadline : Nat} {answer : Answer (.readRequest deadline)}
    (stopped : scene.Stopped deadline answer now) : scene.InDialogue now := by
  obtain ⟨turns, rest, since, sound, split, unread, unwritten, _⟩ := stopped
  refine ⟨turns, rest, since, sound, ?_, .serving ?_ unwritten⟩
  · rw [unread, List.append_nil]
    exact split
  · rw [unread]
    exact Nat.zero_le _

/-- An idle peer is told so. -/
theorem Scene.Stopped.notices {deadline : Nat} {err : IoError} (late : err.kind = .timedOut)
    (stopped : scene.Stopped deadline (.error err) now)
    {answer : Answer (.write (Utf8.encode timedOutNotice))}
    (occurs : Occurs exec now ⟨(), .write (Utf8.encode timedOutNotice), answer⟩ later) :
    scene.InDialogue later := by
  obtain ⟨turns, rest, since, sound, split, unread, unwritten, found⟩ := stopped
  have since' := since.cons occurs.2
  rw [List.append_assoc] at since'
  have nothing : received (rest ++ [⟨.write (Utf8.encode timedOutNotice), answer⟩]) = [] := by
    rw [received_append, unread]
    rfl
  refine ⟨turns, _, since', sound, ?_, .idle nothing deadline err late ?_ ?_⟩
  · rw [nothing, List.append_nil]
    exact split
  · exact List.mem_append_left _ found
  · rw [offered_append, unwritten]
    rfl

/-- Without a browser there are no turns: one response says so. -/
theorem Scene.ServesAfter.unserved {response : Response}
    (serves : scene.ServesAfter [] [] known now)
    (reports : ∀ events, (∀ event ∈ known, event ∈ events) →
      Reports events .err "Browser initialization failed".toList response)
    {answer : Answer (.write response.encode)}
    (occurs : Occurs exec now ⟨(), .write response.encode, answer⟩ later) :
    scene.InDialogue later := by
  obtain ⟨rest, since, sound, quiet, reads, happened, _⟩ := serves
  have since' := since.cons occurs.2
  rw [List.append_assoc] at since'
  have nothing : received (rest ++ [⟨.write response.encode, answer⟩]) = [] := by
    rw [received_append, reads]
    rfl
  refine ⟨[], _, since', sound, ?_, .unserved rfl nothing response ?_ ?_⟩
  · rw [nothing]
    exact List.nil_prefix
  · exact reports _ fun event member => List.mem_append_left _ (happened event member)
  · rw [offered_append, quiet]
    rfl

end Exchanges

section Serving

variable {scene : Scene} {known : List (Sigma Answer)} {request : Request} {current : List Request}
variable {url callsign : Text} {ifNoneMatch : Option Text}

/-- An operation off the connection is known from then on, behind the turns so far. -/
theorem askOffline_after {op : Op} (turns : List Turn) (offline : op.offline)
    (few : current.length ≤ 1) :
    scene.dialogue.Triple () (scene.ServesAfter turns current known) (ask op)
      fun answer => scene.ServesAfter turns current (⟨op, answer⟩ :: known) := by
  apply triple_ask (stable_alone _) fun _ => stable_alone _
  intro now answer later serves moves
  have next := serves.offline offline moves.occurs
  exact ⟨next.inDialogue few, next⟩

/-- An operation off the connection is known from then on. -/
theorem askOffline_serves {op : Op} (offline : op.offline) (few : current.length ≤ 1) :
    scene.dialogue.Triple () (scene.Serves current known) (ask op)
      fun answer => scene.Serves current (⟨op, answer⟩ :: known) := by
  rintro now ⟨turns, after⟩
  exact (askOffline_after turns offline few now after).mono fun _ _ next => ⟨turns, next⟩

/-- A part off the connection leaves the request at hand. -/
theorem offline_serves {α : Type} {program : Routine α} (only : program.Only Op.offline)
    (few : current.length ≤ 1) : scene.dialogue.Triple () (scene.Serves current known) program
      fun _ => scene.Serves current known := by
  apply triple_only (stable_alone _) only
  rintro op offline now answer later ⟨turns, after⟩ moves
  have next := after.offline offline moves.occurs
  exact ⟨next.inDialogue few, turns, next.fewer fun _ => List.mem_cons_of_mem _⟩

/-- Logging is off the connection. -/
theorem logEntry_offline (entry : LogEntry) : (logEntry entry).Only Op.offline :=
  only_bind _ (only_ask _ trivial) fun _ => trivial

/-- Looking at the clock is off the connection. -/
theorem touch_offline (session : Session) : (touch session).Only Op.offline :=
  only_bind _ (only_ask _ trivial) fun _ => trivial

/-- A response is given to the connection for the request. -/
theorem writeResponse_answers {response : Response}
    (replies : ∀ events, (∀ event ∈ known, event ∈ events) →
      RepliesTo scene.sha256 scene.config events request response) :
    scene.dialogue.Triple ()
      (scene.Serves [request] known) (writeBytes response.encode).run
      fun _ => scene.Serves [] [] := by
  refine triple_bind (fun _ => scene.Serves [] []) ?_
    fun _ => triple_done (stable_alone _) fun _ => id
  apply triple_ask (stable_alone _) fun _ => stable_alone _
  intro now answer later serves moves
  obtain ⟨turns, next⟩ := serves.responds replies moves.occurs
  exact ⟨next.inDialogue (Nat.zero_le _), turns, next⟩

/-- A message is reported as the response to the request. -/
theorem sendStatusResponse_answers {status : Status} {message : Text}
    (replies : ∀ events response, (∀ event ∈ known, event ∈ events) →
      Reports events status message response →
        RepliesTo scene.sha256 scene.config events request response) :
    scene.dialogue.Triple ()
      (scene.Serves [request] known) (sendStatusResponse status message).run
      fun _ => scene.Serves [] [] := by
  apply triple_attempt (fun compressed => scene.Serves [request]
    (⟨.compress (Utf8.encode message) 11, compressed⟩ :: known)) (fun _ => stable_alone _)
  · apply triple_lift fun _ => stable_alone _
    exact askOffline_serves trivial (Nat.le_refl _)
  · intro compressed
    apply writeResponse_answers
    intro events within
    apply replies events _ fun event member => within event (List.mem_cons_of_mem _ member)
    exact ⟨compressed, within _ List.mem_cons_self, rfl⟩

/-- A refusal answers the request. -/
theorem rejectUrl_answers (err : UrlError) (time : Nat)
    (found : ⟨.validateUrl url, ⟨.error err, time⟩⟩ ∈ known) :
    scene.dialogue.Triple ()
      (scene.Serves [.get url ifNoneMatch] known)
      (rejectUrl callsign url err).run fun _ => scene.Serves [] [] := by
  apply triple_attempt (fun _ => scene.Serves [.get url ifNoneMatch] known)
    fun _ => stable_alone _
  · exact triple_lift (fun _ => stable_alone _)
      (offline_serves (logEntry_offline _) (Nat.le_refl _))
  · intro _
    apply sendStatusResponse_answers
    exact fun events response within reports => .rejected err time (within _ found) reports

/-- What is known after an attempt to load the page of an accepted URL. -/
def Scene.Attempted (scene : Scene) (request : Request) (known : List (Sigma Answer)) (url : Text) :
    Option BrowserId ⊕ Fetched × Option BrowserId → Moment → Prop
  | .inl _, now => scene.Serves [request] known now
  | .inr (.page html, _), now => ∃ (browser : BrowserId) (time : Nat),
    scene.Serves [request]
      (⟨.fetchPage browser url, ⟨.ok html, time⟩⟩ :: known) now
  | .inr (.answered _, _), now => scene.Serves [] [] now

/-- A browser that does not start is reported, and answers the request. -/
theorem restartBrowser_answers
    (accepted : ∃ time : Nat, ⟨.validateUrl url, ⟨.ok (), time⟩⟩ ∈ known) :
    scene.dialogue.Triple () (scene.Serves [.get url ifNoneMatch] known) (restartBrowser callsign)
      (scene.Attempted (.get url ifNoneMatch) known url) := by
  apply triple_bind _ (askOffline_serves (by exact trivial) (Nat.le_refl _))
  intro created
  split
  · apply triple_done (stable_alone _)
    exact fun _ serves => serves.fewer fun _ => List.mem_cons_of_mem _
  · rename_i err failed
    obtain ⟨result, time⟩ := created
    obtain rfl : result = .error err := failed
    refine triple_bind (fun _ => scene.Serves [] []) ?_
      fun _ => triple_done (stable_alone _) fun _ => id
    apply sendStatusResponse_answers
    intro events response within reports
    obtain ⟨passed, found⟩ := accepted
    exact .browserless ⟨passed, within _ (List.mem_cons_of_mem _ found)⟩ callsign err time
      (within _ List.mem_cons_self) reports

/-- A try answers the request, or leaves it to the next one. -/
theorem tryFetch_answers (accepted : ∃ time : Nat, ⟨.validateUrl url, ⟨.ok (), time⟩⟩ ∈ known)
    (browser : Option BrowserId) :
    scene.dialogue.Triple () (scene.Serves [.get url ifNoneMatch] known)
      (tryFetch callsign url browser) (scene.Attempted (.get url ifNoneMatch) known url) := by
  cases browser with
  | none => exact restartBrowser_answers accepted
  | some browser =>
    apply triple_bind _ (askOffline_serves (by exact trivial) (Nat.le_refl _))
    rintro ⟨err | html, time⟩
    · have failed : err ≠ .browserCrashed →
          scene.dialogue.Triple ()
            (scene.Serves [.get url ifNoneMatch]
              (⟨.fetchPage browser url, ⟨.error err, time⟩⟩ :: known))
            (do
              logEntry ⟨callsign, url, .error, some err.display⟩
              let sent ← (sendErrorResponse "Failed to load page".toList).run
              return (.inr (.answered sent, some browser) :
                Option BrowserId ⊕ Fetched × Option BrowserId))
            (scene.Attempted (.get url ifNoneMatch) known url) := by
        intro lasting
        apply triple_bind _ (offline_serves (logEntry_offline _) (Nat.le_refl _))
        intro _
        refine triple_bind (fun _ => scene.Serves [] []) ?_
          fun _ => triple_done (stable_alone _) fun _ => id
        apply sendStatusResponse_answers
        intro events response within reports
        obtain ⟨passed, found⟩ := accepted
        exact .unloadable ⟨passed, within _ (List.mem_cons_of_mem _ found)⟩ browser err time
          (within _ List.mem_cons_self) lasting reports
      cases err with
      | browserCrashed =>
        exact (restartBrowser_answers accepted).consequence
          (fun _ serves => serves.fewer fun _ => List.mem_cons_of_mem _) fun _ _ => id
      | _ => exact failed (by simp)
    · exact triple_done (stable_alone _) fun _ serves => ⟨browser, time, serves⟩

/-- What is sent for a page that was loaded. -/
theorem sendPage_answers {html : Text} (browser : BrowserId) (time : Nat)
    (accepted : ∃ time : Nat, ⟨.validateUrl url, ⟨.ok (), time⟩⟩ ∈ known)
    (found : ⟨.fetchPage browser url, ⟨.ok html, time⟩⟩ ∈ known) :
    scene.dialogue.Triple () (scene.Serves [.get url ifNoneMatch] known)
      (sendPage scene.sha256 scene.config callsign url ifNoneMatch html).run
      fun _ => scene.Serves [] [] := by
  refine triple_attempt (fun probed => scene.Serves [.get url ifNoneMatch]
    (⟨.joinProbe, probed⟩ :: known)) (fun _ => stable_alone _)
    (triple_lift (fun _ => stable_alone _) (askOffline_serves trivial (Nat.le_refl _)))
    fun probed => ?_
  refine triple_attempt
    (fun _ => scene.Serves [.get url ifNoneMatch] (⟨.joinProbe, probed⟩ :: known))
    (fun _ => stable_alone _) (triple_lift (fun _ => stable_alone _)
      (offline_serves (logEntry_offline _) (Nat.le_refl _))) fun _ => ?_
  have loaded : ∀ events, (∀ event ∈ ⟨.joinProbe, probed⟩ :: known, event ∈ events) →
      Loaded scene.config events url html
        (probed.result.getD scene.config.defaultMaxAgeSeconds) := by
    intro events within
    obtain ⟨passed, before⟩ := accepted
    exact ⟨⟨passed, within _ (List.mem_cons_of_mem _ before)⟩,
      ⟨browser, time, within _ (List.mem_cons_of_mem _ found)⟩,
      probed, within _ List.mem_cons_self, rfl⟩
  split
  · rename_i unchanged
    apply writeResponse_answers
    intro events within
    rw [unchanged]
    exact .unchanged (loaded events within)
  · rename_i changed
    refine triple_attempt (fun compressed => scene.Serves [.get url ifNoneMatch]
      (⟨.compress (Utf8.encode html) scene.config.brotliQuality, compressed⟩ ::
        ⟨.joinProbe, probed⟩ :: known)) (fun _ => stable_alone _)
      (triple_lift (fun _ => stable_alone _) (askOffline_serves trivial (Nat.le_refl _))) ?_
    rintro ⟨_ | body, spent⟩
    · apply sendStatusResponse_answers
      intro events response within reports
      exact .uncompressed (loaded events fun _ member => within _ (List.mem_cons_of_mem _ member))
        changed spent (within _ List.mem_cons_self) reports
    · apply writeResponse_answers
      intro events within
      exact .page (loaded events fun _ member => within _ (List.mem_cons_of_mem _ member))
        changed body spent (within _ List.mem_cons_self)

/-- A page that was loaded answers the request. -/
theorem sendLoaded_answers (html : Text) (browser : Option BrowserId)
    (accepted : ∃ time : Nat, ⟨.validateUrl url, ⟨.ok (), time⟩⟩ ∈ known) :
    scene.dialogue.Triple ()
      (scene.Attempted (.get url ifNoneMatch) known url (.inr (.page html, browser)))
      (sendPage scene.sha256 scene.config callsign url ifNoneMatch html).run
      fun _ => scene.Serves [] [] := by
  rintro now ⟨loader, spent, serves⟩
  refine sendPage_answers loader spent ?_ List.mem_cons_self now serves
  obtain ⟨time, passed⟩ := accepted
  exact ⟨time, List.mem_cons_of_mem _ passed⟩

/-- A GET that was read gets its response. -/
theorem handleGet_answers (browser : Option BrowserId) :
    scene.dialogue.Triple () (scene.Serves [.get url ifNoneMatch] [])
      (handleRequest scene.sha256 scene.config callsign browser url ifNoneMatch)
      fun _ => scene.Serves [] [] := by
  apply triple_bind _ (askOffline_serves (by exact trivial) (Nat.le_refl _))
  rintro ⟨err | passed, time⟩
  · refine triple_bind (fun _ => scene.Serves [] [])
      (rejectUrl_answers err time List.mem_cons_self)
      fun _ => triple_done (stable_alone _) fun _ => id
  · have accepted : ∃ time' : Nat, (⟨.validateUrl url, ⟨.ok (), time'⟩⟩ : Sigma Answer) ∈
        [(⟨.validateUrl url, ⟨.ok (), time⟩⟩ : Sigma Answer)] := ⟨time, List.mem_cons_self⟩
    refine triple_bind (fun _ => scene.Serves [.get url ifNoneMatch]
      [⟨.validateUrl url, ⟨.ok (), time⟩⟩]) ?_ fun _ => ?_
    · exact offline_serves (only_ask _ trivial) (Nat.le_refl _)
    · refine triple_bind (fun fetched => scene.Attempted (.get url ifNoneMatch)
        [⟨.validateUrl url, ⟨.ok (), time⟩⟩] url (.inr fetched)) ?_ ?_
      · refine triple_loop (fun browser => scene.Attempted (.get url ifNoneMatch)
          [⟨.validateUrl url, ⟨.ok (), time⟩⟩] url (.inl browser)) (fun _ => stable_alone _)
          (fun _ => stable_alone _) (fun browser => ?_) browser
        apply (tryFetch_answers accepted browser).consequence fun _ => id
        rintro (_ | _) _ attempted
        · exact attempted
        · exact attempted
      · rintro ⟨html | sent, browser⟩
        · apply triple_bind _ (sendLoaded_answers html browser accepted)
          exact fun _ => triple_done (stable_alone _) fun _ => id
        · exact triple_done (stable_alone _) fun _ => id

/-- What a round leaves: it may go on, or the session ends. -/
def Scene.Round (scene : Scene) :
    Session × Option BrowserId ⊕ Except IoError Unit → Moment → Prop
  | .inl _, now => scene.Serves [] [] now
  | .inr _, now => scene.InDialogue now

/-- Looking at the clock ends the round. -/
theorem touch_round {answered : Routine (Session × Option BrowserId ⊕ Except IoError Unit)}
    (session : Session) (browser : Option BrowserId)
    (touches : answered = do
      let session ← touch session
      return .inl (session, browser)) :
    scene.dialogue.Triple () (scene.Serves [] []) answered scene.Round := by
  rw [touches]
  apply triple_bind _ (offline_serves (touch_offline session) (Nat.zero_le _))
  exact fun _ => triple_done (stable_alone _) fun _ => id

/-- A refusal answers the form. -/
theorem refusePost_answers (session : Session) (browser : Option BrowserId) (body : Bytes) :
    scene.dialogue.Triple () (scene.Serves [.post url body] []) (refusePost session browser)
      scene.Round := by
  refine triple_bind (fun _ => scene.Serves [] []) ?_ ?_
  · apply sendStatusResponse_answers
    exact fun events response _ reports => .refused reports
  · rintro (err | _)
    · exact triple_done (stable_alone _) fun _ serves => serves.inDialogue (Nat.zero_le _)
    · exact touch_round session browser rfl

/-- A request for a page is answered. -/
theorem serveGet_answers (session : Session) (browser : Option BrowserId) :
    scene.dialogue.Triple () (scene.Serves [.get url ifNoneMatch] [])
      (serveGet scene.sha256 scene.config session browser url ifNoneMatch) scene.Round := by
  apply triple_bind _ (handleGet_answers browser)
  exact fun _ => touch_round session _ rfl

/-- The notice to an idle peer comes behind the last turn. -/
theorem tryWriteNotice_answers {deadline : Nat} {err : IoError} (late : err.kind = .timedOut) :
    scene.dialogue.Triple () (scene.Stopped deadline (.error err)) (tryWriteText timedOutNotice)
      fun _ => scene.InDialogue := by
  refine triple_bind (fun _ => scene.InDialogue) ?_
    fun _ => triple_done (stable_alone _) fun _ => id
  apply triple_ask (stable_alone _) fun _ => stable_alone _
  intro now answer later stopped moves
  have next := stopped.notices late moves.occurs
  exact ⟨next, next⟩

/-- One round reads a request and answers it, or ends the session. -/
theorem serveNext_answers (readable : ∀ request ∈ scene.requests, Readable request)
    (state : Session × Option BrowserId) :
    scene.dialogue.Triple () (scene.Serves [] []) (serveNext scene.sha256 scene.config state)
      scene.Round := by
  let deadline := state.1.lastActivity + scene.config.idleTimeout
  refine triple_bind (fun (answer : Answer (.readRequest deadline)) now => match answer with
    | .ok (some request) => scene.Serves [request] [] now
    | .ok none => scene.Stopped deadline (.ok none) now
    | .error err => scene.Stopped deadline (.error err) now) ?_ ?_
  · apply triple_ask (stable_alone _) fun _ => stable_alone _
    intro now answer later serves moves
    rcases answer with err | _ | request
    · have stopped := serves.stops (by simp) moves.occurs
      exact ⟨stopped.inDialogue, stopped⟩
    · have stopped := serves.stops (by simp) moves.occurs
      exact ⟨stopped.inDialogue, stopped⟩
    · have next := serves.reads readable moves.occurs
      exact ⟨next.inDialogue (Nat.le_refl _), next⟩
  · rintro (err | _ | request)
    · show scene.dialogue.Triple () (scene.Stopped deadline (.error err)) (ite _ _ _) _
      split
      · rename_i late
        apply triple_bind _ (tryWriteNotice_answers late)
        exact fun _ => triple_done (stable_alone _) fun _ => id
      · exact triple_done (stable_alone _) fun _ stopped => stopped.inDialogue
    · exact triple_done (stable_alone _) fun _ stopped => stopped.inDialogue
    · apply triple_bind _ (offline_serves (touch_offline state.1) (Nat.le_refl _))
      intro session
      cases request with
      | get url ifNoneMatch => exact serveGet_answers session state.2
      | post url body => exact refusePost_answers session state.2 body

/-- The requests are answered one after the other. -/
theorem serve_answers (readable : ∀ request ∈ scene.requests, Readable request)
    (session : Session) :
    scene.dialogue.Triple () (scene.ServesAfter [] [] [])
      (serve scene.sha256 scene.config session).run fun _ => scene.InDialogue := by
  apply triple_attempt (fun _ => scene.ServesAfter [] [] []) fun _ => stable_alone _
  · apply triple_lift fun _ => stable_alone _
    refine triple_bind _ (askOffline_after [] (by exact trivial) (Nat.zero_le _)) fun _ =>
      triple_done (stable_alone _) fun _ after => after.fewer (by simp)
  · intro _
    apply triple_attempt (fun _ => scene.ServesAfter [] [] []) fun _ => stable_alone _
    · apply triple_lift fun _ => stable_alone _
      refine (askOffline_after [] (by exact trivial) (Nat.zero_le _)).consequence (fun _ => id)
        fun _ _ after => after.fewer (by simp)
    · intro created
      cases created.result with
      | error err =>
        refine triple_attempt (fun compressed => scene.ServesAfter [] []
          [⟨.compress (Utf8.encode "Browser initialization failed".toList) 11, compressed⟩])
          (fun _ => stable_alone _) (triple_lift (fun _ => stable_alone _)
            (askOffline_after [] trivial (Nat.zero_le _))) fun compressed => ?_
        refine triple_bind (fun _ => scene.InDialogue) ?_
          fun _ => triple_done (stable_alone _) fun _ => id
        apply triple_ask (stable_alone _) fun _ => stable_alone _
        intro now answer later after moves
        have next := after.unserved
          (fun events within => ⟨compressed, within _ List.mem_cons_self, rfl⟩) moves.occurs
        exact ⟨next, next⟩
      | ok browser =>
        refine (triple_loop (fun _ => scene.Serves [] []) (fun _ => stable_alone _)
          (fun _ => stable_alone _) (fun state => ?_) (session, some browser)).consequence
          (fun _ after => ⟨[], after⟩) fun _ _ => id
        apply (serveNext_answers readable state).consequence fun _ => id
        rintro (_ | _) _ round
        · exact round
        · exact round

/-- At every moment of a session the responses given to the connection so far answer the
requests sent to it, one after the other: in their order, none left out and none answered
twice. Behind them there is at most one request that was read and not answered yet, the
notice to an idle peer, or the news that no browser starts. What has gone out is what the
connection took, of each response all of it or the part that its failed write sent.

Every operation keeps the dialogue where it is or carries it on by one step, whatever it
answers, and the program of the session is gone through operation by operation. -/
theorem dialogue_kept (scene : Scene) (readable : ∀ request ∈ scene.requests, Readable request)
    (session : Session)
    (sent : scene.start.world.reader.pending = scene.requests.flatMap Request.encode)
    {now : Moment}
    {left : Routine (Except IoError Unit)} (leads : Leads exec (fun _ _ => True)
      (serve scene.sha256 scene.config session).run scene.start now left) :
    scene.InDialogue now ∧ ∀ events, Since scene.start events now →
      now.world.output = scene.start.world.output ++ taken events := by
  have before : scene.ServesAfter [] [] [] scene.start :=
    ⟨[], rfl, by simp, rfl, rfl, by simp, scene.requests, by simp, sent⟩
  refine ⟨(alone leads (before.inDialogue (Nat.zero_le _))
    (serve_answers readable session scene.start before)).1, ?_⟩
  intro events since
  obtain ⟨others, same, output⟩ := output_taken leads
  rwa [since_unique since same]

/-- One page is asked for. -/
def dialogueScene : Scene :=
  ⟨id, sampleConfig, [.get ['a'] none], Moment.opening ⟨ascii "GET a\n", [⟨0, .closed⟩], 0⟩⟩

/-- The session starts, and the page is refused. -/
def dialogueEvents : List (Sigma Answer) :=
  startEvents ++ rejectedEvents ['a'] ⟨.ok (), rejectionFrame.length⟩

/-- The events above are a run. -/
theorem dialogue_runs : ((serve id sampleConfig agreedSession).run.follow exec 2 dialogueScene.start
    dialogueEvents).isSome := by decide +kernel

/-- The page is refused. -/
theorem dialogue_kept_sample : ∃ now left,
    Leads exec (fun _ _ => True) (serve id sampleConfig agreedSession).run dialogueScene.start
      now left ∧ now.history = (dialogueEvents.map eventOf).reverse ∧
      dialogueScene.InDialogue now ∧ ∀ events, Since dialogueScene.start events now →
        now.world.output = dialogueScene.start.world.output ++ taken events := by
  obtain ⟨⟨now, left⟩, followed⟩ := Option.isSome_iff_exists.mp dialogue_runs
  obtain ⟨leads, history⟩ := follow_leads 2 dialogueEvents (fun _ _ => trivial) followed
  rw [dialogueScene, Moment.opening, List.append_nil] at history
  refine ⟨now, left, leads, history, dialogue_kept dialogueScene ?_ agreedSession
    (by decide) leads⟩
  intro request member
  obtain rfl := List.mem_singleton.mp member
  have plain : ¬ ifNoneMatchSentinel <:+: ['a'] :=
    (Search.occurs_false_iff _ _).mp (by decide)
  have visible : ∀ c ∈ (firstLine (.get ['a'] none)).getLast?, Text.whitespace c = false :=
    fun c last => by rw [← Option.some.inj last]; decide
  exact ⟨by decide, by decide, visible, plain⟩

end Serving

end PacketBrowser.Server
