import PacketBrowser.Server.Admission

/-!
# The stream of responses

Once the operator has agreed, the client reads nothing but response frames, so what the
server writes has to be one frame for each request. A frame that could not be written
whole is the last thing the client can make sense of.

A session ends after a failed write, except where it answers a GET: the error is only
printed there. What follows is then read in the middle of the broken frame.
-/

namespace PacketBrowser.Server

open Protocol Foundation Program Setting

section Traffic

/-- What passes over the connection: a request that was read, the news that the peer is
idle, and a write. -/
inductive Traffic where
  | request (request : Request)
  | idle
  | wrote (bytes : Bytes) (written : Written)
  deriving DecidableEq

/-- The bytes that are sent. -/
def Traffic.bytes : Traffic → Bytes
  | .wrote bytes written => written.bytes bytes
  | _ => []

/-- What an answered operation is to the connection. -/
def trafficOf : (op : Op) → Answer op → Option Traffic
  | .write bytes, answer => some (.wrote bytes answer.result)
  | .readRequest _, .ok (some request) => some (.request request)
  | .readRequest _, .error err => if err.kind = .timedOut then some .idle else none
  | _, _ => none

/-- The traffic of a list of events, in the same order. -/
def traffic (events : List SessionEvent) : List Traffic :=
  events.filterMap fun event => trafficOf event.op event.answer

/-- A request and the response that was written for it. -/
structure Exchange where
  request : Request
  response : Response

/-- The request is read, then the whole frame is written. -/
def Exchange.traffic (exchange : Exchange) : List Traffic :=
  [.request exchange.request,
    .wrote exchange.response.encode ⟨.ok (), exchange.response.encode.length⟩]

/-- The bytes of the frame. -/
def Exchange.frame (exchange : Exchange) : Bytes := exchange.response.encode

/-- What may follow the exchanges, and the bytes that are sent for it: a request that is
being served, a response cut short, or the notice to an idle peer. -/
inductive Closing : List Traffic → Bytes → Prop
  | nothing : Closing [] []
  | serving (request : Request) : Closing [.request request] []
  | cut (request : Request) (response : Response) (err : IoError) (sent : Nat) :
      Closing [.request request, .wrote response.encode ⟨.error err, sent⟩]
        (response.encode.take sent)
  | idle : Closing [.idle] []
  | notice (written : Written) :
      Closing [.idle, .wrote (Utf8.encode timedOutNotice) written]
        (written.bytes (Utf8.encode timedOutNotice))

/-- The traffic is one whole response for each request, in their order, and what may
follow. A session for which no browser starts serves no request: one frame says so. -/
inductive Framed : List Traffic → Bytes → Prop
  | served {exchanges : List Exchange} {closing : List Traffic} {bytes : Bytes}
      (closes : Closing closing bytes) :
      Framed (exchanges.flatMap Exchange.traffic ++ closing)
        (exchanges.flatMap Exchange.frame ++ bytes)
  | unserved (response : Response) (written : Written) :
      Framed [.wrote response.encode written] (written.bytes response.encode)

/-- A write that failed. -/
def Traffic.fails : Traffic → Bool
  | .wrote _ ⟨.error _, _⟩ => true
  | _ => false

variable {items closing : List Traffic} {bytes : Bytes}

/-- The bytes of the exchanges are their frames. -/
theorem exchanges_bytes (exchanges : List Exchange) :
    (exchanges.flatMap Exchange.traffic).flatMap Traffic.bytes =
      exchanges.flatMap Exchange.frame := by
  induction exchanges with
  | nil => rfl
  | cons exchange others inductionHypothesis =>
    simp only [List.flatMap_cons, List.flatMap_append, inductionHypothesis]
    congr 1
    simp [Exchange.traffic, Exchange.frame, Traffic.bytes, Written.bytes]

/-- The bytes of a closing are what was written in it. -/
theorem Closing.bytes_eq (closes : Closing closing bytes) :
    bytes = closing.flatMap Traffic.bytes := by
  cases closes <;> simp [Traffic.bytes, Written.bytes]

/-- No write of an exchange failed. -/
theorem exchanges_whole (exchanges : List Exchange) :
    ∀ item ∈ exchanges.flatMap Exchange.traffic, item.fails = false := by
  intro item member
  obtain ⟨exchange, _, within⟩ := List.mem_flatMap.mp member
  simp only [Exchange.traffic, List.mem_cons, List.not_mem_nil, or_false] at within
  rcases within with rfl | rfl
  · rfl
  · rfl

/-- Only the last write of a closing may have failed. -/
theorem Closing.whole (closes : Closing closing bytes) :
    ∀ item ∈ closing.dropLast, item.fails = false := by
  cases closes <;> simp [Traffic.fails]

/-- In framed traffic nothing follows a write that failed. -/
theorem Framed.failed_last (framed : Framed items bytes) :
    ∀ item ∈ items.dropLast, item.fails = false := by
  cases framed with
  | unserved response written => simp
  | @served exchanges closing bytes closes =>
    intro item member
    by_cases nothing : closing = []
    · rw [nothing, List.append_nil] at member
      exact exchanges_whole exchanges item (List.mem_of_mem_dropLast member)
    · rw [List.dropLast_append_of_ne_nil nothing] at member
      rcases List.mem_append.mp member with early | late
      · exact exchanges_whole exchanges item early
      · exact closes.whole item late

end Traffic

section Runs

/-- What has happened since the start is this traffic, and its bytes were sent. -/
def Passes (start : Moment) (items : List Traffic) (now : Moment) : Prop :=
  ∃ events, now.history = events.reverse ++ start.history ∧ traffic events = items ∧
    now.world.output = start.world.output ++ items.flatMap Traffic.bytes

/-- The traffic since the start has this form. -/
def Holds (start : Moment) (form : List Traffic → Prop) (now : Moment) : Prop :=
  ∃ items, form items ∧ Passes start items now

/-- What was sent since the start is framed. -/
def Sound (start now : Moment) : Prop :=
  ∃ events bytes, now.history = events.reverse ++ start.history ∧
    Framed (traffic events) bytes ∧ now.world.output = start.world.output ++ bytes

/-- The session has something to answer: a request, or an idle peer. -/
def Traffic.goesOn : Traffic → Bool
  | .wrote _ _ => false
  | _ => true

/-- Once a write has failed, no request is read and the peer is not found idle: the input
ends, or reading fails too. -/
def EndsAfterFailure (event : SessionEvent) (earlier : List SessionEvent) : Prop :=
  (traffic earlier).any Traffic.fails = true →
    (trafficOf event.op event.answer).any Traffic.goesOn = false

instance (event : SessionEvent) (earlier : List SessionEvent) :
    Decidable (EndsAfterFailure event earlier) :=
  inferInstanceAs (Decidable (_ → _))

/-- The step ends the session if a write has failed. -/
def Yields (now : Moment) (event : SessionEvent) : Prop := EndsAfterFailure event now.history

/-- Every run that ends after a failure, with framed output. -/
def wire (start : Moment) : Setting World Unit Answer where
  exec := exec
  meets := Yields
  inv := Sound start

/-- Every request was answered. -/
def Between (items : List Traffic) : Prop :=
  ∃ exchanges : List Exchange, items = exchanges.flatMap Exchange.traffic

/-- Every request but the last was answered. -/
def Serving (items : List Traffic) : Prop :=
  ∃ (exchanges : List Exchange) (request : Request),
    items = exchanges.flatMap Exchange.traffic ++ [.request request]

/-- The response to the last request was cut short. -/
def Broken (items : List Traffic) : Prop :=
  ∃ (exchanges : List Exchange) (request : Request) (response : Response) (err : IoError)
    (sent : Nat), items = exchanges.flatMap Exchange.traffic ++
      [.request request, .wrote response.encode ⟨.error err, sent⟩]

/-- What the end of a write makes of the request that is served. -/
def Responded : Except IoError Unit → List Traffic → Prop
  | .ok _ => Between
  | .error _ => Broken

/-- The traffic is framed. -/
def IsFramed (items : List Traffic) : Prop := ∃ bytes, Framed items bytes

variable {start now later : Moment} {form : List Traffic → Prop} {items : List Traffic}

/-- The bytes of framed traffic are what was written. -/
theorem Framed.bytes_eq {bytes : Bytes} (framed : Framed items bytes) :
    bytes = items.flatMap Traffic.bytes := by
  cases framed with
  | unserved response written => simp [Traffic.bytes]
  | served closes => rw [List.flatMap_append, exchanges_bytes, ← closes.bytes_eq]

/-- Framed traffic is sound. -/
theorem IsFramed.sound (framed : IsFramed items) (passes : Passes start items now) :
    Sound start now := by
  obtain ⟨bytes, framed⟩ := framed
  obtain ⟨events, history, rfl, output⟩ := passes
  exact ⟨events, bytes, history, framed, by rw [output, ← framed.bytes_eq]⟩

/-- Traffic between two requests is framed. -/
theorem Between.framed (between : Between items) : IsFramed items := by
  obtain ⟨exchanges, rfl⟩ := between
  rw [← List.append_nil (exchanges.flatMap _)]
  exact ⟨_, .served .nothing⟩

/-- Traffic while a request is served is framed. -/
theorem Serving.framed (serving : Serving items) : IsFramed items := by
  obtain ⟨exchanges, request, rfl⟩ := serving
  exact ⟨_, .served (.serving request)⟩

/-- Traffic behind a write that failed is framed. -/
theorem Broken.framed (broken : Broken items) : IsFramed items := by
  obtain ⟨exchanges, request, response, err, sent, rfl⟩ := broken
  exact ⟨_, .served (.cut request response err sent)⟩

/-- Traffic behind a response is framed. -/
theorem Responded.framed {result : Except IoError Unit} (responded : Responded result items) :
    IsFramed items := by
  cases result with
  | ok _ => exact Between.framed responded
  | error _ => exact Broken.framed responded

/-- Traffic that is broken has a write that failed. -/
theorem Broken.fails (broken : Broken items) : items.any Traffic.fails = true := by
  obtain ⟨exchanges, request, response, err, sent, rfl⟩ := broken
  simp [Traffic.fails]

/-- What an operation sends are the bytes of its traffic. -/
theorem apply_output (world : World) (op : Op) (answer : Answer op) :
    (world.apply op answer).output =
      world.output ++ (trafficOf op answer).toList.flatMap Traffic.bytes := by
  cases op with
  | write bytes => simp [World.apply, trafficOf, Traffic.bytes]
  | readRequest deadline =>
    rcases answer with err | _ | request
    · by_cases idle : err.kind = .timedOut <;>
        simp [World.apply, trafficOf, idle, Traffic.bytes]
    · simp [World.apply, trafficOf]
    · simp [World.apply, trafficOf, Traffic.bytes]
  | _ => simp [World.apply, World.elapse, trafficOf]

/-- An operation adds what it is to the connection. -/
theorem Passes.step {event : SessionEvent} (passes : Passes start items now)
    (occurs : Occurs exec now event later) :
    Passes start (items ++ (trafficOf event.op event.answer).toList) later := by
  obtain ⟨events, history, rfl, output⟩ := passes
  obtain ⟨executed, grown⟩ := occurs
  obtain ⟨_, world⟩ := exec_iff.mp executed
  refine ⟨events ++ [event], by simp [grown, history], ?_, ?_⟩
  · cases found : trafficOf event.op event.answer <;> simp [traffic, found]
  · rw [world, apply_output, output, List.flatMap_append, List.append_assoc]

/-- Operations that nobody notices on the connection. -/
def Op.silent : Op → Prop
  | .write _ => False
  | .readRequest _ => False
  | _ => True

/-- A silent step leaves the traffic. -/
theorem silent_step {op : Op} {answer : Answer op} (silent : op.silent)
    (framed : ∀ items, form items → IsFramed items) (holds : Holds start form now)
    (moves : (wire start).Moves now ⟨(), op, answer⟩ later) :
    (wire start).inv later ∧ Holds start form later := by
  obtain ⟨items, formed, passes⟩ := holds
  have same : trafficOf op answer = none := by
    cases op with
    | write bytes => exact silent.elim
    | readRequest deadline => exact silent.elim
    | _ => rfl
  have passed := passes.step moves.occurs
  simp only [same, Option.toList_none, List.append_nil] at passed
  exact ⟨(framed items formed).sound passed, items, formed, passed⟩

/-- A silent part leaves the traffic. -/
theorem silent_holds {α : Type} {program : Routine α} (only : program.Only Op.silent)
    (framed : ∀ items, form items → IsFramed items) :
    (wire start).Triple () (Holds start form) program fun _ => Holds start form :=
  triple_only (stable_alone _) only fun _ silent _ _ _ => silent_step silent framed

/-- A write makes something else of the traffic, depending on how it ends. -/
theorem askWrite_holds {bytes : Bytes} (after : Except IoError Unit → List Traffic → Prop)
    (each : ∀ items written, form items → written.fits bytes = true →
      after written.result (items ++ [.wrote bytes written]))
    (framed : ∀ result items, after result items → IsFramed items) :
    (wire start).Triple () (Holds start form) (ask (.write bytes))
      fun answer => Holds start (after answer.result.result) := by
  apply triple_ask (stable_alone _) fun _ => stable_alone _
  rintro now answer later ⟨items, formed, passes⟩ moves
  obtain ⟨given, _⟩ := exec_iff.mp moves.occurs.1
  have passed := passes.step moves.occurs
  have found := each items answer.result formed given
  exact ⟨(framed _ _ found).sound passed, _, found, passed⟩

/-- Writing is one more piece of traffic, and goes on by its result. -/
theorem writeBytes_holds {bytes : Bytes} (after : Except IoError Unit → List Traffic → Prop)
    (each : ∀ items written, form items → written.fits bytes = true →
      after written.result (items ++ [.wrote bytes written]))
    (framed : ∀ result items, after result items → IsFramed items) :
    (wire start).Triple () (Holds start form) (writeBytes bytes).run
      fun result => Holds start (after result) :=
  triple_bind _ (askWrite_holds after each framed) fun _ => triple_done (stable_alone _) fun _ => id

/-- A frame is written for the request that is served. -/
theorem writeResponse_responded (response : Response) :
    (wire start).Triple () (Holds start Serving) (writeBytes response.encode).run
      fun result => Holds start (Responded result) := by
  apply writeBytes_holds Responded _ fun _ _ => Responded.framed
  rintro _ ⟨result, sent⟩ ⟨exchanges, request, rfl⟩ fits
  cases result with
  | ok _ =>
    obtain rfl : sent = response.encode.length := beq_iff_eq.mp fits
    exact ⟨exchanges ++ [⟨request, response⟩], by simp [Exchange.traffic]⟩
  | error err => exact ⟨exchanges, request, response, err, sent, by simp⟩

end Runs

section Serving

variable {sha256 : Bytes → Bytes} {config : Config} {callsign url : Text} {start : Moment}
variable {ifNoneMatch : Option Text}

/-- Logging is silent. -/
theorem logEntry_silent (entry : LogEntry) : (logEntry entry).Only Op.silent :=
  only_bind _ (only_ask _ trivial) fun _ => trivial

/-- Looking at the clock is silent. -/
theorem touch_silent (session : Session) : (touch session).Only Op.silent :=
  only_bind _ (only_ask _ trivial) fun _ => trivial

/-- A silent operation goes on serving. -/
theorem ask_serving {op : Op} (silent : op.silent) :
    (wire start).Triple () (Holds start Serving) (ask op) fun _ => Holds start Serving :=
  silent_holds (only_ask _ silent) fun _ => Serving.framed

/-- Logging goes on serving. -/
theorem logEntry_serving (entry : LogEntry) :
    (wire start).Triple () (Holds start Serving) (logEntry entry) fun _ => Holds start Serving :=
  silent_holds (logEntry_silent entry) fun _ => Serving.framed

/-- A status response responds. -/
theorem sendStatusResponse_responded (status : Status) (message : Text) :
    (wire start).Triple () (Holds start Serving) (sendStatusResponse status message).run
      fun result => Holds start (Responded result) := by
  apply triple_attempt (fun _ => Holds start Serving) (fun _ => stable_alone _)
  · exact triple_lift (fun _ => stable_alone _) (ask_serving (by exact trivial))
  · exact fun compressed => writeResponse_responded _

/-- A refusal responds. -/
theorem rejectUrl_responded (err : UrlError) :
    (wire start).Triple () (Holds start Serving) (rejectUrl callsign url err).run
      fun result => Holds start (Responded result) := by
  apply triple_attempt (fun _ => Holds start Serving) (fun _ => stable_alone _)
  · exact triple_lift (fun _ => stable_alone _) (logEntry_serving _)
  · exact fun _ => sendStatusResponse_responded _ _

/-- What is known after an attempt to load the page: the request is still to be answered,
or it was. -/
def Attempted : Option BrowserId ⊕ Fetched × Option BrowserId → List Traffic → Prop
  | .inl _ => Serving
  | .inr (.page _, _) => Serving
  | .inr (.answered sent, _) => Responded sent

/-- Starting a browser goes on serving, or responds that none starts. -/
theorem restartBrowser_attempted :
    (wire start).Triple () (Holds start Serving) (restartBrowser callsign)
      fun result => Holds start (Attempted result) := by
  apply triple_bind _ (ask_serving (by exact trivial))
  intro created
  cases created.result with
  | ok browser => exact triple_done (stable_alone _) fun _ => id
  | error err =>
    apply triple_bind _ (sendStatusResponse_responded _ _)
    exact fun sent => triple_done (stable_alone _) fun _ => id

/-- A try goes on serving, or responds. -/
theorem tryFetch_attempted (browser : Option BrowserId) :
    (wire start).Triple () (Holds start Serving) (tryFetch callsign url browser)
      fun result => Holds start (Attempted result) := by
  cases browser with
  | none => exact restartBrowser_attempted
  | some browser =>
    apply triple_bind _ (ask_serving (by exact trivial))
    intro fetched
    have failed : ∀ err : BrowserError, (wire start).Triple () (Holds start Serving) (do
        logEntry ⟨callsign, url, .error, some err.display⟩
        let sent ← (sendErrorResponse "Failed to load page".toList).run
        return (.inr (.answered sent, some browser) : Option BrowserId ⊕ Fetched × Option BrowserId))
        fun result => Holds start (Attempted result) := by
      intro err
      apply triple_bind _ (logEntry_serving _)
      intro _
      apply triple_bind _ (sendStatusResponse_responded _ _)
      exact fun sent => triple_done (stable_alone _) fun _ => id
    rcases fetched.result with err | html
    · cases err with
      | browserCrashed => exact restartBrowser_attempted
      | _ => exact failed _
    · exact triple_done (stable_alone _) fun _ => id

/-- A page that is sent responds. -/
theorem sendPage_responded (html : Text) :
    (wire start).Triple () (Holds start Serving)
      (sendPage sha256 config callsign url ifNoneMatch html).run
      fun result => Holds start (Responded result) := by
  apply triple_attempt (fun _ => Holds start Serving) (fun _ => stable_alone _)
  · exact triple_lift (fun _ => stable_alone _) (ask_serving (by exact trivial))
  · intro probed
    apply triple_attempt (fun _ => Holds start Serving) (fun _ => stable_alone _)
    · exact triple_lift (fun _ => stable_alone _) (logEntry_serving _)
    · intro _
      split
      · exact writeResponse_responded _
      · apply triple_attempt (fun _ => Holds start Serving) (fun _ => stable_alone _)
        · exact triple_lift (fun _ => stable_alone _) (ask_serving (by exact trivial))
        · intro compressed
          cases compressed.result with
          | none => exact sendStatusResponse_responded _ _
          | some compressed => exact writeResponse_responded _

/-- A GET is answered with one frame, whatever happens on the way. -/
theorem handleRequest_responded (browser : Option BrowserId) :
    (wire start).Triple () (Holds start Serving)
      (handleRequest sha256 config callsign browser url ifNoneMatch)
      fun result => Holds start (Responded result.1) := by
  apply triple_bind _ (ask_serving (by exact trivial))
  intro valid
  cases valid.result with
  | error err =>
    apply triple_bind _ (rejectUrl_responded err)
    exact fun sent => triple_done (stable_alone _) fun _ => id
  | ok _ =>
    apply triple_bind _ (ask_serving (by exact trivial))
    intro _
    apply triple_bind (fun fetched => Holds start (Attempted (.inr fetched)))
    · apply triple_loop (fun _ => Holds start Serving) (fun _ => stable_alone _)
        fun _ => stable_alone _
      intro browser
      apply (tryFetch_attempted browser).consequence fun _ => id
      rintro (later | ended) now attempted
      · exact attempted
      · exact attempted
    · rintro ⟨html | sent, browser⟩
      · apply triple_bind _ (sendPage_responded html)
        exact fun sent => triple_done (stable_alone _) fun _ => id
      · exact triple_done (stable_alone _) fun _ => id

/-- Between two requests: all were answered, or the last response was cut short. -/
def Paused (items : List Traffic) : Prop := Between items ∨ Broken items

/-- Traffic at a pause is framed. -/
theorem Paused.framed {items : List Traffic} (paused : Paused items) : IsFramed items :=
  paused.elim Between.framed Broken.framed

/-- Looking at the clock is a pause. -/
theorem touch_paused (session : Session) :
    (wire start).Triple () (Holds start Paused) (touch session) fun _ => Holds start Paused :=
  silent_holds (touch_silent session) fun _ => Paused.framed

/-- Behind a response there is a pause. -/
theorem Responded.paused {result : Except IoError Unit} {items : List Traffic}
    (responded : Responded result items) : Paused items := by
  cases result with
  | ok _ => exact Or.inl responded
  | error _ => exact Or.inr responded

/-- What is known of the traffic may be weakened. -/
theorem Holds.mono {form weaker : List Traffic → Prop} {now : Moment}
    (holds : Holds start form now) (implies : ∀ items, form items → weaker items) :
    Holds start weaker now := by
  obtain ⟨items, formed, passes⟩ := holds
  exact ⟨items, implies items formed, passes⟩

/-- What is known when the next request was looked for. -/
def Looked : Except IoError (Option Request) → List Traffic → Prop
  | .ok (some _) => Serving
  | .ok none => Paused
  | .error err => if err.kind = .timedOut then
      fun items => ∃ exchanges : List Exchange, items = exchanges.flatMap Exchange.traffic ++ [.idle]
    else Paused

/-- Traffic behind a look for a request is framed. -/
theorem Looked.framed {read : Except IoError (Option Request)} {items : List Traffic}
    (looked : Looked read items) : IsFramed items := by
  rcases read with err | _ | request
  · by_cases idle : err.kind = .timedOut
    · simp only [Looked, idle, if_true] at looked
      obtain ⟨exchanges, rfl⟩ := looked
      exact ⟨_, .served .idle⟩
    · simp only [Looked, idle, if_false] at looked
      exact Paused.framed looked
  · exact Paused.framed looked
  · exact Serving.framed looked

/-- Behind a broken response the input is over. -/
theorem readRequest_looked (deadline : Nat) :
    (wire start).Triple () (Holds start Paused) (ask (.readRequest deadline))
      fun read => Holds start (Looked read) := by
  apply triple_ask (stable_alone _) fun _ => stable_alone _
  rintro now read later ⟨items, paused, passes⟩ moves
  have passed := passes.step moves.occurs
  have found : Looked read (items ++ (trafficOf (.readRequest deadline) read).toList) := by
    have whole : (trafficOf (.readRequest deadline) read).any Traffic.goesOn = true →
        ∃ exchanges : List Exchange, items = exchanges.flatMap Exchange.traffic := by
      intro goesOn
      rcases paused with between | broken
      · exact between
      · obtain ⟨events, history, rfl, _⟩ := passes
        have failed : (traffic now.history).any Traffic.fails = true := by
          rw [history, traffic, List.filterMap_append, List.any_append, List.filterMap_reverse,
            List.any_reverse]
          exact Bool.or_eq_true_iff.mpr (Or.inl broken.fails)
        exact absurd goesOn (by simp [moves.met failed])
    rcases read with err | _ | request
    · by_cases idle : err.kind = .timedOut
      · obtain ⟨exchanges, rfl⟩ := whole (by simp [trafficOf, idle, Traffic.goesOn])
        simp only [Looked, trafficOf, idle, if_true, Option.toList_some]
        exact ⟨exchanges, rfl⟩
      · simpa [Looked, trafficOf, idle] using paused
    · simpa [Looked, trafficOf] using paused
    · obtain ⟨exchanges, rfl⟩ := whole rfl
      exact ⟨exchanges, request, rfl⟩
  exact ⟨found.framed.sound passed, _, found, passed⟩

/-- The notice to an idle peer closes the traffic. -/
theorem notice_framed :
    (wire start).Triple () (Holds start fun items => ∃ exchanges : List Exchange,
        items = exchanges.flatMap Exchange.traffic ++ [.idle])
      (tryWriteText timedOutNotice) fun _ => Holds start IsFramed := by
  apply triple_bind (fun _ => Holds start IsFramed)
  · apply askWrite_holds (fun _ => IsFramed) _ fun _ _ => id
    rintro _ written ⟨exchanges, rfl⟩ _
    rw [List.append_assoc]
    exact ⟨_, .served (.notice written)⟩
  · exact fun _ => triple_done (stable_alone _) fun _ => id

/-- A refused form leads to a pause. -/
theorem refusePost_paused (session : Session) (browser : Option BrowserId) :
    (wire start).Triple () (Holds start Serving) (refusePost session browser)
      (Sum.elim (fun _ => Holds start Paused) fun _ => Holds start IsFramed) := by
  apply triple_bind _ (sendStatusResponse_responded _ _)
  rintro (err | _)
  · exact triple_done (stable_alone _) fun _ holds => holds.mono fun _ => Broken.framed
  · apply triple_bind (fun _ => Holds start Paused)
    · exact (touch_paused session).consequence
        (fun _ holds => holds.mono fun _ => Or.inl) fun _ _ => id
    · exact fun _ => triple_done (stable_alone _) fun _ => id

/-- A page leads to a pause. -/
theorem serveGet_paused (session : Session) (browser : Option BrowserId) :
    (wire start).Triple () (Holds start Serving)
      (serveGet sha256 config session browser url ifNoneMatch)
      (Sum.elim (fun _ => Holds start Paused) fun _ => Holds start IsFramed) := by
  apply triple_bind _ (handleRequest_responded browser)
  rintro ⟨sent, browser⟩
  apply triple_bind (fun _ => Holds start Paused)
  · exact (touch_paused session).consequence
      (fun _ holds => holds.mono fun _ => Responded.paused) fun _ _ => id
  · exact fun _ => triple_done (stable_alone _) fun _ => id

/-- A round leads to a pause, or closes the traffic. -/
theorem serveNext_paused (state : Session × Option BrowserId) :
    (wire start).Triple () (Holds start Paused) (serveNext sha256 config state)
      (Sum.elim (fun _ => Holds start Paused) fun _ => Holds start IsFramed) := by
  apply triple_bind _ (readRequest_looked _)
  rintro (err | _ | request)
  · show Triple _ _ _ (ite _ _ _) _
    by_cases idle : err.kind = .timedOut
    · simp only [Looked, idle, if_true]
      apply triple_bind _ notice_framed
      exact fun _ => triple_done (stable_alone _) fun _ => id
    · simp only [Looked, idle, if_false]
      exact triple_done (stable_alone _) fun _ holds => holds.mono fun _ => Paused.framed
  · exact triple_done (stable_alone _) fun _ holds => holds.mono fun _ => Paused.framed
  · apply triple_bind (fun _ => Holds start Serving)
    · exact silent_holds (touch_silent _) fun _ => Serving.framed
    · intro session
      cases request with
      | post url body => exact refusePost_paused session _
      | get url ifNoneMatch => exact serveGet_paused session _

/-- Nothing has passed. -/
def Untouched (items : List Traffic) : Prop := items = []

/-- Traffic that has not begun is framed. -/
theorem Untouched.framed {items : List Traffic} (untouched : Untouched items) : IsFramed items :=
  Between.framed ⟨[], untouched⟩

/-- The traffic of a session is framed. -/
theorem serve_framed (session : Session) :
    (wire start).Triple () (Holds start Untouched) (serve sha256 config session).run
      fun _ => Holds start IsFramed := by
  apply triple_attempt (fun _ => Holds start Untouched) (fun _ => stable_alone _)
  · apply triple_lift (fun _ => stable_alone _)
    exact silent_holds (logEntry_silent _) fun _ => Untouched.framed
  · intro _
    apply triple_attempt (fun _ => Holds start Untouched) (fun _ => stable_alone _)
    · apply triple_lift (fun _ => stable_alone _)
      exact silent_holds (only_ask _ trivial) fun _ => Untouched.framed
    · intro created
      cases created.result with
      | error err =>
        apply triple_attempt (fun _ => Holds start Untouched) (fun _ => stable_alone _)
        · apply triple_lift (fun _ => stable_alone _)
          exact silent_holds (only_ask _ trivial) fun _ => Untouched.framed
        · intro compressed
          apply writeBytes_holds (fun _ => IsFramed) _ fun _ _ => id
          rintro _ written rfl _
          exact ⟨_, .unserved _ written⟩
      | ok browser =>
        have rounds : (wire start).Triple () (Holds start Paused)
            (Program.loop (serveNext sha256 config) (session, some browser))
            fun _ => Holds start IsFramed :=
          triple_loop (fun _ => Holds start Paused) (fun _ => stable_alone _)
            (fun _ => stable_alone _) serveNext_paused _
        exact rounds.consequence
          (fun _ holds => holds.mono fun _ untouched => Or.inl ⟨[], untouched⟩) fun _ _ => id

/-- In every run that ends after a failed write, what was sent since the operator agreed
is one whole frame for each request, in their order, and at most one broken frame or the
notice of the time-out; nothing is written behind a frame that failed.

The session goes through its rounds, and each of them adds one frame or fails in its last write;
nothing is written behind that. -/
theorem responses_framed (session : Session) {now : Moment} {left : Routine (Except IoError Unit)}
    (leads : Leads exec Yields (serve sha256 config session).run start now left) :
    Sound start now := by
  have untouched : Holds start Untouched start := ⟨[], rfl, [], rfl, rfl, by simp⟩
  obtain ⟨items, nothing, passes⟩ := untouched
  exact (alone leads ((Untouched.framed nothing).sound passes)
    (serve_framed session start ⟨items, nothing, passes⟩)).1

/-- Where the output is sound, nothing followed a failed write. -/
theorem Sound.failed_last {events : List SessionEvent} {now : Moment} (sound : Sound start now)
    (history : now.history = events.reverse ++ start.history) :
    (traffic events).dropLast.any Traffic.fails = false := by
  obtain ⟨found, bytes, same, framed, _⟩ := sound
  obtain rfl : found = events :=
    List.reverse_injective (List.append_cancel_right (same.symm.trans history))
  apply List.any_eq_false.mpr
  intro item member
  rw [framed.failed_last item member]
  exact Bool.false_ne_true

section Samples

/-- The handshake of an operator who agrees. -/
def handshakeEvents : List (Sigma Answer) :=
  [⟨.write (Utf8.encode callsignPrompt), allSent (Utf8.encode callsignPrompt)⟩, ⟨.now, (0 : Nat)⟩,
    ⟨.readLine 300000, .ok (some "N0CALL\n".toList)⟩, ⟨.now, (0 : Nat)⟩,
    ⟨.write (Utf8.encode termsPrompt), allSent (Utf8.encode termsPrompt)⟩,
    ⟨.readLine 300000, .ok (some "AGREE\n".toList)⟩, ⟨.now, (0 : Nat)⟩]

/-- An operator who has accepted the terms. -/
def agreedSession : Session := ⟨"N0CALL".toList, true, 0⟩

/-- A rejection whose message is compressed to one byte. -/
def rejectionFrame : Bytes := Response.encode ⟨.err, ['-'], -1, [7]⟩

/-- A GET of a URL that is rejected, and how the write of the response ends. -/
def rejectedEvents (url : Text) (written : Written) : List (Sigma Answer) :=
  [⟨.readRequest 600000, .ok (some (.get url none))⟩, ⟨.now, (0 : Nat)⟩,
    ⟨.validateUrl url, ⟨.error .invalidUrl, 0⟩⟩,
    ⟨.log ⟨"N0CALL".toList, url, .error, some (UrlError.display .invalidUrl)⟩, ⟨.ok (), 0⟩⟩,
    ⟨.compress (Utf8.encode (UrlError.display .invalidUrl)) 11, ⟨some [7], 0⟩⟩,
    ⟨.write rejectionFrame, ⟨written, 0⟩⟩, ⟨.now, (0 : Nat)⟩]

/-- The consent is logged and a browser starts. -/
def startEvents : List (Sigma Answer) :=
  [⟨.log (agreedEntry "N0CALL".toList), ⟨.ok (), 0⟩⟩, ⟨.newBrowser "N0CALL".toList, ⟨.ok 0, 0⟩⟩]

/-- A write that times out after three bytes. -/
def brokenWrite : Written := ⟨.error ⟨.other, []⟩, 3⟩

/-- The handshake of a session that reads this, and what it serves then. -/
def sampleSession (lines : String) (events : List (Sigma Answer)) : Bool :=
  ((authenticate .onlyAscii sampleConfig).run.follow exec 2
    (Moment.opening ⟨ascii lines, [⟨0, .closed⟩], 0⟩) handshakeEvents).any fun agreed =>
      agreed.2.value? == some (.ok (some agreedSession)) &&
        ((serve id sampleConfig agreedSession).run.follow exec 2 agreed.1 events).isSome

/-- The session has passed the handshake, and this is how it goes on. -/
structure SampleRun (lines : String) (events : List (Sigma Answer)) where
  start : Moment
  now : Moment
  waiting : Routine (Except IoError (Option Session))
  left : Routine (Except IoError Unit)
  agreed : Leads exec (fun _ _ => True) (authenticate .onlyAscii sampleConfig).run
    (Moment.opening ⟨ascii lines, [⟨0, .closed⟩], 0⟩) start waiting
  ends : waiting.Ends (.ok (some agreedSession))
  serves : Leads exec (fun _ _ => True) (serve id sampleConfig agreedSession).run start now left
  before : start.history = (handshakeEvents.map eventOf).reverse
  behind : now.history = (events.map eventOf).reverse ++ start.history

/-- Events that pass the check are a run. -/
theorem sampleSession_runs {lines : String} {events : List (Sigma Answer)}
    (passes : sampleSession lines events = true) : Nonempty (SampleRun lines events) := by
  obtain ⟨⟨start, waiting⟩, followed, checked⟩ := (Option.any_eq_true _ _).mp passes
  obtain ⟨agreed, served⟩ := Bool.and_eq_true_iff.mp checked
  obtain ⟨⟨now, left⟩, serving⟩ := Option.isSome_iff_exists.mp served
  obtain ⟨leads, history⟩ := follow_leads 2 handshakeEvents (fun _ _ => trivial) followed
  obtain ⟨leads', history'⟩ := follow_leads 2 events (fun _ _ => trivial) serving
  have finished : waiting.Ends (.ok (some agreedSession)) :=
    ends_of_expose 0 waiting _ (by
      have value := beq_iff_eq.mp agreed
      cases waiting <;> exact value)
  rw [Moment.opening, List.append_nil] at history
  exact ⟨⟨start, now, waiting, left, leads, finished, leads', history, history'⟩⟩

/-- The response to the first GET breaks off, and the second one is answered behind it. -/
theorem responses_misframed : ∃ (start now : Moment)
    (waiting : Routine (Except IoError (Option Session))) (left : Routine (Except IoError Unit)),
    Leads exec (fun _ _ => True) (authenticate .onlyAscii sampleConfig).run
      (Moment.opening ⟨ascii "N0CALL\nAGREE\nGET a\nGET b\n", [⟨0, .closed⟩], 0⟩) start waiting ∧
      waiting.Ends (.ok (some agreedSession)) ∧
      Leads exec (fun _ _ => True) (serve id sampleConfig agreedSession).run start now left ∧
      ¬ Sound start now := by
  obtain ⟨run⟩ : Nonempty (SampleRun "N0CALL\nAGREE\nGET a\nGET b\n" (startEvents ++
      rejectedEvents ['a'] brokenWrite ++
      rejectedEvents ['b'] ⟨.ok (), rejectionFrame.length⟩)) :=
    sampleSession_runs (by decide +kernel)
  refine ⟨run.start, run.now, run.waiting, run.left, run.agreed, run.ends, run.serves, ?_⟩
  intro sound
  have whole := sound.failed_last run.behind
  exact absurd whole (by decide)

/-- The response breaks off, and so does the input. -/
theorem responses_framed_sample : ∃ (start now : Moment) (left : Routine (Except IoError Unit)),
    Leads exec Yields (serve id sampleConfig agreedSession).run start now left ∧
      (traffic now.history).any Traffic.fails = true ∧ Sound start now := by
  obtain ⟨run⟩ : Nonempty (SampleRun "N0CALL\nAGREE\nGET a\n" (startEvents ++
      rejectedEvents ['a'] brokenWrite ++ [⟨.readRequest 600000, .ok none⟩])) :=
    sampleSession_runs (by decide +kernel)
  have every : Throughout EndsAfterFailure run.now.history := by
    rw [run.behind, run.before]
    decide
  have leads : Leads exec Yields (serve id sampleConfig agreedSession).run
      run.start run.now run.left :=
    (run.serves.throughout every).mono fun _ _ met => met.2
  refine ⟨run.start, run.now, run.left, leads, ?_, responses_framed agreedSession leads⟩
  rw [run.behind, run.before]
  decide

end Samples

end Serving

end PacketBrowser.Server
