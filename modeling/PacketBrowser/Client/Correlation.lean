import PacketBrowser.Client.Reassembly
import PacketBrowser.Client.Requests

/-!
# Which answer a request gets

The peer answers the requests of a session in the order in which they were written,
after any delay, and the link delivers its bytes in order. `link` follows from the
history what has been written, what is unanswered, and which bytes are on their way.

A response does not name its request. The background task takes the first frame it
reads for the answer, so a request has to be written on a link that owes nothing: no
older request is unanswered, and no older frame is on its way. `onClearLink` is that
condition. Under it every result a command returns is the answer to its own request.
-/

namespace PacketBrowser.Client

open Protocol Foundation Program Setting

/-- A request and the response emitted for it. -/
structure Exchange where
  number : Nat
  request : Bytes
  response : Response

/-- A link between a manager and its peer. Requests are numbered as they are written.
The stream is everything the reader of the latest request has read or may still read;
there is none while a handshake may be going on. -/
structure Link where
  written : Nat
  unanswered : List (Nat × Bytes)
  exchanged : List Exchange
  stream : Option Bytes
  inflight : Bytes

/-- A link that has sent and heard nothing. -/
def Link.initial : Link := ⟨0, [], [], none, []⟩

/-- A call of the transport. -/
def Link.modem (link : Link) : LinkEffect → Link
  | .kept => { link with stream := none }
  | .drained count => { link with stream := none, inflight := link.inflight.drop count }
  | .replaced => { link with stream := none, unanswered := [], inflight := [] }

/-- A request is written. -/
def Link.request (link : Link) (data : Bytes) : Link :=
  { link with
    written := link.written + 1
    unanswered := link.unanswered ++ [(link.written, data)]
    stream := some link.inflight }

/-- The peer sends bytes. -/
def Link.send (link : Link) (bytes : Bytes) : Link :=
  { link with stream := link.stream.map (· ++ bytes), inflight := link.inflight ++ bytes }

/-- A response belongs to the oldest unanswered request. -/
def Link.answered (link : Link) (response : Response) : Link :=
  match link.unanswered with
  | [] => link
  | (number, request) :: later =>
    { link with
      unanswered := later
      exchanged := ⟨number, request, response⟩ :: link.exchanged }

/-- A move of the peer. A skipped request is never answered. -/
def Link.peer (link : Link) : PeerMove → Link
  | .answers response => (link.answered response).send response.encode
  | .interjects text => link.send text
  | .skips => { link with unanswered := link.unanswered.tail }

/-- What an event does to the link of a manager. -/
def Link.step (m : ManagerId) (link : Link) (event : ClientEvent) : Link :=
  match event.op, event.answer with
  | .modem manager _, answer => if manager = m then link.modem answer.link else link
  | .send manager .request data, _ => if manager = m then link.request data else link
  | .recv manager _, .ok (.data bytes) =>
    if manager = m then { link with inflight := link.inflight.drop bytes.length } else link
  | .peerMove manager, move => if manager = m then link.peer move else link
  | _, _ => link

/-- The link of a manager after what has happened. -/
def link (m : ManagerId) : List ClientEvent → Link
  | [] => .initial
  | event :: earlier => (link m earlier).step m event

/-- The transport and the peer keep to the protocol: bytes arrive in order, responses
are well formed and answer a request, and nothing else the peer sends while a request
is being read begins a frame. -/
def faithful (now : Moment) (event : ClientEvent) : Bool :=
  match event.op, event.answer with
  | .recv manager _, .ok (.data bytes) => bytes.isPrefixOf (link manager now.history).inflight
  | .peerMove manager, .answers response =>
    !(link manager now.history).unanswered.isEmpty && decide response.Valid
  | .peerMove manager, .interjects text =>
    (link manager now.history).stream.all fun stream =>
      Search.occurs Response.magic stream || !Search.occurs Response.magic (stream ++ text)
  | _, _ => true

/-- A request is written only when no earlier one is unanswered and no frame of an
earlier answer is on its way. -/
def onClearLink (now : Moment) (event : ClientEvent) : Bool :=
  match event.op with
  | .send manager .request _ =>
    (link manager now.history).unanswered.isEmpty &&
      !Search.occurs Response.magic (link manager now.history).inflight
  | _ => true

/-- The latest request written for the command being served. -/
def currentRequest (m : ManagerId) : List ClientEvent → Option Bytes
  | [] => none
  | event :: earlier =>
    match event.op with
    | .nextCommand manager => if manager = m then none else currentRequest m earlier
    | .send manager .request data => if manager = m then some data else currentRequest m earlier
    | _ => currentRequest m earlier

/-- The frame in the data is this response. -/
def Carries (data : Bytes) (response : Response) : Prop :=
  ∃ header base64Bytes, openResponse data = .ok (header, base64Bytes) ∧
    header.status = response.status ∧ header.etag = response.etag ∧
    header.maxAge = response.maxAge ∧ decodePayload base64Bytes = .ok response.payload

/-- The data carries the response emitted for the latest request, which is this one. -/
def Correlated (m : ManagerId) (request data : Bytes) (history : List ClientEvent) : Prop :=
  currentRequest m history = some request ∧ ∃ number response,
    (link m history).written = number + 1 ∧
    ⟨number, request, response⟩ ∈ (link m history).exchanged ∧ Carries data response

/-- A command that returns data returns what was emitted for its own request. -/
def ReplyCorrelated (m : ManagerId) (event : ClientEvent) (earlier : List ClientEvent) : Prop :=
  ∀ ticket data, event.thread = .actor m → event.op = .reply ticket (.ok data) →
    ∃ command, serving m earlier = some (ticket, command) ∧
      ∀ request, command.request = some request → Correlated m request data earlier

section Reading

variable {request : Bytes} {number : Nat} {received : Bytes} {link : Link}

/-- While the answer to a request is read: nothing older is to come, and what has been
read and what is on its way is noise, with the emitted frame behind it if there is one. -/
structure Reading (request : Bytes) (number : Nat) (received : Bytes) (link : Link) : Prop where
  latest : link.written = number + 1
  stream : link.stream = some (received ++ link.inflight)
  owed : (¬ Response.magic <:+: received ++ link.inflight ∧
      (link.unanswered = [] ∨ link.unanswered = [(number, request)])) ∨
    ∃ noise response tail, received ++ link.inflight = noise ++ response.encode ++ tail ∧
      ¬ Response.magic <:+: noise ∧ response.Valid ∧ ⟨number, request, response⟩ ∈ link.exchanged

/-- A request written on a clear link. -/
theorem reading_request (data : Bytes) (clear : link.unanswered = [])
    (quiet : ¬ Response.magic <:+: link.inflight) :
    Reading data link.written [] (link.request data) := by
  refine ⟨rfl, rfl, Or.inl ⟨quiet, Or.inr ?_⟩⟩
  simp [Link.request, clear]

/-- Bytes that arrive were on their way. -/
theorem reading_deliver (reading : Reading request number received link) (bytes : Bytes)
    (inOrder : bytes <+: link.inflight) :
    Reading request number (received ++ bytes)
      { link with inflight := link.inflight.drop bytes.length } := by
  obtain ⟨rest, split⟩ := inOrder
  have same : received ++ bytes ++ link.inflight.drop bytes.length = received ++ link.inflight := by
    rw [← split, List.drop_left, List.append_assoc]
  obtain ⟨latest, stream, owed⟩ := reading
  refine ⟨latest, ?_, ?_⟩
  · rw [same]
    exact stream
  · rw [same]
    exact owed

/-- Bytes from the peer that begin no frame. -/
theorem reading_send (reading : Reading request number received link) (text : Bytes)
    (noFrame : ¬ Response.magic <:+: received ++ link.inflight →
      ¬ Response.magic <:+: received ++ link.inflight ++ text) :
    Reading request number received (link.send text) := by
  obtain ⟨latest, stream, owed⟩ := reading
  refine ⟨latest, ?_, ?_⟩
  · simp [Link.send, stream]
  · simp only [Link.send, ← List.append_assoc]
    rcases owed with ⟨quiet, open'⟩ | ⟨noise, response, tail, split, quiet, valid, answered⟩
    · exact Or.inl ⟨noFrame quiet, open'⟩
    · refine Or.inr ⟨noise, response, tail ++ text, ?_, quiet, valid, answered⟩
      rw [split, List.append_assoc]

/-- The answer to the request, unless it has been answered already. -/
theorem reading_answers (reading : Reading request number received link) (response : Response)
    (valid : response.Valid) (open' : link.unanswered ≠ []) :
    Reading request number received (link.peer (.answers response)) := by
  obtain ⟨latest, stream, owed⟩ := reading
  cases waiting : link.unanswered with
  | nil => exact absurd waiting open'
  | cons first later =>
    obtain ⟨asked, question⟩ := first
    have grown : link.answered response =
        { link with
          unanswered := later
          exchanged := ⟨asked, question, response⟩ :: link.exchanged } := by
      simp [Link.answered, waiting]
    refine ⟨?_, ?_, Or.inr ?_⟩
    · simpa [Link.peer, Link.send, grown] using latest
    · simp [Link.peer, Link.send, grown, stream]
    · simp only [Link.peer, Link.send, grown, ← List.append_assoc]
      rcases owed with ⟨quiet, none | only⟩ | ⟨noise, sent, tail, split, quiet, sentValid, answered⟩
      · exact absurd none open'
      · rw [waiting] at only
        obtain ⟨rfl, rfl⟩ := Prod.mk.inj (List.cons.inj only).1
        exact ⟨received ++ link.inflight, response, [], by simp, quiet, valid, by simp⟩
      · refine ⟨noise, sent, tail ++ response.encode, ?_, quiet, sentValid, by simp [answered]⟩
        rw [split, List.append_assoc]

/-- No move of a faithful peer spoils what is being read. -/
theorem reading_peer (reading : Reading request number received link) (move : PeerMove)
    (answers : ∀ response, move = .answers response → link.unanswered ≠ [] ∧ response.Valid)
    (interjects : ∀ text stream, move = .interjects text → link.stream = some stream →
      ¬ Response.magic <:+: stream → ¬ Response.magic <:+: stream ++ text) :
    Reading request number received (link.peer move) := by
  cases move with
  | answers response =>
    obtain ⟨open', valid⟩ := answers response rfl
    exact reading_answers reading response valid open'
  | interjects text => exact reading_send reading text (interjects text _ rfl reading.stream)
  | skips =>
    obtain ⟨latest, stream, owed⟩ := reading
    refine ⟨latest, stream, owed.imp (fun ⟨quiet, open'⟩ => ⟨quiet, Or.inl ?_⟩) id⟩
    rcases open' with none | only
    · simp [Link.peer, none]
    · simp [Link.peer, only]

/-- A frame in complete data is the one emitted for the request. -/
theorem reading_carries (reading : Reading request number received link) (header : Header)
    (found : decodeHeader received = .ok (some header)) (whole : complete header received) :
    ∃ response, ⟨number, request, response⟩ ∈ link.exchanged ∧ Carries received response := by
  rcases reading.owed with ⟨quiet, _⟩ | ⟨noise, response, tail, split, quiet, valid, answered⟩
  · have absent : ¬ Response.magic <:+: received := fun inside =>
      quiet (inside.trans (List.prefix_append received link.inflight).isInfix)
    rw [decodeHeader_without_magic received absent] at found
    exact absurd found (by simp)
  · have inside : received <+: noise ++ response.encode ++ tail := ⟨link.inflight, split⟩
    have opened := frame_opened response valid noise quiet tail received header inside found whole
    exact ⟨response, answered, _, _, opened, rfl, rfl, rfl, decodePayload_encode _⟩

end Reading

section Proof

variable (m : ManagerId)

/-- Runs over faithful links on which requests are written when nothing is owed. -/
def correlationSetting : Setting World Task Answer where
  exec := exec
  meets now event :=
    (faithful now event = true ∧ onClearLink now event = true) ∧ event.thread.allowed event.op
  inv now := Throughout (ReplyCorrelated m) now.history

variable {m}

/-- A step whose reply belongs to its request keeps the correlation. -/
theorem correlation_kept {before after : Moment} {event : ClientEvent}
    (moves : (correlationSetting m).Moves before event after)
    (replied : ReplyCorrelated m event before.history) : (correlationSetting m).inv after := by
  have grown := moves.occurs.2
  simp only [correlationSetting, grown]
  exact ⟨replied, moves.inv⟩

/-- Only replies say anything. -/
theorem correlation_silent {before after : Moment} {event : ClientEvent}
    (moves : (correlationSetting m).Moves before event after)
    (other : ∀ ticket result, event.op ≠ .reply ticket result) : (correlationSetting m).inv after := by
  apply correlation_kept moves
  intro ticket data _ same
  exact absurd same (other ticket _)

/-- What serves a command sends no reply. -/
theorem starts_silent (op : Op) (starting : starts m (fun _ => True) op) (now : Moment)
    (answer : Answer op) (later : Moment) (_ : True)
    (moves : (correlationSetting m).Moves now ⟨.actor m, op, answer⟩ later) :
    (correlationSetting m).inv later ∧ True := by
  refine ⟨correlation_silent moves ?_, trivial⟩
  rintro ticket result rfl
  rcases starting with same | serving
  · exact absurd same (by simp)
  · exact serving.elim

/-- What a task does for a command, short of replying, keeps the correlation. -/
theorem serves_silent {purposes : Purpose → Prop} (op : Op) (serving : serves m purposes op)
    (now : Moment) (answer : Answer op) (later : Moment) (given : True)
    (moves : (correlationSetting m).Moves now ⟨.actor m, op, answer⟩ later) :
    (correlationSetting m).inv later ∧ True :=
  starts_silent op (Or.inr (serves_mono m (fun _ _ => trivial) op serving)) now answer later given
    moves

/-- Another task performs nothing that belongs to the manager. -/
theorem owner_foreign {event : ClientEvent} (foreign : event.thread ≠ .actor m)
    (permitted : event.thread.allowed event.op) (manager : ManagerId)
    (owned : event.op.owner = some manager) : manager ≠ m := by
  rintro rfl
  exact foreign (owner_performs owned permitted)

/-- Another task changes the link only as the peer. -/
theorem link_foreign {event : ClientEvent} (foreign : event.thread ≠ .actor m)
    (permitted : event.thread.allowed event.op) (earlier : List ClientEvent)
    (unmoved : event.op ≠ .peerMove m) : link m (event :: earlier) = link m earlier := by
  obtain ⟨thread, op, answer⟩ := event
  have different := owner_foreign foreign permitted
  cases op with
  | modem manager call => exact if_neg (different manager rfl)
  | send manager purpose data =>
    cases purpose with
    | request => exact if_neg (different manager rfl)
    | _ => rfl
  | recv manager timeoutSecs =>
    rcases answer with error | bytes | reason
    · rfl
    · exact if_neg (different manager rfl)
    · rfl
  | peerMove manager =>
    apply if_neg
    rintro rfl
    exact unmoved rfl
  | _ => rfl

/-- Another task does not change which request is served. -/
theorem currentRequest_foreign {event : ClientEvent} (foreign : event.thread ≠ .actor m)
    (permitted : event.thread.allowed event.op) (earlier : List ClientEvent) :
    currentRequest m (event :: earlier) = currentRequest m earlier := by
  obtain ⟨thread, op, answer⟩ := event
  have different := owner_foreign foreign permitted
  cases op with
  | nextCommand manager => exact if_neg (different manager rfl)
  | send manager purpose data =>
    cases purpose with
    | request => exact if_neg (different manager rfl)
    | _ => rfl
  | _ => rfl

/-- The peer writes no requests and takes back no answers. -/
theorem peer_grows (before : Link) (move : PeerMove) :
    (before.peer move).written = before.written ∧
      ∀ exchange ∈ before.exchanged, exchange ∈ (before.peer move).exchanged := by
  cases move with
  | answers response =>
    simp only [Link.peer, Link.send, Link.answered]
    split
    · exact ⟨rfl, fun _ => id⟩
    · exact ⟨rfl, fun _ member => List.mem_cons_of_mem _ member⟩
  | interjects text => exact ⟨rfl, fun _ => id⟩
  | skips => exact ⟨rfl, fun _ => id⟩

/-- Another task writes nothing to the link, and takes no exchange back. -/
theorem link_grows {event : ClientEvent} (foreign : event.thread ≠ .actor m)
    (permitted : event.thread.allowed event.op) (earlier : List ClientEvent) :
    (link m (event :: earlier)).written = (link m earlier).written ∧
      ∀ exchange ∈ (link m earlier).exchanged, exchange ∈ (link m (event :: earlier)).exchanged := by
  by_cases unmoved : event.op = .peerMove m
  · obtain ⟨thread, op, move⟩ := event
    obtain rfl : op = .peerMove m := unmoved
    have moved : link m (⟨thread, .peerMove m, move⟩ :: earlier) = (link m earlier).peer move :=
      if_pos rfl
    rw [moved]
    exact peer_grows _ move
  · rw [link_foreign foreign permitted earlier unmoved]
    exact ⟨rfl, fun _ => id⟩

/-- The answer to the request is being read. -/
def ReadingNow (m : ManagerId) (request received : Bytes) (now : Moment) : Prop :=
  currentRequest m now.history = some request ∧
    ∃ number, Reading request number received (link m now.history)

/-- Other tasks leave what has been read of the response. -/
theorem reading_stable (request received : Bytes) :
    (correlationSetting m).Stable (.actor m) (ReadingNow m request received) := by
  rintro before after ⟨current, number, reading⟩ ⟨event, foreign, moves, _⟩
  rw [ReadingNow, moves.occurs.2, currentRequest_foreign foreign moves.met.2]
  refine ⟨current, number, ?_⟩
  by_cases moved : event.op = .peerMove m
  · obtain ⟨thread, op, move⟩ := event
    obtain rfl : op = .peerMove m := moved
    have step : link m (⟨thread, .peerMove m, move⟩ :: before.history) =
        (link m before.history).peer move := if_pos rfl
    have fits := moves.met.1.1
    rw [step]
    apply reading_peer reading
    · rintro response rfl
      simp only [faithful, Bool.and_eq_true, Bool.not_eq_true', List.isEmpty_eq_false_iff,
        decide_eq_true_eq] at fits
      exact fits
    · rintro text stream rfl expected quiet
      simp only [faithful, expected, Option.all_some, Bool.or_eq_true, Bool.not_eq_true'] at fits
      rcases fits with frame | none
      · exact absurd ((Search.occurs_iff _ _).mp frame) quiet
      · exact (Search.occurs_false_iff _ _).mp none
  · rw [link_foreign foreign moves.met.2 _ moved]
    exact reading

/-- Other tasks leave what answers a request. -/
theorem correlated_stable (request data : Bytes) :
    (correlationSetting m).Stable (.actor m) fun now => Correlated m request data now.history := by
  rintro before after ⟨current, number, response, latest, answered, carries⟩ ⟨event, foreign, moves, _⟩
  obtain ⟨same, grows⟩ := link_grows foreign moves.met.2 before.history
  rw [moves.occurs.2]
  exact ⟨(currentRequest_foreign foreign moves.met.2 _).trans current, number, response,
    same.trans latest, grows _ answered, carries⟩

section Requests

variable (data : Bytes) (timeoutSecs : Nat)

/-- A request is written on a link that owes nothing. -/
theorem sendBytes_reading :
    (correlationSetting m).Triple (.actor m) (fun _ => True) (sendBytes m .request data).run
      (outcome (fun _ => ReadingNow m data []) fun _ _ => True) := by
  refine triple_ask_return (stable_const _)
    (stable_outcome (fun _ => reading_stable data []) fun _ => stable_const _) ?_
  intro now answer later _ moves
  refine ⟨correlation_silent moves (by simp), ?_⟩
  cases answer with
  | error error => trivial
  | ok value =>
    have clear := moves.met.1.2
    simp only [onClearLink, Bool.and_eq_true, List.isEmpty_iff, Bool.not_eq_true'] at clear
    have step : link m later.history = (link m now.history).request data := by
      rw [moves.occurs.2]
      exact if_pos rfl
    show ReadingNow m data [] later
    refine ⟨?_, (link m now.history).written, ?_⟩
    · rw [moves.occurs.2]
      exact if_pos rfl
    · rw [step]
      exact reading_request data clear.1 ((Search.occurs_false_iff _ _).mp clear.2)

/-- What the reading loop knows: the bytes read so far decided nothing. -/
def Receiving (m : ManagerId) (request : Bytes) (reception : Reception) (now : Moment) : Prop :=
  ∃ received, reception = .after received ∧ ReadingNow m request received now

/-- Other tasks leave the response as far as it has been received. -/
theorem receiving_stable (reception : Reception) :
    (correlationSetting m).Stable (.actor m) (Receiving m data reception) := by
  rintro before after ⟨received, same, reading⟩ elsewhere
  exact ⟨received, same, reading_stable data received _ _ reading elsewhere⟩

/-- A round ends with an answer to the request, or with more bytes read. -/
def roundEnds (m : ManagerId) (request : Bytes) : Reception ⊕ Reply → Moment → Prop :=
  Sum.elim (Receiving m request)
    (outcome (fun bytes now => Correlated m request bytes now.history) fun _ _ => True)

/-- Other tasks leave how a round has ended. -/
theorem roundEnds_stable (next : Reception ⊕ Reply) :
    (correlationSetting m).Stable (.actor m) (roundEnds m data next) := by
  rcases next with reception | result
  · exact receiving_stable data reception
  · exact stable_outcome (correlated_stable data) (fun _ => stable_const _) result

/-- A complete frame among the bytes read is the answer. -/
theorem examine_correlated (received bytes : Bytes) (grown : Reception) (now : Moment)
    (accepted : (Reception.after received).accept bytes = .ok grown)
    (reading : ReadingNow m data (received ++ bytes) now) : roundEnds m data grown.examine now := by
  have judged : grown.examine = judge (received ++ bytes) := by
    rw [← step_after, Reception.step, accepted]
  rw [judged]
  cases decided : judge (received ++ bytes) with
  | inl next => exact ⟨received ++ bytes, judge_inl _ _ decided, reading⟩
  | inr result =>
    cases result with
    | error error => trivial
    | ok out =>
      obtain ⟨rfl, header, found, whole⟩ := judge_ok _ _ decided
      obtain ⟨current, number, readingLink⟩ := reading
      obtain ⟨response, answered, carries⟩ := reading_carries readingLink header found whole
      exact ⟨current, number, response, readingLink.latest, answered, carries⟩

/-- Bytes of the link arrive. -/
theorem recv_reading (reception : Reception) :
    (correlationSetting m).Triple (.actor m) (Receiving m data reception) (ask (.recv m timeoutSecs))
      fun event now => ∀ bytes, event = .ok (.data bytes) →
        ∃ received, reception = .after received ∧ ReadingNow m data (received ++ bytes) now := by
  refine triple_ask (receiving_stable data reception) ?_ ?_
  · intro event before after holds elsewhere bytes same
    obtain ⟨received, known, reading⟩ := holds bytes same
    exact ⟨received, known, reading_stable data _ _ _ reading elsewhere⟩
  rintro now event later ⟨received, known, current, number, reading⟩ moves
  refine ⟨correlation_silent moves (by simp), ?_⟩
  rintro bytes rfl
  have inOrder := moves.met.1.1
  simp only [faithful, List.isPrefixOf_iff_prefix] at inOrder
  refine ⟨received, known, ?_⟩
  rw [ReadingNow, moves.occurs.2]
  refine ⟨current, number, ?_⟩
  have step : link m (⟨.actor m, .recv m timeoutSecs, .ok (.data bytes)⟩ :: now.history) =
      { link m now.history with inflight := (link m now.history).inflight.drop bytes.length } :=
    if_pos rfl
  rw [step]
  exact reading_deliver reading bytes inOrder

/-- One round of the reading loop. -/
theorem receiveEvent_correlated (reception : Reception) :
    (correlationSetting m).Triple (.actor m) (Receiving m data reception)
      (receiveEvent m timeoutSecs reception) (roundEnds m data) := by
  apply triple_bind _ (recv_reading data timeoutSecs reception)
  intro event
  have fails : ∀ error, (correlationSetting m).Triple (.actor m)
      (fun now => ∀ bytes, event = .ok (.data bytes) →
        ∃ received, reception = .after received ∧ ReadingNow m data (received ++ bytes) now)
      (.done (.inr (.error error))) (roundEnds m data) := fun error =>
    triple_done (roundEnds_stable data _) fun _ _ => trivial
  rcases event with error | bytes | reason
  · cases error <;> exact fails _
  · dsimp only
    split
    · exact fails _
    · rename_i grown accepted
      refine (triple_ask_return ?_ (roundEnds_stable data) ?_).consequence
        (fun now holds => holds bytes rfl) fun _ _ => id
      · rintro before after ⟨received, known, reading⟩ elsewhere
        exact ⟨received, known, reading_stable data _ _ _ reading elsewhere⟩
      rintro now aborted later ⟨received, rfl, reading⟩ moves
      refine ⟨correlation_silent moves (by simp), ?_⟩
      cases aborted with
      | true => trivial
      | false =>
        apply examine_correlated data received bytes grown later accepted
        rw [ReadingNow, moves.occurs.2]
        exact reading
  · exact fails _

/-- A request that succeeds returns what was received behind it. -/
theorem handleSendRequest_correlated :
    (correlationSetting m).Triple (.actor m) (fun _ => True)
      (handleSendRequest m timeoutSecs data).run
      (outcome (fun bytes now => Correlated m data bytes now.history) fun _ _ => True) := by
  have failed : ∀ error : AgwpeError, (correlationSetting m).Stable (.actor m)
      (outcome (fun bytes now => Correlated m data bytes now.history) (fun _ _ => True)
        (.error error)) := fun _ => stable_const _
  have bail : (bailIfAborted m).run.Only (serves m fun _ => True) := bailIfAborted_serves m
  apply triple_attempt_only (stable_const _) bail serves_silent failed (fun _ _ => id)
  intro _
  apply triple_attempt (fun _ => ReadingNow m data []) failed (sendBytes_reading data)
  intro _
  exact (triple_loop (Receiving m data) (receiving_stable data)
    (stable_outcome (correlated_stable data) fun _ => stable_const _)
    (receiveEvent_correlated data timeoutSecs) Reception.empty).consequence
    (fun now reading => ⟨[], rfl, reading⟩) fun _ _ => id

/-- The second attempt is read like the first. -/
theorem handleSendRequestWithReconnect_correlated (localCallsign : Text) :
    (correlationSetting m).Triple (.actor m) (fun _ => True)
      (handleSendRequestWithReconnect m timeoutSecs data localCallsign).run
      (outcome (fun bytes now => Correlated m data bytes now.history) fun _ _ => True) := by
  have final : ∀ result : Reply, (correlationSetting m).Stable (.actor m)
      (outcome (fun bytes now => Correlated m data bytes now.history) (fun _ _ => True) result) :=
    stable_outcome (correlated_stable data) fun _ => stable_const _
  have bail : (bailIfAborted m).run.Only (serves m fun _ => True) := bailIfAborted_serves m
  refine triple_attempt_only (stable_const _) bail serves_silent (fun _ => stable_const _)
    (fun _ _ => id) fun _ => ?_
  apply triple_bind _ (handleSendRequest_correlated data timeoutSecs)
  intro first
  unfold afterFirstTry
  split
  · exact triple_done (final _) fun _ => id
  · rename_i reason
    have reconnect : (correlationSetting m).Triple (.actor m) (fun _ => True)
        (reconnectAndRetry m timeoutSecs data reason localCallsign).run
        (outcome (fun bytes now => Correlated m data bytes now.history) fun _ _ => True) := by
      refine triple_attempt_only (stable_const _) (handleReconnect_serves m _ localCallsign)
        serves_silent (fun _ => stable_const _) (fun _ _ => id) fun _ => ?_
      refine triple_attempt_only (stable_const _) bail serves_silent (fun _ => stable_const _)
        (fun _ _ => id) fun _ => ?_
      exact handleSendRequest_correlated data timeoutSecs
    exact reconnect.consequence (fun _ _ => trivial) fun _ _ => id
  · exact triple_done (final _) fun _ _ => trivial

end Requests

/-- What a result of a command is known to be. -/
def Returned (m : ManagerId) (command : Command) (result : Reply) (now : Moment) : Prop :=
  ∀ request, command.request = some request → ∀ data, result = .ok data →
    Correlated m request data now.history

/-- Other tasks leave what a command has returned. -/
theorem returned_stable (command : Command) (result : Reply) :
    (correlationSetting m).Stable (.actor m) (Returned m command result) := by
  intro before after holds elsewhere request requested data same
  exact correlated_stable request data _ _ (holds request requested data same) elsewhere

/-- A command that is a request returns what the request does. -/
theorem returned_outcome {request : Bytes} {command : Command} (result : Reply) (now : Moment)
    (requested : command.request = some request)
    (holds : outcome (fun bytes now => Correlated m request bytes now.history) (fun _ _ => True)
      result now) : Returned m command result now := by
  rintro other same data rfl
  obtain rfl := Option.some.inj (same.symm.trans requested)
  exact holds

/-- A command returns what belongs to it. -/
theorem runCommand_correlated (timeoutSecs : Nat) (localCallsign : Text) (command : Command) :
    (correlationSetting m).Triple (.actor m) (fun _ => True)
      (runCommand m timeoutSecs localCallsign command)
      fun served => Returned m command served.1 := by
  cases requested : command.request with
  | none =>
    refine (triple_only (stable_const True) (runCommand_only m timeoutSecs localCallsign command)
      starts_silent).consequence (fun _ => id) fun served now _ request same => ?_
    exact absurd (same.symm.trans requested) (by simp)
  | some request =>
    cases command with
    | sendRequest data =>
      obtain rfl := Option.some.inj requested
      apply triple_bind _ (handleSendRequest_correlated data timeoutSecs)
      intro result
      exact triple_done (returned_stable _ _) fun now => returned_outcome result now rfl
    | sendRequestWithReconnect data =>
      obtain rfl := Option.some.inj requested
      refine triple_bind _ (handleSendRequestWithReconnect_correlated data timeoutSecs localCallsign)
        fun result => ?_
      exact triple_done (returned_stable _ _) fun now => returned_outcome result now rfl
    | _ => exact absurd requested (by simp [Command.request])

/-- While a command is served no other is taken. -/
theorem starts_serves (taken : TicketId × Command) (op : Op)
    (starting : starts m (fun _ => True) op) (now : Moment) (answer : Answer op) (later : Moment)
    (holds : Serves m taken now) (moves : (correlationSetting m).Moves now ⟨.actor m, op, answer⟩ later) :
    Serves m taken later := by
  rw [Serves, moves.occurs.2]
  rcases starting with rfl | serving
  · exact holds
  · cases op with
    | nextCommand => exact serving.elim
    | _ => exact holds

/-- The background task replies to each command with what belongs to it. -/
theorem backgroundTask_correlated (configuredTimeout : Nat) :
    (correlationSetting m).Triple (.actor m) (fun _ => True) (backgroundTask m configuredTimeout)
      fun _ _ => True := by
  have stable : ∀ taken, (correlationSetting m).Stable (.actor m) (Serves m taken) := by
    apply serves_stable
    exact fun _ _ met => met.2
  apply backgroundTask_triple (fun next now => ∀ taken, next = some taken → Serves m taken now)
    (fun ticket result now => ∃ command, Returned m command result now ∧ Serves m (ticket, command) now)
  · exact stable_const _
  · refine triple_ask (stable_const _) ?_ fun now answer later _ moves => ?_
    · intro next before after holds elsewhere taken same
      exact stable taken _ _ (holds taken same) elsewhere
    refine ⟨correlation_silent moves (by simp), ?_⟩
    rintro taken rfl
    rw [Serves, moves.occurs.2]
    exact if_pos rfl
  · intro timeoutSecs localCallsign ticket command
    refine (triple_frame (stable (ticket, command)) (starts_serves _)
      (runCommand_only m timeoutSecs localCallsign command)
      (runCommand_correlated timeoutSecs localCallsign command)).consequence
      (fun now holds => ⟨trivial, holds _ rfl⟩) fun _ _ both => ⟨command, both⟩
  · intro ticket result
    refine triple_ask ?_ (fun _ => stable_const _) fun now answer later holds moves => ⟨?_, trivial⟩
    · rintro before after ⟨command, returned, served⟩ elsewhere
      exact ⟨command, returned_stable _ _ _ _ returned elsewhere,
        stable _ _ _ served elsewhere⟩
    apply correlation_kept moves
    intro other data _ same
    obtain ⟨rfl, rfl⟩ := Op.reply.inj same
    obtain ⟨command, returned, served⟩ := holds
    exact ⟨command, served, fun request requested => returned request requested data rfl⟩

/-- Every task of the client keeps the correlation. -/
theorem client_correlated (entries : Nat → Entry) (configuredTimeout : ManagerId → Nat)
    (task : Task) (now : Moment) :
    (correlationSetting m).Safe task ((client entries configuredTimeout).threads task)
      (fun _ _ => True) now := by
  by_cases own : task = .actor m
  · subst own
    exact backgroundTask_correlated _ now trivial
  · apply safe_only (client_only entries configuredTimeout task)
    intro op permitted now answer later moves
    apply correlation_kept moves
    intro ticket data same
    exact absurd same own

end Proof

/-- Over faithful links, and with requests written only when nothing is owed, data is
returned to a command only if it carries the response emitted for its request. -/
theorem replies_correlated (m : ManagerId) (entries : Nat → Entry)
    (configuredTimeout : ManagerId → Nat) (pool : Pool World Task Answer)
    (reaches : Reaches exec (fun now event => faithful now event = true ∧ onClearLink now event = true)
      (client entries configuredTimeout) pool) :
    Throughout (ReplyCorrelated m) pool.now.history := by
  have kept : (correlationSetting m).inv pool.now ∧ _ := sound (client_roles reaches) trivial
    fun task => client_correlated entries configuredTimeout task _
  exact kept.1

end PacketBrowser.Client
