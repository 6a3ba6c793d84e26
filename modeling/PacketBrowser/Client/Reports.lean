import PacketBrowser.Client.Reception
import PacketBrowser.Client.Roles

/-!
# What a background task reports of its session

A request whose session died is answered with an error that says so. The cause of such
a report is an event of the same task: what it heard last, in the last attempt of the
request. `deaths_seen` states this of every run, so an argument about reports need not
follow the code that reads a response again.
-/

namespace PacketBrowser.Client

open Protocol Foundation Program Setting

/-- The session died. -/
def AgwpeError.died : AgwpeError → Bool
  | .sessionDied _ => true
  | _ => false

/-- The result of a request whose session died. -/
def reportsDeath : Reply → Bool
  | .error err => err.died
  | .ok _ => false

/-- A handshake succeeded. -/
def Op.succeeds : Op → Bool
  | .setConnectionState .connected => true
  | _ => false

/-- The events of one task. -/
def own (task : Task) (history : List ClientEvent) : List ClientEvent :=
  history.filter fun event => event.thread = task

/-- The request being sent is not followed by another attempt: it was queued without a
reconnect, or the reconnect has succeeded. -/
def lastAttempt : List ClientEvent → Bool
  | [] => false
  | event :: earlier =>
    match event.op, event.answer with
    | .setConnectionState .connected, _ => true
    | .nextCommand _, some (_, .sendRequest _) => true
    | .nextCommand _, _ => false
    | _, _ => lastAttempt earlier

/-- The bytes received since the latest request was written. -/
def received : List ClientEvent → Bytes
  | [] => []
  | event :: earlier =>
    match event.op, event.answer with
    | .send _ .request _, _ => []
    | .recv _ _, .ok (.data bytes) => received earlier ++ bytes
    | _, _ => received earlier

/-- A chunk has just been received, and is not examined yet. -/
def unexamined : List ClientEvent → Bool
  | [] => false
  | event :: _ =>
    match event.op, event.answer with
    | .recv _ _, .ok (.data _) => true
    | _, _ => false

/-- What is heard in this state ends the session: nothing arrives in time, the link is
lost, or the bytes received so far are tear-down text. -/
def Reception.endsWith (reception : Reception) : Except TransportError TransportEvent → Bool
  | .error .timeout => true
  | .ok (.disconnected _) => true
  | .ok (.data bytes) =>
    match reception.accept bytes with
    | .error err => err.died
    | .ok _ => false
  | .error _ => false

/-- The bytes received so far cannot belong to a response. -/
def hopeless (data : Bytes) : Bool :=
  match judge data with
  | .inr result => reportsDeath result
  | .inl _ => false

/-- The session dies with this event. Bytes that are hopeless count once the operator is
seen not to have disconnected. -/
def fatal (earlier : List ClientEvent) (event : ClientEvent) : Bool :=
  match event.op, event.answer with
  | .recv _ _, heard => (Reception.after (received earlier)).endsWith heard
  | .loadAbort _, false => unexamined earlier && hopeless (received earlier)
  | _, _ => false

/-- The manager reports a dead session. -/
def reportedDead (m : ManagerId) (event : ClientEvent) : Bool :=
  event.thread = .actor m &&
    match event.op with
    | .reply _ result => reportsDeath result
    | _ => false

/-- The session died in the last attempt of a request with the latest event of this task. -/
def struck : List ClientEvent → Bool
  | [] => false
  | event :: earlier => lastAttempt earlier && fatal earlier event

/-- A reported death has its cause right before the report. -/
def DeathSeen (m : ManagerId) (event : ClientEvent) (earlier : List ClientEvent) : Prop :=
  reportedDead m event = true → struck (own (.actor m) earlier) = true

section Proof

variable {m : ManagerId}

/-- The events of a task are not touched by another one. -/
theorem own_foreign {task : Task} {event : ClientEvent} (foreign : event.thread ≠ task)
    (earlier : List ClientEvent) : own task (event :: earlier) = own task earlier := by
  simp [own, foreign]

/-- An event of the task is its own. -/
@[simp] theorem own_self (task : Task) (op : Op) (answer : Answer op) (earlier : List ClientEvent) :
    own task (⟨task, op, answer⟩ :: earlier) = ⟨task, op, answer⟩ :: own task earlier := by
  simp [own]

/-- A task with events of its own is the thread of one of them. -/
theorem own_thread {task : Task} {history : List ClientEvent} (acted : own task history ≠ []) :
    ∃ event ∈ history, event.thread = task := by
  obtain ⟨event, member⟩ := List.exists_mem_of_ne_nil _ acted
  obtain ⟨inside, same⟩ := List.mem_filter.mp member
  exact ⟨event, inside, of_decide_eq_true same⟩


variable (m) in
/-- All runs, with what is to hold of the reports of one manager. -/
def reportSetting : Setting World Task Answer where
  exec := exec
  meets _ event := event.thread.allowed event.op
  inv now := Throughout (DeathSeen m) now.history

/-- A step keeps the invariant if it is no report of a death, or one whose cause was
just seen. -/
theorem reports_kept {before after : Moment} {event : ClientEvent}
    (moves : (reportSetting m).Moves before event after)
    (seen : reportedDead m event = true → struck (own (.actor m) before.history) = true) :
    (reportSetting m).inv after := by
  simp only [reportSetting, moves.occurs.2]
  exact ⟨seen, moves.inv⟩

/-- What is read off the events of the background task alone is stable. -/
theorem own_stable {S : Setting World Task Answer} (property : List ClientEvent → Prop) :
    S.Stable (.actor m) fun now => property (own (.actor m) now.history) := by
  rintro before after holds ⟨event, foreign, moves, _⟩
  rw [moves.occurs.2, own_foreign foreign]
  exact holds

section Attempts

/-! A request from its first attempt to its last, and what is known of its death. -/

/-- Whether the attempt going on is the last one. -/
def Attempting (m : ManagerId) (final : Bool) (now : Moment) : Prop :=
  lastAttempt (own (.actor m) now.history) = final

/-- Other tasks do not change which attempt is going on. -/
theorem attempting_stable (final : Bool) :
    (reportSetting m).Stable (.actor m) (Attempting m final) :=
  own_stable fun history => lastAttempt history = final

/-- What neither takes a command, sends a reply nor ends a handshake. -/
def Op.attemptless (op : Op) : Prop :=
  op.succeeds = false ∧ (∀ manager, op ≠ .nextCommand manager) ∧ ∀ ticket result, op ≠ .reply ticket result

/-- Such an operation leaves the attempt what it is. -/
theorem lastAttempt_cons {op : Op} (other : op.attemptless) (answer : Answer op)
    (earlier : List ClientEvent) :
    lastAttempt (⟨.actor m, op, answer⟩ :: earlier) = lastAttempt earlier := by
  obtain ⟨succeeds, takes, _⟩ := other
  cases op with
  | setConnectionState state =>
    cases state <;> first | rfl | exact absurd succeeds (by simp [Op.succeeds])
  | nextCommand manager => exact absurd rfl (takes manager)
  | _ => rfl

/-- Such an operation keeps the invariant, and the attempt goes on. -/
theorem attempting_step {final : Bool} {op : Op} {answer : Answer op} {now later : Moment}
    (other : op.attemptless) (holds : Attempting m final now)
    (moves : (reportSetting m).Moves now ⟨.actor m, op, answer⟩ later) :
    (reportSetting m).inv later ∧ Attempting m final later := by
  refine ⟨reports_kept moves fun reported => ?_, ?_⟩
  · cases op with
    | reply ticket result => exact absurd rfl (other.2.2 ticket result)
    | _ => exact absurd reported (by simp [reportedDead])
  · rw [Attempting, moves.occurs.2, own_self, lastAttempt_cons other]
    exact holds

/-- What is known of a result: if a session died in a last attempt, its cause was just seen. -/
def Reported (m : ManagerId) (final : Bool) (result : Reply) (now : Moment) : Prop :=
  Attempting m final now ∧
    (reportsDeath result = true → final = true → struck (own (.actor m) now.history) = true)

/-- No other task puts itself between a cause and its report. -/
theorem reported_stable (final : Bool) (result : Reply) :
    (reportSetting m).Stable (.actor m) (Reported m final result) :=
  (attempting_stable final).and (own_stable fun history => struck history = true).imp.imp

/-- A result that reports no death. -/
theorem reported_alive {final : Bool} {result : Reply} (alive : reportsDeath result = false)
    (now : Moment) (holds : Attempting m final now) : Reported m final result now :=
  ⟨holds, fun died => absurd died (by simp [alive])⟩

/-- A fatal event of the last attempt is the cause a report of it refers to. -/
theorem fatal_struck {op : Op} {answer : Answer op} {now later : Moment}
    (holds : Attempting m true now) (moves : (reportSetting m).Moves now ⟨.actor m, op, answer⟩ later)
    (dies : fatal (own (.actor m) now.history) ⟨.actor m, op, answer⟩ = true) :
    struck (own (.actor m) later.history) = true := by
  rw [moves.occurs.2, own_self]
  exact Bool.and_eq_true_iff.mpr ⟨holds, dies⟩

/-- The reading state is that of the bytes received. -/
def Listening (m : ManagerId) (final : Bool) (reception : Reception) (now : Moment) : Prop :=
  Attempting m final now ∧ reception = .after (received (own (.actor m) now.history))

/-- Other tasks receive nothing for this manager. -/
theorem listening_stable (final : Bool) (reception : Reception) :
    (reportSetting m).Stable (.actor m) (Listening m final reception) :=
  (attempting_stable final).and (own_stable fun history => reception = .after (received history))

/-- What was just heard in this reading state. -/
structure Heard (m : ManagerId) (final : Bool) (reception : Reception)
    (heard : Except TransportError TransportEvent) (now : Moment) : Prop where
  attempting : Attempting m final now
  dies : reception.endsWith heard = true → final = true → struck (own (.actor m) now.history) = true
  chunk : ∀ bytes, heard = .ok (.data bytes) → unexamined (own (.actor m) now.history) = true ∧
    reception = .after reception.responseData ∧
    received (own (.actor m) now.history) = reception.responseData ++ bytes

/-- Other tasks hear nothing for this manager. -/
theorem heard_stable (final : Bool) (reception : Reception)
    (heard : Except TransportError TransportEvent) :
    (reportSetting m).Stable (.actor m) (Heard m final reception heard) := by
  rintro before after ⟨attempting, dies, chunk⟩ ⟨event, foreign, moves, _⟩
  have same : own (.actor m) after.history = own (.actor m) before.history := by
    rw [moves.occurs.2, own_foreign foreign]
  constructor
  · rw [Attempting, same]
    exact attempting
  · rw [same]
    exact dies
  · rw [same]
    exact chunk

/-- Hearing something in a reading state. -/
theorem recv_heard (final : Bool) (timeoutSecs : Nat) (reception : Reception) :
    (reportSetting m).Triple (.actor m) (Listening m final reception)
      (ask (.recv m timeoutSecs)) (Heard m final reception) := by
  apply triple_ask (listening_stable final reception) (heard_stable final reception)
  rintro now heard later ⟨attempting, rfl⟩ moves
  have other : (Op.recv m timeoutSecs).attemptless := ⟨rfl, by simp, by simp⟩
  obtain ⟨kept, still⟩ := attempting_step other attempting moves
  refine ⟨kept, still, ?_, ?_⟩
  · rintro dies rfl
    exact fatal_struck attempting moves dies
  · rintro bytes rfl
    rw [moves.occurs.2, own_self]
    simp [unexamined, received]

/-- The check between a chunk and its examination: if the operator has not disconnected,
hopeless bytes end the session here. -/
theorem isAborted_heard (final : Bool) (data : Bytes) :
    (reportSetting m).Triple (.actor m)
      (fun now => Attempting m final now ∧ unexamined (own (.actor m) now.history) = true ∧
        received (own (.actor m) now.history) = data)
      (isAborted m)
      fun aborted now => Attempting m final now ∧ received (own (.actor m) now.history) = data ∧
        (aborted = false → hopeless data = true → final = true →
          struck (own (.actor m) now.history) = true) := by
  refine triple_ask (own_stable fun history => lastAttempt history = final ∧
    unexamined history = true ∧ received history = data) (fun aborted => ?_) ?_
  · exact (attempting_stable final).and ((own_stable fun history => received history = data).and
      (own_stable fun history => struck history = true).imp.imp.imp)
  · rintro now aborted later ⟨attempting, waiting, rfl⟩ moves
    have other : (Op.loadAbort m).attemptless := ⟨rfl, by simp, by simp⟩
    obtain ⟨inv, still⟩ := attempting_step other attempting moves
    refine ⟨inv, still, ?_, ?_⟩
    · rw [moves.occurs.2, own_self]
      rfl
    · rintro rfl dies rfl
      exact fatal_struck attempting moves (by simp [fatal, waiting, dies])

/-- One round of the reading loop goes on reading, or ends with a result whose death was
just seen. The cases are those of what is heard. -/
theorem receiveEvent_reported (final : Bool) (timeoutSecs : Nat) (reception : Reception) :
    (reportSetting m).Triple (.actor m) (Listening m final reception)
      (receiveEvent m timeoutSecs reception) (Sum.elim (Listening m final) (Reported m final)) := by
  apply triple_bind _ (recv_heard final timeoutSecs reception)
  intro heard
  have ended : ∀ {result : Reply}, (reportsDeath result = true → reception.endsWith heard = true) →
      (reportSetting m).Triple (.actor m) (Heard m final reception heard) (.done (.inr result))
        (Sum.elim (Listening m final) (Reported m final)) := fun {result} dies =>
    triple_done (reported_stable final result) fun _ known =>
      ⟨known.attempting, fun died => known.dies (dies died)⟩
  rcases heard with err | bytes | reason
  · cases err with
    | timeout => exact ended fun _ => rfl
    | _ => exact ended fun died => absurd died (by simp [reportsDeath, transportErrToAgwpe, AgwpeError.died])
  · cases accepted : reception.accept bytes with
    | error err =>
      simp only [accepted]
      exact ended fun died => by simpa [Reception.endsWith, accepted, reportsDeath] using died
    | ok grown =>
      simp only [accepted]
      intro now known
      obtain ⟨waiting, same, bytesSoFar⟩ := known.chunk bytes rfl
      have examined : grown.examine = judge (reception.responseData ++ bytes) := by
        rw [← step_after, ← same, Reception.step, accepted]
      refine triple_bind _ (isAborted_heard final (reception.responseData ++ bytes))
        (fun aborted => ?_) now ⟨known.attempting, waiting, bytesSoFar⟩
      cases aborted with
      | true =>
        exact triple_done (reported_stable final _) fun now known => reported_alive rfl now known.1
      | false =>
        simp only [Bool.false_eq_true, if_false, examined]
        cases judged : judge (reception.responseData ++ bytes) with
        | inl next =>
          apply triple_done (listening_stable final next)
          rintro now ⟨attempting, data, _⟩
          exact ⟨attempting, by rw [data]; exact judge_inl _ _ judged⟩
        | inr result =>
          apply triple_done (reported_stable final result)
          rintro now ⟨attempting, _, seen⟩
          exact ⟨attempting, fun died => seen trivial (by simp only [hopeless, judged, died])⟩
  · exact ended fun _ => rfl

/-- Reading a response ends in a result whose death, if the attempt is the last, was just
seen. -/
theorem receiveResponse_reported (final : Bool) (timeoutSecs : Nat) :
    (reportSetting m).Triple (.actor m)
      (fun now => Attempting m final now ∧ received (own (.actor m) now.history) = [])
      (receiveResponse m timeoutSecs).run (Reported m final) := by
  apply (triple_loop _ (listening_stable final) (reported_stable final)
    (receiveEvent_reported final timeoutSecs) Reception.empty).consequence
  · rintro now ⟨attempting, nothing⟩
    exact ⟨attempting, by rw [nothing]; rfl⟩
  · exact fun _ _ => id

/-- What is known of a part of an attempt: it goes on, or no death is reported. -/
def Unharmed {α : Type} (holds : α → Moment → Prop) (m : ManagerId) (final : Bool) :
    Except AgwpeError α → Moment → Prop :=
  outcome holds fun err now => err.died = false ∧ Attempting m final now

/-- A disconnected operator is no death. -/
theorem bailIfAborted_unharmed (final : Bool) :
    (reportSetting m).Triple (.actor m) (Attempting m final) (bailIfAborted m).run
      (Unharmed (fun _ => Attempting m final) m final) := by
  apply triple_ask_return (attempting_stable final)
  · exact stable_outcome (fun _ => attempting_stable final) fun _ =>
      (stable_const _).and (attempting_stable final)
  · intro now aborted later attempting moves
    obtain ⟨kept, still⟩ := attempting_step ⟨rfl, by simp, by simp⟩ attempting moves
    refine ⟨kept, ?_⟩
    cases aborted with
    | true => exact ⟨rfl, still⟩
    | false => exact still

/-- An error of the transport reports no death. -/
theorem transportErr_alive (err : TransportError) : (transportErrToAgwpe err).died = false := by
  cases err <;> rfl

/-- A write that fails is no death, and after one that succeeds nothing is received yet. -/
theorem sendRequest_unharmed (final : Bool) (data : Bytes) :
    (reportSetting m).Triple (.actor m) (Attempting m final) (sendBytes m .request data).run
      (Unharmed (fun _ now => Attempting m final now ∧ received (own (.actor m) now.history) = [])
        m final) := by
  apply triple_ask_return (attempting_stable final)
  · apply stable_outcome
    · exact fun _ => (attempting_stable final).and (own_stable fun history => received history = [])
    · exact fun _ => (stable_const _).and (attempting_stable final)
  · intro now answer later attempting moves
    obtain ⟨kept, still⟩ := attempting_step ⟨rfl, by simp, by simp⟩ attempting moves
    refine ⟨kept, ?_⟩
    cases answer with
    | error err => exact ⟨transportErr_alive err, still⟩
    | ok value =>
      refine ⟨still, ?_⟩
      rw [moves.occurs.2, own_self]
      rfl

/-- A failed part of an attempt reports no death. -/
theorem unharmed_attempt {α : Type} {final : Bool} {pre : Moment → Prop} {first : Attempt α}
    {after : α → Attempt Bytes} {holds : α → Moment → Prop}
    (one : (reportSetting m).Triple (.actor m) pre first.run (Unharmed holds m final))
    (two : ∀ value, (reportSetting m).Triple (.actor m) (holds value) (after value).run
      (Reported m final)) :
    (reportSetting m).Triple (.actor m) pre (first >>= after).run (Reported m final) := by
  apply triple_attempt holds (fun _ => reported_stable final _) _ two
  apply one.consequence (fun _ => id)
  intro result now known
  cases result with
  | ok value => exact known
  | error err => exact ⟨known.2, fun died => absurd died (by simp [reportsDeath, known.1])⟩

/-- One attempt ends in a result whose death, if the attempt is the last, was just seen. -/
theorem handleSendRequest_reported (final : Bool) (timeoutSecs : Nat) (data : Bytes) :
    (reportSetting m).Triple (.actor m) (Attempting m final)
      (handleSendRequest m timeoutSecs data).run (Reported m final) := by
  apply unharmed_attempt (bailIfAborted_unharmed final)
  intro _
  apply unharmed_attempt (sendRequest_unharmed final data)
  exact fun _ => receiveResponse_reported final timeoutSecs

end Attempts

section Commands

variable {α : Type}

/-- Everything but a reply keeps the invariant. -/
theorem replyless_kept {op : Op} {answer : Answer op} {now later : Moment}
    (other : ∀ ticket result, op ≠ .reply ticket result)
    (moves : (reportSetting m).Moves now ⟨.actor m, op, answer⟩ later) : (reportSetting m).inv later := by
  apply reports_kept moves
  intro reported
  cases op with
  | reply ticket result => exact absurd rfl (other ticket result)
  | _ => exact absurd reported (by simp [reportedDead])

/-- Serving a command keeps the invariant up to the reply. -/
theorem serves_replyless {purposes : Purpose → Prop} (op : Op) (serving : serves m purposes op)
    (now : Moment) (answer : Answer op) (later : Moment) (_ : True)
    (moves : (reportSetting m).Moves now ⟨.actor m, op, answer⟩ later) :
    (reportSetting m).inv later ∧ True := by
  refine ⟨replyless_kept ?_ moves, trivial⟩
  rintro ticket result rfl
  exact serving

/-- A write of the state is no reply. -/
theorem setState_replyless (state : ConnectionState) :
    (reportSetting m).Triple (.actor m) (fun _ => True) (setState state) fun _ _ => True := by
  have only : (setState state).Only (serves m fun _ => True) := setState_serves m state
  exact triple_only (stable_const _) only serves_replyless

/-- A part of a command whose failures report no death. -/
def Spared : Except AgwpeError α → Moment → Prop :=
  outcome (fun _ _ => True) fun err _ => err.died = false

/-- It does not depend on the moment. -/
theorem spared_stable (result : Except AgwpeError α) :
    (reportSetting m).Stable (.actor m) (Spared result) :=
  stable_outcome (fun _ => stable_const _) (fun _ => stable_const _) result

/-- A value decided by one answer is spared if its errors are. -/
theorem spared_answer (op : Op) (value : Answer op → Except AgwpeError α)
    (replyless : ∀ ticket result, op ≠ .reply ticket result)
    (alive : ∀ answer err, value answer = .error err → err.died = false) :
    (reportSetting m).Triple (.actor m) (fun _ => True)
      (ask op >>= fun answer => pure (value answer)) Spared := by
  apply triple_ask_return (stable_const _) spared_stable
  intro now answer later _ moves
  refine ⟨replyless_kept replyless moves, ?_⟩
  cases given : value answer with
  | ok value => trivial
  | error err => exact alive answer err given

/-- An error translated from one of the transport is no death. -/
theorem mapErr_alive {answer : Except TransportError α} {err : AgwpeError}
    (failed : mapErr answer = .error err) : err.died = false := by
  cases answer with
  | ok value => exact absurd failed (by simp [mapErr])
  | error error => exact Except.error.inj failed ▸ transportErr_alive error

/-- No transport call reports a death. -/
theorem callModem_spared (request : ModemCall) :
    (reportSetting m).Triple (.actor m) (fun _ => True) (callModem m request).run Spared :=
  spared_answer (.modem m request) (fun answer => mapErr answer.result) (by simp) fun _ _ => mapErr_alive

/-- No write reports a death. -/
theorem sendBytes_spared (purpose : Purpose) (data : Bytes) :
    (reportSetting m).Triple (.actor m) (fun _ => True) (sendBytes m purpose data).run Spared :=
  spared_answer (.send m purpose data) mapErr (by simp) fun _ _ => mapErr_alive

/-- The check of the abort flag reports no death. -/
theorem bailIfAborted_spared :
    (reportSetting m).Triple (.actor m) (fun _ => True) (bailIfAborted m).run Spared := by
  apply spared_answer (.loadAbort m) _ (by simp)
  intro aborted err failed
  cases aborted with
  | true => exact Except.error.inj failed ▸ rfl
  | false => exact absurd failed (by simp)

/-- What cannot fail reports no death. -/
theorem spared_lift {program : Routine α} (only : program.Only (serves m fun _ => True)) :
    (reportSetting m).Triple (.actor m) (fun _ => True) (ExceptT.lift program : Attempt α).run
      Spared :=
  triple_lift (fun _ => stable_const _) (triple_only (stable_const _) only serves_replyless)

/-- A question that cannot fail reports no death. -/
theorem spared_ask (op : Op) (serving : serves m (fun _ => True) op) :
    (reportSetting m).Triple (.actor m) (fun _ => True)
      (ExceptT.lift (ask op) : Attempt (Answer op)).run Spared := spared_lift (only_ask _ serving)

/-- Parts that report no death one after the other. -/
theorem spared_attempt {β : Type} {first : Attempt α} {after : α → Attempt β}
    (one : (reportSetting m).Triple (.actor m) (fun _ => True) first.run Spared)
    (two : ∀ value, (reportSetting m).Triple (.actor m) (fun _ => True) (after value).run Spared) :
    (reportSetting m).Triple (.actor m) (fun _ => True) (first >>= after).run Spared :=
  triple_attempt (fun _ _ => True) (fun _ => spared_stable _) one two

/-- Handshake text that ends, or is too long, reports no death. -/
theorem collectText_alive (found : Text → Bool) (received : Text) (event : TransportEvent)
    {err : AgwpeError} (failed : collectText found received event = .inr (.error err)) :
    err.died = false := by
  cases event with
  | data bytes =>
    simp only [collectText] at failed
    split at failed
    · exact Except.error.inj (Sum.inr.inj failed) ▸ rfl
    · split at failed <;> exact absurd failed (by simp)
  | disconnected reason => exact Except.error.inj (Sum.inr.inj failed) ▸ rfl

/-- Waiting for handshake text reports no death. -/
theorem awaitText_spared (found : Text → Bool) :
    (reportSetting m).Triple (.actor m) (fun _ => True) (awaitText m found).run Spared := by
  rw [awaitText_run]
  apply triple_loop (fun _ _ => True) (fun _ => stable_const _) spared_stable
  intro received
  have final : ∀ result : Text ⊕ Except AgwpeError Text, (reportSetting m).Stable (.actor m)
      (Sum.elim (fun _ _ => True) Spared result) := by
    rintro (text | result)
    · exact stable_const _
    · exact spared_stable result
  apply triple_ask_return (stable_const _) final
  intro now answer later _ moves
  refine ⟨replyless_kept (by simp) moves, ?_⟩
  cases answer with
  | error err => exact transportErr_alive err
  | ok event =>
    show Sum.elim (fun _ _ => True) Spared (collectText found received event) later
    cases collected : collectText found received event with
    | inl text => trivial
    | inr result =>
      cases result with
      | ok text => trivial
      | error err => exact collectText_alive found received event collected

/-- The application command reports no death. -/
theorem bpqSendAppCommand_spared :
    (reportSetting m).Triple (.actor m) (fun _ => True) (bpqSendAppCommand m).run Spared :=
  spared_attempt (spared_ask .readConfig trivial) fun _ => sendBytes_spared _ _

/-- Neither does entering the application again. -/
theorem reenterApplication_spared (skipBpqApp : Bool) :
    (reportSetting m).Triple (.actor m) (fun _ => True) (reenterApplication m skipBpqApp).run
      Spared := by
  cases skipBpqApp with
  | true => exact triple_done (spared_stable _) fun _ _ => trivial
  | false => exact spared_attempt bpqSendAppCommand_spared fun _ => bailIfAborted_spared

/-- The way of a reconnect up to the disclaimer reports no death. -/
theorem receiveAgain_spared (reason localCallsign : Text) :
    (reportSetting m).Triple (.actor m) (fun _ => True) (receiveAgain m reason localCallsign).run
      Spared := by
  apply spared_attempt (callModem_spared _)
  intro _
  apply spared_attempt (spared_lift (setState_serves m _))
  intro _
  apply spared_attempt bailIfAborted_spared
  intro _
  apply spared_attempt (callModem_spared _)
  intro _
  apply spared_attempt bailIfAborted_spared
  intro _
  apply spared_attempt (spared_ask .readConfig trivial)
  intro config
  apply spared_attempt (reenterApplication_spared _)
  intro _
  apply spared_attempt (spared_attempt (awaitText_spared _) fun _ => sendBytes_spared _ _)
  intro _
  apply spared_attempt bailIfAborted_spared
  intro _
  apply spared_attempt (awaitText_spared _)
  intro disclaimer
  apply spared_attempt bailIfAborted_spared
  exact fun _ => triple_done (spared_stable _) fun _ _ => trivial

/-- A disclaimer that is not the stored one is no death. -/
theorem requireAgreed_spared (disclaimer : Text) :
    (reportSetting m).Triple (.actor m) (fun _ => True) (requireAgreed disclaimer).run Spared := by
  apply spared_attempt (spared_ask .readLastAgreed trivial)
  intro stored
  unfold requireStored
  split
  · exact triple_done (spared_stable _) fun _ _ => trivial
  · apply spared_attempt (spared_lift (setState_serves m _))
    exact fun _ => triple_done (spared_stable _) fun _ _ => rfl

/-- A reconnect that succeeds makes the next attempt the last one; one that fails reports no
death of its own. -/
theorem reestablish_spared (reason localCallsign : Text) :
    (reportSetting m).Triple (.actor m) (fun _ => True) (reestablish m reason localCallsign).run
      (outcome (fun _ => Attempting m true) fun (err : AgwpeError) _ => err.died = false) := by
  have failed : ∀ err : AgwpeError, (reportSetting m).Stable (.actor m)
      (outcome (fun _ : Unit => Attempting m true) (fun (err : AgwpeError) _ => err.died = false)
        (.error err)) :=
    fun _ => stable_const _
  apply triple_attempt (fun _ _ => True) failed (receiveAgain_spared reason localCallsign)
  intro disclaimer
  apply triple_attempt (fun _ _ => True) failed (requireAgreed_spared disclaimer)
  intro _
  apply triple_attempt (fun _ _ => True) failed bailIfAborted_spared
  intro _
  apply triple_attempt (fun _ _ => True) failed (sendBytes_spared _ _)
  intro _
  apply triple_lift (fun _ => attempting_stable true)
  apply triple_ask (stable_const _) (fun _ => attempting_stable true)
  intro now answer later _ moves
  refine ⟨replyless_kept (by simp) moves, ?_⟩
  rw [Attempting, moves.occurs.2, own_self]
  rfl

/-- The same of the whole reconnect. -/
theorem handleReconnect_spared (reason localCallsign : Text) :
    (reportSetting m).Triple (.actor m) (fun _ => True) (handleReconnect m reason localCallsign).run
      (outcome (fun _ => Attempting m true) fun (err : AgwpeError) _ => err.died = false) := by
  have final : ∀ result, (reportSetting m).Stable (.actor m)
      (outcome (fun _ : Unit => Attempting m true) (fun (err : AgwpeError) _ => err.died = false)
        result) :=
    stable_outcome (fun _ => attempting_stable true) fun _ => stable_const _
  have shows : ∀ state, (reportSetting m).Triple (.actor m) (fun _ => True) (setState state)
      fun _ _ => True := setState_replyless
  apply triple_bind (fun _ _ => True) (shows _)
  intro _
  apply triple_bind _ (reestablish_spared reason localCallsign)
  intro result
  split
  · exact triple_done (final _) fun _ => id
  · exact triple_done (final _) fun _ => id
  · rename_i err _
    refine triple_bind (fun _ _ => err.died = false) ?_ fun _ => triple_done (final _) fun _ => id
    intro now alive
    exact (shows _ now trivial).mono fun _ _ _ => alive

/-- What is known of a reply: a death it reports was just seen. -/
def Mourned (m : ManagerId) (result : Reply) (now : Moment) : Prop :=
  reportsDeath result = true → struck (own (.actor m) now.history) = true

/-- No other task puts itself between a cause and its reply. -/
theorem mourned_stable (result : Reply) : (reportSetting m).Stable (.actor m) (Mourned m result) :=
  (own_stable fun history => struck history = true).imp

/-- Both attempts of a request with a reconnect: only the last one reports a death. -/
theorem handleSendRequestWithReconnect_mourned (timeoutSecs : Nat) (data localCallsign) :
    (reportSetting m).Triple (.actor m) (Attempting m false)
      (handleSendRequestWithReconnect m timeoutSecs data localCallsign).run (Mourned m) := by
  have mourns : ∀ {α : Type} {final : Bool} {holds : α → Moment → Prop} (result : Except AgwpeError α),
      ∀ now, Unharmed holds m final result now →
        outcome holds (fun err => Mourned m (.error err)) result now := by
    intro α final holds result now known
    cases result with
    | ok value => exact known
    | error err => exact fun died => absurd died (by simp [reportsDeath, known.1])
  apply triple_attempt (fun _ => Attempting m false) (fun _ => mourned_stable _)
    ((bailIfAborted_unharmed false).consequence (fun _ => id) mourns)
  intro _
  apply triple_bind _ (handleSendRequest_reported false timeoutSecs data)
  intro first
  unfold afterFirstTry
  split
  · exact triple_done (mourned_stable _) fun _ _ died => absurd died (by simp [reportsDeath])
  · apply triple_attempt (fun _ => Attempting m true) (fun _ => mourned_stable _)
    · apply (handleReconnect_spared _ localCallsign).consequence (fun _ _ => trivial)
      rintro (err | value) now known
      · exact fun died => absurd died (by simp [reportsDeath, show err.died = false from known])
      · exact known
    intro _
    apply triple_attempt (fun _ => Attempting m true) (fun _ => mourned_stable _)
      ((bailIfAborted_unharmed true).consequence (fun _ => id) mourns)
    intro _
    exact (handleSendRequest_reported true timeoutSecs data).consequence (fun _ => id)
      fun result now known died => known.2 died rfl
  · rename_i err alive
    apply triple_done (mourned_stable _)
    intro now _ died
    cases err with
    | sessionDied reason => exact absurd rfl (alive reason)
    | _ => exact absurd died (by simp [reportsDeath, AgwpeError.died])

/-- Opening a session reports no death: whatever ended a handshake, its failure is one of the
connection. -/
theorem handleOpenSession_spared (target : Text) (portNum : UInt8) (localCallsign : Text) :
    (reportSetting m).Triple (.actor m) (fun _ => True)
      (handleOpenSession m target portNum localCallsign).run Spared := by
  have config : (reportSetting m).Triple (.actor m) (fun _ => True)
      (ExceptT.lift readConfig : Attempt AppConfig).run Spared := spared_ask .readConfig trivial
  apply spared_attempt
  · apply triple_lift (fun _ => stable_const _)
    exact triple_ask (stable_const _) (fun _ => stable_const _) fun now answer later _ moves =>
      ⟨replyless_kept (by simp) moves, trivial⟩
  intro _
  apply spared_attempt
  · apply spared_attempt config
    intro first
    apply spared_attempt config
    intro second
    apply spared_attempt (callModem_spared _)
    intro _
    apply spared_attempt (spared_lift (setState_serves m _))
    exact fun _ => callModem_spared _
  · intro _
    apply triple_bind (fun _ _ => True)
      (triple_only (stable_const _) (performBpqHandshake_serves m localCallsign) serves_replyless)
    intro result
    cases result with
    | ok value => exact spared_lift (setState_serves m _)
    | error err =>
      exact triple_bind (fun _ _ => True) (setState_replyless _) fun _ =>
        triple_done (spared_stable _) fun _ _ => rfl

/-- Listing the ports reports no death. -/
theorem handleQueryPorts_spared :
    (reportSetting m).Triple (.actor m) (fun _ => True) (handleQueryPorts m).run Spared := by
  apply spared_attempt (spared_ask (.portQuerySupported m) rfl)
  intro supported
  cases supported with
  | true => exact callModem_spared _
  | false => exact triple_done (spared_stable _) fun _ => id

/-- Closing a session reports no death. -/
theorem handleCloseSession_spared :
    (reportSetting m).Triple (.actor m) (fun _ => True) (handleCloseSession m).run Spared := by
  apply spared_attempt (spared_ask (.storeAbort m true) ⟨rfl, rfl⟩)
  intro _
  apply spared_attempt (callModem_spared _)
  exact fun _ => spared_lift (setState_serves m _)

/-- What is known of a command just taken from the queue. -/
def Begun (m : ManagerId) : Option (TicketId × Command) → Moment → Prop
  | some (_, .sendRequest _), now => Attempting m true now
  | some (_, .sendRequestWithReconnect _), now => Attempting m false now
  | _, _ => True

/-- Other tasks do not change the command being served. -/
theorem begun_stable (next : Option (TicketId × Command)) :
    (reportSetting m).Stable (.actor m) (Begun m next) := by
  rcases next with _ | ⟨ticket, command⟩
  · exact stable_const _
  · cases command with
    | sendRequest data => exact attempting_stable true
    | sendRequestWithReconnect data => exact attempting_stable false
    | _ => exact stable_const _

/-- Only the two commands that send a request can report a death. -/
theorem runCommand_mourned (timeoutSecs : Nat) (localCallsign : Text) (ticket : TicketId)
    (command : Command) :
    (reportSetting m).Triple (.actor m) (Begun m (some (ticket, command)))
      (runCommand m timeoutSecs localCallsign command) fun result => Mourned m result.1 := by
  have spared : ∀ {program : Attempt Unit} {callsign : Except AgwpeError Unit → Text},
      (reportSetting m).Triple (.actor m) (fun _ => True) program.run Spared →
      (reportSetting m).Triple (.actor m) (fun _ => True)
        (program.run >>= fun result => pure (unitReply result, callsign result))
        fun result => Mourned m result.1 := by
    intro program callsign triple
    apply triple_bind _ triple
    intro result
    cases result with
    | ok value =>
      exact triple_done (mourned_stable _) fun _ _ died => absurd died (by simp [unitReply, reportsDeath])
    | error err =>
      refine triple_done (mourned_stable _) fun now (alive : err.died = false) died => ?_
      exact absurd died (by simp [unitReply, reportsDeath, alive])
  cases command with
  | connectModem config =>
    apply triple_bind (fun _ _ => True)
    · exact triple_ask (stable_const _) (fun _ => stable_const _) fun now answer later _ moves =>
        ⟨replyless_kept (by simp) moves, trivial⟩
    · exact fun _ => spared (callModem_spared _)
  | disconnectModem => exact spared (callModem_spared _)
  | queryPorts => exact spared handleQueryPorts_spared
  | openSession target portNum => exact spared (handleOpenSession_spared target portNum localCallsign)
  | closeSession => exact spared handleCloseSession_spared
  | sendRequest data =>
    apply triple_bind _ (handleSendRequest_reported true timeoutSecs data)
    exact fun result => triple_done (mourned_stable _) fun now known died => known.2 died rfl
  | sendRequestWithReconnect data =>
    apply triple_bind _ (handleSendRequestWithReconnect_mourned timeoutSecs data localCallsign)
    exact fun result => triple_done (mourned_stable _) fun now => id

/-- The background task reports no death whose cause it has not just seen. -/
theorem backgroundTask_mourned (configuredTimeout : Nat) :
    (reportSetting m).Triple (.actor m) (fun _ => True) (backgroundTask m configuredTimeout)
      fun _ _ => True := by
  apply backgroundTask_triple (Begun m) (fun _ => Mourned m) (stable_const _)
  · apply triple_ask (stable_const _) begun_stable
    intro now next later _ moves
    refine ⟨replyless_kept (by simp) moves, ?_⟩
    rcases next with _ | ⟨ticket, command⟩
    · trivial
    · cases command with
      | sendRequest data =>
        show lastAttempt (own (.actor m) later.history) = true
        rw [moves.occurs.2, own_self]
        rfl
      | sendRequestWithReconnect data =>
        show lastAttempt (own (.actor m) later.history) = false
        rw [moves.occurs.2, own_self]
        rfl
      | _ => trivial
  · exact runCommand_mourned
  · intro ticket result
    apply triple_ask (mourned_stable result) (fun _ => stable_const _)
    intro now answer later mourned moves
    refine ⟨reports_kept moves fun reported => mourned ?_, trivial⟩
    simpa [reportedDead] using reported

end Commands

/-- Only the manager's own background task reports its deaths. -/
theorem client_mourned (entries : Nat → Entry) (configuredTimeout : ManagerId → Nat) (task : Task)
    (now : Moment) :
    (reportSetting m).Safe task ((client entries configuredTimeout).threads task)
      (fun _ _ => True) now := by
  by_cases same : task = .actor m
  · subst same
    exact backgroundTask_mourned _ now trivial
  · refine safe_only (client_only entries configuredTimeout task)
      (fun op permitted now answer later moves => reports_kept moves fun reported => ?_) now
    simp [reportedDead, same] at reported

end Proof

/-- In every run, whenever a background task reports that the session died, the event it saw
last is what the session died of, in the last attempt of a request. -/
theorem deaths_seen (m : ManagerId) {entries : Nat → Entry} {configuredTimeout : ManagerId → Nat}
    {meets : Moment → ClientEvent → Prop} (pool : Pool World Task Answer)
    (reaches : Reaches exec meets (client entries configuredTimeout) pool) :
    Throughout (DeathSeen m) pool.now.history := by
  have anyway : Reaches exec (reportSetting m).meets (client entries configuredTimeout) pool :=
    (client_roles reaches).mono fun _ _ => And.right
  have kept : (reportSetting m).inv pool.now ∧ _ :=
    sound anyway trivial fun task => client_mourned entries configuredTimeout task _
  exact kept.1

end PacketBrowser.Client
