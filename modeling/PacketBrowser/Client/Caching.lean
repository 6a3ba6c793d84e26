import PacketBrowser.Client.Correlation

/-!
# What is stored in the cache

A web request waits for the result of its own command: its ticket is its own, and no
other task submits a command under it. So if every background task returns to a
command the answer to this command, a page is stored under the URL it was asked for.
-/

namespace PacketBrowser.Client

open Protocol Foundation Program Setting

/-- Data returned for a request carries a response emitted for these bytes. -/
def Answered (m : ManagerId) (request data : Bytes) (history : List ClientEvent) : Prop :=
  ∃ number response, ⟨number, request, response⟩ ∈ (link m history).exchanged ∧
    Carries data response

/-- A page is stored under a URL only if it was emitted in answer to a request of it. -/
def InsertCorrelated (event : ClientEvent) (earlier : List ClientEvent) : Prop :=
  ∀ url etag body maxAge, event.op = .cacheInsert url etag body maxAge →
    ∃ m cachedEtag number response,
      ⟨number, (Request.get url cachedEtag).encode, response⟩ ∈ (link m earlier).exchanged ∧
      response.status = .ok ∧ response.etag = etag ∧ response.maxAge = maxAge ∧
      response.payload = body

/-- A command and its ticket were submitted by this task. -/
def Submitted (task : Task) (m : ManagerId) (ticket : TicketId) (command : Command)
    (history : List ClientEvent) : Prop :=
  ∃ queued, task.does (.submit m ticket command) queued ∈ history

/-- The ticket was issued to this task. -/
def IssuedTo (task : Task) (ticket : TicketId) (history : List ClientEvent) : Prop :=
  task.does .newReply ticket ∈ history

/-- Every ticket belongs to one task, every command in a queue or being served was
submitted under its ticket, and data returned under a ticket answers its command. -/
structure ReturnsKept (now : Moment) : Prop where
  issued : ∀ task ticket, IssuedTo task ticket now.history → ticket < now.world.replyCount
  unique : ∀ one two ticket, IssuedTo one ticket now.history → IssuedTo two ticket now.history →
    one = two
  owned : ∀ task m ticket command, Submitted task m ticket command now.history →
    IssuedTo task ticket now.history
  queued : ∀ m ticket command, (ticket, command) ∈ now.world.queue m →
    ∃ task, Submitted task m ticket command now.history
  served : ∀ m ticket command, serving m now.history = some (ticket, command) →
    ∃ task, Submitted task m ticket command now.history
  returned : ∀ ticket data, now.world.replies ticket = some (.ok data) →
    ∃ task m command, Submitted task m ticket command now.history ∧
      ∀ request, command.request = some request → Answered m request data now.history
  inserted : Throughout InsertCorrelated now.history

/-- Runs in which background tasks return the answers of their commands. -/
def cachingSetting : Setting World Task Answer where
  exec := exec
  meets now event := (∀ m, ReplyCorrelated m event now.history) ∧ event.thread.allowed event.op
  inv := ReturnsKept

section Proof

/-- An exchange that has happened stays in the link's list. -/
theorem exchanged_grows (m : ManagerId) (event : ClientEvent) (earlier : List ClientEvent)
    (exchange : Exchange) (member : exchange ∈ (link m earlier).exchanged) :
    exchange ∈ (link m (event :: earlier)).exchanged := by
  obtain ⟨thread, op, answer⟩ := event
  cases op with
  | modem manager call =>
    simp only [link, Link.step]
    split
    · cases answer.link <;> exact member
    · exact member
  | send manager purpose data =>
    cases purpose with
    | request =>
      simp only [link, Link.step]
      split <;> exact member
    | _ => exact member
  | recv manager timeoutSecs =>
    rcases answer with error | bytes | reason
    · exact member
    · simp only [link, Link.step]
      split <;> exact member
    · exact member
  | peerMove manager =>
    simp only [link, Link.step]
    split
    · exact (peer_grows _ answer).2 exchange member
    · exact member
  | _ => exact member

/-- A request that was answered stays answered. -/
theorem answered_later {m : ManagerId} {request data : Bytes} {earlier : List ClientEvent}
    (event : ClientEvent) (before : Answered m request data earlier) :
    Answered m request data (event :: earlier) := by
  obtain ⟨number, response, answered, carries⟩ := before
  exact ⟨number, response, exchanged_grows m event earlier _ answered, carries⟩

/-- A command that was submitted stays submitted. -/
theorem submitted_later {task : Task} {m : ManagerId} {ticket : TicketId} {command : Command}
    {earlier : List ClientEvent} (event : ClientEvent)
    (before : Submitted task m ticket command earlier) :
    Submitted task m ticket command (event :: earlier) :=
  before.imp fun _ member => List.mem_cons_of_mem _ member

/-- A reply channel is issued by the latest event or was before. -/
theorem issuedTo_cons {task : Task} {ticket : TicketId} {event : ClientEvent}
    {earlier : List ClientEvent} : IssuedTo task ticket (event :: earlier) ↔
      event = task.does .newReply ticket ∨ IssuedTo task ticket earlier := by
  simp only [IssuedTo, List.mem_cons]
  rw [eq_comm]

/-- A command being served was in the queue. -/
theorem served_kept {before : Moment} {thread : Task} {op : Op} {answer : Answer op}
    (kept : ReturnsKept before) (given : before.world.gives op answer = true) (m : ManagerId)
    (ticket : TicketId) (command : Command)
    (served : serving m (⟨thread, op, answer⟩ :: before.history) = some (ticket, command)) :
    ∃ task, Submitted task m ticket command before.history := by
  cases op with
  | nextCommand manager =>
    cases answer with
    | none => exact kept.served m ticket command served
    | some taken =>
      simp only [serving] at served
      split at served
      · rename_i same
        subst same
        obtain rfl := Option.some.inj served
        simp only [World.gives, beq_iff_eq] at given
        exact kept.queued _ ticket command (List.mem_of_mem_head? given.symm)
      · exact kept.served m ticket command served
  | _ => exact kept.served m ticket command served

/-- Data returned answers the command of its ticket. -/
theorem returned_kept {before : Moment} {thread : Task} {op : Op} {answer : Answer op}
    (kept : ReturnsKept before) (permitted : thread.allowed op)
    (correlated : ∀ m, ReplyCorrelated m ⟨thread, op, answer⟩ before.history)
    (ticket : TicketId) (data : Bytes)
    (filled : (before.world.apply op answer).replies ticket = some (.ok data)) :
    ∃ task m command, Submitted task m ticket command before.history ∧
      ∀ request, command.request = some request → Answered m request data before.history := by
  by_cases replied : op = .reply ticket (.ok data)
  · subst replied
    cases thread with
    | actor m =>
      obtain ⟨command, served, answers⟩ := correlated m ticket data rfl rfl
      obtain ⟨task, submitted⟩ := kept.served m ticket command served
      refine ⟨task, m, command, submitted, ?_⟩
      intro request requested
      obtain ⟨_, number, response, _, answered, carries⟩ := answers request requested
      exact ⟨number, response, answered, carries⟩
    | handler index => exact permitted.elim
    | peer m => exact permitted.elim
  · exact kept.returned ticket data (apply_replies _ _ _ filled replied)

/-- A step keeps the books if a submission is made by the owner of its ticket and an
insertion stores what was emitted. -/
theorem returns_kept {before after : Moment} {event : ClientEvent}
    (moves : cachingSetting.Moves before event after)
    (submits : ∀ m ticket command, event.op = .submit m ticket command →
      IssuedTo event.thread ticket before.history)
    (inserts : InsertCorrelated event before.history) : ReturnsKept after := by
  obtain ⟨world, history⟩ := after
  obtain ⟨thread, op, answer⟩ := event
  obtain ⟨executed, grown⟩ := moves.occurs
  have kept : ReturnsKept before := moves.inv
  obtain ⟨given, same⟩ := exec_iff.mp executed
  obtain rfl := same
  obtain rfl : history = ⟨thread, op, answer⟩ :: before.history := grown
  have fresh : ∀ {task : Task} {ticket : TicketId},
      (⟨thread, op, answer⟩ : ClientEvent) = task.does .newReply ticket →
      ticket = before.world.replyCount := by
    rintro task ticket created
    cases created
    simpa [World.gives] using given
  constructor
  · intro task ticket issued
    rcases issuedTo_cons.mp issued with created | old
    · have next := fresh created
      cases created
      exact next ▸ Nat.lt_succ_self _
    · exact Nat.lt_of_lt_of_le (kept.issued task ticket old) (apply_replyCount _ _ _)
  · intro one two ticket first second
    rcases issuedTo_cons.mp first with created | old <;>
      rcases issuedTo_cons.mp second with created' | old'
    · exact congrArg Event.thread (created.symm.trans created')
    · exact absurd (fresh created) (Nat.ne_of_lt (kept.issued two ticket old'))
    · exact absurd (fresh created') (Nat.ne_of_lt (kept.issued one ticket old))
    · exact kept.unique one two ticket old old'
  · rintro task m ticket command ⟨queued, member⟩
    apply issuedTo_cons.mpr
    right
    rcases List.mem_cons.mp member with created | old
    · cases created
      exact submits m ticket command rfl
    · exact kept.owned task m ticket command ⟨queued, old⟩
  · intro m ticket command member
    by_cases added : (⟨op, answer⟩ : Sigma Answer) = ⟨.submit m ticket command, true⟩
    · cases added
      exact ⟨thread, true, List.mem_cons_self ..⟩
    · obtain ⟨task, submitted⟩ := kept.queued m ticket command (apply_queue _ _ _ m member added)
      exact ⟨task, submitted_later _ submitted⟩
  · intro m ticket command served
    obtain ⟨task, submitted⟩ := served_kept kept given m ticket command served
    exact ⟨task, submitted_later _ submitted⟩
  · intro ticket data filled
    obtain ⟨task, m, command, submitted, answers⟩ :=
      returned_kept kept moves.met.2 moves.met.1 ticket data filled
    exact ⟨task, m, command, submitted_later _ submitted, fun request requested =>
      answered_later _ (answers request requested)⟩
  · exact ⟨inserts, kept.inserted⟩

/-- Operations that neither submit a command nor store a page. -/
def Op.bookless (op : Op) : Prop :=
  (∀ m ticket command, op ≠ .submit m ticket command) ∧
    ∀ url etag body maxAge, op ≠ .cacheInsert url etag body maxAge

/-- A step that writes no book keeps what is returned. -/
theorem returns_bookless {before after : Moment} {event : ClientEvent}
    (moves : cachingSetting.Moves before event after) (bookless : event.op.bookless) :
    ReturnsKept after := by
  apply returns_kept moves
  · intro m ticket command same
    exact absurd same (bookless.1 m ticket command)
  · intro url etag body maxAge same
    exact absurd same (bookless.2 url etag body maxAge)

/-- A part that writes no book keeps the invariant. -/
theorem bookless_triple {thread : Task} {α : Type} {program : Routine α} {pre : Moment → Prop}
    (only : program.Only Op.bookless) :
    cachingSetting.Triple thread pre program fun _ _ => True := by
  apply (triple_only (stable_const True) only _).consequence
  · exact fun _ _ => trivial
  · exact fun _ _ => id
  · exact fun _ bookless _ _ _ _ moves => ⟨returns_bookless moves bookless, trivial⟩

section Calls

variable (thread : Task) (m : ManagerId) (command : Command)

/-- The ticket is this task's, and what it submitted under it is at most this. -/
def Holds (thread : Task) (ticket : TicketId) (submitted : Option (ManagerId × Command))
    (now : Moment) : Prop :=
  IssuedTo thread ticket now.history ∧ ∀ other m command,
    Submitted other m ticket command now.history → submitted = some (m, command)

/-- Nobody else submits under the ticket. -/
theorem holds_stable (ticket : TicketId) (submitted : Option (ManagerId × Command)) :
    cachingSetting.Stable thread (Holds thread ticket submitted) := by
  rintro before after ⟨issued, sole⟩ ⟨event, foreign, moves, inv⟩
  have kept : ReturnsKept after := inv
  have grown := moves.occurs.2
  have still : IssuedTo thread ticket after.history := by
    rw [grown]
    exact issuedTo_cons.mpr (Or.inr issued)
  refine ⟨still, ?_⟩
  rintro other m command ⟨queued, member⟩
  have owner := kept.unique _ _ ticket (kept.owned other m ticket command ⟨queued, member⟩) still
  rw [grown] at member
  rcases List.mem_cons.mp member with created | old
  · refine absurd ?_ foreign
    rw [← created]
    exact owner
  · exact sole other m command ⟨queued, old⟩

/-- Data a call returns answers its command. -/
def CallAnswered (m : ManagerId) (command : Command) (result : Reply) (now : Moment) : Prop :=
  ∀ request, command.request = some request → ∀ data, result = .ok data →
    Answered m request data now.history

/-- Other tasks change nothing about a call that was answered. -/
theorem callAnswered_stable (result : Reply) :
    cachingSetting.Stable thread (CallAnswered m command result) := by
  rintro before after holds ⟨event, _, moves, _⟩ request requested data same
  rw [moves.occurs.2]
  exact answered_later event (holds request requested data same)

/-- A new ticket has nothing submitted under it. -/
theorem newReply_holds :
    cachingSetting.Triple thread (fun _ => True) (ask .newReply)
      fun ticket => Holds thread ticket none := by
  refine triple_ask (stable_const _) (fun ticket => holds_stable thread ticket none) ?_
  intro now ticket later _ moves
  have kept : ReturnsKept now := moves.inv
  have given := (exec_iff.mp moves.occurs.1).1
  simp only [World.gives, beq_iff_eq] at given
  refine ⟨returns_bookless moves ⟨by simp, by simp⟩, ?_, ?_⟩
  · rw [moves.occurs.2]
    exact issuedTo_cons.mpr (Or.inl rfl)
  · rintro other m command ⟨queued, member⟩
    rw [moves.occurs.2] at member
    rcases List.mem_cons.mp member with created | old
    · cases created
    · have issued := kept.issued other ticket (kept.owned other m ticket command ⟨queued, old⟩)
      rw [given] at issued
      exact absurd issued (Nat.lt_irrefl _)

/-- The only submission under a ticket. -/
theorem submit_holds (ticket : TicketId) :
    cachingSetting.Triple thread (Holds thread ticket none) (ask (.submit m ticket command))
      fun _ => Holds thread ticket (some (m, command)) := by
  refine triple_ask (holds_stable thread ticket none) (fun _ => holds_stable thread ticket _) ?_
  rintro now queued later ⟨issued, sole⟩ moves
  refine ⟨returns_kept moves ?_ (by simp [InsertCorrelated]), ?_, ?_⟩
  · intro other sent offered same
    obtain ⟨_, rfl, _⟩ := Op.submit.inj same
    exact issued
  · rw [moves.occurs.2]
    exact issuedTo_cons.mpr (Or.inr issued)
  · rintro other manager sent ⟨accepted, member⟩
    rw [moves.occurs.2] at member
    rcases List.mem_cons.mp member with created | old
    · cases created
      rfl
    · exact absurd (sole other manager sent ⟨accepted, old⟩) (by simp)

/-- What is returned under the ticket answers the command submitted under it. -/
theorem awaitReply_answered (ticket : TicketId) :
    cachingSetting.Triple thread (Holds thread ticket (some (m, command)))
      (ask (.awaitReply m ticket))
      fun answered => CallAnswered m command (answered.getD (.error .taskStopped)) := by
  refine triple_ask (holds_stable thread ticket _)
    (fun _ => callAnswered_stable thread m command _) ?_
  rintro now answered later ⟨_, sole⟩ moves
  refine ⟨returns_bookless moves ⟨by simp, by simp⟩, ?_⟩
  intro request requested data same
  cases answered with
  | none => exact absurd same (by simp)
  | some result =>
    obtain rfl : result = .ok data := same
    have kept : ReturnsKept now := moves.inv
    have given := (exec_iff.mp moves.occurs.1).1
    simp only [World.gives, beq_iff_eq] at given
    obtain ⟨task, manager, sent, submitted, answers⟩ := kept.returned ticket data given
    obtain ⟨rfl, rfl⟩ := Prod.mk.inj (Option.some.inj (sole task manager sent submitted))
    rw [moves.occurs.2]
    exact answered_later _ (answers request requested)

/-- A call is answered by what the link brought for it. -/
theorem call_answered :
    cachingSetting.Triple thread (fun _ => True) (call m command) (CallAnswered m command) := by
  apply triple_bind _ (newReply_holds thread)
  intro ticket
  apply triple_bind _ (submit_holds thread m command ticket)
  intro queued
  have final := callAnswered_stable thread m command
  split
  · apply triple_bind _ (awaitReply_answered thread m command ticket)
    intro answered
    exact triple_done (final _) fun _ => id
  · apply triple_done (final _)
    intro now _ request _ data same
    exact absurd same (by simp)

/-- A call keeps the invariant. -/
theorem call_books :
    cachingSetting.Triple thread (fun _ => True) (call m command) fun _ _ => True :=
  (call_answered thread m command).consequence (fun _ => id) fun _ _ _ => trivial

end Calls

section Pages

variable (thread : Task) (m : ManagerId) (url : Text) (cacheForWrite : Bool)

/-- Other tasks change nothing about a request that was answered. -/
theorem answered_stable (request data : Bytes) :
    cachingSetting.Stable thread fun now => Answered m request data now.history := by
  rintro before after answered ⟨event, _, moves, _⟩
  rw [moves.occurs.2]
  exact answered_later event answered

/-- A page that was emitted for a request of the URL is stored under it. -/
theorem storePage_books (data base64Bytes compressed : Bytes) (header : Header)
    (cachedEtag : Option Text) (opened : openResponse data = .ok (header, base64Bytes))
    (accepted : header.status = .ok) (decoded : decodePayload base64Bytes = .ok compressed) :
    cachingSetting.Triple thread
      (fun now => Answered m (Request.get url cachedEtag).encode data now.history)
      (ask (.cacheInsert url header.etag compressed header.maxAge)) fun _ _ => True := by
  apply triple_ask (answered_stable thread m _ data) (fun _ => stable_const _)
  rintro now _ later ⟨number, response, answered, carried, text, opened', same⟩ moves
  refine ⟨returns_kept moves (by simp) ?_, trivial⟩
  obtain ⟨rfl, rfl⟩ := Prod.mk.inj (Except.ok.inj (opened'.symm.trans opened))
  obtain ⟨status, etag, maxAge, payload⟩ := same
  intro url etag' body maxAge' inserts
  obtain ⟨rfl, rfl, rfl, rfl⟩ := Op.cacheInsert.inj inserts
  exact ⟨m, cachedEtag, number, response, answered, status.symm.trans accepted, etag.symm,
    maxAge.symm, Except.ok.inj (payload.symm.trans decoded)⟩

/-- The page stored is the one the data carries. -/
theorem renderResponse_books (cachedEtag : Option Text) (request data : Bytes)
    (keyed : cacheForWrite = true → ∃ etag, request = (Request.get url etag).encode) :
    cachingSetting.Triple thread (fun now => Answered m request data now.history)
      (renderResponse url cacheForWrite cachedEtag data) fun _ _ => True := by
  unfold renderResponse
  split
  · exact bookless_triple trivial
  · rename_i header base64Bytes opened
    split
    · split
      · refine bookless_triple (only_bind _ (only_ask _ ⟨by simp, by simp⟩) fun _ =>
          only_bind _ (only_ask _ ⟨by simp, by simp⟩) fun hit => ?_)
        split <;> trivial
      · exact bookless_triple trivial
    · rename_i accepted
      split
      · exact bookless_triple trivial
      · rename_i compressed decoded
        refine triple_bind (fun _ _ => True) ?_ fun _ => bookless_triple trivial
        unfold storePage
        split
        · rename_i write
          obtain ⟨etag, rfl⟩ := keyed write
          exact storePage_books thread m url data base64Bytes compressed header etag opened
            accepted decoded
        · exact bookless_triple trivial
    · split <;> exact bookless_triple trivial

/-- A command carrying these bytes returns what was emitted for them. -/
theorem sendEncoded_answered (autoReconnect : Bool) (request : Bytes) :
    cachingSetting.Triple thread (fun _ => True) (sendEncoded autoReconnect m request)
      fun result now => ∀ data, result = .ok data → Answered m request data now.history := by
  have answers : ∀ command : Command, command.request = some request →
      cachingSetting.Triple thread (fun _ => True) (call m command)
        fun result now => ∀ data, result = .ok data → Answered m request data now.history :=
    fun command requested => (call_answered thread m command).consequence (fun _ => id)
      fun _ _ returned => returned request requested
  unfold sendEncoded
  split
  · exact answers (.sendRequestWithReconnect request) rfl
  · exact answers (.sendRequest request) rfl

/-- A request over the air stores under its own URL what it was answered. -/
theorem dispatchAx25_books (autoReconnect : Bool) (request : Request)
    (keyed : cacheForWrite = true → ∃ etag, request = .get url etag) :
    cachingSetting.Triple thread (fun _ => True)
      (dispatchAx25 url autoReconnect request cacheForWrite) fun _ _ => True := by
  refine triple_bind (fun _ _ => True) (bookless_triple (only_ask _ ⟨by simp, by simp⟩))
    fun manager => ?_
  refine triple_bind _ (sendEncoded_answered thread manager autoReconnect request.encode)
    fun result => ?_
  cases result with
  | ok data =>
    refine (renderResponse_books thread manager url cacheForWrite _ request.encode data
      fun write => ?_).consequence (fun now answered => answered data rfl) fun _ _ => id
    obtain ⟨etag, rfl⟩ := keyed write
    exact ⟨etag, rfl⟩
  | error err => cases err <;> exact bookless_triple trivial

/-- A page that is browsed is stored as it was answered. -/
theorem browseGet_books (autoReconnect hasCache nocache : Bool)
    (browserIfNoneMatch : Option Text) :
    cachingSetting.Triple thread (fun _ => True)
      (browseGet url autoReconnect hasCache nocache browserIfNoneMatch) fun _ _ => True := by
  refine triple_bind (fun _ _ => True) (bookless_triple ?_) fun fresh => ?_
  · unfold serveFresh
    split
    · apply only_bind _ (only_ask _ ⟨by simp, by simp⟩)
      intro hit
      split
      · split
        · exact only_bind _ (only_ask _ ⟨by simp, by simp⟩) fun _ => trivial
        · trivial
      · trivial
    · trivial
  · split
    · exact bookless_triple trivial
    · refine triple_bind (fun _ _ => True) (bookless_triple ?_) fun cachedEtag =>
        dispatchAx25_books thread url hasCache autoReconnect _ fun _ => ⟨cachedEtag, rfl⟩
      unfold lookupEtag
      split
      · exact only_bind _ (only_ask _ ⟨by simp, by simp⟩) fun _ => trivial
      · trivial

/-- Browsing keeps the invariant. -/
theorem handleBrowse_books (autoReconnect hasCache : Bool) (postBody : Option Bytes)
    (nocache : Bool) (browserIfNoneMatch : Option Text) :
    cachingSetting.Triple thread (fun _ => True)
      (handleBrowse url autoReconnect hasCache postBody nocache browserIfNoneMatch)
      fun _ _ => True := by
  refine triple_bind (fun _ _ => True) (bookless_triple (only_ask _ ⟨by simp, by simp⟩))
    fun state => ?_
  split
  · exact bookless_triple trivial
  · split
    · exact dispatchAx25_books thread url false autoReconnect _ fun write => absurd write (by simp)
    · exact browseGet_books thread url autoReconnect hasCache nocache browserIfNoneMatch

end Pages

/-- Connecting keeps the books of its calls. -/
theorem apiConnectHandler_books (thread : Task) (request : ConnectRequest) :
    cachingSetting.Triple thread (fun _ => True) (apiConnectHandler request) fun _ _ => True := by
  have done : ∀ {α : Type} {value : α},
      cachingSetting.Triple thread (fun _ => True) (.done value) fun _ _ => True :=
    triple_done (stable_const _) fun _ => id
  have asked : ∀ {op : Op}, op.bookless →
      cachingSetting.Triple thread (fun _ => True) (ask op) fun _ _ => True :=
    fun bookless => bookless_triple (only_ask _ bookless)
  have through : ∀ m, cachingSetting.Triple thread (fun _ => True) (openThrough request m)
      fun _ _ => True := by
    intro m
    apply triple_bind (fun _ _ => True) (call_books thread m _)
    intro result
    cases result with
    | ok value => exact triple_bind (fun _ _ => True) (asked ⟨by simp, by simp⟩) fun _ => done
    | error err => exact done
  have vara : ∀ kind, cachingSetting.Triple thread (fun _ => True) (connectVara request kind)
      fun _ _ => True := by
    intro kind
    apply triple_bind (fun _ _ => True) (asked ⟨by simp, by simp⟩)
    intro localCallsign
    apply triple_bind (fun _ _ => True) (asked ⟨by simp, by simp⟩)
    intro m
    apply triple_bind (fun _ _ => True) (call_books thread m _)
    intro connected
    cases connected with
    | ok value => exact triple_bind (fun _ _ => True) (asked ⟨by simp, by simp⟩) fun _ => through m
    | error err => exact done
  unfold apiConnectHandler
  split
  · apply triple_bind (fun _ _ => True)
    · unfold resolveTransport
      split
      · exact done
      · exact triple_bind (fun _ _ => True) (asked ⟨by simp, by simp⟩) fun _ => done
    · intro resolved
      cases resolved with
      | error message => exact done
      | ok kind =>
        cases kind with
        | ax25 => exact triple_bind (fun _ _ => True) (asked ⟨by simp, by simp⟩) through
        | varaFm => exact vara _
        | varaHf => exact vara _
  · exact done

/-- Every request keeps the invariant. -/
theorem entry_books (thread : Task) (entry : Entry) :
    cachingSetting.Triple thread (fun _ => True) entry.routine fun _ _ => True := by
  have quiet : ∀ {α : Type} {routine : Routine α},
      cachingSetting.Triple thread (fun _ => True) routine (fun _ _ => True) →
      cachingSetting.Triple thread (fun _ => True) (discard routine) fun _ _ => True :=
    fun books => triple_bind (fun _ _ => True) books fun _ => triple_done (stable_const _) fun _ => id
  have flagged : ∀ m command, cachingSetting.Triple thread (fun _ => True)
      (ask (.storeAbort m true) >>= fun _ => call m command) fun _ _ => True := fun m command =>
    triple_bind (fun _ _ => True) (bookless_triple (only_ask _ ⟨by simp, by simp⟩)) fun _ =>
      call_books thread m command
  cases entry with
  | connectModem m config => exact quiet (call_books thread m _)
  | disconnectModem m => exact quiet (flagged m _)
  | queryPorts m => exact quiet (call_books thread m _)
  | openSession m target portNum => exact quiet (call_books thread m _)
  | closeSession m => exact quiet (flagged m _)
  | sendRequest m data => exact quiet (call_books thread m _)
  | sendRequestWithReconnect m data => exact quiet (call_books thread m _)
  | consentGet => exact quiet (bookless_triple (only_ask _ ⟨by simp, by simp⟩))
  | consentPost decision =>
    refine quiet (bookless_triple (only_bind _ (only_ask _ ⟨by simp, by simp⟩) fun sender => ?_))
    split
    · refine only_bind _ ?_ fun _ => only_bind _ (only_ask _ ⟨by simp, by simp⟩) fun _ => trivial
      unfold recordIfAccepted
      split
      · apply only_bind _ (only_ask _ ⟨by simp, by simp⟩)
        intro awaited
        split
        · exact only_ask _ ⟨by simp, by simp⟩
        · trivial
      · trivial
    · trivial
  | connect request => exact quiet (apiConnectHandler_books thread request)
  | disconnect =>
    refine quiet (triple_bind (fun _ _ => True)
      (bookless_triple (only_ask _ ⟨by simp, by simp⟩)) fun m => ?_)
    apply triple_bind (fun _ _ => True) (flagged m _)
    intro result
    split
    · exact bookless_triple (only_bind _ (only_ask _ ⟨by simp, by simp⟩) fun _ => trivial)
    · exact bookless_triple trivial
  | browse url autoReconnect hasCache postBody nocache browserIfNoneMatch =>
    exact quiet (handleBrowse_books thread url autoReconnect hasCache postBody nocache _)

/-- Background tasks and peers have no books to keep. -/
theorem client_books (entries : Nat → Entry) (configuredTimeout : ManagerId → Nat) (task : Task)
    (now : Moment) :
    cachingSetting.Safe task ((client entries configuredTimeout).threads task)
      (fun _ _ => True) now := by
  have roles := client_only entries configuredTimeout task
  have kept : ∀ op, op.bookless → ∀ now answer later,
      cachingSetting.Moves now ⟨task, op, answer⟩ later → ReturnsKept later :=
    fun op bookless now answer later moves => returns_bookless moves bookless
  cases task with
  | handler index => exact entry_books _ (entries index) now trivial
  | actor m =>
    refine safe_only roles (fun op permitted => kept op ?_) now
    cases op <;> first | exact permitted.elim | exact ⟨by simp, by simp⟩
  | peer m =>
    refine safe_only roles (fun op permitted => kept op ?_) now
    cases op <;> first | exact permitted.elim | exact ⟨by simp, by simp⟩

/-- At the start nothing has been returned. -/
theorem initial_returns : ReturnsKept ⟨World.initial, []⟩ := by
  constructor
  · intro task ticket issued
    exact absurd issued List.not_mem_nil
  · intro one two ticket issued
    exact absurd issued List.not_mem_nil
  · rintro task m ticket command ⟨queued, member⟩
    exact absurd member List.not_mem_nil
  · intro m ticket command member
    exact absurd member List.not_mem_nil
  · intro m ticket command served
    exact absurd served (by simp [serving])
  · intro ticket data filled
    exact absurd filled (by simp [World.initial])
  · trivial

end Proof

/-- What is returned answers its own request, and what is stored belongs to its URL. -/
def Uncrossed (event : ClientEvent) (earlier : List ClientEvent) : Prop :=
  (∀ m, ReplyCorrelated m event earlier) ∧ InsertCorrelated event earlier

/-- Over faithful links, and with every request written on a link that owes nothing, no
task is given the answer to another request, and no page is stored under a URL it was
not requested by.

That replies belong to their requests is known of every manager; the books of tickets, commands
and replies carry it on to the task that is given a reply, and from there to the row it stores.
-/
theorem responses_uncrossed (entries : Nat → Entry) (configuredTimeout : ManagerId → Nat)
    (pool : Pool World Task Answer)
    (reaches : Reaches exec (fun now event => faithful now event = true ∧ onClearLink now event = true)
      (client entries configuredTimeout) pool) : Throughout Uncrossed pool.now.history := by
  have every : ∀ pool, Reaches exec (fun now event => faithful now event = true ∧
      onClearLink now event = true) (client entries configuredTimeout) pool →
      Throughout (fun event earlier => ∀ m, ReplyCorrelated m event earlier) pool.now.history :=
    fun pool reaches => throughout_forall fun m =>
      replies_correlated m entries configuredTimeout pool reaches
  have assumed : Reaches exec cachingSetting.meets (client entries configuredTimeout) pool :=
    (client_roles (reaches.throughout every)).mono fun _ _ met => ⟨met.1.2, met.2⟩
  have kept : ReturnsKept pool.now ∧ _ := sound (S := cachingSetting) assumed initial_returns
    fun task => client_books entries configuredTimeout task _
  refine throughout_iff.mpr fun later event earlier split => ⟨?_, ?_⟩
  · exact throughout_iff.mp (every pool reaches) later event earlier split
  · exact throughout_iff.mp kept.1.inserted later event earlier split

section Runs

/-- Web requests of two pages, with a cache and without reconnecting. -/
def fetching (disclaimer : Text) : Nat → Entry
  | 0 => .openSession 0 [] 0
  | 1 => .consentGet
  | 2 => .consentPost ⟨true, some disclaimer⟩
  | 3 => .browse ['a'] false true none false none
  | _ => .browse ['b'] false true none false none

/-- A browse request of a page that is not in the cache, up to the write. -/
def fetchPage (index ticket : Nat) (url : Text) : List ClientEvent :=
  let command := Command.sendRequest (Request.get url none).encode
  [ (Task.handler index).does .readConnectionState .connected,
    (Task.handler index).does (.cacheLookup url) none,
    (Task.handler index).does (.cacheLookup url) none,
    (Task.handler index).does .activeManager 0,
    (Task.handler index).does .newReply ticket,
    (Task.handler index).does (.submit 0 ticket command) true,
    (Task.actor 0).does (.nextCommand 0) (some (ticket, command)),
    (Task.actor 0).does (.loadAbort 0) false,
    writePage url ]

/-- The server answers its oldest request. -/
def answerOldest (page : Response) : ClientEvent := (Task.peer 0).does (.peerMove 0) (.answers page)

/-- The answer is read and returned, and its page stored under the URL. -/
def storeAnswer (index ticket : Nat) (url : Text) (page : Response) : List ClientEvent :=
  [ (Task.actor 0).does (.recv 0 30) (.ok (.data page.encode)),
    (Task.actor 0).does (.loadAbort 0) false,
    (Task.actor 0).does (.reply ticket (.ok page.encode)) (),
    (Task.handler index).does (.awaitReply 0 ticket) (some (.ok page.encode)),
    (Task.handler index).does (.cacheInsert url page.etag page.payload page.maxAge) () ]

/-- A page is asked for, answered and stored. -/
theorem responses_uncrossed_sample :
    let page : Response := ⟨.ok, ['-'], 60, [1, 2, 3]⟩
    ∃ pool : Pool World Task Answer, pool.now.history = (opening "AGREE".toList ++
        fetchPage 3 1 ['a'] ++ [answerOldest page] ++ storeAnswer 3 1 ['a'] page).reverse ∧
      Throughout Uncrossed pool.now.history := by
  intro page
  obtain ⟨pool, reaches, history⟩ := client_replays
    (fun now event => faithful now event && onClearLink now event) (fetching "AGREE".toList)
    (fun _ => 30) (opening "AGREE".toList ++ fetchPage 3 1 ['a'] ++ [answerOldest page] ++
      storeAnswer 3 1 ['a'] page) (by decide)
  have met := reaches.mono fun _ _ => Bool.and_eq_true_iff.mp
  exact ⟨pool, history, responses_uncrossed _ _ pool met⟩

/-- The first page is answered only after the request for it has timed out and the
request for the second page has been written. -/
def lateAnswer (page : Response) : List ClientEvent :=
  opening "AGREE".toList ++ fetchPage 3 1 ['a'] ++
  [ (Task.actor 0).does (.recv 0 30) (.error .timeout),
    (Task.actor 0).does (.reply 1 (.error (.sessionDied "no response after 30s".toList))) () ] ++
  fetchPage 4 2 ['b'] ++ [answerOldest page]

/-- The late answer is returned for the second page, and stored under its URL. -/
theorem response_crossed : ¬ ∀ (entries : Nat → Entry) (configuredTimeout : ManagerId → Nat)
    (pool : Pool World Task Answer),
    Reaches exec (fun now event => faithful now event = true) (client entries configuredTimeout)
      pool → Throughout Uncrossed pool.now.history := by
  intro every
  let page : Response := ⟨.ok, ['-'], 60, [1, 2, 3]⟩
  obtain ⟨pool, reaches, history⟩ := client_replays faithful (fetching "AGREE".toList)
    (fun _ => 30) (lateAnswer page ++ storeAnswer 4 2 ['b'] page) (by decide)
  have uncrossed := every _ _ pool reaches
  rw [history, List.reverse_append] at uncrossed
  let earlier := [(Task.actor 0).does (.loadAbort 0) false,
    (Task.actor 0).does (.recv 0 30) (.ok (.data page.encode))] ++ (lateAnswer page).reverse
  obtain ⟨command, served, answers⟩ : ∃ command, serving 0 earlier = some (2, command) ∧
      ∀ request, command.request = some request → Correlated 0 request page.encode earlier :=
    uncrossed.2.2.1.1 0 2 page.encode rfl rfl
  have taken : (serving 0 earlier).map (fun next => next.2.request) =
      some (some (Request.get ['b'] none).encode) := by decide
  rw [served] at taken
  obtain ⟨_, number, response, latest, member, _⟩ := answers _ (Option.some.inj taken)
  -- Two requests were written, and it is the first one that was answered.
  have written : (link 0 earlier).written = 2 := by decide
  have answered : (link 0 earlier).exchanged.map Exchange.number = [0] := by decide
  have first : number ∈ (link 0 earlier).exchanged.map Exchange.number := List.mem_map_of_mem member
  rw [answered, List.mem_singleton] at first
  omega

end Runs

end PacketBrowser.Client
