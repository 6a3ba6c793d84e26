import PacketBrowser.Client.State
import PacketBrowser.Foundation.Machine
import Mathlib.Data.List.Nodup

/-!
# The live log

An entry of the log is appended to the application state under its lock, and then sent to
whoever is subscribed. A page that opens the stream of events takes a snapshot of the log
under the same lock, and then subscribes. One line of the handshake, that consent is waited
for, is sent to the subscribers and never appended.

Neither of the two pairs of steps is atomic. Between snapshot and subscription an entry
can be appended and sent unseen, and an entry that is in the snapshot can still be sent
to the new subscriber.
-/

namespace PacketBrowser.Client

open Protocol Foundation Machine

section Log

/-- How much a line of the log matters. -/
inductive LogLevel where
  | info
  | debug
  | trace
  deriving DecidableEq, Repr

/-- Whether a line is about something sent or received. -/
inductive Direction where
  | tx
  | rx
  deriving DecidableEq, Repr

/-- A line of the log. Its time stamp is not modelled. -/
structure DebugLogEntry where
  level : LogLevel
  direction : Option Direction
  category : Text
  message : Text
  details : Option Text
  deriving DecidableEq, Repr

/-- An entry, and which of the calls of a producer it comes from: two entries may read
the same. -/
structure LogLine where
  call : Nat
  entry : DebugLogEntry
  deriving DecidableEq, Repr

/-- The part of the application state that the log is about. -/
structure AppState where
  connectionState : ConnectionState
  debugLog : List LogLine
  logCapacity : Nat

/-- The application at its start. -/
def AppState.new : AppState := ⟨.disconnected, [], 1000⟩

/-- A full log loses its oldest entry. -/
def AppState.addLog (state : AppState) (line : LogLine) : AppState :=
  { state with debugLog :=
      (if state.debugLog.length ≥ state.logCapacity then state.debugLog.drop 1
        else state.debugLog) ++ [line] }

/-- The entry about a state. -/
def stateEntry (state : ConnectionState) : DebugLogEntry :=
  ⟨.info, none, "STATE".toList, "State changed to: ".toList ++ state.display, none⟩

/-- Change the state and log it. -/
def AppState.setConnectionState (app : AppState) (call : Nat) (state : ConnectionState) :
    AppState × LogLine :=
  let line : LogLine := ⟨call, stateEntry state⟩
  (({ app with connectionState := state } : AppState).addLog line, line)

/-- What a producer is called with: an entry for `push_log`, a state for `set_state`. -/
inductive Report where
  | pushLog (entry : DebugLogEntry)
  | setState (state : ConnectionState)
  deriving DecidableEq

/-- The part of a producer under the lock, and the entry that it is to send. -/
def AppState.append (app : AppState) (call : Nat) : Report → AppState × LogLine
  | .pushLog entry => (app.addLog ⟨call, entry⟩, ⟨call, entry⟩)
  | .setState state => app.setConnectionState call state

end Log

section Steps

/-- How far a call of a producer is, with the entry that it sends. -/
inductive Progress where
  | waiting
  | appended (line : LogLine)
  | sent (line : LogLine)
  /-- The entry was sent and is never appended. -/
  | announced (line : LogLine)
  deriving DecidableEq

/-- How far the handler of the stream is. -/
inductive Handler where
  /-- It has yet to take the snapshot. -/
  | connecting
  /-- It has yet to subscribe. -/
  | snapshotted
  | streaming
  deriving DecidableEq

/-- How many entries wait for a subscriber. -/
def channelCapacity : Nat := 256

/-- The log, its producers, and one stream of events. -/
structure Feed where
  app : AppState
  calls : Nat → Progress
  handler : Handler
  /-- The entries of the snapshot. -/
  snapshot : List LogLine
  /-- The entries of the snapshot that are still to be sent to the page. -/
  existing : List LogLine
  /-- The entries that wait in the channel. -/
  queue : List LogLine
  /-- What the page was sent. -/
  delivered : List LogLine

/-- Nothing has been logged, and the page has yet to connect. -/
def Feed.initial : Feed :=
  ⟨AppState.new, fun _ => .waiting, .connecting, [], [], [], []⟩

/-- The line of the handshake that is only sent. -/
def waitingEntry : DebugLogEntry :=
  ⟨.info, none, "BPQ".toList, "Waiting for operator consent".toList, none⟩

/-- The steps of the producers and of the handler. -/
inductive FeedAction where
  | append (call : Nat) (report : Report)
  | send (call : Nat)
  /-- The handshake sends its line that consent is waited for. -/
  | announce (call : Nat)
  | snapshot
  | subscribe
  | deliverExisting
  | recv
  deriving DecidableEq

/-- One call gets further. -/
def Feed.progress (feed : Feed) (call : Nat) (progress : Progress) : Nat → Progress :=
  fun other => if other = call then progress else feed.calls other

/-- What a subscriber has waiting when an entry is sent. Where there are too many entries
the oldest is lost. -/
def enqueue (queue : List LogLine) (line : LogLine) : List LogLine :=
  (if queue.length ≥ channelCapacity then queue.drop 1 else queue) ++ [line]

/-- The entry is sent to the stream, if it is subscribed. -/
def Feed.broadcast (feed : Feed) (line : LogLine) : List LogLine :=
  if feed.handler = .streaming then enqueue feed.queue line else feed.queue

/-- A step of a producer or of the handler; none if it is not possible. -/
def Feed.step (feed : Feed) : FeedAction → Option Feed
  | .append call report =>
    if feed.calls call = .waiting then
      let appended := feed.app.append call report
      some { feed with
        app := appended.1
        calls := feed.progress call (.appended appended.2) }
    else none
  | .send call =>
    match feed.calls call with
    | .appended line =>
      some { feed with
        calls := feed.progress call (.sent line)
        queue := feed.broadcast line }
    | _ => none
  | .announce call =>
    if feed.calls call = .waiting then
      some { feed with
        calls := feed.progress call (.announced ⟨call, waitingEntry⟩)
        queue := feed.broadcast ⟨call, waitingEntry⟩ }
    else none
  | .snapshot =>
    if feed.handler = .connecting then
      some { feed with
        handler := .snapshotted
        snapshot := feed.app.debugLog
        existing := feed.app.debugLog }
    else none
  | .subscribe =>
    if feed.handler = .snapshotted then some { feed with handler := .streaming } else none
  | .deliverExisting =>
    match feed.handler, feed.existing with
    | .streaming, line :: later =>
      some { feed with existing := later, delivered := feed.delivered ++ [line] }
    | _, _ => none
  | .recv =>
    match feed.handler, feed.existing, feed.queue with
    | .streaming, [], line :: later =>
      some { feed with queue := later, delivered := feed.delivered ++ [line] }
    | _, _, _ => none

/-- What the page was sent and what is on its way to it. -/
def Feed.received (feed : Feed) : List LogLine := feed.delivered ++ feed.existing ++ feed.queue

/-- The entry was sent. -/
def Feed.isSent (feed : Feed) (line : LogLine) : Prop := feed.calls line.call = .sent line

/-- The page is subscribed, and no entry that was appended is still to be sent. -/
def Feed.Quiet (feed : Feed) : Prop :=
  feed.handler = .streaming ∧ ∀ call line, feed.calls call ≠ .appended line

/-- The entry was sent to the subscribers only. -/
def Feed.isAnnounced (feed : Feed) (line : LogLine) : Prop :=
  feed.calls line.call = .announced line

/-- Each entry that is in the snapshot or was sent from the log reaches the page once, and no
other entry does but for those that are not for the log, once at most. -/
def Feed.ExactlyOnce (feed : Feed) : Prop :=
  ∀ line, (feed.calls line.call ≠ .announced line → feed.received.count line =
    if line ∈ feed.snapshot ∨ feed.calls line.call = .sent line then 1 else 0) ∧
    feed.received.count line ≤ 1

/-- What the page has received of the log. -/
def Feed.receivedLog (feed : Feed) : List LogLine :=
  feed.received.filter fun line => feed.calls line.call ≠ .announced line

/-- The log does not overflow, and the subscriber does not lag. -/
def KeepsUp (feed : Feed) : FeedAction → Prop
  | .append _ _ => feed.app.debugLog.length < feed.app.logCapacity
  | .send _ | .announce _ => feed.queue.length < channelCapacity
  | _ => True

/-- What is sent before the subscription is in the snapshot, and what is sent after it is
not. -/
def Uncut (feed : Feed) : FeedAction → Prop
  | .send call =>
    match feed.calls call, feed.handler with
    | .appended line, .snapshotted => line ∈ feed.snapshot
    | .appended line, .streaming => line ∉ feed.snapshot
    | _, _ => True
  | _ => True

instance decideKeepsUp (feed : Feed) : ∀ action, Decidable (KeepsUp feed action)
  | .append _ _ => inferInstanceAs (Decidable (_ < _))
  | .send _ | .announce _ => inferInstanceAs (Decidable (_ < _))
  | .snapshot | .subscribe | .deliverExisting | .recv => inferInstanceAs (Decidable True)

instance decideUncut (feed : Feed) (action : FeedAction) : Decidable (Uncut feed action) := by
  unfold Uncut
  split
  · split <;> infer_instance
  · infer_instance

end Steps

section Invariant

/-- An entry is in the log once its call has appended it. What reaches the page after the
snapshot is the snapshot and what was sent, without repetition, and what is not for the log. -/
structure Feed.Accounted (feed : Feed) : Prop where
  named : ∀ call line, feed.calls call = .appended line ∨ feed.calls call = .sent line →
    line.call = call
  logged : ∀ line, line ∈ feed.app.debugLog ↔
    feed.calls line.call = .appended line ∨ feed.isSent line
  distinct : feed.app.debugLog.Nodup
  unbegun : feed.handler = .connecting → feed.received = []
  taken : feed.snapshot ⊆ feed.app.debugLog
  once : feed.received.Nodup
  begun : feed.handler ≠ .connecting → ∀ line, ¬ feed.isAnnounced line →
    (line ∈ feed.received ↔ line ∈ feed.snapshot ∨ feed.isSent line)

variable {feed next : Feed} {app : AppState} {call : Nat} {report : Report} {line : LogLine}

/-- An entry knows the call it comes from. -/
theorem append_call : (app.append call report).2.call = call := by
  cases report <;> rfl

/-- A log with room keeps what it has. -/
theorem append_debugLog (room : app.debugLog.length < app.logCapacity) :
    (app.append call report).1.debugLog = app.debugLog ++ [(app.append call report).2] := by
  have fits : ¬ app.debugLog.length ≥ app.logCapacity := by omega
  cases report with
  | pushLog entry => simp only [AppState.append, AppState.addLog, if_neg fits]
  | setState state =>
    simp only [AppState.append, AppState.setConnectionState, AppState.addLog, if_neg fits]

/-- A queue with room keeps what it has. -/
theorem enqueue_of_room {queue : List LogLine} (room : queue.length < channelCapacity) :
    enqueue queue line = queue ++ [line] := by
  have fits : ¬ queue.length ≥ channelCapacity := by omega
  simp only [enqueue, if_neg fits]

/-- At the start everything is accounted for. -/
theorem initial_accounted : Feed.initial.Accounted := by
  constructor
  · intro call line entered
    rcases entered with entered | entered <;> cases entered
  · intro line
    simp [Feed.initial, AppState.new, Feed.isSent]
  · exact List.nodup_nil
  · intro _
    rfl
  · exact List.nil_subset _
  · exact List.nodup_nil
  · intro begun
    exact absurd rfl begun

/-- Appending an entry keeps the account: the entry is fresh, and waits to be sent. -/
theorem Feed.Accounted.append (accounted : feed.Accounted) (waiting : feed.calls call = .waiting)
    (room : feed.app.debugLog.length < feed.app.logCapacity) :
    ({ feed with
        app := (feed.app.append call report).1
        calls := feed.progress call (.appended (feed.app.append call report).2) } :
      Feed).Accounted := by
  have fresh : (feed.app.append call report).2 ∉ feed.app.debugLog := by
    intro old
    have entered := (accounted.logged _).mp old
    simp only [Feed.isSent, append_call, waiting] at entered
    rcases entered with entered | entered <;> cases entered
  have unsent : ∀ other : LogLine, feed.progress call (.appended (feed.app.append call report).2)
      other.call = .sent other ↔ feed.calls other.call = .sent other := by
    intro other
    by_cases same : other.call = call
    · simp [Feed.progress, same, waiting]
    · simp [Feed.progress, same]
  have unannounced : ∀ other : LogLine,
      feed.progress call (.appended (feed.app.append call report).2) other.call =
        .announced other ↔ feed.calls other.call = .announced other := by
    intro other
    by_cases same : other.call = call
    · simp [Feed.progress, same, waiting]
    · simp [Feed.progress, same]
  constructor
  · intro other line entered
    by_cases same : other = call
    · subst same
      simp only [Feed.progress, if_true] at entered
      rcases entered with entered | entered <;> cases entered
      exact append_call
    · simp only [Feed.progress, if_neg same] at entered
      exact accounted.named other line entered
  · intro other
    simp only [append_debugLog room, List.mem_append, List.mem_singleton, accounted.logged,
      Feed.isSent, unsent]
    by_cases same : other.call = call
    · simp only [Feed.progress, same, if_true, waiting, Progress.appended.injEq, reduceCtorEq,
        false_or, or_false]
      exact eq_comm
    · have foreign : other ≠ (feed.app.append call report).2 := by
        rintro rfl
        exact same append_call
      simp [Feed.progress, same, foreign]
  · simp only [append_debugLog room]
    exact List.Nodup.append accounted.distinct (List.nodup_singleton _)
      (List.disjoint_singleton.mpr fresh)
  · exact accounted.unbegun
  · intro other shown
    simp only [append_debugLog room]
    exact List.mem_append_left _ (accounted.taken shown)
  · exact accounted.once
  · intro begun other
    simp only [Feed.isSent, Feed.isAnnounced, unsent, unannounced]
    exact accounted.begun begun other

/-- Sending an entry makes it the one more entry that is sent. -/
theorem isSent_send (pending : feed.calls call = .appended line) (named : line.call = call)
    (other : LogLine) :
    feed.progress call (.sent line) other.call = .sent other ↔
      other = line ∨ feed.isSent other := by
  by_cases same : other.call = call
  · simp only [Feed.progress, same, if_true, Progress.sent.injEq, Feed.isSent, pending,
      reduceCtorEq, or_false]
    exact eq_comm
  · have foreign : other ≠ line := by
      rintro rfl
      exact same named
    simp [Feed.progress, same, foreign, Feed.isSent]

/-- An entry that is sent is received by a handler that listens. -/
theorem received_broadcast (room : feed.queue.length < channelCapacity) (progress : Progress) :
    ({ feed with
        calls := feed.progress call progress
        queue := feed.broadcast line } : Feed).received =
      feed.received ++ if feed.handler = .streaming then [line] else [] := by
  by_cases streaming : feed.handler = .streaming
  · simp [Feed.received, Feed.broadcast, streaming, enqueue_of_room room]
  · simp [Feed.received, Feed.broadcast, streaming]

/-- What the page receives is received once, also behind an entry that is sent now and was not
received before. -/
theorem Feed.Accounted.once_broadcast (accounted : feed.Accounted)
    (absent : feed.handler = .streaming → line ∉ feed.received) :
    (feed.received ++ if feed.handler = .streaming then [line] else []).Nodup := by
  split
  · next streaming =>
    exact List.Nodup.append accounted.once (List.nodup_singleton _)
      (List.disjoint_singleton.mpr (absent streaming))
  · rw [List.append_nil]
    exact accounted.once

/-- Before the snapshot nothing is received, whatever is sent. -/
theorem Feed.Accounted.unbegun_broadcast (accounted : feed.Accounted)
    (connecting : feed.handler = .connecting) :
    (feed.received ++ if feed.handler = .streaming then [line] else []) = [] := by
  rw [accounted.unbegun connecting, connecting]
  rfl

/-- A call that gets further had announced nothing, so no line is announced that is not announced
afterwards. -/
theorem unannounced_before {old progress : Progress} (was : feed.calls call = old)
    (silent : ∀ entry, old ≠ .announced entry) {other : LogLine}
    (unannounced : feed.progress call progress other.call ≠ .announced other) :
    ¬ feed.isAnnounced other := by
  intro announced
  have foreign : other.call ≠ call := by
    intro same
    rw [Feed.isAnnounced, same, was] at announced
    exact silent other announced
  exact unannounced (by simpa [Feed.isAnnounced, Feed.progress, foreign] using announced)

/-- A call that has yet to begin has brought nothing. -/
theorem Feed.Accounted.unreceived (accounted : feed.Accounted)
    (waiting : feed.calls line.call = .waiting) : line ∉ feed.received := by
  intro present
  have unannounced : ¬ feed.isAnnounced line := by simp [Feed.isAnnounced, waiting]
  have unsent : ¬ feed.isSent line := by simp [Feed.isSent, waiting]
  have begun : feed.handler ≠ .connecting := by
    intro connecting
    rw [accounted.unbegun connecting] at present
    exact List.not_mem_nil present
  rcases (accounted.begun begun line unannounced).mp present with shown | sent
  · rcases (accounted.logged line).mp (accounted.taken shown) with appended | sent
    · rw [waiting] at appended
      cases appended
    · exact unsent sent
  · exact unsent sent

/-- Sending an entry keeps the account: the page gets it here if the snapshot does not have it. -/
theorem Feed.Accounted.send (accounted : feed.Accounted)
    (pending : feed.calls call = .appended line) (room : feed.queue.length < channelCapacity)
    (uncut : Uncut feed (.send call)) :
    ({ feed with
        calls := feed.progress call (.sent line)
        queue := feed.broadcast line } : Feed).Accounted := by
  have named : line.call = call := accounted.named call line (.inl pending)
  have unsent : ¬ feed.isSent line := by
    simp [Feed.isSent, named, pending]
  have known : ∀ other : LogLine, feed.progress call (.sent line) other.call = .appended other ∨
      feed.progress call (.sent line) other.call = .sent other ↔
      feed.calls other.call = .appended other ∨ feed.isSent other := by
    intro other
    by_cases same : other.call = call
    · simp [Feed.progress, same, Feed.isSent, pending]
    · simp [Feed.progress, same, Feed.isSent]
  simp only [Uncut, pending] at uncut
  have received : ({ feed with
        calls := feed.progress call (.sent line)
        queue := feed.broadcast line } : Feed).received =
      feed.received ++ if feed.handler = .streaming then [line] else [] :=
    received_broadcast room _
  constructor
  · intro other entry entered
    by_cases same : other = call
    · subst same
      simp only [Feed.progress, if_true, Progress.sent.injEq, reduceCtorEq, false_or] at entered
      exact entered ▸ named
    · simp only [Feed.progress, if_neg same] at entered
      exact accounted.named other entry entered
  · intro other
    exact (accounted.logged other).trans (known other).symm
  · exact accounted.distinct
  · intro connecting
    exact received.trans (accounted.unbegun_broadcast connecting)
  · exact accounted.taken
  · rw [received]
    apply accounted.once_broadcast
    intro streaming present
    rw [streaming] at uncut
    have unannounced : ¬ feed.isAnnounced line := by
      simp [Feed.isAnnounced, named, pending]
    rcases (accounted.begun (by simp [streaming]) line unannounced).mp present with shown | sent
    · exact uncut shown
    · exact unsent sent
  · intro begun other unannounced
    simp only at begun
    have before : ¬ feed.isAnnounced other := unannounced_before pending (by simp) unannounced
    rw [received, List.mem_append, accounted.begun begun other before]
    simp only [Feed.isSent, isSent_send pending named]
    cases stage : feed.handler with
    | connecting => exact absurd stage begun
    | snapshotted =>
      rw [stage] at uncut
      have shown : other = line → other ∈ feed.snapshot := by
        rintro rfl
        exact uncut
      simp only [reduceCtorEq, if_false, List.not_mem_nil, or_false]
      tauto
    | streaming =>
      simp only [if_true, List.mem_singleton]
      tauto

/-- A line that is not for the log leaves the log as it is, and what the page gets of it. -/
theorem Feed.Accounted.announce (accounted : feed.Accounted)
    (waiting : feed.calls call = .waiting) (room : feed.queue.length < channelCapacity) :
    ({ feed with
        calls := feed.progress call (.announced ⟨call, waitingEntry⟩)
        queue := feed.broadcast ⟨call, waitingEntry⟩ } : Feed).Accounted := by
  have received : ({ feed with
        calls := feed.progress call (.announced ⟨call, waitingEntry⟩)
        queue := feed.broadcast ⟨call, waitingEntry⟩ } : Feed).received =
      feed.received ++ if feed.handler = .streaming then [⟨call, waitingEntry⟩] else [] :=
    received_broadcast room _
  have absent : (⟨call, waitingEntry⟩ : LogLine) ∉ feed.received := accounted.unreceived waiting
  -- An entry of another call is where it was, and this call had none.
  have others : ∀ other : LogLine, ∀ progress : Progress,
      progress = .appended other ∨ progress = .sent other →
      (feed.progress call (.announced ⟨call, waitingEntry⟩) other.call = progress ↔
        feed.calls other.call = progress) := by
    rintro other progress entered
    by_cases same : other.call = call
    · rcases entered with rfl | rfl <;> simp [Feed.progress, same, waiting]
    · simp [Feed.progress, same]
  constructor
  · intro other line entered
    by_cases same : other = call
    · subst same
      simp only [Feed.progress, if_true] at entered
      rcases entered with entered | entered <;> cases entered
    · simp only [Feed.progress, if_neg same] at entered
      exact accounted.named other line entered
  · intro other
    simp only [Feed.isSent, others other _ (.inl rfl), others other _ (.inr rfl)]
    exact accounted.logged other
  · exact accounted.distinct
  · intro connecting
    exact received.trans (accounted.unbegun_broadcast connecting)
  · exact accounted.taken
  · rw [received]
    exact accounted.once_broadcast fun _ => absent
  · intro begun other unannounced
    have foreign : other ≠ ⟨call, waitingEntry⟩ := by
      rintro rfl
      exact unannounced (by simp [Feed.isAnnounced, Feed.progress])
    have before : ¬ feed.isAnnounced other := unannounced_before waiting (by simp) unannounced
    have tail : other ∉ if feed.handler = .streaming then [(⟨call, waitingEntry⟩ : LogLine)]
        else [] := by
      split
      · exact fun member => foreign (List.mem_singleton.mp member)
      · exact List.not_mem_nil
    simp only [Feed.isSent, others other _ (.inr rfl)]
    rw [received, List.mem_append, or_iff_left tail]
    exact accounted.begun begun other before

/-- Moving an entry on its way changes nothing about which entries are under way. -/
theorem Feed.Accounted.moved (accounted : feed.Accounted) (app : next.app = feed.app)
    (calls : next.calls = feed.calls) (handler : next.handler = feed.handler)
    (snapshot : next.snapshot = feed.snapshot) (received : next.received = feed.received) :
    next.Accounted := by
  constructor
  · rw [calls]
    exact accounted.named
  · simp only [Feed.isSent, app, calls]
    exact accounted.logged
  · rw [app]
    exact accounted.distinct
  · rw [handler, received]
    exact accounted.unbegun
  · rw [app, snapshot]
    exact accounted.taken
  · rw [received]
    exact accounted.once
  · simp only [Feed.isSent, Feed.isAnnounced, calls, handler, snapshot, received]
    exact accounted.begun

/-- Taking the snapshot keeps the account: what was sent before is in the log. -/
theorem Feed.Accounted.snapshot (accounted : feed.Accounted)
    (connecting : feed.handler = .connecting) :
    ({ feed with
        handler := .snapshotted
        snapshot := feed.app.debugLog
        existing := feed.app.debugLog } : Feed).Accounted := by
  have none : feed.delivered = [] ∧ feed.existing = [] ∧ feed.queue = [] := by
    simpa [Feed.received, and_assoc] using accounted.unbegun connecting
  constructor
  · exact accounted.named
  · exact accounted.logged
  · exact accounted.distinct
  · intro begun
    cases begun
  · exact List.Subset.refl _
  · simpa [Feed.received, none] using accounted.distinct
  · intro _ line _
    have sent : feed.isSent line → line ∈ feed.app.debugLog := by
      intro sent
      exact (accounted.logged line).mpr (.inr sent)
    simp only [Feed.received, none, List.nil_append, List.append_nil, Feed.isSent]
    exact ⟨.inl, fun either => either.elim id sent⟩

/-- Subscribing keeps the account. -/
theorem Feed.Accounted.subscribe (accounted : feed.Accounted)
    (snapshotted : feed.handler = .snapshotted) :
    ({ feed with handler := .streaming } : Feed).Accounted := by
  constructor
  · exact accounted.named
  · exact accounted.logged
  · exact accounted.distinct
  · intro connecting
    cases connecting
  · exact accounted.taken
  · exact accounted.once
  · intro _
    exact accounted.begun (by simp [snapshotted])

/-- No step that meets the condition loses an entry or delivers one again. -/
theorem step_accounted (feed : Feed) (action : FeedAction) (next : Feed)
    (accounted : feed.Accounted) (met : KeepsUp feed action ∧ Uncut feed action)
    (taken : feed.step action = some next) : next.Accounted := by
  obtain ⟨keepsUp, uncut⟩ := met
  cases action with
  | append call report =>
    simp only [Feed.step] at taken
    split at taken
    · rename_i waiting
      obtain rfl := Option.some.inj taken
      exact accounted.append waiting keepsUp
    · cases taken
  | send call =>
    simp only [Feed.step] at taken
    split at taken
    · rename_i line pending
      obtain rfl := Option.some.inj taken
      exact accounted.send pending keepsUp uncut
    · cases taken
  | announce call =>
    simp only [Feed.step] at taken
    split at taken
    · rename_i waiting
      obtain rfl := Option.some.inj taken
      exact accounted.announce waiting keepsUp
    · cases taken
  | snapshot =>
    simp only [Feed.step] at taken
    split at taken
    · rename_i connecting
      obtain rfl := Option.some.inj taken
      exact accounted.snapshot connecting
    · cases taken
  | subscribe =>
    simp only [Feed.step] at taken
    split at taken
    · rename_i snapshotted
      obtain rfl := Option.some.inj taken
      exact accounted.subscribe snapshotted
    · cases taken
  | deliverExisting =>
    simp only [Feed.step] at taken
    split at taken
    · rename_i line later streaming existing
      obtain rfl := Option.some.inj taken
      exact accounted.moved rfl rfl rfl rfl (by simp [Feed.received, existing])
    · cases taken
  | recv =>
    simp only [Feed.step] at taken
    split at taken
    · rename_i line later streaming existing queue
      obtain rfl := Option.some.inj taken
      exact accounted.moved rfl rfl rfl rfl (by simp [Feed.received, existing, queue])
    · cases taken

end Invariant

section Results

variable {feed : Feed}

/-- Of an accounted log the page gets the snapshot and what was sent, once. -/
theorem Feed.Accounted.exactlyOnce (accounted : feed.Accounted)
    (streaming : feed.handler = .streaming) : feed.ExactlyOnce := by
  have begun : feed.handler ≠ .connecting := by simp [streaming]
  intro line
  refine ⟨fun unannounced => ?_, List.nodup_iff_count_le_one.mp accounted.once line⟩
  have known := accounted.begun begun line unannounced
  by_cases expected : line ∈ feed.snapshot ∨ feed.isSent line
  · have present : line ∈ feed.received := known.mpr expected
    simp only [Feed.isSent] at expected
    rw [if_pos expected]
    exact List.count_eq_one_of_mem accounted.once present
  · have absent : line ∉ feed.received := fun present => expected (known.mp present)
    simp only [Feed.isSent] at expected
    rw [if_neg expected]
    exact List.count_eq_zero_of_not_mem absent

/-- Once nothing is still to be sent, the page gets the log. -/
theorem Feed.Accounted.whole (accounted : feed.Accounted) (quiet : feed.Quiet) :
    feed.receivedLog.Perm feed.app.debugLog := by
  obtain ⟨streaming, sent⟩ := quiet
  rw [Feed.receivedLog, List.perm_ext_iff_of_nodup (accounted.once.filter _) accounted.distinct]
  intro line
  rw [List.mem_filter, decide_eq_true_iff, accounted.logged line]
  have known : line ∈ feed.snapshot → feed.calls line.call = .appended line ∨ feed.isSent line :=
    fun shown => (accounted.logged line).mp (accounted.taken shown)
  have pending := sent line.call line
  have begun := accounted.begun (by simp [streaming]) line
  have apart : feed.isSent line → feed.calls line.call ≠ .announced line := by
    intro sent announced
    rw [Feed.isSent, announced] at sent
    cases sent
  rw [Feed.isAnnounced] at begun
  tauto

/-- If no entry is sent unseen before the subscription, and none that the snapshot has is
sent after it, the page gets each entry of the snapshot and each entry that was sent
exactly once, and in the end the whole log. Besides these it gets the lines that are sent and
never appended, each once at most.

The account of what is in the log, in the snapshot and on its way to the page is kept by every
step that meets the condition. -/
theorem live_log_exactly_once (actions : List FeedAction) (feed : Feed)
    (met : Meets Feed.step (fun feed action => KeepsUp feed action ∧ Uncut feed action)
      Feed.initial actions)
    (runs : run Feed.step Feed.initial actions = some feed)
    (streaming : feed.handler = .streaming) :
    feed.ExactlyOnce ∧ (feed.Quiet → feed.receivedLog.Perm feed.app.debugLog) := by
  have accounted : feed.Accounted := meeting_keeps step_accounted initial_accounted met runs
  exact ⟨accounted.exactlyOnce streaming, accounted.whole⟩

/-- A call is taken into the snapshot, another comes after the subscription, and then the line
that consent is waited for. -/
def sampleFeed : List FeedAction :=
  [.append 0 (.setState .connecting), .snapshot, .send 0, .subscribe, .deliverExisting,
    .append 1 (.setState (.awaitingConsent "Be brief.".toList)), .send 1, .announce 2, .recv, .recv]

/-- The page gets the entry of the snapshot, the one behind it, and the line that is not logged. -/
theorem live_log_exactly_once_sample : ∃ feed, run Feed.step Feed.initial sampleFeed = some feed ∧
    feed.ExactlyOnce ∧ (feed.Quiet → feed.receivedLog.Perm feed.app.debugLog) := by
  have runs : (run Feed.step Feed.initial sampleFeed).map Feed.handler = some .streaming := by
    decide
  obtain ⟨feed, reached, streaming⟩ := Option.map_eq_some_iff.mp runs
  exact ⟨feed, reached, live_log_exactly_once sampleFeed feed (by decide) reached streaming⟩

/-- Consent is asked for between the snapshot and the subscription. -/
def unseen : List FeedAction :=
  [.snapshot, .append 0 (.setState (.awaitingConsent "Be brief.".toList)), .send 0, .subscribe]

/-- The request for consent is appended before the snapshot, and sent after the
subscription. -/
def repeated : List FeedAction :=
  [.append 0 (.setState (.awaitingConsent "Be brief.".toList)), .snapshot, .subscribe, .send 0,
    .deliverExisting, .recv]

/-- The entry of the request for consent. -/
def consentLine : LogLine := ⟨0, stateEntry (.awaitingConsent "Be brief.".toList)⟩

/-- How often the page gets the request for consent. -/
def Feed.consents (feed : Feed) : Handler × Nat := (feed.handler, feed.received.count consentLine)

/-- The page may not be asked for consent, or be asked twice, with a log that does not
overflow and a subscriber that does not lag. -/
theorem live_log_cut :
    Meets Feed.step KeepsUp Feed.initial unseen ∧ Meets Feed.step KeepsUp Feed.initial repeated ∧
    (run Feed.step Feed.initial unseen).map Feed.consents = some (.streaming, 0) ∧
    (run Feed.step Feed.initial repeated).map Feed.consents = some (.streaming, 2) ∧
    ¬ ∀ (actions : List FeedAction) (feed : Feed), Meets Feed.step KeepsUp Feed.initial actions →
      run Feed.step Feed.initial actions = some feed → feed.handler = .streaming →
      feed.ExactlyOnce := by
  have lost : (run Feed.step Feed.initial unseen).map Feed.consents = some (.streaming, 0) := by
    decide
  have kept : Meets Feed.step KeepsUp Feed.initial unseen := by decide
  constructor
  · exact kept
  constructor
  · decide
  constructor
  · exact lost
  constructor
  · decide
  · intro claimed
    have sent : (run Feed.step Feed.initial unseen).map (fun feed => feed.calls 0) =
        some (.sent consentLine) := by
      decide
    obtain ⟨feed, reached, missed⟩ := Option.map_eq_some_iff.mp lost
    obtain ⟨streaming, none⟩ := Prod.mk.inj missed
    have sent : feed.calls 0 = .sent consentLine := by
      rw [reached] at sent
      exact Option.some.inj sent
    have once := (claimed unseen feed kept reached streaming consentLine).1 (by
      rw [show consentLine.call = 0 from rfl, sent]
      simp)
    rw [none, if_pos (.inr sent)] at once
    cases once

end Results

end PacketBrowser.Client
