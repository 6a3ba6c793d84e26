import Mathlib.Data.List.Nodup
import PacketBrowser.Client.Roles
import PacketBrowser.Foundation.Desk

/-!
# Every call is answered in its turn

Any number of web requests call the managers at the same time, on any number of
managers. Seen from outside, a manager is a desk: it serves one call at a time, in the
order in which the calls were accepted, and what a caller is given is the result of its
own call.

Nothing in a reply says which call it belongs to. It is the one-shot channel that does:
its number is issued once, to one task, which submits one command under it. The
background task answers into the channel it took with the command, and not twice.
-/

namespace PacketBrowser.Client

open Protocol Foundation Program Setting

/-- A command of one of the tasks, accepted by a manager. -/
structure Call where
  caller : Task
  ticket : TicketId
  command : Command
  deriving DecidableEq, Repr

/-- What of a call is in the queue. -/
def Call.queued (call : Call) : TicketId × Command := (call.ticket, call.command)

/-- What an event is at the desk of a manager. None where a desk would not do it. -/
def attend (m : ManagerId) (event : ClientEvent) (desk : Desk Call Reply) :
    Option (Desk Call Reply) :=
  match event.op, event.answer with
  | .submit manager ticket command, accepted =>
    if manager = m ∧ accepted = true then some (desk.arrive ⟨event.thread, ticket, command⟩)
    else some desk
  | .nextCommand manager, some taken =>
    if manager = m then desk.take fun call => call.queued = taken else some desk
  | .reply ticket result, _ =>
    if event.thread = .actor m then desk.answer (fun call => call.ticket = ticket) result
    else some desk
  | _, _ => some desk

/-- The desk a manager has been so far, if it has been one. -/
def desk (m : ManagerId) : List ClientEvent → Option (Desk Call Reply)
  | [] => some .opened
  | event :: earlier => (desk m earlier).bind (attend m event)

/-- The task a ticket was issued to. -/
def holder (ticket : TicketId) : List ClientEvent → Option Task
  | [] => none
  | event :: earlier =>
    match event.op, event.answer with
    | .newReply, issued => if issued = ticket then some event.thread else holder ticket earlier
    | _, _ => holder ticket earlier

/-- The call an event makes, and of which manager. -/
def submission (event : ClientEvent) : Option (ManagerId × Call) :=
  match event.op, event.answer with
  | .submit manager ticket command, true => some (manager, ⟨event.thread, ticket, command⟩)
  | _, _ => none

/-- All calls so far, of all managers, newest first. -/
def submissions (history : List ClientEvent) : List (ManagerId × Call) :=
  history.filterMap submission

/-- The calls a manager has accepted, in order. -/
def accepted (m : ManagerId) (history : List ClientEvent) : List Call :=
  (submissions history).reverse.filterMap fun made => if made.1 = m then some made.2 else none

/-- What a task is given is the result of a call of its own. -/
def GivenOwn (event : ClientEvent) (earlier : List ClientEvent) : Prop :=
  ∀ m ticket result, event = event.thread.does (.awaitReply m ticket) (some result) →
    ∃ served command, desk m earlier = some served ∧
      (⟨event.thread, ticket, command⟩, result) ∈ served.served

/-- The manager is a desk: its calls are those accepted, in this order, and the ones
waiting are those in its queue. -/
def AtDesk (m : ManagerId) (now : Moment) : Prop :=
  ∃ standing, desk m now.history = some standing ∧
    standing.waiting.map Call.queued = now.world.queue m ∧
    standing.calls = accepted m now.history

/-- The books of all calls. -/
structure CallsKept (now : Moment) : Prop where
  issued : ∀ ticket task, holder ticket now.history = some task → ticket < now.world.replyCount
  owned : ∀ m call, (m, call) ∈ submissions now.history →
    holder call.ticket now.history = some call.caller
  once : ((submissions now.history).map fun made => made.2.ticket).Nodup
  standing : ∀ m, AtDesk m now
  filled : ∀ ticket result, now.world.replies ticket = some result →
    ∃ m standing call, desk m now.history = some standing ∧
      (call, result) ∈ standing.served ∧ call.ticket = ticket
  given : Throughout GivenOwn now.history

/-- Tasks that do what is theirs to do keep the invariant of the calls. -/
def callsSetting : Setting World Task Answer where
  exec := exec
  meets _ event := event.thread.allowed event.op
  inv := CallsKept

section Steps

/-! What an event does to the books, operation by operation. -/

/-- Operations that have nothing to do with queues and replies. -/
def Op.queueless : Op → Prop
  | .newReply => False
  | .submit _ _ _ => False
  | .nextCommand _ => False
  | .reply _ _ => False
  | .awaitReply _ _ => False
  | _ => True

variable {thread : Task} {op : Op} {answer : Answer op} {history : List ClientEvent}

/-- The desk of a manager goes on with the events that it attends to. -/
theorem desk_next {m : ManagerId} {event : ClientEvent} {standing after : Desk Call Reply}
    (known : desk m history = some standing) (attended : attend m event standing = some after) :
    desk m (event :: history) = some after := by
  rw [desk, known]
  exact attended

/-- Operations that no desk notices. -/
theorem attend_plain (plain : op.queueless) (m : ManagerId) (standing : Desk Call Reply) :
    attend m ⟨thread, op, answer⟩ standing = some standing := by
  cases op <;> first | exact plain.elim | rfl

/-- A plain operation submits nothing. -/
theorem submissions_plain (plain : op.queueless) :
    submissions (⟨thread, op, answer⟩ :: history) = submissions history := by
  cases op <;> first | exact plain.elim | rfl

/-- A plain operation hands out no reply channel. -/
theorem holder_plain (plain : op.queueless) (ticket : TicketId) :
    holder ticket (⟨thread, op, answer⟩ :: history) = holder ticket history := by
  cases op <;> first | exact plain.elim | rfl

/-- An operation that reads no reply gives nobody another's. -/
theorem given_other (other : ∀ m ticket, op ≠ .awaitReply m ticket) :
    GivenOwn ⟨thread, op, answer⟩ history :=
  fun m ticket _ same => absurd (congrArg Event.op same) (other m ticket)

variable {world : World}

/-- A plain operation leaves the queues. -/
theorem queue_plain (plain : op.queueless) : (world.apply op answer).queue = world.queue := by
  cases op with
  | modem => simp only [World.apply]; split <;> rfl
  | answerConsent => simp only [World.apply]; split <;> rfl
  | parkConsent => simp [World.apply, World.park]
  | withdrawConsent => simp [World.apply]
  | _ => first | exact plain.elim | rfl

/-- A call accepted has been made. -/
theorem accepted_made {m : ManagerId} {call : Call} (member : call ∈ accepted m history) :
    (m, call) ∈ submissions history := by
  simp only [accepted, List.mem_filterMap, List.mem_reverse, Option.ite_none_right_eq_some,
    Option.some.injEq] at member
  obtain ⟨made, inside, rfl, rfl⟩ := member
  exact inside

/-- What keeps the tickets and the calls only has to move every desk along. -/
theorem carried {event : ClientEvent} {after : World} (kept : CallsKept ⟨world, history⟩)
    (holders : ∀ ticket, holder ticket (event :: history) = holder ticket history)
    (made : submissions (event :: history) = submissions history)
    (count : world.replyCount ≤ after.replyCount)
    (moves : ∀ m standing, desk m history = some standing →
      standing.waiting.map Call.queued = world.queue m →
      ∃ later, attend m event standing = some later ∧ later.calls = standing.calls ∧
        later.waiting.map Call.queued = after.queue m ∧ standing.served ⊆ later.served)
    (filled : ∀ ticket result, after.replies ticket = some result →
      world.replies ticket = some result ∨ ∃ m standing call,
        desk m (event :: history) = some standing ∧ (call, result) ∈ standing.served ∧
          call.ticket = ticket)
    (given : GivenOwn event history) : CallsKept ⟨after, event :: history⟩ := by
  constructor
  · intro ticket task held
    exact Nat.lt_of_lt_of_le (kept.issued ticket task (holders ticket ▸ held)) count
  · intro m call member
    exact (holders _).trans (kept.owned m call (made ▸ member))
  · rw [made]
    exact kept.once
  · intro m
    obtain ⟨standing, known, waiting, calls⟩ := kept.standing m
    obtain ⟨later, attended, same, queue, _⟩ := moves m standing known waiting
    refine ⟨later, desk_next known attended, queue, ?_⟩
    rw [accepted, same, made]
    exact calls
  · intro ticket result reply
    rcases filled ticket result reply with old | new
    · obtain ⟨m, standing, call, known, member, named⟩ := kept.filled ticket result old
      obtain ⟨_, other, waiting, _⟩ := kept.standing m
      obtain rfl := Option.some.inj (known.symm.trans other)
      obtain ⟨later, attended, _, _, more⟩ := moves m standing known waiting
      exact ⟨m, later, call, desk_next known attended, more member, named⟩
    · exact new
  · exact ⟨given, kept.given⟩

/-- A plain operation keeps the invariant. -/
theorem plain_kept (plain : op.queueless) (kept : CallsKept ⟨world, history⟩) :
    CallsKept ⟨world.apply op answer, ⟨thread, op, answer⟩ :: history⟩ := by
  apply carried kept (holder_plain plain) (submissions_plain plain) (apply_replyCount _ _ _)
  · intro m standing _ waiting
    refine ⟨standing, attend_plain plain m standing, rfl, ?_, List.Subset.refl _⟩
    rw [queue_plain plain]
    exact waiting
  · refine fun ticket result filled => Or.inl (apply_replies _ _ _ filled ?_)
    rintro rfl
    exact plain.elim
  · apply given_other
    rintro m ticket rfl
    exact plain.elim

/-- A new ticket is one nobody holds. -/
theorem newReply_kept (kept : CallsKept ⟨world, history⟩) :
    CallsKept ⟨world.apply .newReply world.replyCount,
      ⟨thread, .newReply, world.replyCount⟩ :: history⟩ := by
  constructor
  · intro ticket task held
    by_cases fresh : world.replyCount = ticket
    · exact fresh ▸ Nat.lt_succ_self _
    · simp only [holder, fresh, if_false] at held
      exact Nat.lt_succ_of_lt (kept.issued ticket task held)
  · intro m call made
    have held := kept.owned m call made
    have older : world.replyCount ≠ call.ticket := (Nat.ne_of_lt (kept.issued _ _ held)).symm
    simpa only [holder, older, if_false] using held
  · exact kept.once
  · intro m
    obtain ⟨standing, known, rest⟩ := kept.standing m
    exact ⟨standing, desk_next known rfl, rest⟩
  · intro ticket result filled
    obtain ⟨m, standing, call, known, rest⟩ := kept.filled ticket result filled
    exact ⟨m, standing, call, desk_next known rfl, rest⟩
  · exact ⟨given_other (by simp), kept.given⟩

/-- A call that is accepted waits behind the others. -/
theorem submit_kept {m : ManagerId} {ticket : TicketId} {command : Command}
    (kept : CallsKept ⟨world, history⟩) (held : holder ticket history = some thread)
    (fresh : ∀ made, made ∈ submissions history → made.2.ticket ≠ ticket) (accepted : Bool) :
    CallsKept ⟨world.apply (.submit m ticket command) accepted,
      ⟨thread, .submit m ticket command, accepted⟩ :: history⟩ := by
  cases accepted with
  | false =>
    refine carried kept (fun _ => rfl) rfl (Nat.le_refl _) ?_ (fun _ _ => Or.inl) ?_
    · intro other standing _ waiting
      exact ⟨standing, if_neg (by simp), rfl, waiting, List.Subset.refl _⟩
    · exact given_other (by simp)
  | true =>
    let call : Call := ⟨thread, ticket, command⟩
    have made : submissions (⟨thread, .submit m ticket command, true⟩ :: history) =
        (m, call) :: submissions history := rfl
    have arrived : ∀ other standing,
        attend other ⟨thread, .submit m ticket command, true⟩ standing =
          some (if m = other then standing.arrive call else standing) := by
      intro other standing
      simp only [attend, and_true]
      split <;> rfl
    constructor
    · exact kept.issued
    · intro other old member
      rcases List.mem_cons.mp (made ▸ member) with new | old
      · cases new
        exact held
      · exact kept.owned other _ old
    · rw [made]
      refine List.nodup_cons.mpr ⟨?_, kept.once⟩
      intro again
      obtain ⟨old, member, same⟩ := List.mem_map.mp again
      exact fresh old member same
    · intro other
      obtain ⟨standing, known, waiting, calls⟩ := kept.standing other
      refine ⟨_, desk_next known (arrived other standing), ?_, ?_⟩
      · by_cases same : m = other
        · subst same
          simp [World.apply, Desk.arrive, Call.queued, call, waiting]
        · simpa [World.apply, same, assign_other _ _ _ _ (Ne.symm same)] using waiting
      · have grown : accepted other (⟨thread, .submit m ticket command, true⟩ :: history) =
            accepted other history ++ if m = other then [call] else [] := by
          simp only [accepted, made, List.reverse_cons, List.filterMap_append]
          split <;> simp_all
        rw [grown, ← calls]
        split
        · exact Desk.calls_arrive
        · exact (List.append_nil _).symm
    · intro ticket result filled
      obtain ⟨other, standing, old, known, member, ticket⟩ := kept.filled ticket result filled
      refine ⟨other, _, old, desk_next known (arrived other standing), ?_, ticket⟩
      split <;> exact member
    · exact ⟨given_other (by simp), kept.given⟩

/-- The background task takes the call that has waited longest, once it has answered. -/
theorem nextCommand_kept {m : ManagerId} {standing : Desk Call Reply}
    (kept : CallsKept ⟨world, history⟩) (known : desk m history = some standing)
    (idle : standing.serving = none) {next : Option (TicketId × Command)}
    (given : world.gives (.nextCommand m) next = true) :
    CallsKept ⟨world.apply (.nextCommand m) next,
      ⟨thread, .nextCommand m, next⟩ :: history⟩ := by
  obtain rfl : next = (world.queue m).head? := by simpa [World.gives] using given
  cases next : (world.queue m).head? with
  | none =>
    refine carried kept (fun _ => rfl) rfl (Nat.le_refl _) ?_ (fun _ _ => Or.inl) ?_
    · intro other standing _ waiting
      exact ⟨standing, rfl, rfl, waiting, List.Subset.refl _⟩
    · exact given_other (by simp)
  | some taken =>
    refine carried kept (fun _ => rfl) rfl (Nat.le_refl _) ?_ (fun _ _ => Or.inl) ?_
    · intro other found same waiting
      by_cases here : m = other
      · subst here
        obtain rfl := Option.some.inj (known.symm.trans same)
        have queue := List.cons_head?_tail next
        rw [← queue] at waiting
        obtain ⟨call, later, first, named, rest⟩ := List.map_eq_cons_iff.mp waiting
        have takes : standing.take (fun call => call.queued = taken) =
            some ⟨standing.served, some call, later⟩ :=
          Desk.take_some.mpr ⟨call, later, idle, first, by simpa using named, rfl⟩
        refine ⟨_, (if_pos rfl).trans takes, Desk.calls_take takes, ?_, List.Subset.refl _⟩
        simpa [World.apply] using rest
      · refine ⟨found, if_neg here, rfl, ?_, List.Subset.refl _⟩
        simpa [World.apply, assign_other _ _ _ _ (Ne.symm here)] using waiting
    · exact given_other (by simp)

/-- The background task answers the call it has taken. -/
theorem reply_kept {m : ManagerId} {standing : Desk Call Reply} {call : Call} {result : Reply}
    (kept : CallsKept ⟨world, history⟩) (known : desk m history = some standing)
    (serving : standing.serving = some call) :
    CallsKept ⟨world.apply (.reply call.ticket result) (),
      ⟨.actor m, .reply call.ticket result, ()⟩ :: history⟩ := by
  have answers : standing.answer (fun other => other.ticket = call.ticket) result =
      some ⟨standing.served ++ [(call, result)], none, standing.waiting⟩ :=
    Desk.answer_some.mpr ⟨call, serving, by simp, rfl⟩
  refine carried kept (fun _ => rfl) rfl (Nat.le_refl _) ?_ ?_ ?_
  · intro other found same waiting
    by_cases here : m = other
    · subst here
      obtain rfl := Option.some.inj (known.symm.trans same)
      exact ⟨_, (if_pos rfl).trans answers, Desk.calls_answer answers, waiting,
        List.subset_append_left _ _⟩
    · exact ⟨found, if_neg fun same => here (Task.actor.inj same), rfl, waiting,
        List.Subset.refl _⟩
  · intro ticket other filled
    by_cases here : ticket = call.ticket
    · subst here
      obtain rfl : result = other := by simpa [World.apply] using filled
      exact Or.inr ⟨m, _, call, desk_next known ((if_pos rfl).trans answers), by simp, rfl⟩
    · exact Or.inl (by simpa [World.apply, assign_other _ _ _ _ here] using filled)
  · exact given_other (by simp)

/-- A reply received is that to the only call under its ticket. -/
theorem awaitReply_kept {m : ManagerId} {ticket : TicketId} {command : Command}
    (kept : CallsKept ⟨world, history⟩)
    (asked : (m, ⟨thread, ticket, command⟩) ∈ submissions history) {answered : Option Reply}
    (given : world.gives (.awaitReply m ticket) answered = true) :
    CallsKept ⟨world.apply (.awaitReply m ticket) answered,
      ⟨thread, .awaitReply m ticket, answered⟩ :: history⟩ := by
  refine carried kept (fun _ => rfl) rfl (Nat.le_refl _) ?_ (fun _ _ => Or.inl) ?_
  · intro other standing _ waiting
    exact ⟨standing, rfl, rfl, waiting, List.Subset.refl _⟩
  rintro other sent result same
  cases same
  have filled : world.replies ticket = some result := by simpa [World.gives] using given
  obtain ⟨other, standing, call, known, member, named⟩ := kept.filled ticket result filled
  obtain ⟨_, same, _, calls⟩ := kept.standing other
  obtain rfl := Option.some.inj (known.symm.trans same)
  have called : call ∈ standing.calls := Desk.served_calls member
  have sole := List.inj_on_of_nodup_map kept.once (accepted_made (calls ▸ called)) asked named
  obtain ⟨rfl, rfl⟩ := Prod.mk.inj sole
  exact ⟨standing, command, known, member⟩

end Steps

section Callers

/-! The tasks that call. Between them they own the tickets. -/

variable {thread : Task}

/-- The ticket is this task's, and nothing has been submitted under it. -/
def Unused (thread : Task) (ticket : TicketId) (now : Moment) : Prop :=
  holder ticket now.history = some thread ∧
    ∀ made, made ∈ submissions now.history → made.2.ticket ≠ ticket

/-- A ticket is not issued twice. -/
theorem holder_later {ticket : TicketId} {owner : Task} {before after : Moment}
    {event : ClientEvent} (moves : callsSetting.Moves before event after)
    (held : holder ticket before.history = some owner) :
    holder ticket after.history = some owner := by
  obtain ⟨thread, op, answer⟩ := event
  rw [moves.occurs.2]
  cases op with
  | newReply =>
    have given := (exec_iff.mp moves.occurs.1).1
    simp only [World.gives, beq_iff_eq] at given
    have kept : CallsKept before := moves.inv
    have older : answer ≠ ticket := by
      rw [given]
      exact (Nat.ne_of_lt (kept.issued ticket owner held)).symm
    simpa only [holder, older, if_false] using held
  | _ => exact held

/-- A call is submitted by the latest event, or was before. -/
theorem submissions_cons {event : ClientEvent} {earlier : List ClientEvent}
    {made : ManagerId × Call} : made ∈ submissions (event :: earlier) ↔
      submission event = some made ∨ made ∈ submissions earlier := by
  simp only [submissions, List.mem_filterMap, List.mem_cons, or_and_right, exists_or,
    exists_eq_left]

/-- Who performs a submission is the caller. -/
theorem submission_caller {event : ClientEvent} {made : ManagerId × Call}
    (submitted : submission event = some made) : made.2.caller = event.thread := by
  unfold submission at submitted
  split at submitted
  · cases submitted
    rfl
  · exact absurd submitted (by simp)

/-- Other tasks leave a reply channel that its owner has not used. -/
theorem unused_stable (ticket : TicketId) :
    callsSetting.Stable thread (Unused thread ticket) := by
  rintro before after ⟨held, unused⟩ ⟨event, foreign, moves, inv⟩
  have still := holder_later moves held
  have kept : CallsKept after := inv
  refine ⟨still, ?_⟩
  rintro ⟨m, call⟩ member rfl
  have owner := (kept.owned m call member).symm.trans still
  rw [moves.occurs.2] at member
  rcases submissions_cons.mp member with new | old
  · exact foreign ((submission_caller new).symm.trans (Option.some.inj owner))
  · exact unused _ old rfl

/-- A call once made has been made. -/
theorem called_stable (m : ManagerId) (call : Call) :
    callsSetting.Stable thread fun now => (m, call) ∈ submissions now.history := by
  rintro before after asked ⟨event, _, moves, _⟩
  rw [moves.occurs.2]
  exact submissions_cons.mpr (Or.inr asked)

/-- After a step the books are those of the world it leads to. -/
theorem moved {op : Op} {answer : Answer op} {now later : Moment}
    (moves : callsSetting.Moves now ⟨thread, op, answer⟩ later) :
    now.world.gives op answer = true ∧
      later = ⟨now.world.apply op answer, ⟨thread, op, answer⟩ :: now.history⟩ := by
  obtain ⟨given, same⟩ := exec_iff.mp moves.occurs.1
  exact ⟨given, by rw [← same, ← moves.occurs.2]⟩

/-- A plain step keeps the invariant. -/
theorem plain_safe {op : Op} {answer : Answer op} {now later : Moment} (plain : op.queueless)
    (moves : callsSetting.Moves now ⟨thread, op, answer⟩ later) : CallsKept later := by
  obtain ⟨_, rfl⟩ := moved moves
  exact plain_kept plain moves.inv

/-- A plain part keeps the invariant. -/
theorem plain_triple {α : Type} {routine : Routine α} (only : routine.Only Op.queueless) :
    callsSetting.Triple thread (fun _ => True) routine fun _ _ => True :=
  triple_only (stable_const True) only fun _ plain _ _ _ _ moves =>
    ⟨plain_safe plain moves, trivial⟩

/-- A manager is called with a ticket of one's own, and the reply taken is the own. -/
theorem call_triple (m : ManagerId) (command : Command) :
    callsSetting.Triple thread (fun _ => True) (call m command) fun _ _ => True := by
  apply triple_bind (Unused thread)
  · apply triple_ask (stable_const _) unused_stable
    intro now ticket later _ moves
    obtain ⟨given, rfl⟩ := moved moves
    have kept : CallsKept now := moves.inv
    obtain rfl : ticket = now.world.replyCount := by simpa [World.gives] using given
    refine ⟨newReply_kept kept, if_pos rfl, ?_⟩
    rintro ⟨m, made⟩ member same
    exact Nat.lt_irrefl _ (same ▸ kept.issued _ _ (kept.owned m made member))
  intro ticket
  apply triple_bind fun accepted now =>
    accepted = true → (m, ⟨thread, ticket, command⟩) ∈ submissions now.history
  · apply triple_ask (unused_stable ticket) fun _ => (called_stable m _).imp
    rintro now accepted later ⟨held, unused⟩ moves
    obtain ⟨_, rfl⟩ := moved moves
    refine ⟨submit_kept moves.inv held unused accepted, ?_⟩
    rintro rfl
    exact submissions_cons.mpr (Or.inl rfl)
  intro accepted
  split
  · rename_i submitted
    apply triple_bind fun _ _ => True
    · apply triple_ask (called_stable m _).imp fun _ => stable_const _
      intro now answered later asked moves
      obtain ⟨given, rfl⟩ := moved moves
      exact ⟨awaitReply_kept moves.inv (asked submitted) given, trivial⟩
    · exact fun _ => triple_done (stable_const _) fun _ => id
  · exact triple_done (stable_const _) fun _ _ => trivial

/-- Routines that have to do with queues and replies only by calling managers. -/
inductive Calling : {α : Type} → Routine α → Prop
  | plain {α : Type} {routine : Routine α} (only : routine.Only Op.queueless) : Calling routine
  | call (m : ManagerId) (command : Command) : Calling (call m command)
  | bind {α β : Type} {first : Routine α} {after : α → Routine β} (one : Calling first)
      (two : ∀ value, Calling (after value)) : Calling (first >>= after)

/-- A part that only calls managers keeps the invariant. -/
theorem calling_triple {α : Type} {routine : Routine α} (calling : Calling routine) :
    callsSetting.Triple thread (fun _ => True) routine fun _ _ => True := by
  induction calling with
  | plain only => exact plain_triple only
  | call m command => exact call_triple m command
  | bind _ _ first after => exact triple_bind (fun _ _ => True) first after

end Callers

section Entries

/-! Every web request and every method of a manager calls only in this way. -/

/-- A plain operation is such a part. -/
theorem calling_ask {op : Op} (plain : op.queueless) : Calling (ask op) := .plain (only_ask _ plain)

/-- A value is such a part. -/
theorem calling_return {α : Type} (value : α) : Calling (pure value : Routine α) := .plain trivial

/-- Having the session closed is a call. -/
theorem closeSession_calling (m : ManagerId) : Calling (closeSession m) :=
  .bind (calling_ask trivial) fun _ => .call m _

/-- Having the modem disconnected is a call. -/
theorem disconnectModem_calling (m : ManagerId) : Calling (disconnectModem m) :=
  .bind (calling_ask trivial) fun _ => .call m _

/-- Disconnecting is a call. -/
theorem apiDisconnectHandler_calling : Calling apiDisconnectHandler := by
  refine .bind (calling_ask trivial) fun m => ?_
  apply Calling.bind (closeSession_calling m)
  intro result
  split
  · exact .bind (calling_ask trivial) fun _ => calling_return _
  · exact calling_return _

/-- A decision of the operator calls nobody. -/
theorem apiConsentPost_calling (decision : Decision) : Calling (apiConsentPost decision) := by
  refine .bind (calling_ask trivial) fun sender => ?_
  split
  · apply Calling.bind
    · unfold recordIfAccepted
      split
      · refine .bind (calling_ask trivial) fun awaited => ?_
        split
        · exact calling_ask trivial
        · exact calling_return _
      · exact calling_return _
    · exact fun _ => .bind (calling_ask trivial) fun _ => calling_return _
  · exact calling_return _

/-- Having a session opened is a call. -/
theorem openThrough_calling (request : ConnectRequest) (m : ManagerId) :
    Calling (openThrough request m) := by
  apply Calling.bind (.call m _)
  intro result
  split
  · exact .bind (calling_ask trivial) fun _ => calling_return _
  · exact calling_return _

/-- Connecting by VARA is a call or more. -/
theorem connectVara_calling (request : ConnectRequest) (kind : TransportKind) :
    Calling (connectVara request kind) := by
  refine .bind (calling_ask trivial) fun localCallsign => ?_
  refine .bind (calling_ask trivial) fun m => ?_
  apply Calling.bind (.call m _)
  intro connected
  split
  · exact calling_return _
  · exact .bind (calling_ask trivial) fun _ => openThrough_calling request m

/-- A connect request is a call or more. -/
theorem apiConnectHandler_calling (request : ConnectRequest) :
    Calling (apiConnectHandler request) := by
  unfold apiConnectHandler
  split
  · apply Calling.bind
    · unfold resolveTransport
      split
      · exact calling_return _
      · exact .bind (calling_ask trivial) fun _ => calling_return _
    · intro resolved
      cases resolved with
      | error message => exact calling_return _
      | ok kind =>
        cases kind with
        | ax25 => exact .bind (calling_ask trivial) (openThrough_calling request)
        | varaFm => exact connectVara_calling request _
        | varaHf => exact connectVara_calling request _
  · exact calling_return _

section Browsing

variable (url : Text)

/-- Rendering a response calls nobody. -/
theorem renderResponse_calling (cacheForWrite : Bool) (cachedEtag : Option Text)
    (responseData : Bytes) : Calling (renderResponse url cacheForWrite cachedEtag responseData) := by
  unfold renderResponse
  split
  · exact calling_return _
  · split
    · split
      · refine .bind (calling_ask trivial) fun _ => ?_
        refine .bind (calling_ask trivial) fun hit => ?_
        split <;> exact calling_return _
      · exact calling_return _
    · split
      · exact calling_return _
      · refine .bind ?_ fun _ => calling_return _
        unfold storePage
        split
        · exact calling_ask trivial
        · exact calling_return _
    · split <;> exact calling_return _

/-- A request over the air is a call. -/
theorem dispatchAx25_calling (autoReconnect : Bool) (request : Request) (cacheForWrite : Bool) :
    Calling (dispatchAx25 url autoReconnect request cacheForWrite) := by
  refine .bind (calling_ask trivial) fun m => ?_
  apply Calling.bind
  · unfold sendEncoded
    split <;> exact .call m _
  · intro result
    unfold renderResult
    split
    · exact renderResponse_calling url _ _ _
    all_goals exact calling_return _

/-- Browsing a page is a call at most. -/
theorem browseGet_calling (autoReconnect hasCache nocache : Bool)
    (browserIfNoneMatch : Option Text) :
    Calling (browseGet url autoReconnect hasCache nocache browserIfNoneMatch) := by
  apply Calling.bind
  · unfold serveFresh
    split
    · refine .bind (calling_ask trivial) fun hit => ?_
      split
      · split
        · exact .bind (calling_ask trivial) fun _ => calling_return _
        · exact calling_return _
      · exact calling_return _
    · exact calling_return _
  · intro fresh
    split
    · exact calling_return _
    · refine .bind ?_ fun cachedEtag => dispatchAx25_calling url _ _ _
      unfold lookupEtag
      split
      · exact .bind (calling_ask trivial) fun _ => calling_return _
      · exact calling_return _

/-- Browsing is a call at most. -/
theorem handleBrowse_calling (autoReconnect hasCache : Bool) (postBody : Option Bytes)
    (nocache : Bool) (browserIfNoneMatch : Option Text) :
    Calling (handleBrowse url autoReconnect hasCache postBody nocache browserIfNoneMatch) := by
  refine .bind (calling_ask trivial) fun state => ?_
  split
  · exact calling_return _
  · split
    · exact dispatchAx25_calling url _ _ _
    · exact browseGet_calling url _ _ _ _

end Browsing

/-- What is called for its effects is still a call. -/
theorem discard_calling {α : Type} {routine : Routine α} (calling : Calling routine) :
    Calling (discard routine) := .bind calling fun _ => calling_return _

/-- Every web request and every direct call is one. -/
theorem entry_calling (entry : Entry) : Calling entry.routine := by
  cases entry with
  | connectModem m config => exact discard_calling (.call m _)
  | disconnectModem m => exact discard_calling (disconnectModem_calling m)
  | queryPorts m => exact discard_calling (.call m _)
  | openSession m target portNum => exact discard_calling (.call m _)
  | closeSession m => exact discard_calling (closeSession_calling m)
  | sendRequest m data => exact discard_calling (.call m _)
  | sendRequestWithReconnect m data => exact discard_calling (.call m _)
  | consentGet => exact discard_calling (calling_ask trivial)
  | consentPost decision => exact discard_calling (apiConsentPost_calling decision)
  | connect request => exact discard_calling (apiConnectHandler_calling request)
  | disconnect => exact discard_calling apiDisconnectHandler_calling
  | browse url autoReconnect hasCache postBody nocache browserIfNoneMatch =>
    exact discard_calling (handleBrowse_calling url _ _ _ _ _)

end Entries

section Managers

/-! The background task of a manager, which is the one behind its desk. -/

variable {m : ManagerId}

/-- Nothing is being served. -/
def Idle (m : ManagerId) (now : Moment) : Prop :=
  ∃ standing, desk m now.history = some standing ∧ standing.serving = none

/-- This command is being served. -/
def Attends (m : ManagerId) (taken : TicketId × Command) (now : Moment) : Prop :=
  ∃ standing call, desk m now.history = some standing ∧ standing.serving = some call ∧
    call.queued = taken

/-- Nobody else takes or answers calls. -/
theorem attend_foreign {event : ClientEvent} (foreign : event.thread ≠ .actor m)
    (permitted : event.thread.allowed event.op) (standing : Desk Call Reply) :
    ∃ after, attend m event standing = some after ∧ after.serving = standing.serving := by
  obtain ⟨thread, op, answer⟩ := event
  cases op with
  | submit manager ticket command =>
    simp only [attend]
    split
    · exact ⟨_, rfl, rfl⟩
    · exact ⟨_, rfl, rfl⟩
  | nextCommand manager =>
    have different : manager ≠ m := by
      rintro rfl
      exact foreign (owner_performs rfl permitted)
    cases answer with
    | none => exact ⟨_, rfl, rfl⟩
    | some taken => exact ⟨_, if_neg different, rfl⟩
  | reply ticket result => exact ⟨_, if_neg foreign, rfl⟩
  | _ => exact ⟨_, rfl, rfl⟩

/-- Other tasks leave a background task idle. -/
theorem idle_stable : callsSetting.Stable (.actor m) (Idle m) := by
  rintro before after ⟨standing, known, idle⟩ ⟨event, foreign, moves, _⟩
  obtain ⟨later, attended, same⟩ := attend_foreign foreign moves.met standing
  rw [Idle, moves.occurs.2]
  exact ⟨later, desk_next known attended, same.trans idle⟩

/-- Other tasks leave the call that a background task attends to. -/
theorem attends_stable (taken : TicketId × Command) :
    callsSetting.Stable (.actor m) (Attends m taken) := by
  rintro before after ⟨standing, call, known, serving, queued⟩ ⟨event, foreign, moves, _⟩
  obtain ⟨later, attended, same⟩ := attend_foreign foreign moves.met standing
  rw [Attends, moves.occurs.2]
  exact ⟨later, call, desk_next known attended, same.trans serving, queued⟩

/-- Serving a command takes no other one. -/
theorem starts_plain {purposes : Purpose → Prop} {op : Op} (starting : starts m purposes op) :
    op.queueless := by
  rcases starting with rfl | serving
  · trivial
  · cases op <;> trivial

/-- While a command is served the desk stays as it is. -/
theorem attends_plain {taken : TicketId × Command} {op : Op} {answer : Answer op}
    {now later : Moment} (plain : op.queueless) (attends : Attends m taken now)
    (moves : callsSetting.Moves now ⟨.actor m, op, answer⟩ later) : Attends m taken later := by
  obtain ⟨standing, call, known, rest⟩ := attends
  rw [Attends, moves.occurs.2]
  exact ⟨standing, call, desk_next known (attend_plain plain m standing), rest⟩

/-- The background task takes calls in their order and answers each. -/
theorem backgroundTask_calls (configuredTimeout : Nat) :
    callsSetting.Triple (.actor m) (Idle m) (backgroundTask m configuredTimeout)
      fun _ _ => True := by
  apply backgroundTask_triple (fun next now => ∀ taken, next = some taken → Attends m taken now)
    (fun ticket _ now => ∃ command, Attends m (ticket, command) now)
  · exact idle_stable
  · apply triple_ask idle_stable
    · intro next before after attends elsewhere taken same
      exact attends_stable taken _ _ (attends taken same) elsewhere
    rintro now next later ⟨standing, known, idle⟩ moves
    obtain ⟨given, rfl⟩ := moved moves
    have kept : CallsKept ⟨_, ⟨.actor m, .nextCommand m, next⟩ :: now.history⟩ :=
      nextCommand_kept moves.inv known idle given
    refine ⟨kept, ?_⟩
    rintro taken rfl
    obtain ⟨after, same, _⟩ := kept.standing m
    have takes : standing.take (fun call => call.queued = taken) = some after := by
      rw [desk, known] at same
      exact (if_pos rfl).symm.trans same
    obtain ⟨call, _, _, _, named, rfl⟩ := Desk.take_some.mp takes
    exact ⟨_, call, same, rfl, of_decide_eq_true named⟩
  · intro timeoutSecs localCallsign ticket command
    apply Triple.consequence (triple_only (attends_stable (ticket, command))
      (runCommand_only m timeoutSecs localCallsign command) _)
    · exact fun now attends => attends _ rfl
    · exact fun _ _ attends => ⟨command, attends⟩
    · intro op starting now answer later attends moves
      exact ⟨plain_safe (starts_plain starting) moves,
        attends_plain (starts_plain starting) attends moves⟩
  · intro ticket result
    apply triple_ask _ fun _ => idle_stable
    · rintro now answer later ⟨command, standing, call, known, serving, queued⟩ moves
      obtain ⟨_, rfl⟩ := moved moves
      obtain ⟨rfl, rfl⟩ := Prod.mk.inj queued
      have kept : CallsKept ⟨_,
          ⟨.actor m, .reply call.ticket result, answer⟩ :: now.history⟩ :=
        reply_kept moves.inv known serving
      refine ⟨kept, ?_⟩
      obtain ⟨after, same, _⟩ := kept.standing m
      have answers : standing.answer (fun other => other.ticket = call.ticket) result =
          some after := by
        rw [desk, known] at same
        exact (if_pos rfl).symm.trans same
      obtain ⟨_, _, _, rfl⟩ := Desk.answer_some.mp answers
      exact ⟨_, same, rfl⟩
    · rintro before after ⟨command, attends⟩ elsewhere
      exact ⟨command, attends_stable _ _ _ attends elsewhere⟩

end Managers

/-- Every task of the client keeps the invariant. -/
theorem client_calls (entries : Nat → Entry) (configuredTimeout : ManagerId → Nat) (task : Task) :
    callsSetting.Safe task ((client entries configuredTimeout).threads task) (fun _ _ => True)
      ⟨World.initial, []⟩ := by
  cases task with
  | actor m => exact backgroundTask_calls _ _ ⟨_, rfl, rfl⟩
  | handler index => exact calling_triple (entry_calling (entries index)) _ trivial
  | peer m =>
    refine plain_triple (only_loop _ (fun _ => ?_) _) _ trivial
    exact only_bind _ (only_ask _ trivial) fun _ => trivial

/-- At the start there are no calls. -/
theorem initial_calls : CallsKept ⟨World.initial, []⟩ where
  issued _ _ held := absurd held (by simp [holder])
  owned _ _ member := absurd member List.not_mem_nil
  once := List.nodup_nil
  standing _ := ⟨_, rfl, rfl, rfl⟩
  filled _ _ filled := absurd filled (by simp [World.initial])
  given := trivial

/-- Whatever the interleaving of web requests and background tasks, every manager is a desk
that serves its calls one at a time and in the order in which it accepted them, no two
calls share a ticket, and every task is given the result of its own call.

The books of tickets, desks and replies are kept by every operation of a task that does what is
its own to do. -/
theorem calls_answered_in_turn (entries : Nat → Entry) (configuredTimeout : ManagerId → Nat)
    (pool : Pool World Task Answer)
    (reaches : Reaches exec (fun _ _ => True) (client entries configuredTimeout) pool) :
    (∀ m, AtDesk m pool.now) ∧
      ((submissions pool.now.history).map fun made => made.2.ticket).Nodup ∧
      Throughout GivenOwn pool.now.history := by
  have roles : Reaches exec callsSetting.meets (client entries configuredTimeout) pool :=
    (client_roles reaches).mono fun _ _ met => met.2
  have kept : CallsKept pool.now ∧ _ := sound (S := callsSetting) roles initial_calls
    (client_calls entries configuredTimeout)
  exact ⟨kept.1.standing, kept.1.once, kept.1.given⟩

/-- Two web requests disconnect manager 0 at the same time, and the modem refuses the
second. -/
def disconnecting : List ClientEvent :=
  [ (Task.handler 0).does (.storeAbort 0 true) (),
    (Task.handler 0).does .newReply 0,
    (Task.handler 1).does (.storeAbort 0 true) (),
    (Task.handler 1).does .newReply 1,
    (Task.handler 1).does (.submit 0 1 .disconnectModem) true,
    (Task.handler 0).does (.submit 0 0 .disconnectModem) true,
    (Task.actor 0).does (.nextCommand 0) (some (1, .disconnectModem)),
    (Task.actor 0).does (.modem 0 .disconnectModem) ⟨.ok (), none, .kept⟩,
    (Task.actor 0).does (.reply 1 (.ok [])) (),
    (Task.actor 0).does (.nextCommand 0) (some (0, .disconnectModem)),
    (Task.handler 1).does (.awaitReply 0 1) (some (.ok [])),
    (Task.actor 0).does (.modem 0 .disconnectModem) ⟨.error .timeout, none, .kept⟩,
    (Task.actor 0).does (.reply 0 (.error .timeout)) (),
    (Task.handler 0).does (.awaitReply 0 0) (some (.error .timeout)) ]

/-- A disconnect is called for and answered. -/
theorem calls_answered_in_turn_sample :
    ∃ pool : Pool World Task Answer, pool.now.history = disconnecting.reverse ∧
      (∀ m, AtDesk m pool.now) ∧
      ((submissions pool.now.history).map fun made => made.2.ticket).Nodup ∧
      Throughout GivenOwn pool.now.history := by
  obtain ⟨pool, reaches, history⟩ := client_replays (fun _ _ => true)
    (fun _ => .disconnectModem 0) (fun _ => 30) disconnecting (by decide)
  exact ⟨pool, history, calls_answered_in_turn _ _ pool (reaches.mono fun _ _ _ => trivial)⟩

/-- The desk of that manager in the end. -/
example : desk 0 disconnecting.reverse =
    some ⟨[(⟨.handler 1, 1, .disconnectModem⟩, .ok []),
      (⟨.handler 0, 0, .disconnectModem⟩, .error .timeout)], none, []⟩ := by decide

end PacketBrowser.Client
