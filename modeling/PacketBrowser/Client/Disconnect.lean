import PacketBrowser.Client.Requests

/-!
# What a disconnect stops

Closing a session or disconnecting the modem raises the abort flag of a manager from
outside its background task. From then on nothing may be requested or agreed to
until a command that opens or connects, issued later, has cleared the flag:
`settled` reads this off the history.

The background task clears the flag whenever it starts on such a command, also on one
issued before the disconnect, and a handshake that waits for the operator does not
look at the flag again. `obeysDisconnect` excludes exactly these two.
-/

namespace PacketBrowser.Client

open Protocol Foundation Program Setting

section History

/-- What happened after each marked event, newest events first. -/
def sinceEach (mark : ClientEvent → Bool) : List ClientEvent → List (List ClientEvent)
  | [] => []
  | event :: earlier =>
    let continued := (sinceEach mark earlier).map (event :: ·)
    if mark event then [] :: continued else continued

/-- A call from outside raises the abort flag. -/
def disconnects (m : ManagerId) (event : ClientEvent) : Bool :=
  event.op == .storeAbort m true && event.thread != .actor m

/-- The command with this ticket is issued. -/
def issues (ticket : TicketId) (event : ClientEvent) : Bool :=
  match event.op, event.answer with
  | .newReply, issued => issued == ticket
  | _, _ => false

/-- The command being served was issued in this stretch. -/
def issuedSince (m : ManagerId) (since : List ClientEvent) : Bool :=
  match serving m since with
  | some (ticket, _) => since.any (issues ticket)
  | none => false

/-- The flag was cleared for a command that connects or opens and was issued in this
stretch. -/
def reenabled (m : ManagerId) : List ClientEvent → Bool
  | [] => false
  | event :: middle =>
    event.op == .storeAbort m false && issuedSince m middle &&
      (serving m middle).any (·.2.enables) || reenabled m middle

/-- Every disconnect was followed by a command, issued later, that enables requests
again. -/
def settled (m : ManagerId) (history : List ClientEvent) : Bool :=
  (sinceEach (disconnects m) history).all (reenabled m)

/-- The history up to the last action of the background task if that was a look at the
abort flag. -/
def lastCheck (m : ManagerId) : List ClientEvent → Option (List ClientEvent)
  | [] => none
  | event :: earlier =>
    if event.thread = .actor m then
      if event.op = .loadAbort m then some (event :: earlier) else none
    else lastCheck m earlier

/-- A request or a consent is written only when every disconnect is settled. A check of
the flag and the write directly behind it are one step. -/
def DisconnectWins (m : ManagerId) (event : ClientEvent) (earlier : List ClientEvent) : Prop :=
  ∀ purpose data, event.op = .send m purpose data → purpose.binding = true →
    settled m ((lastCheck m earlier).getD earlier) = true

/-- The flag is cleared only for commands issued after every disconnect so far, and the
consent of an operator is sent only while it is clear. -/
def obeysDisconnect (m : ManagerId) (now : Moment) (event : ClientEvent) : Bool :=
  match event.op with
  | .storeAbort manager false =>
    manager != m || (sinceEach (disconnects m) now.history).all (issuedSince m)
  | .send manager (.agreeByOperator _) _ => manager != m || !now.world.abort m
  | _ => true

variable {m : ManagerId}

/-- What happened after a mark is the newest part of the history. -/
theorem sinceEach_earlier (mark : ClientEvent → Bool) (history since : List ClientEvent)
    (member : since ∈ sinceEach mark history) : since <+: history := by
  induction history generalizing since with
  | nil => exact absurd member (by simp [sinceEach])
  | cons event earlier inductionHypothesis =>
    have grown : ∀ later ∈ (sinceEach mark earlier).map (event :: ·), later <+: event :: earlier := by
      intro later inside
      obtain ⟨shorter, found, rfl⟩ := List.mem_map.mp inside
      exact List.prefix_cons_inj event |>.mpr (inductionHypothesis shorter found)
    unfold sinceEach at member
    by_cases marked : mark event = true
    · simp only [marked, if_true, List.mem_cons] at member
      rcases member with rfl | inside
      · exact List.nil_prefix
      · exact grown since inside
    · simp only [marked] at member
      exact grown since member

/-- The newest part of the history tells which command is served, if one was taken in it. -/
theorem serving_earlier (since history : List ClientEvent) (taken : TicketId × Command)
    (initial : since <+: history) (served : serving m since = some taken) :
    serving m history = some taken := by
  obtain ⟨rest, rfl⟩ := initial
  induction since with
  | nil => exact absurd served (by simp [serving])
  | cons event earlier inductionHypothesis =>
    simp only [List.cons_append]
    unfold serving at served ⊢
    split at served
    · split at served
      · rename_i same
        simp only [same, if_true]
        exact served
      · rename_i other
        simp only [other, if_false]
        exact inductionHypothesis served
    · exact inductionHypothesis served

/-- Nothing but a disconnect unsettles. -/
theorem settled_later (event : ClientEvent) (history : List ClientEvent)
    (other : disconnects m event = false) (before : settled m history = true) :
    settled m (event :: history) = true := by
  simp only [settled, sinceEach, other, Bool.false_eq_true, if_false, List.all_map, List.all_eq_true,
    Function.comp_apply] at before ⊢
  intro since member
  simp [reenabled, before since member]

/-- Clearing the flag settles every disconnect before the command was issued. -/
theorem settled_cleared (event : ClientEvent) (history : List ClientEvent)
    (taken : TicketId × Command) (cleared : event.op = .storeAbort m false)
    (served : serving m history = some taken) (enables : taken.2.enables = true)
    (issued : (sinceEach (disconnects m) history).all (issuedSince m) = true) :
    settled m (event :: history) = true := by
  have other : disconnects m event = false := by simp [disconnects, cleared]
  simp only [settled, sinceEach, other, Bool.false_eq_true, if_false, List.all_map, List.all_eq_true,
    Function.comp_apply] at issued ⊢
  intro since member
  have issuedHere := issued since member
  have current : serving m since = some taken := by
    cases known : serving m since with
    | none => simp [issuedSince, known] at issuedHere
    | some other =>
      rw [← serving_earlier since history other (sinceEach_earlier _ _ _ member) known, served]
  simp [reenabled, cleared, issuedHere, current, enables]

/-- Only the background task itself looks at the flag. -/
theorem lastCheck_foreign {event : ClientEvent} (foreign : event.thread ≠ .actor m)
    (earlier : List ClientEvent) : lastCheck m (event :: earlier) = lastCheck m earlier := by
  simp [lastCheck, foreign]

end History

/-- While the flag is clear every disconnect is settled. -/
structure DisconnectKept (m : ManagerId) (now : Moment) : Prop where
  clear : now.world.abort m = false → settled m now.history = true
  stopped : Throughout (DisconnectWins m) now.history

section Proof

variable (m : ManagerId)

/-- Runs in which no disconnect is passed over. -/
def disconnectSetting : Setting World Task Answer where
  exec := exec
  meets now event := obeysDisconnect m now event = true ∧ event.thread.allowed event.op
  inv := DisconnectKept m

variable {m}

/-- A step keeps the invariant if it does not clear the flag and writes only what is
settled. -/
theorem disconnect_kept {before after : Moment} {event : ClientEvent}
    (moves : (disconnectSetting m).Moves before event after)
    (store : event.op ≠ .storeAbort m false)
    (write : DisconnectWins m event before.history) : DisconnectKept m after := by
  obtain ⟨world, history⟩ := after
  obtain ⟨thread, op, answer⟩ := event
  obtain ⟨executed, grown⟩ := moves.occurs
  have kept : DisconnectKept m before := moves.inv
  obtain rfl := (exec_iff.mp executed).2
  obtain rfl : history = ⟨thread, op, answer⟩ :: before.history := grown
  constructor
  · intro clear
    by_cases raised : op = .storeAbort m true
    · subst raised
      exact absurd clear (by simp [World.apply])
    · have same : (before.world.apply op answer).abort m = before.world.abort m := by
        apply apply_abort
        intro value equal
        cases value with
        | true => exact raised equal
        | false => exact store equal
      apply settled_later
      · simp [disconnects, raised]
      · exact kept.clear (same.symm.trans clear)
  · exact ⟨write, kept.stopped⟩

/-- What neither clears the flag nor is stopped by it. -/
def Op.unstopped (m : ManagerId) (op : Op) : Prop :=
  op ≠ .storeAbort m false ∧ ∀ purpose data, op = .send m purpose data → purpose.binding = false

/-- A step that opens nothing keeps the invariant. -/
theorem disconnect_unstopped {before after : Moment} {event : ClientEvent}
    (moves : (disconnectSetting m).Moves before event after) (harmless : event.op.unstopped m) :
    DisconnectKept m after := by
  apply disconnect_kept moves harmless.1
  intro purpose data same gated
  exact absurd gated (by simp [harmless.2 purpose data same])

/-- An operation that opens nothing keeps the invariant. -/
theorem unstopped_harmless (op : Op) (harmless : op.unstopped m) (now : Moment)
    (answer : Answer op) (later : Moment) (_ : True)
    (moves : (disconnectSetting m).Moves now ⟨.actor m, op, answer⟩ later) :
    (disconnectSetting m).inv later ∧ True :=
  ⟨disconnect_unstopped moves harmless, trivial⟩

/-- What a task does for a command, short of agreeing, opens nothing. -/
theorem serves_unstopped (op : Op) (serving : serves m (·.binding = false) op) :
    op.unstopped m := by
  constructor
  · rintro rfl
    exact absurd serving.2 (by simp)
  · rintro purpose data rfl
    exact serving.2

/-- The last action of the background task was a look at the flag that settled every
disconnect. -/
def Checked (m : ManagerId) (now : Moment) : Prop :=
  ∃ checked, lastCheck m now.history = some checked ∧ settled m checked = true

/-- The last action of the background task was no look at the flag. -/
def Unchecked (m : ManagerId) (now : Moment) : Prop := lastCheck m now.history = none

/-- Other tasks leave a check that has been made. -/
theorem checked_stable : (disconnectSetting m).Stable (.actor m) (Checked m) := by
  rintro before after holds ⟨event, foreign, moves, _⟩
  rw [Checked, moves.occurs.2, lastCheck_foreign foreign]
  exact holds

/-- Other tasks leave a check that is due. -/
theorem unchecked_stable : (disconnectSetting m).Stable (.actor m) (Unchecked m) := by
  rintro before after holds ⟨event, foreign, moves, _⟩
  rw [Unchecked, moves.occurs.2, lastCheck_foreign foreign]
  exact holds

/-- Behind the check the flag was read. -/
theorem bailIfAborted_checked :
    (disconnectSetting m).Triple (.actor m) (fun _ => True) (bailIfAborted m).run
      (outcome (fun _ => Checked m) fun _ _ => True) := by
  refine triple_ask_return (stable_const _)
    (stable_outcome (fun _ => checked_stable) fun _ => stable_const _) ?_
  intro now aborted later _ moves
  have kept : DisconnectKept m later := disconnect_unstopped moves ⟨by simp, by simp⟩
  refine ⟨kept, ?_⟩
  cases aborted with
  | true => trivial
  | false =>
    obtain ⟨given, same⟩ := exec_iff.mp moves.occurs.1
    have clear : later.world.abort m = false := by
      rw [same, apply_abort _ _ _ _ (by simp)]
      simpa [World.gives] using given
    refine ⟨later.history, ?_, kept.clear clear⟩
    rw [moves.occurs.2]
    simp [lastCheck]

/-- What is written directly behind the check is settled. -/
theorem sendBytes_checked (purpose : Purpose) (data : Bytes) :
    (disconnectSetting m).Triple (.actor m) (Checked m) (sendBytes m purpose data).run
      fun _ _ => True := by
  refine triple_ask_return checked_stable (fun _ => stable_const _) ?_
  intro now answer later checked moves
  refine ⟨disconnect_kept moves (by simp) ?_, trivial⟩
  intro _ _ _ _
  obtain ⟨history, found, settles⟩ := checked
  rw [found]
  exact settles

/-- A request keeps the invariant. -/
theorem handleSendRequest_stops (timeoutSecs : Nat) (data : Bytes) :
    (disconnectSetting m).Triple (.actor m) (fun _ => True)
      (handleSendRequest m timeoutSecs data).run fun _ _ => True := by
  refine triple_attempt (fun _ => Checked m) (fun _ => stable_const _) bailIfAborted_checked
    fun _ => ?_
  refine triple_attempt (fun _ _ => True) (fun _ => stable_const _)
    ((sendBytes_checked .request data).consequence (fun _ => id)
      (by rintro (error | value) _ _ <;> trivial)) fun _ => ?_
  exact triple_only (stable_const _) ((receiveResponse_listens m timeoutSecs).mono fun op listen =>
    serves_unstopped op (listens_serves m op listen)) unstopped_harmless

/-- The consent of a reconnect is written directly behind a check. -/
theorem reestablish_stops (reason localCallsign : Text) :
    (disconnectSetting m).Triple (.actor m) (fun _ => True) (reestablish m reason localCallsign).run
      fun _ _ => True := by
  refine triple_attempt_only (stable_const _) ((receiveAgain_reopens m reason localCallsign).mono
    fun op reopen => serves_unstopped op (reopens_serves m (by rfl) (by rfl) op reopen)) unstopped_harmless
    (fun _ => stable_const _) (fun _ _ => id) fun disclaimer => ?_
  refine triple_attempt_only (stable_const _) ((requireAgreed_serves m disclaimer).mono
    serves_unstopped) unstopped_harmless (fun _ => stable_const _) (fun _ _ => id) fun _ => ?_
  refine triple_attempt (fun _ => Checked m) (fun _ => stable_const _) bailIfAborted_checked
    fun _ => ?_
  refine triple_attempt (fun _ _ => True) (fun _ => stable_const _)
    ((sendBytes_checked _ agreeBytes).consequence (fun _ => id)
      (by rintro (error | value) _ _ <;> trivial)) fun _ => ?_
  exact triple_only (stable_const _) (only_lift _ ((setState_serves m _).mono serves_unstopped))
    unstopped_harmless

/-- After the operator's answer the flag is not looked at again. -/
theorem askOperator_unchecked (disclaimer : Text) :
    (disconnectSetting m).Triple (.actor m) (fun _ => True) (askOperator disclaimer).run
      (outcome (fun _ => Unchecked m) fun _ _ => True) := by
  have final : ∀ {α : Type} (result : Except AgwpeError α), (disconnectSetting m).Stable (.actor m)
      (outcome (fun _ => Unchecked m) (fun _ _ => True) result) :=
    fun result => stable_outcome (fun _ => unchecked_stable) (fun _ => stable_const _) result
  refine triple_attempt_only (stable_const _) (only_lift _ (only_ask (Op.unstopped m)
    ⟨by simp, by simp⟩)) unstopped_harmless (fun _ => stable_const _) (fun _ _ => id)
    fun consent => ?_
  refine triple_attempt (fun _ => Unchecked m) (fun _ => stable_const _) ?_ fun accepted => ?_
  · refine triple_bind (fun _ => Unchecked m) ?_ fun waited => ?_
    · apply triple_ask (stable_const _) (fun _ => unchecked_stable)
      intro now waited later _ moves
      refine ⟨disconnect_unstopped moves ⟨by simp, by simp⟩, ?_⟩
      rw [Unchecked, moves.occurs.2]
      simp [lastCheck]
    · cases waited with
      | decided accepted => exact triple_done (final _) fun _ => id
      | senderDropped => exact triple_done (final _) fun _ => id
      | timedOut =>
        refine triple_bind (fun _ _ => True) ?_ fun _ => triple_done (final _) fun _ => id
        exact (triple_only (stable_const True) (only_ask (Op.unstopped m) ⟨by simp, by simp⟩)
          unstopped_harmless).consequence (fun _ _ => trivial) fun _ _ => id
  · cases accepted with
    | true => exact triple_done (final _) fun _ => id
    | false => exact triple_done (final _) fun _ _ => trivial

/-- The handshake agrees to nothing behind a disconnect. -/
theorem performBpqHandshake_stops (localCallsign : Text) :
    (disconnectSetting m).Triple (.actor m) (fun _ => True) (performBpqHandshake m localCallsign).run
      fun _ _ => True := by
  refine triple_attempt_only (stable_const _) ((receiveDisclaimer_talks m localCallsign).mono
    fun op talk => serves_unstopped op (talks_serves m (by rfl) (by rfl) op talk)) unstopped_harmless
    (fun _ => stable_const _) (fun _ _ => id) fun receivedText => ?_
  refine triple_attempt (fun _ => Unchecked m) (fun _ => stable_const _)
    (askOperator_unchecked receivedText) fun _ => ?_
  refine triple_ask_return unchecked_stable (fun _ => stable_const _) ?_
  intro now answer later unchecked moves
  refine ⟨disconnect_kept moves (by simp) ?_, trivial⟩
  intro _ _ _ _
  have kept : DisconnectKept m now := moves.inv
  have met := moves.met.1
  simp only [obeysDisconnect, bne_self_eq_false, Bool.false_or, Bool.not_eq_true'] at met
  rw [show lastCheck m now.history = none from unchecked]
  exact kept.clear met

/-- Other tasks leave the command that is served. -/
theorem served_stable (taken : TicketId × Command) :
    (disconnectSetting m).Stable (.actor m) (Serves m taken) := by
  apply serves_stable
  exact fun _ _ met => met.2

/-- A command that may follow a disconnect clears the flag. -/
theorem resetAbort_stops (taken : TicketId × Command) (enables : taken.2.enables = true) :
    (disconnectSetting m).Triple (.actor m) (Serves m taken) (resetAbort m) fun _ _ => True := by
  refine triple_ask (served_stable taken) (fun _ => stable_const _) ?_
  intro now answer later served moves
  have kept : DisconnectKept m now := moves.inv
  have met := moves.met.1
  simp only [obeysDisconnect, bne_self_eq_false, Bool.false_or] at met
  refine ⟨⟨fun _ => ?_, ?_⟩, trivial⟩
  · rw [moves.occurs.2]
    exact settled_cleared _ _ taken rfl served enables met
  · rw [moves.occurs.2]
    exact ⟨by simp [DisconnectWins], kept.stopped⟩

/-- What is known of a command just taken from the queue. -/
def takenServed (m : ManagerId) (now : Moment) : Option (TicketId × Command) → Prop
  | none => True
  | some taken => Serves m taken now

/-- The background task keeps the invariant. -/
theorem backgroundTask_stops (configuredTimeout : Nat) :
    (disconnectSetting m).Triple (.actor m) (fun _ => True) (backgroundTask m configuredTimeout)
      fun _ _ => True := by
  apply backgroundTask_triple (fun next now => takenServed m now next) (fun _ _ _ => True)
  · exact stable_const _
  · refine triple_ask (stable_const _) ?_ fun now answer later _ moves => ?_
    · rintro (_ | taken)
      · exact stable_const _
      · exact served_stable taken
    refine ⟨disconnect_unstopped moves ⟨by simp, by simp⟩, ?_⟩
    cases answer with
    | none => trivial
    | some taken =>
      show Serves m taken later
      rw [Serves, moves.occurs.2]
      simp [serving]
  · intro timeoutSecs localCallsign ticket command
    exact runCommand_triple (fun op serving now answer later moves =>
      disconnect_unstopped moves (serves_unstopped op serving)) performBpqHandshake_stops
      reestablish_stops handleSendRequest_stops (resetAbort_stops (ticket, command))
      timeoutSecs localCallsign
  · intro ticket result
    exact triple_only (stable_const _) (only_ask (Op.unstopped m) ⟨by simp, by simp⟩)
      unstopped_harmless

/-- No task of the client other than the background task writes or clears the flag. -/
theorem client_stops (entries : Nat → Entry) (configuredTimeout : ManagerId → Nat) (task : Task)
    (now : Moment) :
    (disconnectSetting m).Safe task ((client entries configuredTimeout).threads task)
      (fun _ _ => True) now := by
  by_cases own : task = .actor m
  · subst own
    exact backgroundTask_stops _ now trivial
  · refine safe_only (client_only entries configuredTimeout task)
      (fun op permitted now answer later moves => disconnect_unstopped moves ⟨?_, ?_⟩) now
    · rintro rfl
      exact own (owner_performs rfl permitted)
    · rintro purpose data rfl
      exact absurd (owner_performs rfl permitted) own

end Proof

/-- A run in which the flag is cleared only for commands issued after every disconnect
so far, and the operator's consent is sent only while the flag is clear, writes no
request and no consent between a disconnect and a later command that opens or connects.

While the flag is clear every disconnect is settled, which every step keeps. What is written
comes behind a look at the flag, or under the condition. -/
theorem disconnect_wins (m : ManagerId) (entries : Nat → Entry)
    (configuredTimeout : ManagerId → Nat) (pool : Pool World Task Answer)
    (reaches : Reaches exec (fun now event => obeysDisconnect m now event = true)
      (client entries configuredTimeout) pool) :
    Throughout (DisconnectWins m) pool.now.history := by
  have kept : (disconnectSetting m).inv pool.now ∧ _ :=
    sound (client_roles reaches) ⟨fun _ => rfl, trivial⟩ fun task =>
      client_stops entries configuredTimeout task _
  exact kept.1.stopped

/-- A web request closes the session of manager 0. -/
def closing (index ticket : Nat) : List ClientEvent :=
  [ (Task.handler index).does (.storeAbort 0 true) (),
    (Task.handler index).does .newReply ticket,
    (Task.handler index).does (.submit 0 ticket .closeSession) true ]

/-- A session is closed. -/
def closed (ticket : Nat) : List ClientEvent :=
  [ (Task.actor 0).does (.nextCommand 0) (some (ticket, .closeSession)),
    (Task.actor 0).does (.storeAbort 0 true) (),
    (Task.actor 0).does (.modem 0 .closeSession) ⟨.ok (), none, .kept⟩,
    (Task.actor 0).does (.setConnectionState .agwpeConnected) (),
    (Task.actor 0).does (.reply ticket (.ok [])) () ]

/-- A session is opened, closed, and opened again. -/
def closingEntries (disclaimer : Text) : Nat → Entry
  | 0 => .openSession 0 [] 0
  | 1 => .consentGet
  | 2 => .consentPost ⟨true, some disclaimer⟩
  | 3 => .closeSession 0
  | 4 => .openSession 0 [] 0
  | _ => .consentPost ⟨true, some disclaimer⟩

/-- A session is closed and opened again. -/
def reopened (disclaimer : Text) : List ClientEvent :=
  opening disclaimer ++ closing 3 1 ++ closed 1 ++ asking 4 2 1 disclaimer ++
    accepting 5 1 disclaimer disclaimer ++ [agreeing disclaimer]

/-- A session that was closed is opened again by a new call. -/
theorem disconnect_wins_sample :
    ∃ pool : Pool World Task Answer, pool.now.history = (reopened "AGREE".toList).reverse ∧
      Throughout (DisconnectWins 0) pool.now.history := by
  obtain ⟨pool, reaches, history⟩ := client_replays (obeysDisconnect 0)
    (closingEntries "AGREE".toList) (fun _ => 30) (reopened "AGREE".toList) (by decide)
  exact ⟨pool, history, disconnect_wins 0 _ _ pool reaches⟩

/-- The operator disconnects while a handshake waits for his answer, which comes then. -/
def closedWhileAsking (disclaimer : Text) : List ClientEvent :=
  asking 0 0 0 disclaimer ++ [(Task.handler 1).does .consentGet (some disclaimer)] ++
    closing 3 1 ++ accepting 2 0 disclaimer disclaimer

/-- A parked handshake sends the consent although the operator has disconnected. -/
theorem consent_after_disconnect : ¬ ∀ (m : ManagerId) (entries : Nat → Entry)
    (configuredTimeout : ManagerId → Nat) (pool : Pool World Task Answer),
    Reaches exec (fun _ _ => True) (client entries configuredTimeout) pool →
      Throughout (DisconnectWins m) pool.now.history := by
  intro every
  obtain ⟨pool, reaches, history⟩ := client_replays (fun _ _ => true)
    (closingEntries "AGREE".toList) (fun _ => 30)
    (closedWhileAsking "AGREE".toList ++ [agreeing "AGREE".toList]) (by decide)
  have wins := every 0 _ _ pool (reaches.mono fun _ _ _ => trivial)
  rw [history, List.reverse_append] at wins
  exact absurd (wins.1 _ _ rfl rfl) (by decide)

end PacketBrowser.Client
