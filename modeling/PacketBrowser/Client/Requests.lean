import PacketBrowser.Client.Waiting

/-!
# Requests and the handshake before them

A request belongs on a link whose handshake ended with the consent being sent. The
background task itself never looks. It writes every request it takes from the queue
unless the operator has disconnected, and the check a browse request makes is made
before it is queued, so it is worth nothing once an earlier request has lost the link.

What holds of a run therefore depends on what waits in the queue when the link is lost.
Where the waiting requests are held back, a request that is taken finds a link that stands,
and so one that is ready, or the abort flag set; and whatever is then written, the retry
behind a reconnect included, is written over a ready link.
-/

namespace PacketBrowser.Client

open Protocol Foundation Program Setting

/-- A request is written over a ready link only. -/
def RequestOnLink (m : ManagerId) (event : ClientEvent) (earlier : List ClientEvent) : Prop :=
  ∀ data, event.op = .send m .request data → linkReady m earlier = true

section Proof

variable {m : ManagerId}

variable (m) in
/-- Runs in which requests are held back while the link is lost, with what is known of them
and what is to hold of them. -/
def requestSetting : Setting World Task Answer where
  exec := exec
  meets now event := (Orderly m event now.history ∧ Held m now) ∧ event.thread.allowed event.op
  inv now := Throughout (RequestOnLink m) now.history

/-- Everything but the write of a request keeps the invariant. -/
theorem requests_kept {before after : Moment} {event : ClientEvent}
    (moves : (requestSetting m).Moves before event after)
    (other : ∀ data, event.op ≠ .send m .request data) : (requestSetting m).inv after := by
  have grown := moves.occurs.2
  simp only [requestSetting, grown]
  exact ⟨fun data same => absurd same (other data), moves.inv⟩

/-- No other task touches the link. -/
theorem ready_stable :
    (requestSetting m).Stable (.actor m) fun now => linkReady m now.history = true := by
  rintro before after holds ⟨event, foreign, moves, _⟩
  rw [moves.occurs.2, linkReady_foreign foreign]
  exact holds

/-- No other task clears the flag. -/
theorem aborted_stable :
    (requestSetting m).Stable (.actor m) fun now => now.world.abort m = true := by
  rintro before after holds ⟨event, foreign, moves, _⟩
  exact abort_elsewhere foreign moves.met.2 moves.occurs holds

/-- What writes no request is harmless. -/
theorem starts_harmless (op : Op) (starting : starts m (· ≠ .request) op) (now : Moment)
    (answer : Answer op) (later : Moment) (_ : True)
    (moves : (requestSetting m).Moves now ⟨.actor m, op, answer⟩ later) :
    (requestSetting m).inv later ∧ True := by
  refine ⟨requests_kept moves ?_, trivial⟩
  rintro data rfl
  rcases starting with same | serving
  · exact absurd same (by simp)
  · exact serving.2 rfl

/-- Neither does anything else a background task does for a command. -/
theorem serves_harmless (op : Op) (serving : serves m (· ≠ .request) op) (now : Moment)
    (answer : Answer op) (later : Moment) (given : True)
    (moves : (requestSetting m).Moves now ⟨.actor m, op, answer⟩ later) :
    (requestSetting m).inv later ∧ True :=
  starts_harmless op (Or.inr serving) now answer later given moves

/-- The write of a request keeps the invariant on a ready link. -/
theorem sendBytes_onLink (data : Bytes) :
    (requestSetting m).Triple (.actor m) (fun now => linkReady m now.history = true)
      (sendBytes m .request data).run fun _ _ => True := by
  apply triple_ask_return ready_stable (fun _ => stable_const _)
  intro now answer later ready moves
  refine ⟨?_, trivial⟩
  simp only [requestSetting, moves.occurs.2]
  exact ⟨fun _ _ => ready, moves.inv⟩

/-- The flag is looked at before anything is written, so an aborted command writes
nothing. -/
theorem bailIfAborted_onLink :
    (requestSetting m).Triple (.actor m)
      (fun now => now.world.abort m = true ∨ linkReady m now.history = true)
      (bailIfAborted m).run
      (outcome (fun _ now => linkReady m now.history = true) fun _ _ => True) := by
  refine triple_ask_return (aborted_stable.or ready_stable)
    (stable_outcome (fun _ => ready_stable) fun _ => stable_const _) fun now answer later holds moves => ?_
  refine ⟨requests_kept moves (by simp), ?_⟩
  have same : answer = now.world.abort m := by
    simpa [World.gives] using (exec_iff.mp moves.occurs.1).1
  cases answer with
  | true => trivial
  | false =>
    have ready : linkReady m now.history = true := by simpa [← same] using holds
    show linkReady m later.history = true
    rw [moves.occurs.2]
    simpa [linkReady, linkEffect] using ready

/-- A request is sent over a ready link, or not at all. -/
theorem handleSendRequest_onLink (timeoutSecs : Nat) (data : Bytes) :
    (requestSetting m).Triple (.actor m)
      (fun now => now.world.abort m = true ∨ linkReady m now.history = true)
      (handleSendRequest m timeoutSecs data).run fun _ _ => True := by
  refine triple_attempt (fun _ now => linkReady m now.history = true)
    (fun _ => stable_const _) bailIfAborted_onLink fun _ => ?_
  refine triple_attempt (fun _ _ => True) (fun _ => stable_const _) ?_ fun _ => ?_
  · exact (sendBytes_onLink data).consequence (fun _ => id) (by rintro (error | value) _ _ <;> trivial)
  · exact triple_only (stable_const _)
      ((receiveResponse_listens m timeoutSecs).mono (listens_serves m)) serves_harmless

/-- A reconnect that succeeds leaves a ready link: the consent is its last write, and
the new connection state does not say that the link is lost. -/
theorem reestablish_onLink (reason localCallsign : Text) :
    (requestSetting m).Triple (.actor m) (fun _ => True) (reestablish m reason localCallsign).run
      (outcome (fun _ now => linkReady m now.history = true) fun _ _ => True) := by
  have failed : ∀ _ : AgwpeError, (requestSetting m).Stable (.actor m) fun _ => True :=
    fun _ => stable_const _
  refine triple_attempt_only (stable_const _)
    ((receiveAgain_reopens m reason localCallsign).mono (reopens_serves m (by simp) (by simp)))
    serves_harmless failed (fun _ _ => id) fun disclaimer => ?_
  refine triple_attempt_only (stable_const _) (requireAgreed_serves m disclaimer) serves_harmless
    failed (fun _ _ => id) fun _ => ?_
  refine triple_attempt_only (stable_const _) (bailIfAborted_serves m) serves_harmless
    failed (fun _ _ => id) fun _ => ?_
  refine triple_attempt (fun _ now => linkReady m now.history = true) failed ?_ fun _ => ?_
  · refine triple_ask_return (stable_const _)
      (stable_outcome (fun _ => ready_stable) failed) fun now answer later _ moves => ?_
    refine ⟨requests_kept moves (by simp), ?_⟩
    cases answer with
    | error error => trivial
    | ok value =>
      show linkReady m later.history = true
      rw [moves.occurs.2]
      simp [linkReady, linkEffect]
  · refine triple_lift (fun _ => ready_stable) (triple_ask ready_stable (fun _ => ready_stable) ?_)
    intro now answer later ready moves
    refine ⟨requests_kept moves (by simp), ?_⟩
    show linkReady m later.history = true
    rw [moves.occurs.2]
    simpa [linkReady, linkEffect] using ready

/-- A reconnect that succeeds leaves a ready link, however it was reached. -/
theorem handleReconnect_onLink (reason localCallsign : Text) :
    (requestSetting m).Triple (.actor m) (fun _ => True) (handleReconnect m reason localCallsign).run
      (outcome (fun _ now => linkReady m now.history = true) fun _ _ => True) := by
  have final : ∀ result, (requestSetting m).Stable (.actor m)
      (outcome (fun _ : Unit => fun now => linkReady m now.history = true)
        (fun _ : AgwpeError => fun _ => True) result) :=
    stable_outcome (fun _ => ready_stable) fun _ => stable_const _
  refine triple_bind (fun _ _ => True)
    (triple_only (stable_const _) (setState_serves m _) serves_harmless) fun _ => ?_
  apply triple_bind _ (reestablish_onLink reason localCallsign)
  intro result
  split
  · exact triple_done (final _) fun _ => id
  · exact triple_done (final _) fun _ => id
  · refine triple_bind (fun _ _ => True)
      (triple_only (stable_const _) (setState_serves m _) serves_harmless) fun _ => ?_
    exact triple_done (final _) fun _ => id

/-- Both attempts of a request with reconnect are written over a ready link. -/
theorem handleSendRequestWithReconnect_onLink (timeoutSecs : Nat) (data localCallsign) :
    (requestSetting m).Triple (.actor m)
      (fun now => now.world.abort m = true ∨ linkReady m now.history = true)
      (handleSendRequestWithReconnect m timeoutSecs data localCallsign).run fun _ _ => True := by
  refine triple_attempt (fun _ now => linkReady m now.history = true)
    (fun _ => stable_const _) bailIfAborted_onLink fun _ => ?_
  refine triple_bind (fun _ _ => True) ((handleSendRequest_onLink timeoutSecs data).consequence
    (fun _ => Or.inr) fun _ _ => id) fun first => ?_
  unfold afterFirstTry
  split
  · exact triple_done (stable_const _) fun _ => id
  · refine triple_attempt (fun _ now => linkReady m now.history = true) (fun _ => stable_const _)
      (handleReconnect_onLink _ localCallsign) fun _ => ?_
    refine triple_attempt (fun _ now => linkReady m now.history = true) (fun _ => stable_const _)
      (bailIfAborted_onLink.consequence (fun _ => Or.inr) fun _ _ => id) fun _ => ?_
    exact (handleSendRequest_onLink timeoutSecs data).consequence (fun _ => Or.inr) fun _ _ => id
  · exact triple_done (stable_const _) fun _ => id

/-- A command that begins with the flag set or the link ready writes requests over a ready link
only. -/
theorem runCommand_onLink (timeoutSecs : Nat) (localCallsign : Text) (command : Command) :
    (requestSetting m).Triple (.actor m)
      (fun now => command.requests = true →
        now.world.abort m = true ∨ linkReady m now.history = true)
      (runCommand m timeoutSecs localCallsign command) fun _ _ => True := by
  by_cases other : command.requests = false
  · exact (triple_only (stable_const True) (runCommand_starts m timeoutSecs localCallsign command
      other) starts_harmless).consequence (fun _ _ => trivial) fun _ _ => id
  cases command with
  | sendRequest data =>
    exact triple_bind (fun _ _ => True) ((handleSendRequest_onLink timeoutSecs data).consequence
      (fun _ holds => holds rfl) fun _ _ => id) fun _ => triple_done (stable_const _) fun _ => id
  | sendRequestWithReconnect data =>
    exact triple_bind (fun _ _ => True) ((handleSendRequestWithReconnect_onLink timeoutSecs data
      localCallsign).consequence (fun _ holds => holds rfl) fun _ _ => id)
      fun _ => triple_done (stable_const _) fun _ => id
  | _ => exact absurd rfl other

/-- What is known of a command just taken from the queue. -/
def takenReady (m : ManagerId) (now : Moment) : Option (TicketId × Command) → Prop
  | none => True
  | some (_, command) => command.requests = true →
      now.world.abort m = true ∨ linkReady m now.history = true

/-- A request that is taken finds the flag set or the link ready: it is held back while the
link is lost, and a link that stands is ready when the task turns to its queue. -/
theorem taken_ready {now later : Moment} {ticket : TicketId} {command : Command}
    (moves : (requestSetting m).Moves now
      ⟨.actor m, .nextCommand m, some (ticket, command)⟩ later)
    (requests : command.requests = true) :
    now.world.abort m = true ∨ linkReady m now.history = true := by
  obtain ⟨orderly, held⟩ := moves.met.1
  cases stood : stands (own (.actor m) now.history) with
  | true => exact Or.inr (orderly.ready rfl stood)
  | false =>
    have nothing : due (own (.actor m) now.history) = none := by
      cases isDue : due (own (.actor m) now.history) with
      | none => rfl
      | some value => exact absurd (orderly.flag rfl value isDue) (by simp)
    have first : some (ticket, command) = (now.world.queue m).head? := by
      simpa [World.gives] using (exec_iff.mp moves.occurs.1).1
    obtain ⟨rest, waiting⟩ := List.head?_eq_some_iff.mp first.symm
    have other : command.opens = false := by
      cases command <;> first | rfl | exact absurd requests (by simp [Command.requests, Command.request])
    have unexposed := held stood
    simp only [flagAhead, nothing, Option.getD_none, waiting, exposed, other, requests,
      Bool.not_false, Bool.true_and, Bool.or_eq_false_iff, Bool.not_eq_false'] at unexposed
    exact Or.inl unexposed.1

/-- Nothing is known between commands; a request that is taken finds the flag set or the link
ready. -/
theorem backgroundTask_onLink (configuredTimeout : Nat) :
    (requestSetting m).Triple (.actor m) (fun _ => True) (backgroundTask m configuredTimeout)
      fun _ _ => True := by
  apply backgroundTask_triple (fun next now => takenReady m now next) (fun _ _ _ => True)
  · exact stable_const _
  · refine triple_ask (stable_const _) ?_ fun now answer later _ moves => ?_
    · rintro (_ | ⟨ticket, command⟩)
      · exact stable_const _
      · exact (aborted_stable.or ready_stable).imp
    refine ⟨requests_kept moves (by simp), ?_⟩
    rcases answer with _ | ⟨ticket, command⟩
    · trivial
    · intro requests
      rw [moves.occurs.2, (exec_iff.mp moves.occurs.1).2, apply_abort _ _ _ _ (by simp)]
      simpa [linkReady, linkEffect] using taken_ready moves requests
  · intro timeoutSecs localCallsign _ command
    exact runCommand_onLink timeoutSecs localCallsign command
  · intro ticket result
    exact triple_ask (stable_const _) (fun _ => stable_const _) fun now answer later _ moves =>
      ⟨requests_kept moves (by simp), trivial⟩

/-- No task of the client other than the background task writes a request. -/
theorem client_onLink (entries : Nat → Entry) (configuredTimeout : ManagerId → Nat) (task : Task)
    (now : Moment) :
    (requestSetting m).Safe task ((client entries configuredTimeout).threads task)
      (fun _ _ => True) now := by
  by_cases own : task = .actor m
  · subst own
    exact backgroundTask_onLink _ now trivial
  · refine safe_only (client_only entries configuredTimeout task)
      (fun op permitted now answer later moves => requests_kept moves ?_) now
    rintro data rfl
    exact own (owner_performs rfl permitted)

end Proof

/-- A run that spares its waiting requests writes requests over ready links only: while the
link is lost, no request waits that would be written before a session is asked for. This
includes the second attempt after a reconnect.

When a background task turns to its queue, a link that stands is ready, and while it does not
stand the requests are held back. So a request that is taken finds its link ready or the flag
set, and the steps of the command keep the link ready up to each write. -/
theorem requests_follow_handshake (m : ManagerId) (entries : Nat → Entry)
    (configuredTimeout : ManagerId → Nat) (pool : Pool World Task Answer)
    (reaches : Reaches exec (fun now event => spared m now event = true)
      (client entries configuredTimeout) pool) :
    Throughout (RequestOnLink m) pool.now.history := by
  have ordered := reaches.throughout fun pool reaches => client_orderly m pool reaches
  have held := ordered.always fun pool reaches =>
    waiting_held m (fun _ _ met => met.1) pool reaches
  have known : Reaches exec (requestSetting m).meets (client entries configuredTimeout) pool :=
    (client_roles held).mono fun _ _ met => ⟨⟨met.1.1.2, met.1.2⟩, met.2⟩
  have kept : (requestSetting m).inv pool.now ∧ _ :=
    sound known trivial fun task => client_onLink entries configuredTimeout task _
  exact kept.1

section Runs

/-- A call of the manager connects the modem of manager 0. -/
def dialModem (index ticket : Nat) : List ClientEvent :=
  let background := Task.actor 0
  let config : TransportConfig := ⟨.ax25, "N0CALL".toList⟩
  [ (Task.handler index).does .newReply ticket,
    (Task.handler index).does (.submit 0 ticket (.connectModem config)) true,
    background.does (.nextCommand 0) (some (ticket, .connectModem config)),
    background.does (.storeAbort 0 false) (),
    background.does (.modem 0 (.connectModem config)) ⟨.ok (), some .agwpeConnected, .replaced⟩,
    background.does (.reply ticket (.ok [])) () ]

/-- The peer asks for the callsign, is told, and shows its disclaimer. -/
def greeting (callsign disclaimer : Text) : List ClientEvent :=
  let background := Task.actor 0
  [ (Task.peer 0).does (.peerMove 0) (.interjects (ascii "callsign")),
    background.does (.recv 0 30) (.ok (.data (ascii "callsign"))),
    background.does (.send 0 .callsign (Utf8.encode (callsign ++ ['\n']))) (.ok ()) ] ++
  [ (Task.peer 0).does (.peerMove 0) (.interjects (Utf8.encode disclaimer)) ]

/-- The text of the peer arrives. -/
def shown (disclaimer : Text) : ClientEvent :=
  (Task.actor 0).does (.recv 0 30) (.ok (.data (Utf8.encode disclaimer)))

/-- A call opens a session with a node on manager 0, and the handshake asks the operator. -/
def callStation (index ticket consent : Nat) (callsign node disclaimer : Text) : List ClientEvent :=
  let background := Task.actor 0
  [ (Task.handler index).does .newReply ticket,
    (Task.handler index).does (.submit 0 ticket (.openSession node 0)) true,
    background.does (.nextCommand 0) (some (ticket, .openSession node 0)),
    background.does (.storeAbort 0 false) (),
    background.does .readConfig ⟨[], true⟩,
    background.does .readConfig ⟨[], true⟩,
    background.does (.modem 0 (.openSession ⟨callsign, node, [], true, 0⟩)) ⟨.ok (), none, .replaced⟩,
    background.does (.setConnectionState .connecting) (),
    background.does (.modem 0 .openAx25Link) ⟨.ok (), none, .kept⟩,
    background.does .readConfig ⟨[], true⟩ ] ++ greeting callsign disclaimer ++
  [ shown disclaimer, background.does (.parkConsent disclaimer) consent ]

/-- The same where neither the station nor the node has a name. -/
def asking (index ticket consent : Nat) (disclaimer : Text) : List ClientEvent :=
  callStation index ticket consent [] [] disclaimer

/-- A web request accepts the prompt on display, meaning the given text. -/
def accepting (index consent : Nat) (answering displayed : Text) : List ClientEvent :=
  let decision : Decision := ⟨true, some answering⟩
  [ (Task.handler index).does (.takePendingConsent decision) (some consent),
    (Task.handler index).does (.readAwaited decision) (some displayed),
    (Task.handler index).does (.recordAgreedDisclaimer displayed) (),
    (Task.handler index).does (.answerConsent consent true) true,
    (Task.actor 0).does (.awaitConsent consent) (.decided true) ]

/-- The consent is sent. -/
def agreeing (disclaimer : Text) : ClientEvent :=
  (Task.actor 0).does (.send 0 (.agreeByOperator disclaimer) agreeBytes) (.ok ())

/-- The session is open, and the call that asked for it is told. -/
def opened (ticket : Nat) : List ClientEvent :=
  [ (Task.actor 0).does (.setConnectionState .connected) (),
    (Task.actor 0).does (.reply ticket (.ok [])) () ]

/-- Task 0 opens a session, the operator reads the disclaimer in task 1 and accepts it
in task 2. -/
def opening (disclaimer : Text) : List ClientEvent :=
  asking 0 0 0 disclaimer ++ [(Task.handler 1).does .consentGet (some disclaimer)] ++
    accepting 2 0 disclaimer disclaimer ++ [agreeing disclaimer] ++ opened 0

/-- The same behind the call of task 5 that connects the modem. -/
def dialled (disclaimer : Text) : List ClientEvent :=
  dialModem 5 0 ++ callStation 0 1 0 "N0CALL".toList "NODE".toList disclaimer ++
    [(Task.handler 1).does .consentGet (some disclaimer)] ++
    accepting 2 0 disclaimer disclaimer ++ [agreeing disclaimer] ++ opened 1

/-- The web requests of the runs below. -/
def browsing (disclaimer : Text) : Nat → Entry
  | 0 => .openSession 0 [] 0
  | 1 => .consentGet
  | 2 => .consentPost ⟨true, some disclaimer⟩
  | 3 => .browse ['a'] true false none false none
  | _ => .browse ['b'] true false none false none

/-- The same with names, and with the call that connects the modem. -/
def dialledBrowsing (disclaimer : Text) : Nat → Entry
  | 0 => .openSession 0 "NODE".toList 0
  | 5 => .connectModem 0 ⟨.ax25, "N0CALL".toList⟩
  | index => browsing disclaimer index

/-- A browse request of a page, made while the session is open, up to its queueing. -/
def browsePage (index ticket : Nat) (url : Text) : List ClientEvent :=
  [ (Task.handler index).does .readConnectionState .connected,
    (Task.handler index).does .activeManager 0,
    (Task.handler index).does .newReply ticket,
    (Task.handler index).does
      (.submit 0 ticket (.sendRequestWithReconnect (Request.get url none).encode)) true ]

/-- Its first attempt, up to the write. -/
def takePage (ticket : Nat) (url : Text) : List ClientEvent :=
  [ (Task.actor 0).does (.nextCommand 0)
      (some (ticket, .sendRequestWithReconnect (Request.get url none).encode)),
    (Task.actor 0).does (.loadAbort 0) false,
    (Task.actor 0).does (.loadAbort 0) false ]

/-- The write of the request. -/
def writePage (url : Text) : ClientEvent :=
  (Task.actor 0).does (.send 0 .request (Request.get url none).encode) (.ok ())

/-- The link is lost under the request of task 3, and the modem and the link are opened once
more, up to the disclaimer. -/
def relinking (disclaimer : Text) : List ClientEvent :=
  let background := Task.actor 0
  [ background.does (.recv 0 30) (.ok (.disconnected [])),
    background.does (.setConnectionState (.reconnecting [])) (),
    background.does (.modem 0 .reopenModemConnection) ⟨.ok (), some .agwpeConnected, .replaced⟩,
    background.does (.setConnectionState (.reconnecting [])) (),
    background.does (.loadAbort 0) false,
    background.does (.modem 0 .openAx25Link) ⟨.ok (), none, .kept⟩,
    background.does (.loadAbort 0) false,
    background.does .readConfig ⟨[], true⟩ ] ++ greeting "N0CALL".toList disclaimer ++
  [ background.does (.loadAbort 0) false, shown disclaimer, background.does (.loadAbort 0) false ]

/-- The disclaimer is the one agreed to: the consent is sent and the request written again. -/
def relinked (disclaimer url : Text) : List ClientEvent :=
  let background := Task.actor 0
  relinking disclaimer ++
  [ background.does .readLastAgreed (some disclaimer),
    background.does (.loadAbort 0) false,
    background.does (.send 0 (.autoAgree disclaimer) agreeBytes) (.ok ()),
    background.does (.setConnectionState .connected) (),
    background.does (.loadAbort 0) false,
    background.does (.loadAbort 0) false,
    writePage url ]

/-- Two requests wait when the link is lost under the first, and the reconnect succeeds. -/
theorem requests_follow_handshake_sample :
    ∃ pool : Pool World Task Answer, pool.now.history = (dialled "AGREE".toList ++
        browsePage 3 2 ['a'] ++ browsePage 4 3 ['b'] ++ takePage 2 ['a'] ++ [writePage ['a']] ++
        relinked "AGREE".toList ['a']).reverse ∧
      Throughout (RequestOnLink 0) pool.now.history := by
  obtain ⟨pool, reaches, history⟩ := client_replays (spared 0) (dialledBrowsing "AGREE".toList)
    (fun _ => 30) (dialled "AGREE".toList ++ browsePage 3 2 ['a'] ++ browsePage 4 3 ['b'] ++
      takePage 2 ['a'] ++ [writePage ['a']] ++ relinked "AGREE".toList ['a']) (by decide)
  exact ⟨pool, history, requests_follow_handshake 0 _ _ pool reaches⟩

/-- The same with another disclaimer: the operator has to consent anew, and the second
request is taken from the queue meanwhile. -/
def lostSession (disclaimer changed : Text) : List ClientEvent :=
  let background := Task.actor 0
  dialled disclaimer ++ browsePage 3 2 ['a'] ++ browsePage 4 3 ['b'] ++ takePage 2 ['a'] ++
  [writePage ['a']] ++ relinking changed ++
  [ background.does .readLastAgreed (some disclaimer),
    background.does (.setConnectionState (.awaitingConsent changed)) (),
    background.does (.reply 2 (.error .needsReconsent)) () ] ++ takePage 3 ['b']

/-- The second request is written although the reconnect before it ended with the operator
having to consent anew. -/
theorem request_without_handshake : ¬ ∀ (m : ManagerId) (entries : Nat → Entry)
    (configuredTimeout : ManagerId → Nat) (pool : Pool World Task Answer),
    Reaches exec (fun _ _ => True) (client entries configuredTimeout) pool →
      Throughout (RequestOnLink m) pool.now.history := by
  intro every
  obtain ⟨pool, reaches, history⟩ := client_replays (fun _ _ => true) (dialledBrowsing "AGREE".toList)
    (fun _ => 30) (lostSession "AGREE".toList "New: AGREE".toList ++ [writePage ['b']]) (by decide)
  have onLink := every 0 _ _ pool (reaches.mono fun _ _ _ => trivial)
  rw [history, List.reverse_append] at onLink
  exact absurd (onLink.1 _ rfl) (by decide)

end Runs

end PacketBrowser.Client
