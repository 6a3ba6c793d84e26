import PacketBrowser.Client.Reports
import PacketBrowser.Client.Requests

/-!
# Whether a dead session is shown as connected

A request whose session dies is reported to its caller, and from then on the state on
display should not be `Connected`, until a handshake succeeds. `lost` reads off the
history whether a manager owes this: its last report was a dead session, and no
handshake has succeeded since the session died.

The background task does not write the state when a request fails for good. It writes
it when it reconnects, and then the retry finds `Connected`. So the display is right if
it is right already when the last attempt of a request dies; `fatal` is that moment, in
terms of what the transport answers, and every report of a death comes right behind one.
-/

namespace PacketBrowser.Client

open Protocol Foundation Program Setting

/-- The last attempt of a request of this manager dies only while the state on display
is not `Connected`. -/
def diesHidden (m : ManagerId) (now : Moment) (event : ClientEvent) : Bool :=
  !(event.thread = .actor m && lastAttempt (own (.actor m) now.history) &&
      fatal (own (.actor m) now.history) event) ||
    now.world.connectionState != .connected

/-- No handshake succeeded since the latest event of the background task. -/
def unrevived (m : ManagerId) : List ClientEvent → Bool
  | [] => true
  | event :: earlier => event.thread = .actor m || !event.op.succeeds && unrevived m earlier

/-- The manager reported that its session died, and no handshake succeeded since then. -/
def lost (m : ManagerId) : List ClientEvent → Bool
  | [] => false
  | event :: earlier =>
    !event.op.succeeds && (reportedDead m event && unrevived m earlier || lost m earlier)

/-- A browse request that finds `Connected` finds a session that is not lost. -/
def BrowsesAlive (m : ManagerId) (event : ClientEvent) (earlier : List ClientEvent) : Prop :=
  ∀ task : Task, event = task.does .readConnectionState .connected → lost m earlier = false

section Proof

variable {m : ManagerId}

/-- Only a handshake that succeeds makes the state `Connected`. -/
theorem apply_connected {world : World} {op : Op} {answer : Answer op}
    (shown : (world.apply op answer).connectionState = .connected) (other : op.succeeds = false) :
    world.connectionState = .connected := by
  cases op with
  | modem =>
    revert shown
    simp only [World.apply]
    split
    · rename_i reported _
      cases reported <;> exact fun shown => absurd shown (by simp [ModemState.connectionState])
    · exact id
  | nextCommand => cases answer <;> exact shown
  | submit => revert shown; simp only [World.apply]; split <;> exact id
  | answerConsent => revert shown; simp only [World.apply]; split <;> exact id
  | parkConsent => exact absurd shown (by simp [World.apply, World.park])
  | withdrawConsent =>
    revert shown
    simp only [World.apply, World.dropPending]
    split
    · exact id
    · split <;> exact id
  | setConnectionState state =>
    obtain rfl : state = .connected := shown
    exact absurd other (by simp [Op.succeeds])
  | _ => exact shown

variable (m) in
/-- The state does not show the session that the background task last heard of. -/
def Hidden (now : Moment) : Prop :=
  unrevived m now.history = true → now.world.connectionState ≠ .connected

variable (m) in
/-- Runs in which the last attempts of this manager die hidden. A death that is not reported
yet is hidden already. -/
def deathSetting : Setting World Task Answer where
  exec := exec
  meets now event := diesHidden m now event = true ∧ DeathSeen m event now.history
  inv now := (lost m now.history = true → now.world.connectionState ≠ .connected) ∧
    Throughout (BrowsesAlive m) now.history ∧
    (struck (own (.actor m) now.history) = true → Hidden m now)

/-- What another task does leaves a hidden session hidden: it would have to set `Connected`
itself. -/
theorem hidden_foreign {before after : Moment} {event : ClientEvent}
    (foreign : event.thread ≠ .actor m) (occurs : Occurs exec before event after)
    (hidden : Hidden m before) : Hidden m after := by
  intro quiet connected
  rw [occurs.2] at quiet
  simp only [unrevived, foreign, decide_false, Bool.false_or, Bool.and_eq_true,
    Bool.not_eq_true'] at quiet
  rw [(exec_iff.mp occurs.1).2] at connected
  exact hidden quiet.2 (apply_connected connected quiet.1)

/-- A session is struck by what the task hears or by the check behind a chunk, and neither
ends a handshake. -/
theorem fatal_unsuccessful {earlier : List ClientEvent} {event : ClientEvent}
    (dies : fatal earlier event = true) : event.op.succeeds = false := by
  obtain ⟨thread, op, answer⟩ := event
  cases op with
  | recv => rfl
  | loadAbort => rfl
  | _ => exact absurd dies (by simp [fatal])

/-- A death is hidden when it happens. -/
theorem struck_hidden {before after : Moment} {event : ClientEvent}
    (moves : (deathSetting m).Moves before event after)
    (dies : struck (own (.actor m) after.history) = true) : Hidden m after := by
  by_cases acted : event.thread = .actor m
  · obtain ⟨thread, op, answer⟩ := event
    obtain rfl : thread = .actor m := acted
    rw [moves.occurs.2, own_self] at dies
    obtain ⟨last, dies⟩ := Bool.and_eq_true_iff.mp dies
    intro _ connected
    rw [(exec_iff.mp moves.occurs.1).2] at connected
    have before := apply_connected connected (fatal_unsuccessful dies)
    have met := moves.met.1
    simp [diesHidden, last, dies, before] at met
  · rw [moves.occurs.2, own_foreign acted] at dies
    exact hidden_foreign acted moves.occurs (moves.inv.2.2 dies)

/-- Every step keeps the invariant: what is reported dead was hidden when it died. -/
theorem death_kept {before after : Moment} {event : ClientEvent}
    (moves : (deathSetting m).Moves before event after) : (deathSetting m).inv after := by
  have struckLater := struck_hidden moves
  obtain ⟨world, history⟩ := after
  obtain ⟨thread, op, answer⟩ := event
  obtain ⟨executed, grown⟩ := moves.occurs
  obtain ⟨given, rfl⟩ := exec_iff.mp executed
  obtain rfl : history = ⟨thread, op, answer⟩ :: before.history := grown
  obtain ⟨shown, alive, hides⟩ := moves.inv
  refine ⟨?_, ⟨?_, alive⟩, struckLater⟩
  · intro isLost connected
    simp only [lost, Bool.and_eq_true, Bool.or_eq_true, Bool.not_eq_true'] at isLost
    obtain ⟨other, ⟨reported, quiet⟩ | before⟩ := isLost
    · exact hides (moves.met.2 reported) quiet (apply_connected connected other)
    · exact shown before (apply_connected connected other)
  · rintro task same
    obtain ⟨rfl, rfl, same⟩ := Event.mk.inj same
    obtain rfl := eq_of_heq same
    have connected : before.world.connectionState = .connected := (beq_iff_eq.mp given).symm
    by_contra isLost
    exact shown (Bool.not_eq_false _ ▸ isLost) connected

end Proof

/-- In a run in which the last attempts of a manager's requests die only while the state
is not `Connected`, a session it reported dead is not shown as `Connected` until a
handshake succeeds, and no browse request passes the check meanwhile.

A report of a dead session has its cause in the history of the same task. At that moment the
state was not `Connected`, and nobody else has set it since. -/
theorem dead_session_hidden (m : ManagerId) (entries : Nat → Entry)
    (configuredTimeout : ManagerId → Nat) (pool : Pool World Task Answer)
    (reaches : Reaches exec (fun now event => diesHidden m now event = true)
      (client entries configuredTimeout) pool) :
    (lost m pool.now.history = true → pool.now.world.connectionState ≠ .connected) ∧
      Throughout (BrowsesAlive m) pool.now.history := by
  have start : (deathSetting m).inv (client entries configuredTimeout).now := by
    refine ⟨fun isLost => ?_, trivial, fun dies => ?_⟩
    · exact absurd isLost (by simp [client, lost])
    · exact absurd dies (by simp [client, own, struck])
  have kept : (deathSetting m).inv pool.now ∧ _ :=
    sound (reaches.throughout fun pool => deaths_seen m pool) start fun task =>
      safe_only (only_true _) (fun _ _ _ _ _ => death_kept) _
  exact ⟨kept.1.1, kept.1.2.1⟩

section Runs

/-- A request is sent without a reconnect and never answered. -/
def unansweredRequest (ticket : Nat) (url : Text) : List ClientEvent :=
  let encoded := (Request.get url none).encode
  [ (Task.actor 0).does (.nextCommand 0) (some (ticket, .sendRequest encoded)),
    (Task.actor 0).does (.loadAbort 0) false,
    writePage url,
    (Task.actor 0).does (.recv 0 30) (.error .timeout),
    (Task.actor 0).does (.reply ticket (.error (.sessionDied "no response after 30s".toList))) () ]

/-- Web requests with a page to be read, with or without reconnecting. -/
def reading (autoReconnect : Bool) : Nat → Entry
  | 0 => .openSession 0 [] 0
  | 1 => .consentGet
  | 2 => .consentPost ⟨true, some "AGREE".toList⟩
  | _ => .browse ['a'] autoReconnect false none false none

/-- A page is asked for without a reconnect, in a session that is open. -/
def askedPage : List ClientEvent :=
  opening "AGREE".toList ++
  [ (Task.handler 3).does .readConnectionState .connected,
    (Task.handler 3).does .activeManager 0,
    (Task.handler 3).does .newReply 1,
    (Task.handler 3).does (.submit 0 1 (.sendRequest (Request.get ['a'] none).encode)) true ]

/-- The same, and the peer is silent. -/
def silentPeer : List ClientEvent := askedPage ++ unansweredRequest 1 ['a']

/-- The same web requests, and one that connects another modem. -/
def readingBeside : Nat → Entry
  | 5 => .connectModem 1 ⟨.ax25, "N0CALL".toList⟩
  | index => reading false index

/-- The peer is silent after the other modem has been connected, whose state is on display by
then. -/
def silentBeside : List ClientEvent :=
  let beside := Task.actor 1
  let config : TransportConfig := ⟨.ax25, "N0CALL".toList⟩
  askedPage ++
  [ (Task.handler 5).does .newReply 2,
    (Task.handler 5).does (.submit 1 2 (.connectModem config)) true,
    beside.does (.nextCommand 1) (some (2, .connectModem config)),
    beside.does (.storeAbort 1 false) (),
    beside.does (.modem 1 (.connectModem config)) ⟨.ok (), some .agwpeConnected, .replaced⟩,
    beside.does (.reply 2 (.ok [])) () ] ++
  unansweredRequest 1 ['a']

/-- The last attempt dies while another modem is on display, and the session that was open is
not shown as connected. -/
theorem dead_session_hidden_sample :
    ∃ pool : Pool World Task Answer,
      pool.now.history = silentBeside.reverse ∧
      Reaches exec (fun now event => diesHidden 0 now event = true)
        (client readingBeside fun _ => 30) pool ∧
      lost 0 pool.now.history = true ∧ pool.now.world.connectionState ≠ .connected := by
  obtain ⟨pool, reaches, history⟩ := client_replays (diesHidden 0) readingBeside (fun _ => 30)
    silentBeside (by decide)
  have isLost : lost 0 pool.now.history = true := by
    rw [history]
    decide
  exact ⟨pool, history, reaches, isLost, (dead_session_hidden 0 _ _ pool reaches).1 isLost⟩

/-- The same with a reconnect: it succeeds, and the retry is not answered either. -/
def silentTwice : List ClientEvent :=
  let background := Task.actor 0
  let disclaimer := "AGREE".toList
  opening disclaimer ++ browsePage 3 1 ['a'] ++ takePage 1 ['a'] ++
  [ writePage ['a'],
    background.does (.recv 0 30) (.error .timeout),
    background.does (.setConnectionState (.reconnecting "no response after 30s".toList)) (),
    background.does (.modem 0 .reopenModemConnection) ⟨.ok (), some .agwpeConnected, .replaced⟩,
    background.does (.setConnectionState (.reconnecting "no response after 30s".toList)) (),
    background.does (.loadAbort 0) false,
    background.does (.modem 0 .openAx25Link) ⟨.ok (), none, .kept⟩,
    background.does (.loadAbort 0) false,
    background.does .readConfig ⟨[], true⟩,
    background.does (.recv 0 30) (.ok (.data (ascii "callsign"))),
    background.does (.send 0 .callsign (ascii "\n")) (.ok ()),
    background.does (.loadAbort 0) false,
    background.does (.recv 0 30) (.ok (.data (Utf8.encode disclaimer))),
    background.does (.loadAbort 0) false,
    background.does .readLastAgreed (some disclaimer),
    background.does (.loadAbort 0) false,
    background.does (.send 0 (.autoAgree disclaimer) agreeBytes) (.ok ()),
    background.does (.setConnectionState .connected) (),
    background.does (.loadAbort 0) false,
    background.does (.loadAbort 0) false,
    writePage ['a'],
    background.does (.recv 0 30) (.error .timeout),
    background.does (.reply 1 (.error (.sessionDied "no response after 30s".toList))) () ]

/-- The run with the setting given. -/
def dying (autoReconnect : Bool) : List ClientEvent :=
  if autoReconnect then silentTwice else silentPeer

/-- With either setting, a session is reported dead and the next browse request finds
`Connected`. -/
theorem dead_session_shown : ¬ ∃ autoReconnect : Bool, ∀ (configuredTimeout : ManagerId → Nat)
    (pool : Pool World Task Answer),
    Reaches exec (fun _ _ => True) (client (reading autoReconnect) configuredTimeout) pool →
      (lost 0 pool.now.history = true → pool.now.world.connectionState ≠ .connected) ∧
        Throughout (BrowsesAlive 0) pool.now.history := by
  rintro ⟨autoReconnect, every⟩
  obtain ⟨pool, reaches, history⟩ := client_replays (fun _ _ => true) (reading autoReconnect)
    (fun _ => 30) (dying autoReconnect ++ [(Task.handler 4).does .readConnectionState .connected])
    (by cases autoReconnect <;> decide)
  have alive := (every _ pool (reaches.mono fun _ _ _ => trivial)).2
  rw [history, List.reverse_append] at alive
  have isLost : lost 0 (dying autoReconnect).reverse = true := by
    cases autoReconnect <;> decide
  exact absurd (alive.1 (.handler 4) rfl) (by simp [isLost])

end Runs

end PacketBrowser.Client
