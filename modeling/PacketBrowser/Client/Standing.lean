import PacketBrowser.Client.Reports

/-!
# When the link of a manager stands

A request belongs on a link whose handshake ended with the consent being sent. Whether
it does is read off the history: `linkReady` looks at the latest event of the background
task that says anything about its link.

Between two commands this depends on what the outside answered and on nothing else.
`losing` collects the answers that cost a manager its link: the death of a request that is
not tried again, and any refusal while the link is opened or opened again. `stands` is
what they leave of the commands to open a session. `client_orderly` shows that whenever a
background task turns to its queue, a link that stands is ready, so every way in which an
opening or a reconnect can fail half way is one of these answers.
-/

namespace PacketBrowser.Client

open Protocol Foundation Program Setting

/-- What an event says about the link of a manager: the handshake is complete; or it
begins anew, or the session was reported dead. -/
def linkEffect (m : ManagerId) (event : ClientEvent) : Option Bool :=
  if event.thread = .actor m then
    match event.op, event.answer with
    | .send _ (.agreeByOperator _) _, .ok () => some true
    | .send _ (.autoAgree _) _, .ok () => some true
    | .modem _ (.openSession _), _ => some false
    | .modem _ .openAx25Link, _ => some false
    | .modem _ .reopenModemConnection, _ => some false
    | .setConnectionState (.reconnecting _), _ => some false
    | .reply _ (.error (.sessionDied _)), _ => some false
    | _, _ => none
  else none

/-- The latest handshake of the manager ended with the consent being sent, and the
session was not reported dead since. -/
def linkReady (m : ManagerId) : List ClientEvent → Bool
  | [] => false
  | event :: earlier => (linkEffect m event).getD (linkReady m earlier)

/-- The link is being opened, or opened again, by the events of the task itself. -/
def mending : List ClientEvent → Bool
  | [] => false
  | event :: earlier =>
    match event.op, event.answer with
    | .nextCommand _, some (_, .openSession _ _) => true
    | .nextCommand _, _ => false
    | .setConnectionState (.reconnecting _), _ => true
    | .setConnectionState .connected, _ => false
    | .reply _ _, _ => false
    | _, _ => mending earlier

/-- The handshake text the task has collected so far. -/
def gathered : List ClientEvent → Text
  | [] => []
  | event :: earlier =>
    match event.op, event.answer with
    | .recv _ _, .ok (.data bytes) => gathered earlier ++ Utf8.lossy bytes
    | .loadAbort _, _ => gathered earlier
    | _, _ => []

/-- An answer with which a handshake does not go on: a call or a write fails, the peer is
silent, disconnects or sends too much text, the operator declines or has disconnected, or
another text was agreed to. -/
def refusal (earlier : List ClientEvent) (event : ClientEvent) : Bool :=
  match event.op, event.answer with
  | .modem _ _, answer => !answer.result.isOk
  | .send _ _ _, sent => !sent.isOk
  | .recv _ _, .error _ => true
  | .recv _ _, .ok (.disconnected _) => true
  | .recv _ _, .ok (.data bytes) =>
    decide (Utf8.byteLength (gathered earlier) + Utf8.byteLength (Utf8.lossy bytes) > maxHandshakeText)
  | .awaitConsent _, waited => waited != .decided true
  | .readLastAgreed, stored => !matchesStoredDisclaimer (gathered earlier) stored
  | .loadAbort _, aborted => aborted
  | _, _ => false

/-- With this event the manager loses its link for good: a request that is not tried again
hears its session die, or the link is refused while it is opened or opened again. -/
def losing (earlier : List ClientEvent) (event : ClientEvent) : Bool :=
  lastAttempt earlier && fatal earlier event || mending earlier && refusal earlier event

/-- A session is asked for, or the consent is sent. -/
def raises (event : ClientEvent) : Bool :=
  match event.op, event.answer with
  | .nextCommand _, some (_, .openSession _ _) => true
  | .send _ (.agreeByOperator _) _, .ok () => true
  | .send _ (.autoAgree _) _, .ok () => true
  | _, _ => false

/-- The link is up, or on its way up: since a session was asked for or the consent was sent,
nothing has cost the manager its link. -/
def stands : List ClientEvent → Bool
  | [] => false
  | event :: earlier => !losing earlier event && (raises event || stands earlier)

/-- The command just taken from the queue, until the task does anything else. -/
def begun : List ClientEvent → Option Command
  | [] => none
  | event :: _ =>
    match event.op, event.answer with
    | .nextCommand _, some (_, command) => some command
    | _, _ => none

/-- What a command makes of the abort flag when it begins. -/
def Command.sets : Command → Option Bool
  | .connectModem _ => some false
  | .openSession _ _ => some false
  | .closeSession => some true
  | _ => none

/-- The store to the abort flag that is due. -/
def due (history : List ClientEvent) : Option Bool := (begun history).bind Command.sets

/-- What a background task does to its abort flag, and how it finds its link when it turns
to its queue. -/
structure Orderly (m : ManagerId) (event : ClientEvent) (earlier : List ClientEvent) : Prop where
  flag : event.thread = .actor m → ∀ value, due (own (.actor m) earlier) = some value →
    event.op = .storeAbort m value
  stores : event.thread = .actor m → ∀ value, event.op = .storeAbort m value →
    due (own (.actor m) earlier) = some value
  ready : event.op = .nextCommand m → stands (own (.actor m) earlier) = true →
    linkReady m earlier = true

section Proof

variable {m : ManagerId}

/-- No other task changes what is known of the link. -/
theorem linkReady_foreign {event : ClientEvent} (foreign : event.thread ≠ .actor m)
    (earlier : List ClientEvent) : linkReady m (event :: earlier) = linkReady m earlier := by
  simp [linkReady, linkEffect, foreign]

variable (m) in
/-- All runs, with what is to hold of one background task. -/
def orderSetting : Setting World Task Answer where
  exec := exec
  meets now event := event.thread.allowed event.op ∧ DeathSeen m event now.history
  inv now := Throughout (Orderly m) now.history

/-- No store to the flag is due: the task is past the beginning of its command. -/
def Undue (m : ManagerId) (now : Moment) : Prop := due (own (.actor m) now.history) = none

/-- A link that stands is ready. -/
def Level (m : ManagerId) (now : Moment) : Prop :=
  stands (own (.actor m) now.history) = true → linkReady m now.history = true

/-- The link is lost. -/
def Down (m : ManagerId) (now : Moment) : Prop := stands (own (.actor m) now.history) = false

/-- The link is being opened, or opened again. -/
def Mending (m : ManagerId) (now : Moment) : Prop := mending (own (.actor m) now.history) = true

/-- The same while handshake text is collected. -/
def Gathering (m : ManagerId) (text : Text) (now : Moment) : Prop :=
  Mending m now ∧ gathered (own (.actor m) now.history) = text

/-- No other task makes a store due. -/
theorem undue_stable {S : Setting World Task Answer} : S.Stable (.actor m) (Undue m) :=
  own_stable fun history => due history = none

/-- No other task touches the link. -/
theorem level_stable {S : Setting World Task Answer} : S.Stable (.actor m) (Level m) := by
  rintro before after holds ⟨event, foreign, moves, _⟩
  rw [Level, moves.occurs.2, own_foreign foreign, linkReady_foreign foreign]
  exact holds

/-- A lost link stays lost while other tasks move. -/
theorem down_stable {S : Setting World Task Answer} : S.Stable (.actor m) (Down m) :=
  own_stable fun history => stands history = false

/-- No other task ends an opening. -/
theorem mending_stable {S : Setting World Task Answer} : S.Stable (.actor m) (Mending m) :=
  own_stable fun history => mending history = true

/-- No other task adds to the text. -/
theorem gathering_stable {S : Setting World Task Answer} (text : Text) :
    S.Stable (.actor m) (Gathering m text) :=
  mending_stable.and (own_stable fun history => gathered history = text)

/-- A lost link need not be ready. -/
theorem Down.level {now : Moment} (down : Down m now) : Level m now :=
  fun up => absurd up (by simp [show stands _ = false from down])

/-- Behind anything but taking a command, no store is due. -/
theorem due_cons {op : Op} (takes : ∀ manager, op ≠ .nextCommand manager) (answer : Answer op)
    (earlier : List ClientEvent) : due (⟨.actor m, op, answer⟩ :: earlier) = none := by
  cases op with
  | nextCommand manager => exact absurd rfl (takes manager)
  | _ => rfl

/-- The events of other tasks are orderly for a manager: they neither take its commands nor
count as its stores. -/
theorem foreign_orderly {event : ClientEvent} {earlier : List ClientEvent}
    (foreign : event.thread ≠ .actor m) (permitted : event.thread.allowed event.op) :
    Orderly m event earlier where
  flag := fun same => absurd same foreign
  stores := fun same => absurd same foreign
  ready := fun takes => absurd (owner_performs (by rw [takes]; rfl) permitted) foreign

section Steps

variable {op : Op} {answer : Answer op} {now later : Moment}

/-- Once undue, anything but a store or taking a command keeps the order. -/
theorem order_kept (moves : (orderSetting m).Moves now ⟨.actor m, op, answer⟩ later)
    (undue : Undue m now) (takes : ∀ manager, op ≠ .nextCommand manager)
    (stores : ∀ value, op ≠ .storeAbort m value) :
    (orderSetting m).inv later ∧ Undue m later := by
  constructor
  · simp only [orderSetting, moves.occurs.2]
    refine ⟨⟨fun _ value due => ?_, fun _ value same => absurd same (stores value),
      fun same => absurd same (takes m)⟩, moves.inv⟩
    exact absurd (undue.symm.trans due) (by simp)
  · rw [Undue, moves.occurs.2, own_self]
    exact due_cons takes answer _

/-- What says nothing about the link and does not raise it keeps it level. -/
theorem level_step (moves : (orderSetting m).Moves now ⟨.actor m, op, answer⟩ later)
    (silent : linkEffect m ⟨.actor m, op, answer⟩ = none)
    (still : raises (⟨.actor m, op, answer⟩ : ClientEvent) = false) (level : Level m now) :
    Level m later := by
  intro up
  rw [moves.occurs.2, own_self] at up
  simp only [stands, still, Bool.false_or, Bool.and_eq_true] at up
  rw [moves.occurs.2, linkReady, silent]
  exact level up.2

/-- A lost link stays lost until it is raised. -/
theorem down_step (moves : (orderSetting m).Moves now ⟨.actor m, op, answer⟩ later)
    (still : raises (⟨.actor m, op, answer⟩ : ClientEvent) = false) (down : Down m now) :
    Down m later := by
  have before : stands (own (.actor m) now.history) = false := down
  rw [Down, moves.occurs.2, own_self]
  simp [stands, still, before]

/-- A refusal loses a link that is being opened. -/
theorem refused_down (moves : (orderSetting m).Moves now ⟨.actor m, op, answer⟩ later)
    (mends : Mending m now)
    (refused : refusal (own (.actor m) now.history) ⟨.actor m, op, answer⟩ = true) :
    Down m later := by
  have before : mending (own (.actor m) now.history) = true := mends
  rw [Down, moves.occurs.2, own_self]
  simp [stands, losing, before, refused]

/-- Operations that neither begin nor end an opening. -/
def Op.amid : Op → Prop
  | .nextCommand _ => False
  | .setConnectionState (.reconnecting _) => False
  | .setConnectionState .connected => False
  | .reply _ _ => False
  | .storeAbort _ _ => False
  | _ => True

/-- They leave the order and the opening as they are. -/
theorem amid_kept (moves : (orderSetting m).Moves now ⟨.actor m, op, answer⟩ later)
    (amid : op.amid) (undue : Undue m now) (mends : Mending m now) :
    (orderSetting m).inv later ∧ Undue m later ∧ Mending m later := by
  obtain ⟨kept, still⟩ := order_kept moves undue (by rintro manager rfl; exact amid)
    (by rintro value rfl; exact amid)
  refine ⟨kept, still, ?_⟩
  rw [Mending, moves.occurs.2, own_self]
  have before : mending (own (.actor m) now.history) = true := mends
  cases op with
  | nextCommand => exact amid.elim
  | reply => exact amid.elim
  | setConnectionState state => cases state <;> first | exact before | exact amid.elim
  | _ => exact before

end Steps

section Parts

/-! What is known of the parts of an opening: it goes on, or the link is lost. -/

variable {α β : Type}

/-- A part of an opening: with its value something holds, and with an error the link is lost.
No store to the flag is due either way. -/
def Mended (m : ManagerId) (holds : α → Moment → Prop) : Except AgwpeError α → Moment → Prop :=
  fun result now => Undue m now ∧ outcome holds (fun _ => Down m) result now

/-- Stable if what holds of the value is. -/
theorem mended_stable {S : Setting World Task Answer} {holds : α → Moment → Prop}
    (stable : ∀ value, S.Stable (.actor m) (holds value)) (result : Except AgwpeError α) :
    S.Stable (.actor m) (Mended m holds result) :=
  undue_stable.and (stable_outcome stable (fun _ => down_stable) result)

/-- Parts of an opening one after the other. -/
theorem mended_attempt {pre : Moment → Prop} {first : Attempt α} {after : α → Attempt β}
    {middle : α → Moment → Prop} {holds : β → Moment → Prop}
    (one : (orderSetting m).Triple (.actor m) (fun now => Undue m now ∧ pre now) first.run
      (Mended m middle))
    (two : ∀ value, (orderSetting m).Triple (.actor m) (fun now => Undue m now ∧ middle value now)
      (after value).run (Mended m holds)) :
    (orderSetting m).Triple (.actor m) (fun now => Undue m now ∧ pre now) (first >>= after).run
      (Mended m holds) := by
  apply triple_attempt (fun value now => Undue m now ∧ middle value now)
    (fun _ => undue_stable.and down_stable) _ two
  apply one.consequence (fun _ => id)
  rintro (err | value) now known <;> exact known

/-- One question of an opening, with any value made of its answer: an error has to be a
refusal. -/
theorem mended_answer (op : Op) (amid : op.amid) (value : Answer op → Except AgwpeError α)
    {pre : Moment → Prop} {holds : α → Moment → Prop}
    (stable : (orderSetting m).Stable (.actor m) fun now => Undue m now ∧ pre now)
    (held : ∀ value, (orderSetting m).Stable (.actor m) (holds value))
    (mends : ∀ now, pre now → Mending m now)
    (refused : ∀ now answer err, pre now → value answer = .error err →
      refusal (own (.actor m) now.history) ⟨.actor m, op, answer⟩ = true)
    (goes : ∀ now answer later given, pre now → value answer = .ok given →
      (orderSetting m).Moves now ⟨.actor m, op, answer⟩ later → Mending m later → holds given later) :
    (orderSetting m).Triple (.actor m) (fun now => Undue m now ∧ pre now)
      (ask op >>= fun answer => pure (value answer)) (Mended m holds) := by
  apply triple_ask_return stable (mended_stable held)
  rintro now answer later ⟨undue, known⟩ moves
  obtain ⟨kept, still, mending⟩ := amid_kept moves amid undue (mends now known)
  refine ⟨kept, still, ?_⟩
  cases made : value answer with
  | ok given => exact goes now answer later given known made moves mending
  | error err => exact refused_down moves (mends now known) (refused now answer err known made)

/-- A question whose answer cannot end an opening. -/
theorem mended_ask (op : Op) (amid : op.amid) {holds : Answer op → Moment → Prop}
    (held : ∀ value, (orderSetting m).Stable (.actor m) (holds value))
    (goes : ∀ now answer later, (orderSetting m).Moves now ⟨.actor m, op, answer⟩ later →
      Mending m later → holds answer later) :
    (orderSetting m).Triple (.actor m) (fun now => Undue m now ∧ Mending m now)
      (ExceptT.lift (ask op) : Attempt (Answer op)).run (Mended m holds) :=
  mended_answer op amid Except.ok (undue_stable.and mending_stable) held (fun _ => id)
    (fun _ _ _ _ failed => absurd failed (by simp)) fun now answer later given _ made moves mends =>
      Except.ok.inj made ▸ goes now answer later moves mends

/-- A call of the transport fails only with a refusal. -/
theorem mapErr_refused {answer : Except TransportError α} {err : AgwpeError}
    (failed : mapErr answer = .error err) : answer.isOk = false := by
  cases answer with
  | ok value => exact absurd failed (by simp [mapErr])
  | error error => rfl

/-- A call of the transport in an opening. -/
theorem callModem_mended (request : ModemCall) :
    (orderSetting m).Triple (.actor m) (fun now => Undue m now ∧ Mending m now)
      (callModem m request).run (Mended m fun _ => Mending m) := by
  apply mended_answer (.modem m request) trivial (fun answer => mapErr answer.result)
    (undue_stable.and mending_stable) (fun _ => mending_stable) (fun _ => id)
  · intro now answer err _ failed
    simp [refusal, mapErr_refused failed]
  · exact fun _ _ _ _ _ _ _ => id

/-- A write of the handshake, behind which collecting starts over. -/
theorem sendBytes_mended (purpose : Purpose) (data : Bytes) :
    (orderSetting m).Triple (.actor m) (fun now => Undue m now ∧ Mending m now)
      (sendBytes m purpose data).run (Mended m fun _ => Gathering m []) := by
  apply mended_answer (.send m purpose data) trivial mapErr
    (undue_stable.and mending_stable) (fun _ => gathering_stable []) (fun _ => id)
  · intro now answer err _ failed
    simp [refusal, mapErr_refused failed]
  · intro now answer later given _ _ moves mends
    refine ⟨mends, ?_⟩
    rw [moves.occurs.2, own_self]
    rfl

/-- The check of the abort flag keeps the text. -/
theorem bailIfAborted_mended (text : Text) :
    (orderSetting m).Triple (.actor m) (fun now => Undue m now ∧ Gathering m text now)
      (bailIfAborted m).run (Mended m fun _ => Gathering m text) := by
  apply mended_answer (.loadAbort m) trivial _
    (undue_stable.and (gathering_stable text)) (fun _ => gathering_stable text) (fun _ => And.left)
  · intro now aborted err _ failed
    cases aborted with
    | true => rfl
    | false => exact absurd failed (by simp)
  · intro now aborted later given known _ moves mends
    refine ⟨mends, ?_⟩
    rw [moves.occurs.2, own_self]
    exact known.2

/-- The same where no text is being collected. -/
theorem bailIfAborted_mending :
    (orderSetting m).Triple (.actor m) (fun now => Undue m now ∧ Mending m now)
      (bailIfAborted m).run (Mended m fun _ => Mending m) := by
  apply mended_answer (.loadAbort m) trivial _
    (undue_stable.and mending_stable) (fun _ => mending_stable) (fun _ => id)
  · intro now aborted err _ failed
    cases aborted with
    | true => rfl
    | false => exact absurd failed (by simp)
  · exact fun _ _ _ _ _ _ _ => id

/-- A question behind which collecting starts over. -/
theorem readConfig_mended :
    (orderSetting m).Triple (.actor m) (fun now => Undue m now ∧ Mending m now)
      (ExceptT.lift readConfig : Attempt AppConfig).run (Mended m fun _ => Gathering m []) := by
  apply mended_ask .readConfig trivial (fun _ => gathering_stable [])
  intro now answer later moves mends
  refine ⟨mends, ?_⟩
  rw [moves.occurs.2, own_self]
  rfl

/-- What collecting makes of one event, against what is read off the history. The cases are
those of the event. -/
theorem collectText_gathered (found : Text → Bool) (event : TransportEvent) {received : Text}
    {history : List ClientEvent} (same : gathered history = received) :
    match collectText found received event with
    | .inl text => gathered (⟨.actor m, .recv m 30, .ok event⟩ :: history) = text
    | .inr (.ok text) => gathered (⟨.actor m, .recv m 30, .ok event⟩ :: history) = text
    | .inr (.error _) => refusal history ⟨.actor m, .recv m 30, .ok event⟩ = true := by
  subst same
  cases event with
  | disconnected reason => rfl
  | data bytes =>
    by_cases long : Utf8.byteLength (gathered history) + Utf8.byteLength (Utf8.lossy bytes) >
        maxHandshakeText
    · simp [collectText, long, refusal]
    · by_cases ends : found (gathered history ++ Utf8.lossy bytes) = true
      · simp [collectText, long, ends, gathered]
      · simp [collectText, long, ends, gathered]

/-- Handshake text is collected from nothing; what ends the collecting without a text is a
refusal. -/
theorem awaitText_mended (found : Text → Bool) :
    (orderSetting m).Triple (.actor m) (fun now => Undue m now ∧ Gathering m [] now)
      (awaitText m found).run (Mended m fun text => Gathering m text) := by
  rw [awaitText_run]
  have final := mended_stable (S := orderSetting m) (m := m) fun text => gathering_stable text
  have collecting : ∀ text, (orderSetting m).Stable (.actor m) fun now =>
      Undue m now ∧ Gathering m text now := fun text => undue_stable.and (gathering_stable text)
  apply triple_loop (fun received now => Undue m now ∧ Gathering m received now) collecting final
  intro received
  have either : ∀ result : Text ⊕ Except AgwpeError Text, (orderSetting m).Stable (.actor m)
      (Sum.elim (fun received now => Undue m now ∧ Gathering m received now)
        (Mended m fun text => Gathering m text) result) := by
    rintro (text | result)
    · exact collecting text
    · exact final result
  apply triple_ask_return (collecting received) either
  rintro now answer later ⟨undue, mends, same⟩ moves
  obtain ⟨kept, still, mending⟩ := amid_kept moves trivial undue mends
  refine ⟨kept, ?_⟩
  cases answer with
  | error err => exact ⟨still, refused_down moves mends rfl⟩
  | ok event =>
    have known := collectText_gathered (m := m) found event same
    show Sum.elim (fun received now => Undue m now ∧ Gathering m received now)
      (Mended m fun text => Gathering m text) (collectText found received event) later
    cases collected : collectText found received event with
    | inl text =>
      rw [collected] at known
      refine ⟨still, mending, ?_⟩
      rw [moves.occurs.2, own_self]
      exact known
    | inr result =>
      rw [collected] at known
      cases result with
      | ok text =>
        refine ⟨still, mending, ?_⟩
        rw [moves.occurs.2, own_self]
        exact known
      | error err => exact ⟨still, refused_down moves mends known⟩

end Parts

section Handshakes

/-! The handshake of an opening and the one of a reconnect: they end with the consent being
sent, or with a lost link. -/

/-- What holds of a moment in an opening may be forgotten up to the opening itself. -/
theorem Mended.mono {α : Type} {holds weaker : α → Moment → Prop}
    (implies : ∀ value now, holds value now → weaker value now) (result : Except AgwpeError α)
    (now : Moment) (mended : Mended m holds result now) : Mended m weaker result now := by
  cases result with
  | ok value => exact ⟨mended.1, implies value now mended.2⟩
  | error err => exact mended

/-- Collecting is part of an opening. -/
theorem gathering_mending {text : Text} (now : Moment)
    (known : Undue m now ∧ Gathering m text now) : Undue m now ∧ Mending m now :=
  ⟨known.1, known.2.1⟩

/-- The application command, behind which collecting starts over. -/
theorem bpqSendAppCommand_mended :
    (orderSetting m).Triple (.actor m) (fun now => Undue m now ∧ Mending m now)
      (bpqSendAppCommand m).run (Mended m fun _ => Gathering m []) :=
  mended_attempt readConfig_mended fun _ =>
    (sendBytes_mended _ _).consequence gathering_mending fun _ _ => id

/-- Entering the application, or not. -/
theorem enterApplication_mended (skipBpqApp : Bool) :
    (orderSetting m).Triple (.actor m) (fun now => Undue m now ∧ Gathering m [] now)
      (enterApplication m skipBpqApp).run (Mended m fun _ => Gathering m []) := by
  cases skipBpqApp with
  | true => exact triple_done (mended_stable (fun _ => gathering_stable []) _) fun _ => id
  | false => exact bpqSendAppCommand_mended.consequence gathering_mending fun _ _ => id

/-- The same with the check behind it. -/
theorem reenterApplication_mended (skipBpqApp : Bool) :
    (orderSetting m).Triple (.actor m) (fun now => Undue m now ∧ Gathering m [] now)
      (reenterApplication m skipBpqApp).run (Mended m fun _ => Gathering m []) := by
  cases skipBpqApp with
  | true => exact triple_done (mended_stable (fun _ => gathering_stable []) _) fun _ => id
  | false =>
    apply Triple.consequence (mended_attempt bpqSendAppCommand_mended fun _ =>
      bailIfAborted_mended []) gathering_mending
    exact fun _ _ => id

/-- The prompt and the callsign. -/
theorem callsign_mended (localCallsign : Text) :
    (orderSetting m).Triple (.actor m) (fun now => Undue m now ∧ Gathering m [] now)
      (bpqAwaitCallsignPromptAndSendCallsign m localCallsign).run
      (Mended m fun _ => Gathering m []) :=
  mended_attempt (awaitText_mended _) fun _ =>
    (sendBytes_mended _ _).consequence gathering_mending fun _ _ => id

/-- The handshake up to the disclaimer. -/
theorem receiveDisclaimer_mended (localCallsign : Text) :
    (orderSetting m).Triple (.actor m) (fun now => Undue m now ∧ Mending m now)
      (receiveDisclaimer m localCallsign).run (Mended m fun _ => Mending m) := by
  apply mended_attempt readConfig_mended
  intro config
  apply mended_attempt (enterApplication_mended _)
  intro _
  apply mended_attempt (callsign_mended _)
  intro _
  exact (awaitText_mended _).consequence (fun _ => id)
    (Mended.mono fun _ _ => And.left)

/-- The operator's answer: anything but an acceptance loses the link. -/
theorem awaitOperator_mended (consent : ConsentId) :
    (orderSetting m).Triple (.actor m) (fun now => Undue m now ∧ Mending m now)
      (awaitOperator consent).run
      (Mended m fun accepted now => if accepted then Mending m now else Down m now) := by
  have held : ∀ accepted : Bool, (orderSetting m).Stable (.actor m)
      fun now => if accepted then Mending m now else Down m now := by
    intro accepted
    cases accepted with
    | true => exact mending_stable
    | false => exact down_stable
  have final := mended_stable held
  apply triple_bind fun (waited : ConsentWait) now =>
    Undue m now ∧ if waited = .decided true then Mending m now else Down m now
  · apply triple_ask (undue_stable.and mending_stable)
    · intro waited
      apply undue_stable.and
      split
      · exact mending_stable
      · exact down_stable
    · rintro now waited later ⟨undue, mends⟩ moves
      obtain ⟨kept, still, mending⟩ := amid_kept moves trivial undue mends
      refine ⟨kept, still, ?_⟩
      split
      · exact mending
      · rename_i other
        exact refused_down moves mends (by simpa [refusal] using other)
  · intro waited
    rcases waited with accepted | _ | _
    · apply triple_done (final _)
      rintro now ⟨undue, known⟩
      refine ⟨undue, ?_⟩
      cases accepted with
      | true => simpa [outcome] using known
      | false => simpa [outcome] using known
    · exact triple_done (final _) fun now known => ⟨known.1, by simpa [outcome] using known.2⟩
    · apply triple_bind fun (_ : Unit) now => Undue m now ∧ Down m now
      · apply triple_ask
        · apply undue_stable.and
          exact down_stable
        · exact fun _ => undue_stable.and down_stable
        · rintro now answer later ⟨undue, down⟩ moves
          obtain ⟨kept, still⟩ := order_kept moves undue (by simp) (by simp)
          exact ⟨kept, still, down_step moves rfl (by simpa using down)⟩
      · exact fun _ => triple_done (final _) fun _ => id

/-- An answer that was not an acceptance ends the opening with a lost link. -/
theorem requireAccepted_mended (accepted : Bool) :
    (orderSetting m).Triple (.actor m)
      (fun now => Undue m now ∧ if accepted then Mending m now else Down m now)
      (requireAccepted accepted).run (Mended m fun _ => Mending m) := by
  have final := mended_stable (S := orderSetting m) (m := m) fun (_ : Unit) => mending_stable
  cases accepted with
  | true => exact triple_done (final _) fun _ => id
  | false => exact triple_done (final _) fun _ => id

/-- Asking the operator. -/
theorem askOperator_mended (receivedText : Text) :
    (orderSetting m).Triple (.actor m) (fun now => Undue m now ∧ Mending m now)
      (askOperator receivedText).run (Mended m fun _ => Mending m) := by
  apply mended_attempt (mended_ask (.parkConsent receivedText) trivial (fun _ => mending_stable)
    fun _ _ _ _ => id)
  intro consent
  apply mended_attempt (awaitOperator_mended consent)
  exact requireAccepted_mended

/-- Sending the consent makes the link ready, or loses it. -/
theorem agree_mended (purpose : Purpose)
    (binds : (∃ text, purpose = .agreeByOperator text) ∨ ∃ text, purpose = .autoAgree text) :
    (orderSetting m).Triple (.actor m) (fun now => Undue m now ∧ Mending m now)
      (sendBytes m purpose agreeBytes).run (Mended m fun _ now => Level m now) := by
  apply mended_answer (.send m purpose agreeBytes) trivial mapErr
    (undue_stable.and mending_stable) (fun _ => level_stable) (fun _ => id)
  · intro now answer err _ failed
    simp [refusal, mapErr_refused failed]
  · intro now answer later given _ made moves _ _
    cases answer with
    | error err => exact absurd made (by simp [mapErr])
    | ok value =>
      rw [moves.occurs.2]
      rcases binds with ⟨text, rfl⟩ | ⟨text, rfl⟩
      · simp [linkReady, linkEffect]
      · simp [linkReady, linkEffect]

/-- The whole handshake of an opening. -/
theorem performBpqHandshake_mended (localCallsign : Text) :
    (orderSetting m).Triple (.actor m) (fun now => Undue m now ∧ Mending m now)
      (performBpqHandshake m localCallsign).run (Mended m fun _ now => Level m now) := by
  apply mended_attempt (receiveDisclaimer_mended localCallsign)
  intro receivedText
  apply mended_attempt (askOperator_mended receivedText)
  exact fun _ => agree_mended _ (Or.inl ⟨receivedText, rfl⟩)

/-- A write of the state says nothing about the link, unless a reconnect begins. -/
theorem setState_level (state : ConnectionState) (other : ∀ reason, state ≠ .reconnecting reason) :
    (orderSetting m).Triple (.actor m) (fun now => Undue m now ∧ Level m now) (setState state)
      fun _ now => Undue m now ∧ Level m now := by
  apply triple_ask (undue_stable.and level_stable) (fun _ => undue_stable.and level_stable)
  rintro now answer later ⟨undue, level⟩ moves
  obtain ⟨kept, still⟩ := order_kept moves undue (by simp) (by simp)
  refine ⟨kept, still, level_step moves ?_ rfl level⟩
  cases state <;> first | exact absurd rfl (other _) | simp [linkEffect]

/-- It cannot raise a lost link. -/
theorem setState_down (state : ConnectionState) :
    (orderSetting m).Triple (.actor m) (fun now => Undue m now ∧ Down m now) (setState state)
      fun _ now => Undue m now ∧ Down m now := by
  apply triple_ask (undue_stable.and down_stable) (fun _ => undue_stable.and down_stable)
  rintro now answer later ⟨undue, down⟩ moves
  obtain ⟨kept, still⟩ := order_kept moves undue (by simp) (by simp)
  exact ⟨kept, still, down_step moves rfl down⟩

/-- A state other than those that begin and end an opening goes with one. -/
theorem setState_mended (state : ConnectionState) (amid : (Op.setConnectionState state).amid) :
    (orderSetting m).Triple (.actor m) (fun now => Undue m now ∧ Mending m now)
      (ExceptT.lift (setState state) : Attempt Unit).run (Mended m fun _ => Mending m) :=
  mended_ask (.setConnectionState state) amid (fun _ => mending_stable) fun _ _ _ _ => id

/-- A reconnect begins. -/
theorem setState_reconnecting (reason : Text) :
    (orderSetting m).Triple (.actor m) (Undue m) (setState (.reconnecting reason))
      fun _ now => Undue m now ∧ Mending m now := by
  apply triple_ask undue_stable (fun _ => undue_stable.and mending_stable)
  intro now answer later undue moves
  obtain ⟨kept, still⟩ := order_kept moves undue (by simp) (by simp)
  refine ⟨kept, still, ?_⟩
  rw [Mending, moves.occurs.2, own_self]
  rfl

end Handshakes

section Commands

/-! Every command leaves a link that stands ready, whatever comes of it. -/

/-- The end of a command: no store is due, and a link that stands is ready. -/
def Rested (m : ManagerId) (now : Moment) : Prop := Undue m now ∧ Level m now

/-- It outlasts what other tasks do. -/
theorem rested_stable {S : Setting World Task Answer} : S.Stable (.actor m) (Rested m) :=
  undue_stable.and level_stable

/-- An opening rests when it is over: its link is ready or lost. -/
theorem Mended.rested {α : Type} (result : Except AgwpeError α) (now : Moment)
    (mended : Mended m (fun _ => Level m) result now) : Rested m now := by
  cases result with
  | ok value => exact mended
  | error err => exact ⟨mended.1, Down.level mended.2⟩

/-- Operations that say nothing about the link and neither take a command nor store. -/
def Op.aside : Op → Prop
  | .recv _ _ => True
  | .loadAbort _ => True
  | .send _ .request _ => True
  | .portQuerySupported _ => True
  | .modem _ .queryPorts => True
  | .modem _ .closeSession => True
  | .modem _ .disconnectModem => True
  | .modem _ (.connectModem _) => True
  | .setConnectionState .agwpeConnected => True
  | _ => False

/-- They leave the task at rest. -/
theorem aside_rested {op : Op} (aside : op.aside) (now : Moment) (answer : Answer op)
    (later : Moment) (rested : Rested m now)
    (moves : (orderSetting m).Moves now ⟨.actor m, op, answer⟩ later) :
    (orderSetting m).inv later ∧ Rested m later := by
  obtain ⟨kept, still⟩ := order_kept moves rested.1 (by rintro manager rfl; exact aside)
    (by rintro value rfl; exact aside)
  refine ⟨kept, still, level_step moves ?_ ?_ rested.2⟩
  · cases op with
    | modem manager call => cases call <;> first | exact aside.elim | simp [linkEffect]
    | send manager purpose data => cases purpose <;> first | exact aside.elim | simp [linkEffect]
    | setConnectionState state => cases state <;> first | exact aside.elim | simp [linkEffect]
    | _ => first | exact aside.elim | simp [linkEffect]
  · cases op with
    | send manager purpose data => cases purpose <;> first | exact aside.elim | rfl
    | _ => first | exact aside.elim | rfl

/-- A program of such operations leaves the task at rest. -/
theorem aside_triple {α : Type} {program : Routine α} (only : program.Only Op.aside) :
    (orderSetting m).Triple (.actor m) (Rested m) program fun _ => Rested m :=
  triple_only rested_stable only fun _ aside now answer later rested moves =>
    aside_rested aside now answer later rested moves

/-- One attempt of a request is such a program. -/
theorem handleSendRequest_aside (timeoutSecs : Nat) (data : Bytes) :
    (handleSendRequest m timeoutSecs data).run.Only Op.aside := by
  apply only_attempt _ ((bailIfAborted_only m).mono (by rintro op rfl; trivial))
  intro _
  apply only_attempt _ ((sendBytes_only m .request data).mono (by rintro op rfl; trivial))
  intro _
  apply (receiveResponse_listens m timeoutSecs).mono
  intro op listening
  cases op <;> first | exact listening.elim | trivial

/-- The modem, the link and the handshake once more, up to the disclaimer. -/
theorem receiveAgain_mended (reason localCallsign : Text) :
    (orderSetting m).Triple (.actor m) (fun now => Undue m now ∧ Mending m now)
      (receiveAgain m reason localCallsign).run (Mended m fun text => Gathering m text) := by
  apply mended_attempt (callModem_mended _)
  intro _
  have again : (orderSetting m).Triple (.actor m) (fun now => Undue m now ∧ Mending m now)
      (ExceptT.lift (setState (.reconnecting reason)) : Attempt Unit).run
      (Mended m fun _ => Mending m) :=
    triple_lift (fun _ => undue_stable.and mending_stable)
      ((setState_reconnecting reason).consequence (fun _ => And.left) fun _ _ => id)
  apply mended_attempt again
  intro _
  apply mended_attempt bailIfAborted_mending
  intro _
  apply mended_attempt (callModem_mended _)
  intro _
  apply mended_attempt bailIfAborted_mending
  intro _
  apply mended_attempt readConfig_mended
  intro config
  apply mended_attempt (reenterApplication_mended _)
  intro _
  apply mended_attempt (callsign_mended _)
  intro _
  apply mended_attempt (bailIfAborted_mended [])
  intro _
  apply mended_attempt (awaitText_mended _)
  intro disclaimer
  apply mended_attempt (bailIfAborted_mended disclaimer)
  exact fun _ => triple_done (mended_stable (fun text => gathering_stable text) _) fun _ => id

/-- A text that is not the one agreed to loses the link, and is shown. -/
theorem requireAgreed_mended (disclaimer : Text) :
    (orderSetting m).Triple (.actor m) (fun now => Undue m now ∧ Gathering m disclaimer now)
      (requireAgreed disclaimer).run (Mended m fun _ => Mending m) := by
  have final := mended_stable (S := orderSetting m) (m := m) fun (_ : Unit) => mending_stable
  have known : ∀ stored : Option Text, (orderSetting m).Stable (.actor m) fun now => Undue m now ∧
      if matchesStoredDisclaimer disclaimer stored then Mending m now else Down m now := by
    intro stored
    apply undue_stable.and
    split
    · exact mending_stable
    · exact down_stable
  apply triple_attempt (fun stored now => Undue m now ∧
    if matchesStoredDisclaimer disclaimer stored then Mending m now else Down m now) (fun _ => final _)
  · apply triple_lift known
    apply triple_ask (undue_stable.and (gathering_stable disclaimer)) known
    rintro now stored later ⟨undue, mends, same⟩ moves
    obtain ⟨kept, still, mending⟩ := amid_kept moves trivial undue mends
    refine ⟨kept, still, ?_⟩
    split
    · exact mending
    · rename_i other
      exact refused_down moves mends (by simpa [refusal, same] using other)
  · intro stored
    unfold requireStored
    by_cases same : matchesStoredDisclaimer disclaimer stored = true
    · simp only [same, if_true]
      exact triple_done (final _) fun _ => id
    · simp only [same]
      apply triple_attempt (fun (_ : Unit) now => Undue m now ∧ Down m now) (fun _ => final _)
      · apply triple_lift fun _ => undue_stable.and down_stable
        exact setState_down _
      · exact fun _ => triple_done (final _) fun _ => id

/-- Everything of a reconnect that can fail. -/
theorem reestablish_mended (reason localCallsign : Text) :
    (orderSetting m).Triple (.actor m) (fun now => Undue m now ∧ Mending m now)
      (reestablish m reason localCallsign).run (Mended m fun _ => Level m) := by
  apply mended_attempt (receiveAgain_mended reason localCallsign)
  intro disclaimer
  apply mended_attempt (requireAgreed_mended disclaimer)
  intro _
  apply mended_attempt bailIfAborted_mending
  intro _
  apply mended_attempt (agree_mended _ (Or.inr ⟨disclaimer, rfl⟩))
  intro _
  apply triple_lift fun _ => rested_stable
  exact setState_level _ (by simp)

/-- A reconnect leaves the task at rest, whether it succeeds or fails half way. -/
theorem handleReconnect_rested (reason localCallsign : Text) :
    (orderSetting m).Triple (.actor m) (Rested m) (handleReconnect m reason localCallsign).run
      fun _ => Rested m := by
  apply triple_bind _ ((setState_reconnecting reason).consequence (fun _ => And.left) fun _ _ => id)
  intro _
  apply triple_bind _ ((reestablish_mended reason localCallsign).consequence (fun _ => id)
    Mended.rested)
  intro result
  split
  · exact triple_done rested_stable fun _ => id
  · exact triple_done rested_stable fun _ => id
  · exact triple_bind (fun _ => Rested m) (setState_level _ (by simp)) fun _ =>
      triple_done rested_stable fun _ => id

/-- A part of a command that leaves the task at rest, in front of another one. -/
theorem rested_attempt {α β : Type} {first : Attempt α} {after : α → Attempt β}
    (one : (orderSetting m).Triple (.actor m) (Rested m) first.run fun _ => Rested m)
    (two : ∀ value, (orderSetting m).Triple (.actor m) (Rested m) (after value).run
      fun _ => Rested m) :
    (orderSetting m).Triple (.actor m) (Rested m) (first >>= after).run fun _ => Rested m := by
  apply triple_attempt (fun _ => Rested m) (fun _ => rested_stable) _ two
  apply one.consequence (fun _ => id)
  rintro (err | value) now rested <;> exact rested

/-- Both attempts of a request and the reconnect between them. -/
theorem handleSendRequestWithReconnect_rested (timeoutSecs : Nat) (data localCallsign) :
    (orderSetting m).Triple (.actor m) (Rested m)
      (handleSendRequestWithReconnect m timeoutSecs data localCallsign).run fun _ => Rested m := by
  have request : (orderSetting m).Triple (.actor m) (Rested m)
      (handleSendRequest m timeoutSecs data).run fun _ => Rested m :=
    aside_triple (handleSendRequest_aside timeoutSecs data)
  have bailing : (bailIfAborted m).run.Only Op.aside :=
    (bailIfAborted_only m).mono (by rintro op rfl; trivial)
  have bail : (orderSetting m).Triple (.actor m) (Rested m) (bailIfAborted m).run
      fun _ => Rested m := aside_triple bailing
  apply rested_attempt bail
  intro _
  apply triple_bind _ request
  intro first
  unfold afterFirstTry
  split
  · exact triple_done rested_stable fun _ => id
  · apply rested_attempt (handleReconnect_rested _ localCallsign)
    exact fun _ => rested_attempt bail fun _ => request
  · exact triple_done rested_stable fun _ => id

/-- Configuring the transport and opening the link. -/
theorem openLink_mended (target : Text) (portNum : UInt8) (localCallsign : Text) :
    (orderSetting m).Triple (.actor m) (fun now => Undue m now ∧ Mending m now)
      (openLink m target portNum localCallsign).run (Mended m fun _ => Mending m) := by
  apply mended_attempt readConfig_mended
  intro first
  apply mended_attempt (readConfig_mended.consequence gathering_mending fun _ _ => id)
  intro second
  apply mended_attempt ((callModem_mended _).consequence gathering_mending fun _ _ => id)
  intro _
  apply mended_attempt (setState_mended .connecting trivial)
  exact fun _ => callModem_mended _

/-- The store that is due is made; an assertion that no store destroys is carried past it. -/
theorem store_undue (value : Bool) {frame : Moment → Prop}
    (stable : (orderSetting m).Stable (.actor m) frame)
    (keeps : ∀ now later, (orderSetting m).Moves now ⟨.actor m, .storeAbort m value, ()⟩ later →
      frame now → frame later) :
    (orderSetting m).Triple (.actor m)
      (fun now => due (own (.actor m) now.history) = some value ∧ frame now)
      (ask (.storeAbort m value)) fun _ now => Undue m now ∧ frame now := by
  apply triple_ask ((own_stable fun history => due history = some value).and stable)
    (fun _ => undue_stable.and stable)
  rintro now answer later ⟨isDue, framed⟩ moves
  refine ⟨?_, ?_, keeps now later moves framed⟩
  · simp only [orderSetting, moves.occurs.2]
    refine ⟨⟨fun _ other same => ?_, fun _ other same => ?_, fun same => absurd same (by simp)⟩,
      moves.inv⟩
    · rw [Option.some.inj (isDue.symm.trans same)]
    · rw [isDue, (Op.storeAbort.inj same).2]
  · rw [Undue, moves.occurs.2, own_self]
    rfl

/-- No store touches the link. -/
theorem store_level (value : Bool) (now later : Moment)
    (moves : (orderSetting m).Moves now ⟨.actor m, .storeAbort m value, ()⟩ later)
    (level : Level m now) : Level m later :=
  level_step moves (by simp [linkEffect]) rfl level

/-- No store ends an opening. -/
theorem store_mending (value : Bool) (now later : Moment)
    (moves : (orderSetting m).Moves now ⟨.actor m, .storeAbort m value, ()⟩ later)
    (mends : Mending m now) : Mending m later := by
  rw [Mending, moves.occurs.2, own_self]
  exact mends

/-- Opening a session, from the store to the flag that begins it. -/
theorem handleOpenSession_rested (target : Text) (portNum : UInt8) (localCallsign : Text) :
    (orderSetting m).Triple (.actor m)
      (fun now => due (own (.actor m) now.history) = some false ∧ Mending m now)
      (handleOpenSession m target portNum localCallsign).run fun _ => Rested m := by
  have rests : ∀ {α : Type} {program : Attempt α}, (orderSetting m).Triple (.actor m)
      (fun now => Undue m now ∧ Mending m now) program.run (Mended m fun _ => Level m) →
      (orderSetting m).Triple (.actor m) (fun now => Undue m now ∧ Mending m now) program.run
        fun _ => Rested m := fun triple => triple.consequence (fun _ => id) Mended.rested
  apply triple_attempt (fun (_ : Unit) now => Undue m now ∧ Mending m now)
    (fun _ => rested_stable)
  · apply triple_lift fun _ => undue_stable.and mending_stable
    exact store_undue false mending_stable (store_mending false)
  intro _
  apply rests
  apply mended_attempt (openLink_mended target portNum localCallsign)
  intro _
  apply triple_bind _ (performBpqHandshake_mended localCallsign)
  intro result
  have final := mended_stable (S := orderSetting m) (m := m) fun (_ : Unit) => level_stable
  cases result with
  | ok value =>
    exact triple_bind (fun _ => Rested m) (setState_level _ (by simp)) fun _ =>
      triple_done (final _) fun _ => id
  | error err =>
    exact triple_bind (fun _ now => Undue m now ∧ Down m now) (setState_down _) fun _ =>
      triple_done (final _) fun _ => id

/-- Closing a session, from the store to the flag that begins it. -/
theorem handleCloseSession_rested :
    (orderSetting m).Triple (.actor m)
      (fun now => due (own (.actor m) now.history) = some true ∧ Level m now)
      (handleCloseSession m).run fun _ => Rested m := by
  apply triple_attempt (fun (_ : Unit) => Rested m) (fun _ => rested_stable)
  · apply triple_lift fun _ => rested_stable
    exact store_undue true level_stable (store_level true)
  intro _
  apply aside_triple
  apply only_attempt _ ((callModem_only m _).mono (by rintro op rfl; trivial))
  intro _
  exact only_lift _ ((setState_only _).mono (by rintro op rfl; trivial))

/-- What is known of a command just taken from the queue. -/
def TakenUp (m : ManagerId) : Option (TicketId × Command) → Moment → Prop
  | none, _ => True
  | some (_, command), now => due (own (.actor m) now.history) = command.sets ∧
      if command.opens then Mending m now else Level m now

/-- It outlasts what other tasks do. -/
theorem takenUp_stable (next : Option (TicketId × Command)) :
    (orderSetting m).Stable (.actor m) (TakenUp m next) := by
  rcases next with _ | ⟨ticket, command⟩
  · exact stable_const _
  · apply (own_stable fun history => due history = command.sets).and
    split
    · exact mending_stable
    · exact level_stable

/-- Every command, once taken, leaves the task at rest. The cases are the commands. -/
theorem runCommand_rested (timeoutSecs : Nat) (localCallsign : Text) (ticket : TicketId)
    (command : Command) :
    (orderSetting m).Triple (.actor m) (TakenUp m (some (ticket, command)))
      (runCommand m timeoutSecs localCallsign command) fun _ => Rested m := by
  have ends : ∀ {α β : Type} {pre : Moment → Prop} {program : Routine α} {value : α → β},
      (orderSetting m).Triple (.actor m) pre program (fun _ => Rested m) →
      (orderSetting m).Triple (.actor m) pre (program >>= fun result => pure (value result))
        fun _ => Rested m :=
    fun triple => triple_bind _ triple fun _ => triple_done rested_stable fun _ => id
  have calls : ∀ request, (Op.modem m request).aside → (orderSetting m).Triple (.actor m) (Rested m)
      (callModem m request).run fun _ => Rested m := fun request aside =>
    aside_triple ((callModem_only m request).mono (by rintro op rfl; exact aside))
  cases command with
  | connectModem config =>
    apply triple_bind (fun _ => Rested m) (store_undue false level_stable (store_level false))
    exact fun _ => ends (calls _ trivial)
  | disconnectModem => exact ends (calls _ trivial)
  | queryPorts =>
    apply ends
    apply rested_attempt (aside_triple (only_lift _
      (only_ask _ (show Op.aside (.portQuerySupported m) from trivial))))
    intro supported
    cases supported with
    | true => exact calls _ trivial
    | false => exact triple_done rested_stable fun _ => id
  | openSession target portNum => exact ends (handleOpenSession_rested target portNum localCallsign)
  | closeSession => exact ends handleCloseSession_rested
  | sendRequest data => exact ends (aside_triple (handleSendRequest_aside timeoutSecs data))
  | sendRequestWithReconnect data =>
    exact ends (handleSendRequestWithReconnect_rested timeoutSecs data localCallsign)

/-- A background task at rest takes the next command. -/
theorem nextCommand_takenUp :
    (orderSetting m).Triple (.actor m) (Rested m) (ask (.nextCommand m)) (TakenUp m) := by
  apply triple_ask rested_stable takenUp_stable
  rintro now next later ⟨undue, level⟩ moves
  have nothing : due (own (.actor m) now.history) = none := undue
  constructor
  · simp only [orderSetting, moves.occurs.2]
    refine ⟨⟨fun _ value isDue => ?_, fun _ value same => absurd same (by simp), fun _ => level⟩,
      moves.inv⟩
    exact absurd (nothing.symm.trans isDue) (by simp)
  · rcases next with _ | ⟨ticket, command⟩
    · trivial
    · constructor
      · rw [moves.occurs.2, own_self]
        rfl
      · split
        · rename_i opens
          rw [Mending, moves.occurs.2, own_self]
          cases command <;> first | rfl | exact absurd opens (by simp [Command.opens])
        · rename_i other
          apply level_step moves (by simp [linkEffect]) _ level
          cases command <;> first | rfl | exact absurd rfl other

/-- A reply of a death finds the link lost already, so it leaves the task at rest. -/
theorem reply_rested (ticket : TicketId) (result : Reply) :
    (orderSetting m).Triple (.actor m) (Rested m) (ask (.reply ticket result))
      fun _ => Rested m := by
  apply triple_ask rested_stable (fun _ => rested_stable)
  rintro now answer later ⟨undue, level⟩ moves
  obtain ⟨kept, still⟩ := order_kept moves undue (by simp) (by simp)
  refine ⟨kept, still, ?_⟩
  by_cases died : reportsDeath result = true
  · have struckBefore := moves.met.2 (by simpa [reportedDead] using died)
    apply Down.level
    apply down_step moves rfl
    cases acted : own (.actor m) now.history with
    | nil => simp [acted, struck] at struckBefore
    | cons event earlier =>
      rw [acted, struck] at struckBefore
      simp [Down, acted, stands, losing, struckBefore]
  · apply level_step moves _ rfl level
    rcases result with err | data
    · cases err <;> first | exact absurd rfl died | simp [linkEffect]
    · simp [linkEffect]

/-- The background task keeps the order. -/
theorem backgroundTask_orderly (configuredTimeout : Nat) :
    (orderSetting m).Triple (.actor m) (Rested m) (backgroundTask m configuredTimeout)
      fun _ _ => True :=
  backgroundTask_triple (TakenUp m) (fun _ _ => Rested m) rested_stable nextCommand_takenUp
    runCommand_rested reply_rested configuredTimeout

end Commands

/-- All tasks of the client keep the order of one background task: the other ones have no part
in it. -/
theorem client_ordered (entries : Nat → Entry) (configuredTimeout : ManagerId → Nat) (task : Task)
    (now : Moment) (fresh : now.history = []) :
    (orderSetting m).Safe task ((client entries configuredTimeout).threads task)
      (fun _ _ => True) now := by
  by_cases same : task = .actor m
  · subst same
    apply backgroundTask_orderly _ now
    constructor
    · simp [Undue, fresh, own, due, begun]
    · exact fun up => absurd up (by simp [fresh, own, stands])
  · refine safe_only (client_only entries configuredTimeout task)
      (fun op permitted now answer later moves => ?_) now
    simp only [orderSetting, moves.occurs.2]
    exact ⟨foreign_orderly same permitted, moves.inv⟩

end Proof

/-- In every run a background task stores to its abort flag only as its commands begin, and
whenever it turns to its queue its link is ready if it stands. -/
theorem client_orderly (m : ManagerId) {entries : Nat → Entry} {configuredTimeout : ManagerId → Nat}
    {meets : Moment → ClientEvent → Prop} (pool : Pool World Task Answer)
    (reaches : Reaches exec meets (client entries configuredTimeout) pool) :
    Throughout (Orderly m) pool.now.history := by
  have known : Reaches exec (orderSetting m).meets (client entries configuredTimeout) pool :=
    ((client_roles reaches).throughout fun pool => deaths_seen m pool).mono
      fun _ _ met => ⟨met.1.2, met.2⟩
  have kept : (orderSetting m).inv pool.now ∧ _ :=
    sound known trivial fun task => client_ordered entries configuredTimeout task _ rfl
  exact kept.1

end PacketBrowser.Client
