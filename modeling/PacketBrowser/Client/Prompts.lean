import PacketBrowser.Client.Death

/-!
# Whether a consent prompt can be answered

A prompt is a text on display and a channel in the slot of the shared state. The
operator can answer it if the two go together: the text is shown exactly while the slot
holds the sender of a channel on which a handshake waits. Between two steps that belong
together this cannot be so, for instance while a decision is being delivered, or while
the handshake has its decision and has not yet reported its outcome. `Settled` says
that no such step is in progress.

Two writers break it. The reconnect shows a text without putting anything in the slot,
and a manager writes the state while the prompt of another one is pending.
-/

namespace PacketBrowser.Client

open Protocol Foundation Program Setting

/-- A handshake and its prompt: there is none, or it waits for a decision, or the wait
has ended and its outcome is not on display yet. -/
inductive Prompting where
  | absent
  | waits (consent : ConsentId)
  | ended (consent : ConsentId)
  deriving DecidableEq, Repr

/-- The prompt of a background task, from its own events. -/
def prompting : List ClientEvent → Prompting
  | [] => .absent
  | event :: earlier =>
    match event.op, event.answer with
    | .parkConsent _, consent => .waits consent
    | .awaitConsent consent, _ => .ended consent
    | .setConnectionState _, _ => .absent
    | _, _ => prompting earlier

/-- The sender a web handler has taken from the slot and not used yet. -/
def deciding : List ClientEvent → Option ConsentId
  | [] => none
  | event :: earlier =>
    match event.op, event.answer with
    | .takePendingConsent _, some consent => some consent
    | .answerConsent _ _, _ => none
    | _, _ => deciding earlier

/-- The wait on this channel timed out. -/
def expired (consent : ConsentId) (history : List ClientEvent) : Prop :=
  ∃ event ∈ history, event = event.thread.does (.awaitConsent consent) .timedOut

/-- The handshake has a prompt on this channel. -/
def Prompts (m : ManagerId) (consent : ConsentId) (history : List ClientEvent) : Prop :=
  prompting (own (.actor m) history) = .waits consent ∨
    prompting (own (.actor m) history) = .ended consent

/-- No step of the consent dialogue is in progress: no handler holds a sender, and no
handshake has a decision, or has waited in vain, without having reported its outcome. -/
structure Settled (now : Moment) : Prop where
  decided : ∀ task, deciding (own task now.history) = none
  reported : ∀ m consent, prompting (own (.actor m) now.history) ≠ .ended consent
  woken : ∀ m consent, prompting (own (.actor m) now.history) = .waits consent →
    (now.world.consents consent).status = .waiting

/-- The conditions of `Settled` for one task, which need not be looked at for tasks that
have done nothing. -/
def settledTask (now : Moment) (task : Task) : Bool :=
  (deciding (own task now.history)).isNone &&
    match task, prompting (own task now.history) with
    | .actor _, .ended _ => false
    | .actor _, .waits consent => (now.world.consents consent).status == .waiting
    | _, _ => true

/-- A moment is settled exactly if each task with an event is. -/
theorem settled_iff (now : Moment) :
    Settled now ↔ ∀ event ∈ now.history, settledTask now event.thread = true := by
  constructor
  · rintro ⟨decided, reported, woken⟩ event _
    simp only [settledTask, decided, Option.isNone_none, Bool.true_and]
    cases event.thread with
    | actor m =>
      cases prompt : prompting (own (.actor m) now.history) with
      | absent => rfl
      | waits consent => exact beq_iff_eq.mpr (woken m consent prompt)
      | ended consent => exact absurd prompt (reported m consent)
    | _ => rfl
  · intro each
    have known : ∀ task, settledTask now task = true ∨ own task now.history = [] := by
      intro task
      by_cases none : own task now.history = []
      · exact Or.inr none
      · obtain ⟨event, inside, rfl⟩ := own_thread none
        exact Or.inl (each event inside)
    constructor
    · intro task
      rcases known task with settled | none
      · exact Option.isNone_iff_eq_none.mp (Bool.and_eq_true_iff.mp settled).1
      · rw [none]
        rfl
    · intro m consent ended
      rcases known (.actor m) with settled | none
      · exact absurd (Bool.and_eq_true_iff.mp settled).2 (by simp [ended])
      · exact absurd ended (by simp [none, prompting])
    · intro m consent waits
      rcases known (.actor m) with settled | none
      · simpa [waits] using (Bool.and_eq_true_iff.mp settled).2
      · exact absurd waits (by simp [none, prompting])

instance (now : Moment) : Decidable (Settled now) :=
  decidable_of_iff _ (settled_iff now).symm

/-- The operation writes the state on display. -/
def writesState (event : ClientEvent) : Bool :=
  match event.op, event.answer with
  | .setConnectionState _, _ => true
  | .parkConsent _, _ => true
  | .modem _ _, answer => answer.reported.isSome
  | _, _ => false

/-- The state on display is not made a prompt without a channel, and is not written at
all while a channel is in the slot. -/
def keepsPrompt (now : Moment) (event : ClientEvent) : Bool :=
  (now.world.pendingConsent.isNone || !writesState event) &&
    match event.op with
    | .setConnectionState (.awaitingConsent _) => false
    | _ => true

/-- A decision for a channel is delivered, unless the wait on it timed out before. -/
def DeliveredInTime (event : ClientEvent) (earlier : List ClientEvent) : Prop :=
  ∀ consent accepted, event = event.thread.does (.answerConsent consent accepted) false →
    expired consent earlier

/-- The text on display and the channel in the slot go together. -/
structure PromptsKept (now : Moment) : Prop where
  pending : ∀ consent, now.world.pendingConsent = some consent →
    consent < now.world.consentCount ∧
    now.world.connectionState = .awaitingConsent (now.world.consents consent).disclaimer ∧
    ((now.world.consents consent).status = .waiting ∨ expired consent now.history) ∧
    ∃ m, Prompts m consent now.history
  shown : ∀ disclaimer, now.world.connectionState = .awaitingConsent disclaimer →
    ∃ m consent, Prompts m consent now.history
  held : ∀ consent, (now.world.consents consent).status = .waiting →
    now.world.pendingConsent = some consent ∨ ∃ task, deciding (own task now.history) = some consent
  taken : ∀ task consent, deciding (own task now.history) = some consent →
    consent < now.world.consentCount ∧ now.world.pendingConsent ≠ some consent ∧
    (∀ other, deciding (own other now.history) = some consent → other = task) ∧
    ((now.world.consents consent).status = .waiting ∨ expired consent now.history)
  delivered : Throughout DeliveredInTime now.history

/-- Runs in which the prompts are left alone. -/
def promptSetting : Setting World Task Answer where
  exec := exec
  meets now event := keepsPrompt now event = true ∧ event.thread.allowed event.op
  inv := PromptsKept

section Proof

/-- A request for consent that has run out stays so. -/
theorem expired_later {consent : ConsentId} {event : ClientEvent} {earlier : List ClientEvent}
    (before : expired consent earlier) : expired consent (event :: earlier) := by
  obtain ⟨wait, member, same⟩ := before
  exact ⟨wait, List.mem_cons_of_mem _ member, same⟩

/-- An operation that changes no prompt. -/
def Op.promptless (op : Op) : Prop :=
  (∀ disclaimer, op ≠ .parkConsent disclaimer) ∧ (∀ consent, op ≠ .awaitConsent consent) ∧
    ∀ state, op ≠ .setConnectionState state

/-- An operation that takes no sender and uses none. -/
def Op.decisionless (op : Op) : Prop :=
  (∀ decision, op ≠ .takePendingConsent decision) ∧
    ∀ consent accepted, op ≠ .answerConsent consent accepted

/-- An operation that asks for no consent leaves the request that a task is at. -/
theorem prompting_cons {op : Op} (other : op.promptless) (thread task : Task) (answer : Answer op)
    (earlier : List ClientEvent) :
    prompting (own task (⟨thread, op, answer⟩ :: earlier)) = prompting (own task earlier) := by
  by_cases same : thread = task
  · subst same
    rw [own_self]
    obtain ⟨parks, awaits, sets⟩ := other
    cases op with
    | parkConsent disclaimer => exact absurd rfl (parks disclaimer)
    | awaitConsent consent => exact absurd rfl (awaits consent)
    | setConnectionState state => exact absurd rfl (sets state)
    | _ => rfl
  · rw [own_foreign same]

/-- An operation that decides nothing leaves the decision that a task is at. -/
theorem deciding_cons {op : Op} (other : op.decisionless) (thread task : Task) (answer : Answer op)
    (earlier : List ClientEvent) :
    deciding (own task (⟨thread, op, answer⟩ :: earlier)) = deciding (own task earlier) := by
  by_cases same : thread = task
  · subst same
    rw [own_self]
    obtain ⟨takes, answers⟩ := other
    cases op with
    | takePendingConsent decision => exact absurd rfl (takes decision)
    | answerConsent consent accepted => exact absurd rfl (answers consent accepted)
    | _ => rfl
  · rw [own_foreign same]

/-- An operation that asks for no consent leaves the request of a manager. -/
theorem prompts_cons {op : Op} (other : op.promptless) {thread : Task} {answer : Answer op}
    {m : ManagerId} {consent : ConsentId} {earlier : List ClientEvent}
    (prompts : Prompts m consent earlier) : Prompts m consent (⟨thread, op, answer⟩ :: earlier) := by
  rw [Prompts, prompting_cons other]
  exact prompts

section Steps

variable {world after : World} {history : List ClientEvent} {thread : Task} {op : Op}
variable {answer : Answer op}

/-- An operation that is no decision delivers none. -/
theorem delivered_cons (decisionless : op.decisionless)
    (delivered : Throughout DeliveredInTime history) :
    Throughout DeliveredInTime (⟨thread, op, answer⟩ :: history) := by
  refine ⟨fun consent accepted same => ?_, delivered⟩
  obtain ⟨_, rfl, _⟩ := Event.mk.inj same
  exact absurd rfl (decisionless.2 consent accepted)

/-- Where neither the slot nor a channel changes, who holds a channel is who held it. -/
theorem PromptsKept.undecided (kept : PromptsKept ⟨world, history⟩)
    (slot : after.pendingConsent = world.pendingConsent) (consents : after.consents = world.consents)
    (count : after.consentCount = world.consentCount) (decisionless : op.decisionless) :
    (∀ consent, (after.consents consent).status = .waiting →
      after.pendingConsent = some consent ∨
        ∃ task, deciding (own task (⟨thread, op, answer⟩ :: history)) = some consent) ∧
    ∀ task consent, deciding (own task (⟨thread, op, answer⟩ :: history)) = some consent →
      consent < after.consentCount ∧ after.pendingConsent ≠ some consent ∧
      (∀ other, deciding (own other (⟨thread, op, answer⟩ :: history)) = some consent →
        other = task) ∧
      ((after.consents consent).status = .waiting ∨
        expired consent (⟨thread, op, answer⟩ :: history)) := by
  simp only [slot, consents, count, deciding_cons decisionless]
  constructor
  · exact kept.held
  · intro task consent holds
    obtain ⟨used, other, alone, status⟩ := kept.taken task consent holds
    exact ⟨used, other, alone, status.imp id expired_later⟩

/-- What touches neither the state on display nor a channel. -/
theorem PromptsKept.quiet (kept : PromptsKept ⟨world, history⟩)
    (slot : after.pendingConsent = world.pendingConsent)
    (state : after.connectionState = world.connectionState) (consents : after.consents = world.consents)
    (count : after.consentCount = world.consentCount) (promptless : op.promptless)
    (decisionless : op.decisionless) : PromptsKept ⟨after, ⟨thread, op, answer⟩ :: history⟩ := by
  obtain ⟨held, taken⟩ := kept.undecided slot consents count decisionless
  constructor
  · intro consent pends
    simp only [slot, state, consents, count] at pends ⊢
    obtain ⟨used, awaiting, status, m, prompts⟩ := kept.pending consent pends
    exact ⟨used, awaiting, status.imp id expired_later, m, prompts_cons promptless prompts⟩
  · intro disclaimer awaiting
    simp only [state] at awaiting
    obtain ⟨m, consent, prompts⟩ := kept.shown disclaimer awaiting
    exact ⟨m, consent, prompts_cons promptless prompts⟩
  · exact held
  · exact taken
  · exact delivered_cons decisionless kept.delivered

/-- A write of the state while the slot is empty. -/
theorem PromptsKept.written (kept : PromptsKept ⟨world, history⟩)
    (empty : world.pendingConsent = none) (slot : after.pendingConsent = world.pendingConsent)
    (state : ∀ disclaimer, after.connectionState ≠ .awaitingConsent disclaimer)
    (consents : after.consents = world.consents) (count : after.consentCount = world.consentCount)
    (decisionless : op.decisionless) : PromptsKept ⟨after, ⟨thread, op, answer⟩ :: history⟩ := by
  obtain ⟨held, taken⟩ := kept.undecided slot consents count decisionless
  constructor
  · intro consent pends
    exact absurd (slot.symm.trans pends) (by simp [empty])
  · exact fun disclaimer awaiting => absurd awaiting (state disclaimer)
  · exact held
  · exact taken
  · exact delivered_cons decisionless kept.delivered

/-- A prompt is put on display and into the empty slot. -/
theorem PromptsKept.park (kept : PromptsKept ⟨world, history⟩) (empty : world.pendingConsent = none)
    (m : ManagerId) (disclaimer : Text) :
    PromptsKept ⟨world.park disclaimer,
      ⟨.actor m, .parkConsent disclaimer, world.consentCount⟩ :: history⟩ := by
  obtain ⟨_, _, held, taken, delivered⟩ := kept
  have parked : Prompts m world.consentCount
      (⟨.actor m, .parkConsent disclaimer, world.consentCount⟩ :: history) := by
    rw [Prompts, own_self]
    exact Or.inl rfl
  have dropped : world.dropPending = world := by
    simp only [World.dropPending, empty]
  have decisionless : (Op.parkConsent disclaimer).decisionless := ⟨by simp, by simp⟩
  constructor
  · intro consent pends
    obtain rfl := Option.some.inj pends
    refine ⟨Nat.lt_succ_self _, ?_, Or.inl ?_, m, parked⟩
    · simp [World.park]
    · simp [World.park]
  · exact fun _ _ => ⟨m, world.consentCount, parked⟩
  · intro consent waits
    by_cases fresh : consent = world.consentCount
    · exact Or.inl (congrArg some fresh.symm)
    · simp only [World.park, assign_other _ _ _ _ fresh, dropped] at waits
      rcases held consent waits with pends | ⟨task, holds⟩
      · exact absurd pends (by simp [empty])
      · exact Or.inr ⟨task, by rw [deciding_cons decisionless]; exact holds⟩
  · intro task consent holds
    simp only [deciding_cons decisionless] at holds ⊢
    obtain ⟨used, _, alone, status⟩ := taken task consent holds
    have other : consent ≠ world.consentCount := Nat.ne_of_lt used
    refine ⟨Nat.lt_succ_of_lt used, ?_, alone, ?_⟩
    · exact fun same => other (Option.some.inj same).symm
    · simp only [World.park, assign_other _ _ _ _ other, dropped]
      exact status.imp id expired_later
  · exact delivered_cons decisionless delivered

/-- A wait ends. It had been for a decision that is there, or it timed out. -/
theorem PromptsKept.await (kept : PromptsKept ⟨world, history⟩) {m : ManagerId}
    {consent : ConsentId} {waited : ConsentWait}
    (waits : prompting (own (.actor m) history) = .waits consent)
    (given : (world.consents consent).status = waited.status) :
    PromptsKept ⟨world.setStatus consent .closed,
      ⟨.actor m, .awaitConsent consent, waited⟩ :: history⟩ := by
  obtain ⟨pending, shown, held, taken, delivered⟩ := kept
  have decisionless : (Op.awaitConsent consent).decisionless := ⟨by simp, by simp⟩
  have prompts : ∀ {n other}, Prompts n other history →
      Prompts n other (⟨.actor m, .awaitConsent consent, waited⟩ :: history) := by
    intro n other before
    by_cases same : m = n
    · subst same
      obtain rfl : consent = other := by
        rw [Prompts, waits] at before
        simpa using before
      rw [Prompts, own_self]
      exact Or.inr rfl
    · rw [Prompts, own_foreign (by simpa using same)]
      exact before
  have timed : ∀ other, (world.consents other).status = .waiting ∨ expired other history →
      ((world.setStatus consent .closed).consents other).status = .waiting ∨
        expired other (⟨.actor m, .awaitConsent consent, waited⟩ :: history) := by
    rintro other (waiting | before)
    · by_cases same : other = consent
      · subst same
        rw [waiting] at given
        cases waited with
        | timedOut => exact Or.inr ⟨_, List.mem_cons_self, rfl⟩
        | _ => exact absurd given (by simp [ConsentWait.status])
      · exact Or.inl (by simpa [World.setStatus, assign_other _ _ _ _ same] using waiting)
    · exact Or.inr (expired_later before)
  constructor
  · intro other pends
    obtain ⟨used, awaiting, status, n, before⟩ := pending other pends
    refine ⟨used, ?_, timed other status, n, prompts before⟩
    rw [setStatus_disclaimer]
    exact awaiting
  · intro disclaimer awaiting
    obtain ⟨n, other, before⟩ := shown disclaimer awaiting
    exact ⟨n, other, prompts before⟩
  · intro other waiting
    by_cases same : other = consent
    · subst same
      exact absurd waiting (by simp [World.setStatus])
    · simp only [World.setStatus, assign_other _ _ _ _ same] at waiting
      simp only [deciding_cons decisionless]
      exact held other waiting
  · intro task other holds
    simp only [deciding_cons decisionless] at holds ⊢
    obtain ⟨used, unslotted, alone, status⟩ := taken task other holds
    exact ⟨used, unslotted, alone, timed other status⟩
  · exact delivered_cons decisionless delivered

/-- Dropping the pending request leaves the state on display. -/
theorem dropPending_state (world : World) :
    world.dropPending.connectionState = world.connectionState := by
  unfold World.dropPending
  split
  · rfl
  · dsimp only
    split <;> rfl

/-- Only the channel in the slot is touched when the slot is emptied. -/
theorem dropPending_others (world : World) {consent : ConsentId}
    (unslotted : world.pendingConsent ≠ some consent) :
    world.dropPending.consents consent = world.consents consent := by
  unfold World.dropPending
  split
  · rfl
  · rename_i dropped slot
    have different : consent ≠ dropped := by
      rintro rfl
      exact unslotted slot
    dsimp only
    split
    · simp [World.setStatus, assign_other _ _ _ _ different]
    · rfl

/-- Nobody waits on it any more. -/
theorem dropPending_own (world : World) {consent : ConsentId}
    (slot : world.pendingConsent = some consent) :
    (world.dropPending.consents consent).status ≠ .waiting := by
  simp only [World.dropPending, slot]
  split
  · simp [World.setStatus]
  · assumption

/-- The slot is emptied, and its sender dropped. -/
theorem PromptsKept.withdraw (kept : PromptsKept ⟨world, history⟩) :
    PromptsKept ⟨world.dropPending, ⟨thread, .withdrawConsent, ()⟩ :: history⟩ := by
  obtain ⟨_, shown, held, taken, delivered⟩ := kept
  have promptless : Op.withdrawConsent.promptless := ⟨by simp, by simp, by simp⟩
  have decisionless : Op.withdrawConsent.decisionless := ⟨by simp, by simp⟩
  constructor
  · intro consent pends
    exact absurd pends (by simp)
  · intro disclaimer awaiting
    simp only [dropPending_state] at awaiting
    obtain ⟨m, consent, prompts⟩ := shown disclaimer awaiting
    exact ⟨m, consent, prompts_cons promptless prompts⟩
  · intro consent waiting
    have unslotted : world.pendingConsent ≠ some consent := fun slot => dropPending_own world slot waiting
    simp only [dropPending_others world unslotted] at waiting
    rcases held consent waiting with slot | ⟨task, holds⟩
    · exact absurd slot unslotted
    · exact Or.inr ⟨task, by rw [deciding_cons decisionless]; exact holds⟩
  · intro task consent holds
    simp only [deciding_cons decisionless] at holds ⊢
    obtain ⟨used, unslotted, alone, status⟩ := taken task consent holds
    refine ⟨?_, by simp, alone, ?_⟩
    · simpa using used
    · simp only [dropPending_others world unslotted]
      exact status.imp id expired_later
  · exact delivered_cons decisionless delivered

/-- The sender moves from the slot to a handler that holds none. -/
theorem PromptsKept.take (kept : PromptsKept ⟨world, history⟩) (decision : Decision)
    (free : deciding (own thread history) = none) :
    PromptsKept ⟨{ world with pendingConsent := none },
      ⟨thread, .takePendingConsent decision, world.pendingConsent⟩ :: history⟩ := by
  obtain ⟨pending, shown, held, taken, delivered⟩ := kept
  have promptless : (Op.takePendingConsent decision).promptless := ⟨by simp, by simp, by simp⟩
  have self : deciding (own thread (⟨thread, .takePendingConsent decision, world.pendingConsent⟩ ::
      history)) = world.pendingConsent := by
    rw [own_self]
    cases slot : world.pendingConsent with
    | none => exact free
    | some consent => rfl
  have others : ∀ task, task ≠ thread → deciding (own task (⟨thread, .takePendingConsent decision,
      world.pendingConsent⟩ :: history)) = deciding (own task history) :=
    fun task different => by rw [own_foreign (Ne.symm different)]
  constructor
  · exact fun consent pends => absurd pends (by simp)
  · intro disclaimer awaiting
    obtain ⟨m, consent, prompts⟩ := shown disclaimer awaiting
    exact ⟨m, consent, prompts_cons promptless prompts⟩
  · intro consent waiting
    rcases held consent waiting with slot | ⟨task, holds⟩
    · exact Or.inr ⟨thread, self.trans slot⟩
    · have different : task ≠ thread := by
        rintro rfl
        exact absurd holds (by simp [free])
      exact Or.inr ⟨task, (others task different).trans holds⟩
  · intro task consent holds
    by_cases same : task = thread
    · subst same
      obtain ⟨used, _, status, _⟩ := pending consent (self.symm.trans holds)
      refine ⟨used, by simp, fun other also => ?_, status.imp id expired_later⟩
      by_contra different
      exact (taken other consent ((others other different).symm.trans also)).2.1
        (self.symm.trans holds)
    · obtain ⟨used, unslotted, alone, status⟩ := taken task consent ((others task same).symm.trans holds)
      refine ⟨used, by simp, fun other also => ?_, status.imp id expired_later⟩
      by_cases self' : other = thread
      · subst self'
        exact absurd (self.symm.trans also) unslotted
      · exact alone other ((others other self').symm.trans also)
  · exact ⟨fun _ _ same => absurd (Event.mk.inj same).2.1 (by simp), delivered⟩

/-- An answer touches its own channel only. -/
theorem answered_fields (world : World) (consent : ConsentId) (accepted sent : Bool) :
    (world.apply (.answerConsent consent accepted) sent).pendingConsent = world.pendingConsent ∧
      (world.apply (.answerConsent consent accepted) sent).connectionState =
        world.connectionState ∧
      (world.apply (.answerConsent consent accepted) sent).consentCount = world.consentCount := by
  simp only [World.apply]
  split <;> exact ⟨rfl, rfl, rfl⟩

/-- An answer is given to one request only. -/
theorem answered_others (world : World) {consent other : ConsentId} (accepted sent : Bool)
    (different : other ≠ consent) :
    (world.apply (.answerConsent consent accepted) sent).consents other = world.consents other := by
  simp only [World.apply]
  split
  · simp [World.setStatus, assign_other _ _ _ _ different]
  · rfl

/-- Nobody waits on that channel any more. -/
theorem answered_own (world : World) (consent : ConsentId) (accepted : Bool) :
    ((world.apply (.answerConsent consent accepted)
      ((world.consents consent).status == .waiting)).consents consent).status ≠ .waiting := by
  simp only [World.apply]
  split
  · simp [World.setStatus]
  · rename_i refused
    simpa using refused

/-- A handler uses the sender it holds. -/
theorem PromptsKept.deliver (kept : PromptsKept ⟨world, history⟩) {consent : ConsentId}
    (accepted : Bool) (holds : deciding (own thread history) = some consent) :
    PromptsKept ⟨world.apply (.answerConsent consent accepted)
        ((world.consents consent).status == .waiting),
      ⟨thread, .answerConsent consent accepted, (world.consents consent).status == .waiting⟩ ::
        history⟩ := by
  obtain ⟨pending, shown, held, taken, delivered⟩ := kept
  obtain ⟨used, unslotted, alone, status⟩ := taken thread consent holds
  have promptless : (Op.answerConsent consent accepted).promptless := ⟨by simp, by simp, by simp⟩
  have free : deciding (own thread (⟨thread, .answerConsent consent accepted,
      (world.consents consent).status == .waiting⟩ :: history)) = none := by
    rw [own_self]
    rfl
  have others : ∀ task, task ≠ thread → deciding (own task (⟨thread, .answerConsent consent accepted,
      (world.consents consent).status == .waiting⟩ :: history)) = deciding (own task history) :=
    fun task different => by rw [own_foreign (Ne.symm different)]
  obtain ⟨slot, state, count⟩ :=
    answered_fields world consent accepted ((world.consents consent).status == .waiting)
  have untouched : ∀ other, other ≠ consent →
      ((world.apply (.answerConsent consent accepted)
        ((world.consents consent).status == .waiting)).consents other) = world.consents other :=
    fun _ => answered_others world accepted _
  constructor
  · intro other pends
    simp only [slot, state, count] at pends ⊢
    have different : other ≠ consent := by
      rintro rfl
      exact unslotted pends
    obtain ⟨known, awaiting, waits, m, prompts⟩ := pending other pends
    rw [untouched other different]
    exact ⟨known, awaiting, waits.imp id expired_later, m, prompts_cons promptless prompts⟩
  · intro disclaimer awaiting
    simp only [state] at awaiting
    obtain ⟨m, other, prompts⟩ := shown disclaimer awaiting
    exact ⟨m, other, prompts_cons promptless prompts⟩
  · intro other waiting
    have different : other ≠ consent := by
      rintro rfl
      exact answered_own world other accepted waiting
    simp only [slot]
    rw [untouched other different] at waiting
    rcases held other waiting with pends | ⟨task, also⟩
    · exact Or.inl pends
    · have elsewhere : task ≠ thread := by
        rintro rfl
        exact different (Option.some.inj (also.symm.trans holds))
      exact Or.inr ⟨task, (others task elsewhere).trans also⟩
  · intro task other also
    have elsewhere : task ≠ thread := by
      rintro rfl
      exact absurd (free.symm.trans also) (by simp)
    have before := (others task elsewhere).symm.trans also
    have different : other ≠ consent := by
      rintro rfl
      exact elsewhere (alone task before)
    obtain ⟨known, unslotted', alone', waits⟩ := taken task other before
    simp only [slot, count]
    rw [untouched other different]
    refine ⟨known, unslotted', fun third holding => ?_, waits.imp id expired_later⟩
    have elsewhere' : third ≠ thread := by
      rintro rfl
      exact absurd (free.symm.trans holding) (by simp)
    exact alone' third ((others third elsewhere').symm.trans holding)
  · refine ⟨fun other sent same => ?_, delivered⟩
    obtain ⟨_, sameOp, sameAnswer⟩ := Event.mk.inj same
    obtain ⟨rfl, rfl⟩ := Op.answerConsent.inj sameOp
    have refused := eq_of_heq sameAnswer
    rcases status with (waiting : (world.consents consent).status = .waiting) | late
    · simp [waiting] at refused
    · exact late

end Steps

/-- Every step keeps the prompts if waits are for the handshake's own prompt, and handlers
take a sender only to use it. -/
theorem prompts_kept {before after : Moment} {event : ClientEvent}
    (moves : promptSetting.Moves before event after)
    (awaits : ∀ m consent, event.thread = .actor m → event.op = .awaitConsent consent →
      prompting (own (.actor m) before.history) = .waits consent)
    (takes : ∀ decision, event.op = .takePendingConsent decision →
      deciding (own event.thread before.history) = none)
    (answers : ∀ consent accepted, event.op = .answerConsent consent accepted →
      deciding (own event.thread before.history) = some consent) : PromptsKept after := by
  obtain ⟨world, history⟩ := after
  obtain ⟨thread, op, answer⟩ := event
  obtain ⟨past, earlier⟩ := before
  obtain ⟨executed, grown⟩ := moves.occurs
  obtain ⟨given, rfl⟩ := exec_iff.mp executed
  obtain rfl : history = ⟨thread, op, answer⟩ :: earlier := grown
  have kept : PromptsKept ⟨past, earlier⟩ := moves.inv
  have permitted : thread.allowed op := moves.met.2
  obtain ⟨untouched, unshown⟩ := Bool.and_eq_true_iff.mp moves.met.1
  have empty : writesState ⟨thread, op, answer⟩ = true → past.pendingConsent = none := by
    intro writes
    simpa [writes] using untouched
  cases op with
  | modem manager call =>
    cases reported : answer.reported with
    | none =>
      simp only [World.apply, reported]
      exact kept.quiet rfl rfl rfl rfl ⟨by simp, by simp, by simp⟩ ⟨by simp, by simp⟩
    | some state =>
      have writes : past.pendingConsent = none := empty (by simp [writesState, reported])
      simp only [World.apply, reported]
      refine kept.written writes rfl (fun disclaimer => ?_) rfl rfl ⟨by simp, by simp⟩
      cases state <;> simp [ModemState.connectionState]
  | setConnectionState state =>
    refine kept.written (empty rfl) rfl (fun disclaimer same => ?_) rfl rfl ⟨by simp, by simp⟩
    obtain rfl : state = .awaitingConsent disclaimer := same
    exact absurd unshown (by simp)
  | parkConsent disclaimer =>
    obtain rfl : answer = past.consentCount := beq_iff_eq.mp given
    cases thread with
    | actor m => exact kept.park (empty rfl) m disclaimer
    | _ => exact permitted.elim
  | awaitConsent consent =>
    cases thread with
    | actor m => exact kept.await (awaits m consent rfl rfl) (beq_iff_eq.mp given)
    | _ => exact permitted.elim
  | withdrawConsent => exact kept.withdraw
  | takePendingConsent decision =>
    obtain rfl : answer = past.pendingConsent := beq_iff_eq.mp given
    exact kept.take decision (takes decision rfl)
  | answerConsent consent accepted =>
    obtain rfl : answer = ((past.consents consent).status == .waiting) := beq_iff_eq.mp given
    exact kept.deliver accepted (answers consent accepted rfl)
  | submit manager ticket command =>
    cases answer <;> exact kept.quiet rfl rfl rfl rfl ⟨by simp, by simp, by simp⟩ ⟨by simp, by simp⟩
  | nextCommand manager =>
    cases answer <;> exact kept.quiet rfl rfl rfl rfl ⟨by simp, by simp, by simp⟩ ⟨by simp, by simp⟩
  | _ => exact kept.quiet rfl rfl rfl rfl ⟨by simp, by simp, by simp⟩ ⟨by simp, by simp⟩

/-- Whatever the background task does apart from the consent dialogue. -/
def works (m : ManagerId) : Op → Prop
  | .parkConsent _ => False
  | .awaitConsent _ => False
  | .withdrawConsent => False
  | op => serves m (fun _ => True) op

section Footprints

variable (m : ManagerId)

/-- Talking to the node is work. -/
theorem talks_works (op : Op) (talk : talks m op) : works m op := by
  unfold talks at talk
  split at talk <;> first | exact ⟨talk, trivial⟩ | exact talk | exact talk.elim

/-- Opening the connection again is work. -/
theorem reopens_works (op : Op) (reopen : reopens m op) : works m op := by
  unfold reopens at reopen
  split at reopen
  · exact reopen
  · exact reopen
  · trivial
  · exact talks_works m op reopen

/-- Stopping for a disconnect is work. -/
theorem bailIfAborted_works : (bailIfAborted m).run.Only (works m) :=
  (bailIfAborted_only m).mono (by rintro op rfl; rfl)

/-- Sending is work. -/
theorem sendBytes_works (purpose : Purpose) (data : Bytes) :
    (sendBytes m purpose data).run.Only (works m) :=
  (sendBytes_only m purpose data).mono (by rintro op rfl; exact ⟨rfl, trivial⟩)

/-- Calling the modem is work. -/
theorem callModem_works (request : ModemCall) : (callModem m request).run.Only (works m) :=
  (callModem_only m request).mono (by rintro op rfl; rfl)

/-- Putting a state on display is work. -/
theorem setState_works (state : ConnectionState) : (setState state).Only (works m) :=
  (setState_only state).mono (by rintro op rfl; trivial)

/-- Reading the configuration is work. -/
theorem readConfig_works : (ExceptT.lift readConfig : Attempt AppConfig).run.Only (works m) :=
  only_lift _ (only_ask _ trivial)

/-- Opening a link is work. -/
theorem openLink_works (target : Text) (portNum : UInt8) (localCallsign : Text) :
    (openLink m target portNum localCallsign).run.Only (works m) := by
  apply only_attempt _ (readConfig_works m)
  intro first
  apply only_attempt _ (readConfig_works m)
  intro second
  apply only_attempt _ (callModem_works m _)
  intro _
  apply only_attempt _ (only_lift _ (setState_works m _))
  exact fun _ => callModem_works m _

/-- A request is work. -/
theorem handleSendRequest_works (timeoutSecs : Nat) (data : Bytes) :
    (handleSendRequest m timeoutSecs data).run.Only (works m) := by
  apply only_attempt _ (bailIfAborted_works m)
  intro _
  apply only_attempt _ (sendBytes_works m _ data)
  intro _
  apply (receiveResponse_listens m timeoutSecs).mono
  intro op listen
  unfold listens at listen
  split at listen <;> first | exact listen | exact listen.elim

/-- Comparing the disclaimers is work. -/
theorem requireAgreed_works (disclaimer : Text) : (requireAgreed disclaimer).run.Only (works m) := by
  apply only_attempt _ (only_lift _ (only_ask _ trivial))
  intro stored
  unfold requireStored
  split
  · trivial
  · exact only_attempt _ (only_lift _ (setState_works m _)) fun _ => trivial

/-- Setting a session up again is work. -/
theorem reestablish_works (reason localCallsign : Text) :
    (reestablish m reason localCallsign).run.Only (works m) := by
  apply only_attempt _ ((receiveAgain_reopens m reason localCallsign).mono (reopens_works m))
  intro disclaimer
  apply only_attempt _ (requireAgreed_works m disclaimer)
  intro _
  apply only_attempt _ (bailIfAborted_works m)
  intro _
  apply only_attempt _ (sendBytes_works m _ _)
  exact fun _ => only_lift _ (setState_works m _)

/-- A reconnect is work. -/
theorem handleReconnect_works (reason localCallsign : Text) :
    (handleReconnect m reason localCallsign).run.Only (works m) := by
  apply only_bind _ (setState_works m _)
  intro _
  apply only_bind _ (reestablish_works m reason localCallsign)
  intro result
  split
  · trivial
  · trivial
  · exact only_bind _ (setState_works m _) fun _ => trivial

/-- A request with a reconnect is work. -/
theorem handleSendRequestWithReconnect_works (timeoutSecs : Nat) (data localCallsign) :
    (handleSendRequestWithReconnect m timeoutSecs data localCallsign).run.Only (works m) := by
  apply only_attempt _ (bailIfAborted_works m)
  intro _
  apply only_bind _ (handleSendRequest_works m timeoutSecs data)
  intro first
  unfold afterFirstTry
  split
  · trivial
  · apply only_attempt _ (handleReconnect_works m _ localCallsign)
    intro _
    apply only_attempt _ (bailIfAborted_works m)
    exact fun _ => handleSendRequest_works m timeoutSecs data
  · trivial

/-- Closing a session is work. -/
theorem handleCloseSession_works : (handleCloseSession m).run.Only (works m) := by
  apply only_attempt _ (only_lift _ (only_ask _ ⟨rfl, rfl⟩))
  intro _
  apply only_attempt _ (callModem_works m _)
  exact fun _ => only_lift _ (setState_works m _)

/-- Asking for ports is work. -/
theorem handleQueryPorts_works : (handleQueryPorts m).run.Only (works m) := by
  refine only_attempt _ (only_lift _ (only_ask _ rfl)) fun supported => ?_
  cases supported with
  | true => exact callModem_works m _
  | false => trivial

end Footprints

section Dialogue

variable {m : ManagerId}

/-- Work keeps the invariant. -/
theorem works_harmless (op : Op) (work : works m op) (now : Moment) (answer : Answer op)
    (later : Moment) (_ : True) (moves : promptSetting.Moves now ⟨.actor m, op, answer⟩ later) :
    promptSetting.inv later ∧ True := by
  refine ⟨prompts_kept moves ?_ ?_ ?_, trivial⟩
  · rintro n consent _ rfl
    exact work.elim
  · rintro decision rfl
    exact work.elim
  · rintro consent accepted rfl
    exact work.elim

/-- A part of a command apart from the dialogue, in front of the rest. -/
theorem works_attempt {α β : Type} {first : Attempt α} {after : α → Attempt β}
    (only : first.run.Only (works m))
    (two : ∀ value, promptSetting.Triple (.actor m) (fun _ => True) (after value).run fun _ _ => True) :
    promptSetting.Triple (.actor m) (fun _ => True) (first >>= after).run fun _ _ => True :=
  triple_attempt_only (stable_const _) only works_harmless (fun _ => stable_const _) (fun _ _ => id) two

/-- The handshake waits for its own prompt. -/
theorem askOperator_kept (receivedText : Text) :
    promptSetting.Triple (.actor m) (fun _ => True) (askOperator receivedText).run fun _ _ => True := by
  have own_stable : ∀ consent, promptSetting.Stable (.actor m)
      fun now => prompting (own (.actor m) now.history) = .waits consent := by
    rintro consent before after waits ⟨event, foreign, moves, _⟩
    rw [moves.occurs.2, own_foreign foreign]
    exact waits
  apply triple_attempt (fun consent now => prompting (own (.actor m) now.history) = .waits consent)
    (fun _ => stable_const _)
  · apply triple_lift own_stable
    apply triple_ask (stable_const _) own_stable
    intro now consent later _ moves
    refine ⟨prompts_kept moves (by simp) (by simp) (by simp), ?_⟩
    show prompting (own (.actor m) later.history) = .waits consent
    rw [moves.occurs.2, own_self]
    rfl
  · intro consent
    apply triple_attempt (fun _ _ => True) (fun _ => stable_const _)
    · apply triple_bind (fun _ _ => True)
      · apply triple_ask (own_stable consent) (fun _ => stable_const _)
        intro now waited later waits moves
        refine ⟨prompts_kept moves ?_ (by simp) (by simp), trivial⟩
        rintro n other same sameOp
        obtain rfl := Task.actor.inj same
        obtain rfl := Op.awaitConsent.inj sameOp
        exact waits
      · intro waited
        cases waited with
        | decided accepted => exact triple_done (stable_const _) fun _ => id
        | senderDropped => exact triple_done (stable_const _) fun _ => id
        | timedOut =>
          refine triple_bind (fun _ _ => True) ?_ fun _ => triple_done (stable_const _) fun _ => id
          exact triple_ask (stable_const _) (fun _ => stable_const _) fun now answer later _ moves =>
            ⟨prompts_kept moves (by simp) (by simp) (by simp), trivial⟩
    · intro accepted
      cases accepted <;> exact triple_done (stable_const _) fun _ => id

/-- Opening a session keeps the invariant. -/
theorem handleOpenSession_kept (target : Text) (portNum : UInt8) (localCallsign : Text) :
    promptSetting.Triple (.actor m) (fun _ => True)
      (handleOpenSession m target portNum localCallsign).run fun _ _ => True := by
  apply triple_attempt (fun _ _ => True) (fun _ => stable_const _)
  · apply triple_lift (fun _ => stable_const _)
    exact triple_ask (stable_const _) (fun _ => stable_const _) fun now answer later _ moves =>
      ⟨prompts_kept moves (by simp) (by simp) (by simp), trivial⟩
  intro _
  apply works_attempt (openLink_works m target portNum localCallsign)
  intro _
  apply triple_bind (fun _ _ => True)
  · apply works_attempt ((receiveDisclaimer_talks m localCallsign).mono (talks_works m))
    intro receivedText
    apply triple_attempt (fun _ _ => True) (fun _ => stable_const _)
      ((askOperator_kept receivedText).consequence (fun _ => id) (by rintro (err | value) _ _ <;> trivial))
    exact fun _ => triple_only (stable_const _) (sendBytes_works m _ _) works_harmless
  · intro result
    apply triple_only (stable_const _) _ works_harmless
    cases result with
    | ok value => exact only_bind _ (setState_works m _) fun _ => trivial
    | error err => exact only_bind _ (setState_works m _) fun _ => trivial

/-- Every command keeps the invariant. -/
theorem runCommand_kept (timeoutSecs : Nat) (localCallsign : Text) (command : Command) :
    promptSetting.Triple (.actor m) (fun _ => True)
      (runCommand m timeoutSecs localCallsign command) fun _ _ => True := by
  have reply : ∀ {α β : Type} {program : Routine α} {value : α → β},
      promptSetting.Triple (.actor m) (fun _ => True) program (fun _ _ => True) →
      promptSetting.Triple (.actor m) (fun _ => True) (program >>= fun result => pure (value result))
        fun _ _ => True :=
    fun triple => triple_bind (fun _ _ => True) triple fun _ => triple_done (stable_const _) fun _ => id
  have working : ∀ {α : Type} {program : Routine α}, program.Only (works m) →
      promptSetting.Triple (.actor m) (fun _ => True) program fun _ _ => True :=
    fun only => triple_only (stable_const _) only works_harmless
  cases command with
  | connectModem config =>
    apply triple_bind (fun _ _ => True)
    · exact triple_ask (stable_const _) (fun _ => stable_const _) fun now answer later _ moves =>
        ⟨prompts_kept moves (by simp) (by simp) (by simp), trivial⟩
    · exact fun _ => reply (working (callModem_works m _))
  | disconnectModem => exact reply (working (callModem_works m _))
  | queryPorts => exact reply (working (handleQueryPorts_works m))
  | openSession target portNum => exact reply (handleOpenSession_kept target portNum localCallsign)
  | closeSession => exact reply (working (handleCloseSession_works m))
  | sendRequest data => exact reply (working (handleSendRequest_works m timeoutSecs data))
  | sendRequestWithReconnect data =>
    exact reply (working (handleSendRequestWithReconnect_works m timeoutSecs data localCallsign))

/-- The background task keeps the invariant. -/
theorem backgroundTask_kept (configuredTimeout : Nat) :
    promptSetting.Triple (.actor m) (fun _ => True) (backgroundTask m configuredTimeout)
      fun _ _ => True := by
  apply backgroundTask_triple (fun _ _ => True) (fun _ _ _ => True) (stable_const _)
  · exact triple_ask (stable_const _) (fun _ => stable_const _) fun now answer later _ moves =>
      ⟨prompts_kept moves (by simp) (by simp) (by simp), trivial⟩
  · exact fun timeoutSecs localCallsign _ command => runCommand_kept timeoutSecs localCallsign command
  · intro ticket result
    exact triple_ask (stable_const _) (fun _ => stable_const _) fun now answer later _ moves =>
      ⟨prompts_kept moves (by simp) (by simp) (by simp), trivial⟩

/-- What a handler holds in its hand. -/
theorem deciding_stable (task : Task) (held : Option ConsentId) :
    promptSetting.Stable task fun now => deciding (own task now.history) = held := by
  rintro before after holds ⟨event, foreign, moves, _⟩
  rw [moves.occurs.2, own_foreign foreign]
  exact holds

/-- What a handler does between taking a sender and using it. -/
theorem recordIfAccepted_kept (index : Nat) (decision : Decision) (held : Option ConsentId) :
    promptSetting.Triple (.handler index)
      (fun now => deciding (own (.handler index) now.history) = held) (recordIfAccepted decision)
      fun _ now => deciding (own (.handler index) now.history) = held := by
  have step : ∀ op : Op, op.decisionless → (∀ consent, op ≠ .awaitConsent consent) →
      ∀ now answer later, deciding (own (.handler index) now.history) = held →
        promptSetting.Moves now ⟨.handler index, op, answer⟩ later →
        promptSetting.inv later ∧ deciding (own (.handler index) later.history) = held := by
    intro op decisionless waits now answer later holds moves
    refine ⟨prompts_kept moves (by simp) ?_ ?_, ?_⟩
    · exact fun decision same => absurd same (decisionless.1 decision)
    · exact fun consent accepted same => absurd same (decisionless.2 consent accepted)
    · rw [moves.occurs.2, deciding_cons decisionless]
      exact holds
  apply triple_only (deciding_stable _ held) _ fun op (allowed : op.decisionless ∧
    ∀ consent, op ≠ .awaitConsent consent) => step op allowed.1 allowed.2
  unfold recordIfAccepted
  split
  · apply only_bind _ (only_ask _ ⟨⟨by simp, by simp⟩, by simp⟩)
    intro awaited
    split
    · exact only_ask _ ⟨⟨by simp, by simp⟩, by simp⟩
    · trivial
  · trivial

/-- A decision of the operator keeps the invariant. -/
theorem apiConsentPost_kept (index : Nat) (decision : Decision) :
    promptSetting.Triple (.handler index)
      (fun now => deciding (own (.handler index) now.history) = none) (apiConsentPost decision)
      fun _ _ => True := by
  apply triple_bind (fun sender now => deciding (own (.handler index) now.history) = sender)
  · apply triple_ask (deciding_stable _ none) (deciding_stable _)
    intro now sender later free moves
    refine ⟨prompts_kept moves (by simp) (fun _ _ => free) (by simp), ?_⟩
    show deciding (own (.handler index) later.history) = sender
    rw [moves.occurs.2, own_self]
    cases sender with
    | none => exact free
    | some consent => rfl
  · intro sender
    cases sender with
    | none => exact triple_done (stable_const _) fun _ _ => trivial
    | some consent =>
      apply triple_bind (fun _ now => deciding (own (.handler index) now.history) = some consent)
        (recordIfAccepted_kept index decision (some consent))
      intro _
      apply triple_bind (fun _ _ => True)
      · apply triple_ask (deciding_stable _ _) (fun _ => stable_const _)
        intro now sent later holds moves
        refine ⟨prompts_kept moves (by simp) (by simp) ?_, trivial⟩
        rintro other accepted same
        obtain ⟨rfl, _⟩ := Op.answerConsent.inj same
        exact holds
      · exact fun _ => triple_done (stable_const _) fun _ => id

end Dialogue

/-- Web requests other than a decision, and peers, have no part in the dialogue. -/
theorem client_kept (entries : Nat → Entry) (configuredTimeout : ManagerId → Nat) (task : Task)
    (now : Moment) (fresh : now.history = []) :
    promptSetting.Safe task ((client entries configuredTimeout).threads task)
      (fun _ _ => True) now := by
  cases task with
  | actor m => exact backgroundTask_kept _ now trivial
  | peer m =>
    refine safe_only (client_only entries configuredTimeout (.peer m))
      (fun op permitted now answer later moves => prompts_kept moves (by simp) ?_ ?_) now
    · rintro decision rfl
      exact permitted.elim
    · rintro consent accepted rfl
      exact permitted.elim
  | handler index =>
    by_cases post : ∃ decision, entries index = .consentPost decision
    · obtain ⟨decision, same⟩ := post
      have free : deciding (own (.handler index) now.history) = none := by
        rw [fresh]
        rfl
      show promptSetting.Safe _ (entries index).routine _ _
      rw [same]
      exact triple_bind (fun _ _ => True) (apiConsentPost_kept index decision)
        (fun _ => triple_done (stable_const _) fun _ => id) now free
    · refine safe_only (entry_connects (entries index) fun decision same => post ⟨decision, same⟩)
        (fun op handle now answer later moves => prompts_kept moves (by simp) ?_ ?_) now
      · rintro decision rfl
        exact handle.elim
      · rintro consent accepted rfl
        exact handle.elim

/-- At the start there is no request for consent. -/
theorem initial_kept : PromptsKept ⟨World.initial, []⟩ := by
  constructor
  · exact fun consent pends => absurd pends (by simp [World.initial])
  · exact fun disclaimer awaiting => absurd awaiting (by simp [World.initial])
  · exact fun consent waiting => absurd waiting (by simp [World.initial])
  · exact fun task consent holds => absurd holds (by simp [own, deciding])
  · trivial

end Proof

/-- The handshake of a manager waits for a decision on this channel, which is in the
slot, while this text is on display. -/
def PromptPending (disclaimer : Text) (now : Moment) : Prop :=
  ∃ consent m, now.world.pendingConsent = some consent ∧
    now.world.consents consent = ⟨disclaimer, .waiting⟩ ∧
    prompting (own (.actor m) now.history) = .waits consent

/-- Where no step of the dialogue is in progress, a text is on display exactly while a
handshake waits for a decision about it through the slot. -/
theorem PromptsKept.shown_iff {now : Moment} (kept : PromptsKept now) (settled : Settled now)
    (disclaimer : Text) :
    now.world.connectionState = .awaitingConsent disclaimer ↔ PromptPending disclaimer now := by
  obtain ⟨decided, reported, woken⟩ := settled
  have waits : ∀ {m consent}, Prompts m consent now.history →
      prompting (own (.actor m) now.history) = .waits consent := fun {m consent} prompts =>
    prompts.resolve_right (reported m consent)
  constructor
  · intro awaiting
    obtain ⟨m, consent, prompts⟩ := kept.shown disclaimer awaiting
    have waiting := woken m consent (waits prompts)
    obtain slot | ⟨task, holds⟩ := kept.held consent waiting
    · have displayed := (kept.pending consent slot).2.1
      obtain rfl := ConnectionState.awaitingConsent.inj (awaiting.symm.trans displayed)
      exact ⟨consent, m, slot, by rw [← waiting], waits prompts⟩
    · exact absurd holds (by simp [decided])
  · rintro ⟨consent, m, slot, known, _⟩
    have displayed := (kept.pending consent slot).2.1
    rwa [known] at displayed

section Post

/-! A decision made while no other task moves. -/

variable {world after : World} {consent : ConsentId} {decision : Decision}

/-- The text on display is remembered as agreed to. -/
def World.recorded (world : World) : World :=
  match world.connectionState.awaited with
  | some text => { world with lastAgreedDisclaimer := some text }
  | none => world

/-- The state once the decision has reached the handshake. -/
def World.answered (world : World) (consent : ConsentId) (decision : Decision) : World :=
  let taken := { world with pendingConsent := none }
  (if decision.accepted then taken.recorded else taken).setStatus consent (.decided decision.accepted)

/-- Recording an agreement leaves the requests for consent. -/
theorem recorded_consents (world : World) : world.recorded.consents = world.consents := by
  unfold World.recorded
  split <;> rfl

/-- What is remembered after an acceptance. -/
theorem recordIfAccepted_returns : Returns exec (recordIfAccepted decision) world () after ↔
    after = if decision.accepted then world.recorded else world := by
  unfold recordIfAccepted
  split
  · rename_i accepted
    have form : recordAwaited decision = (ask (.readAwaited decision)).bind _ := rfl
    rw [form, returns_bind]
    simp only [returns_ask, exec_iff, World.gives, beq_iff_eq, World.apply]
    constructor
    · rintro ⟨awaited, middle, ⟨rfl, rfl⟩, rest⟩
      unfold World.recorded
      split
      · rename_i text shown
        rw [shown] at rest
        exact (exec_iff.mp (returns_ask.mp rest)).2
      · rename_i shown
        rw [shown] at rest
        exact (returns_done.mp rest).2
    · rintro rfl
      refine ⟨_, _, ⟨rfl, rfl⟩, ?_⟩
      unfold World.recorded
      split
      · rename_i text shown
        rw [shown]
        exact returns_ask.mpr (exec_iff.mpr ⟨rfl, rfl⟩)
      · rename_i shown
        rw [shown]
        exact .done _ _
  · exact ⟨fun returns => (returns_done.mp returns).2, fun same => same ▸ .done _ _⟩

/-- A decision about a pending prompt reaches its handshake. -/
theorem apiConsentPost_returns {result : Except Text Unit} (slot : world.pendingConsent = some consent)
    (waiting : (world.consents consent).status = .waiting) :
    Returns exec (apiConsentPost decision) world result after ↔
      result = .ok () ∧ after = world.answered consent decision := by
  have form : apiConsentPost decision = (ask (.takePendingConsent decision)).bind _ := rfl
  have still : ((if decision.accepted then ({ world with pendingConsent := none } : World).recorded
      else { world with pendingConsent := none }).consents consent).status = .waiting := by
    split
    · rw [recorded_consents]
      exact waiting
    · exact waiting
  rw [form, returns_bind]
  simp only [returns_ask, exec_iff, World.gives, beq_iff_eq, World.apply, slot]
  constructor
  · rintro ⟨_, _, ⟨rfl, rfl⟩, rest⟩
    obtain ⟨_, recorded, first, rest⟩ := returns_bind.mp rest
    obtain rfl := recordIfAccepted_returns.mp first
    obtain ⟨sent, answered, given, rest⟩ := returns_bind.mp rest
    obtain ⟨delivered, rfl⟩ := exec_iff.mp (returns_ask.mp given)
    obtain rfl : sent = true := by simpa [World.gives, still] using delivered
    obtain ⟨rfl, rfl⟩ := returns_done.mp rest
    exact ⟨rfl, rfl⟩
  · rintro ⟨rfl, rfl⟩
    refine ⟨_, _, ⟨rfl, rfl⟩, returns_bind.mpr ⟨(), _, recordIfAccepted_returns.mpr rfl, ?_⟩⟩
    refine returns_bind.mpr ⟨true, _, returns_ask.mpr (exec_iff.mpr ⟨?_, rfl⟩), .done _ _⟩
    simp [World.gives, still]

end Post

/-- A prompt on display that any decision made now reaches: the decision is accepted, and
the handshake that waits is given it. -/
def Answerable (disclaimer : Text) (now : Moment) : Prop :=
  ∃ consent m, prompting (own (.actor m) now.history) = .waits consent ∧
    (now.world.consents consent).disclaimer = disclaimer ∧
    ∀ decision result after, Returns exec (apiConsentPost decision) now.world result after ↔
      result = .ok () ∧ after = now.world.answered consent decision

/-- A request that is pending can be answered. -/
theorem PromptPending.answerable {disclaimer : Text} {now : Moment}
    (pending : PromptPending disclaimer now) : Answerable disclaimer now := by
  obtain ⟨consent, m, slot, known, prompts⟩ := pending
  exact ⟨consent, m, prompts, by rw [known], fun decision result after =>
    apiConsentPost_returns slot (by rw [known])⟩

/-- In a run in which no reconnect shows a text, and nobody writes the state while a
channel is in the slot: where no step of the dialogue is in progress, a text is on display
exactly while a handshake waits for a decision about it, and any decision made then is
accepted; and no decision is refused unless the wait for it timed out.

The invariant ties the text on display to the channel in the slot and to the handshake that
waits. Each step of the dialogue moves all three, and between the steps they agree. -/
theorem prompts_answerable (entries : Nat → Entry) (configuredTimeout : ManagerId → Nat)
    (pool : Pool World Task Answer)
    (reaches : Reaches exec (fun now event => keepsPrompt now event = true)
      (client entries configuredTimeout) pool) :
    (Settled pool.now → ∀ disclaimer,
      (pool.now.world.connectionState = .awaitingConsent disclaimer ↔
        PromptPending disclaimer pool.now) ∧
      (pool.now.world.gives .consentGet (some disclaimer) = true → Answerable disclaimer pool.now)) ∧
    Throughout DeliveredInTime pool.now.history := by
  have kept : PromptsKept pool.now ∧ _ := sound (S := promptSetting) (client_roles reaches)
    initial_kept fun task => client_kept entries configuredTimeout task _ rfl
  refine ⟨fun settled disclaimer => ?_, kept.1.delivered⟩
  have iff := kept.1.shown_iff settled disclaimer
  refine ⟨iff, fun displayed => (iff.mp ?_).answerable⟩
  have awaited : some disclaimer = pool.now.world.connectionState.awaited := beq_iff_eq.mp displayed
  cases state : pool.now.world.connectionState with
  | awaitingConsent shown =>
    rw [state] at awaited
    rw [Option.some.inj awaited]
  | _ => exact absurd awaited (by simp [state, ConnectionState.awaited])

section Runs

/-- A handshake asks the operator. -/
theorem prompts_answerable_sample :
    ∃ pool : Pool World Task Answer, pool.now.history = (asking 0 0 0 "AGREE".toList).reverse ∧
      PromptPending "AGREE".toList pool.now ∧ Answerable "AGREE".toList pool.now := by
  obtain ⟨pool, reaches, history, final⟩ := client_replays_to keepsPrompt (browsing "AGREE".toList)
    (fun _ => 30) (asking 0 0 0 "AGREE".toList)
    (fun now => decide (Settled now) &&
      now.world.connectionState == .awaitingConsent "AGREE".toList) (by decide)
  obtain ⟨settled, shown⟩ := Bool.and_eq_true_iff.mp final
  have shown := beq_iff_eq.mp shown
  obtain ⟨iff, accepts⟩ := (prompts_answerable _ _ pool reaches).1 (of_decide_eq_true settled)
    "AGREE".toList
  exact ⟨pool, history, iff.mp shown, accepts (by simp [World.gives, shown, ConnectionState.awaited])⟩

/-- A browse request finds the session dead, and the reconnect meets another disclaimer. -/
def disclaimerChanges (first second : Text) : List ClientEvent :=
  let background := Task.actor 0
  opening first ++ browsePage 3 1 ['a'] ++ takePage 1 ['a'] ++
  [ writePage ['a'],
    background.does (.recv 0 30) (.ok (.disconnected [])),
    background.does (.setConnectionState (.reconnecting [])) (),
    background.does (.modem 0 .reopenModemConnection) ⟨.ok (), some .agwpeConnected, .replaced⟩,
    background.does (.setConnectionState (.reconnecting [])) (),
    background.does (.loadAbort 0) false,
    background.does (.modem 0 .openAx25Link) ⟨.ok (), none, .kept⟩,
    background.does (.loadAbort 0) false,
    background.does .readConfig ⟨[], true⟩,
    background.does (.recv 0 30) (.ok (.data (ascii "callsign"))),
    background.does (.send 0 .callsign (ascii "\n")) (.ok ()),
    background.does (.loadAbort 0) false,
    background.does (.recv 0 30) (.ok (.data (Utf8.encode second))),
    background.does (.loadAbort 0) false,
    background.does .readLastAgreed (some first),
    background.does (.setConnectionState (.awaitingConsent second)) (),
    background.does (.reply 1 (.error .needsReconsent)) () ]

/-- The new disclaimer is on display, and no decision about it is accepted. -/
theorem prompt_unanswerable : ¬ ∀ (entries : Nat → Entry) (configuredTimeout : ManagerId → Nat)
    (pool : Pool World Task Answer),
    Reaches exec (fun _ _ => True) (client entries configuredTimeout) pool →
    (Settled pool.now → ∀ disclaimer,
      (pool.now.world.connectionState = .awaitingConsent disclaimer ↔
        PromptPending disclaimer pool.now) ∧
      (pool.now.world.gives .consentGet (some disclaimer) = true → Answerable disclaimer pool.now)) ∧
    Throughout DeliveredInTime pool.now.history := by
  intro every
  obtain ⟨pool, reaches, _, final⟩ := client_replays_to (fun _ _ => true)
    (browsing "A AGREE".toList) (fun _ => 30)
    (disclaimerChanges "A AGREE".toList "B AGREE".toList)
    (fun now => decide (Settled now) && now.world.pendingConsent.isNone &&
      now.world.connectionState == .awaitingConsent "B AGREE".toList) (by decide)
  simp only [Bool.and_eq_true, decide_eq_true_eq, beq_iff_eq, Option.isNone_iff_eq_none] at final
  obtain ⟨⟨settled, empty⟩, shown⟩ := final
  obtain ⟨consent, m, slot, _⟩ := ((every _ _ pool (reaches.mono fun _ _ _ => trivial)).1 settled
    "B AGREE".toList).1.mp shown
  exact absurd slot (by simp [empty])

end Runs

end PacketBrowser.Client
