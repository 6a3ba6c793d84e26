import PacketBrowser.Client.Requests

/-!
# Whose consent is sent

A consent write names the disclaimer its handshake received. It is the operator's if
he accepted exactly this text before, after it had been shown to him: `agreed` reads
that off the history.

A decision reaches the client without the text it answers. It is taken to answer the
prompt that waits when it arrives, and the text it is remembered for is the one on
display a moment later. `answersPrompt` says that both are the text the operator
meant.
-/

namespace PacketBrowser.Client

open Protocol Foundation Program Setting

/-- The text whose consent a write sends. -/
def Purpose.releases : Purpose → Option Text
  | .agreeByOperator disclaimer => some disclaimer
  | .autoAgree disclaimer => some disclaimer
  | _ => none

/-- The disclaimer that an operation agrees to. -/
def Op.releases : Op → Option Text
  | .send _ purpose _ => purpose.releases
  | _ => none

/-- The operator was shown this text. -/
def shows (disclaimer : Text) (event : ClientEvent) : Bool :=
  match event.op, event.answer with
  | .consentGet, some displayed => displayed == disclaimer
  | _, _ => false

/-- The operator accepted this text. -/
def accepts (disclaimer : Text) (event : ClientEvent) : Bool :=
  match event.op with
  | .takePendingConsent decision => decision == ⟨true, some disclaimer⟩
  | _ => false

/-- The operator accepted this text after it had been shown to him. -/
def agreed (disclaimer : Text) : List ClientEvent → Bool
  | [] => false
  | event :: earlier =>
    accepts disclaimer event && earlier.any (shows disclaimer) || agreed disclaimer earlier

/-- Consent is sent only for a text the operator agreed to. -/
def ConsentGiven (event : ClientEvent) (earlier : List ClientEvent) : Prop :=
  ∀ disclaimer, event.op.releases = some disclaimer → agreed disclaimer earlier = true

/-- An acceptance that finds a prompt waiting answers the text of this prompt, which
was shown to the operator; the text then remembered is again the one he answers. -/
def answersPrompt (now : Moment) (event : ClientEvent) : Bool :=
  match event.op, event.answer with
  | .takePendingConsent ⟨true, answering⟩, some consent =>
    answering == some (now.world.consents consent).disclaimer &&
      now.history.any (shows (now.world.consents consent).disclaimer)
  | .readAwaited ⟨true, answering⟩, some displayed => answering == some displayed
  | _, _ => true

/-- An agreement is not taken back. -/
theorem agreed_later {disclaimer : Text} {earlier : List ClientEvent} (event : ClientEvent)
    (before : agreed disclaimer earlier = true) : agreed disclaimer (event :: earlier) = true := by
  simp [agreed, before]

/-- Everything that can release a consent is backed by an agreement. -/
structure ConsentBacked (now : Moment) : Prop where
  waiting : ∀ consent, now.world.pendingConsent = some consent → consent < now.world.consentCount
  decided : ∀ consent, (now.world.consents consent).status = .decided true →
    agreed (now.world.consents consent).disclaimer now.history = true
  stored : ∀ text, now.world.lastAgreedDisclaimer = some text → agreed text now.history = true
  released : Throughout ConsentGiven now.history

/-- Runs in which the operator's answers meet the prompts they are for. -/
def consentSetting : Setting World Task Answer where
  exec := exec
  meets now event := answersPrompt now event = true ∧ event.thread.allowed event.op
  inv := ConsentBacked

section Proof

/-- A step keeps everything backed if what it releases, decides or records is. -/
theorem consent_kept {before after : Moment} {event : ClientEvent}
    (moves : consentSetting.Moves before event after)
    (release : ∀ text, event.op.releases = some text → agreed text before.history = true)
    (decide : ∀ consent, event.op = .answerConsent consent true →
      agreed (before.world.consents consent).disclaimer before.history = true)
    (record : ∀ text, event.op = .recordAgreedDisclaimer text →
      agreed text before.history = true) : ConsentBacked after := by
  obtain ⟨world, history⟩ := after
  obtain ⟨thread, op, answer⟩ := event
  obtain ⟨executed, grown⟩ := moves.occurs
  have backed : ConsentBacked before := moves.inv
  obtain rfl := (exec_iff.mp executed).2
  obtain rfl : history = ⟨thread, op, answer⟩ :: before.history := grown
  constructor
  · intro consent slot
    exact apply_pending _ _ _ consent backed.waiting slot
  · intro consent decided
    by_cases answered : op = .answerConsent consent true
    · subst answered
      show agreed ((before.world.apply _ _).consents consent).disclaimer _ = true
      rw [apply_answerConsent_disclaimer]
      exact agreed_later _ (decide consent rfl)
    · obtain ⟨known, same⟩ := apply_decided _ _ _ consent decided answered
      show agreed ((before.world.apply _ _).consents consent).disclaimer _ = true
      rw [same]
      exact agreed_later _ (backed.decided consent known)
  · intro text stored
    by_cases recorded : op = .recordAgreedDisclaimer text
    · exact agreed_later _ (record text recorded)
    · exact agreed_later _ (backed.stored text (apply_lastAgreed _ _ _ stored recorded))
  · exact ⟨release, backed.released⟩

/-- Operations that have nothing to do with consent. -/
def Op.plain (op : Op) : Prop :=
  op.releases = none ∧ (∀ consent, op ≠ .answerConsent consent true) ∧
    ∀ text, op ≠ .recordAgreedDisclaimer text

/-- A plain step agrees to nothing. -/
theorem consent_plain {before after : Moment} {event : ClientEvent}
    (moves : consentSetting.Moves before event after) (plain : event.op.plain) :
    ConsentBacked after := by
  apply consent_kept moves
  · intro text release
    exact absurd release (by simp [plain.1])
  · intro consent answered
    exact absurd answered (plain.2.1 consent)
  · intro text recorded
    exact absurd recorded (plain.2.2 text)

/-- A plain operation keeps the invariant. -/
theorem plain_harmless {thread : Task} (op : Op) (plain : op.plain) (now : Moment)
    (answer : Answer op) (later : Moment) (_ : True)
    (moves : consentSetting.Moves now ⟨thread, op, answer⟩ later) :
    consentSetting.inv later ∧ True :=
  ⟨consent_plain moves plain, trivial⟩

/-- What was agreed stays agreed. -/
theorem agreed_stable (thread : Task) (disclaimer : Text) :
    consentSetting.Stable thread fun now => agreed disclaimer now.history = true := by
  rintro before after holds ⟨event, _, moves, _⟩
  rw [moves.occurs.2]
  exact agreed_later event holds

/-- A plain operation keeps the invariant and the agreement. -/
theorem plain_keeps {thread : Task} {disclaimer : Text} (op : Op) (plain : op.plain) (now : Moment)
    (answer : Answer op) (later : Moment) (agreement : agreed disclaimer now.history = true)
    (moves : consentSetting.Moves now ⟨thread, op, answer⟩ later) :
    consentSetting.inv later ∧ agreed disclaimer later.history = true := by
  refine ⟨consent_plain moves plain, ?_⟩
  rw [moves.occurs.2]
  exact agreed_later _ agreement

section Operator

/-! A decision, and what it can release. -/

/-- The decision answers the text of this channel, and the operator agreed to it. -/
def Meant (decision : Decision) (consent : ConsentId) (now : Moment) : Prop :=
  decision.accepted = true → consent < now.world.consentCount ∧
    decision.answering = some (now.world.consents consent).disclaimer ∧
    agreed (now.world.consents consent).disclaimer now.history = true

/-- What a decision was meant for stays so. -/
theorem meant_kept {decision : Decision} {consent : ConsentId} {before after : Moment}
    {event : ClientEvent} (meant : Meant decision consent before)
    (moves : consentSetting.Moves before event after) : Meant decision consent after := by
  intro accepted
  obtain ⟨used, answering, agreement⟩ := meant accepted
  obtain ⟨executed, grown⟩ := moves.occurs
  obtain ⟨inUse, same⟩ := apply_disclaimer before.world event.op event.answer consent used
  rw [(exec_iff.mp executed).2, grown, same]
  exact ⟨inUse, answering, agreed_later event agreement⟩

/-- Other tasks leave what a decision was meant for. -/
theorem meant_stable (thread : Task) (decision : Decision) (consent : ConsentId) :
    consentSetting.Stable thread (Meant decision consent) := by
  rintro before after meant ⟨event, _, moves, _⟩
  exact meant_kept meant moves

/-- The prompt a decision takes is the one the operator means. -/
theorem takePendingConsent_meant (thread : Task) (decision : Decision) :
    consentSetting.Triple thread (fun _ => True) (ask (.takePendingConsent decision))
      fun sender now => ∀ consent, sender = some consent → Meant decision consent now := by
  apply triple_ask (stable_const _)
  · intro sender before after holds elsewhere consent same
    exact meant_stable thread decision consent _ _ (holds consent same) elsewhere
  intro now sender later _ moves
  refine ⟨consent_plain moves ⟨rfl, by simp, by simp⟩, ?_⟩
  rintro consent rfl accepted
  obtain ⟨executed, grown⟩ := moves.occurs
  have slot : now.world.pendingConsent = some consent := by
    have given := (exec_iff.mp executed).1
    simp only [World.gives, beq_iff_eq] at given
    exact given.symm
  obtain ⟨_, answering⟩ := decision
  obtain rfl : _ = true := accepted
  have met := moves.met.1
  simp only [answersPrompt, Bool.and_eq_true, beq_iff_eq] at met
  obtain ⟨meets, shown⟩ := met
  have backed : ConsentBacked now := moves.inv
  rw [(exec_iff.mp executed).2, grown]
  refine ⟨backed.waiting consent slot, meets, ?_⟩
  simp [agreed, accepts, meets, shown, World.apply]

/-- The text remembered is one the operator agreed to. -/
theorem recordIfAccepted_meant (thread : Task) (decision : Decision) (consent : ConsentId) :
    consentSetting.Triple thread (Meant decision consent) (recordIfAccepted decision)
      fun _ => Meant decision consent := by
  unfold recordIfAccepted
  split
  · rename_i accepted
    refine triple_bind (fun awaited now => Meant decision consent now ∧
      ∀ text, awaited = some text → agreed text now.history = true) ?_ fun awaited => ?_
    · refine triple_ask (meant_stable thread decision consent) ?_ fun now awaited later meant moves => ?_
      · intro awaited
        apply (meant_stable thread decision consent).and
        intro before after holds elsewhere text same
        exact agreed_stable thread text _ _ (holds text same) elsewhere
      refine ⟨consent_plain moves ⟨rfl, by simp, by simp⟩, meant_kept meant moves, ?_⟩
      rintro text rfl
      obtain ⟨_, answering, agreement⟩ := meant accepted
      obtain ⟨_, answered⟩ := decision
      obtain rfl : _ = true := accepted
      have met := moves.met.1
      simp only [answersPrompt, beq_iff_eq] at met
      obtain rfl := Option.some.inj (met.symm.trans answering)
      rw [moves.occurs.2]
      exact agreed_later _ agreement
    · cases awaited with
      | none =>
        exact triple_done (meant_stable thread decision consent) fun _ holds => holds.1
      | some text =>
        refine triple_ask ((meant_stable thread decision consent).and ?_)
          (fun _ => meant_stable thread decision consent) fun now answer later holds moves => ?_
        · intro before after holds elsewhere other same
          exact agreed_stable thread other _ _ (holds other same) elsewhere
        refine ⟨consent_kept moves (by simp [Op.releases]) (by simp) ?_, meant_kept holds.1 moves⟩
        intro recorded same
        obtain rfl := Op.recordAgreedDisclaimer.inj same
        exact holds.2 text rfl
  · exact triple_done (meant_stable thread decision consent) fun _ => id

/-- A decision decides and records only what the operator means. -/
theorem apiConsentPost_backed (thread : Task) (decision : Decision) :
    consentSetting.Triple thread (fun _ => True) (apiConsentPost decision) fun _ _ => True := by
  apply triple_bind _ (takePendingConsent_meant thread decision)
  intro sender
  cases sender with
  | none => exact triple_done (stable_const _) fun _ _ => trivial
  | some consent =>
    refine triple_bind (fun _ => Meant decision consent)
      ((recordIfAccepted_meant thread decision consent).consequence
        (fun _ holds => holds consent rfl) fun _ _ => id) fun _ => ?_
    refine triple_ask_return (meant_stable thread decision consent) (fun _ => stable_const _) ?_
    intro now sent later meant moves
    refine ⟨consent_kept moves (by simp [Op.releases]) ?_ (by simp), trivial⟩
    intro answered same
    obtain ⟨rfl, accepted⟩ := Op.answerConsent.inj same
    exact (meant accepted).2.2

end Operator

section Handshakes

/-! A handshake, and the consent it sends. -/

variable (m : ManagerId)

/-- The channel belongs to the prompt with this text. -/
def Asked (disclaimer : Text) (consent : ConsentId) (now : Moment) : Prop :=
  consent < now.world.consentCount ∧ (now.world.consents consent).disclaimer = disclaimer

/-- Other tasks leave the question that was asked. -/
theorem asked_stable (thread : Task) (disclaimer : Text) (consent : ConsentId) :
    consentSetting.Stable thread (Asked disclaimer consent) := by
  rintro before after ⟨used, same⟩ ⟨event, _, moves, _⟩
  rw [Asked, (exec_iff.mp moves.occurs.1).2, ← same]
  exact apply_disclaimer before.world event.op event.answer consent used

/-- Talking to the node agrees to nothing. -/
theorem talks_plain (op : Op) (talk : talks m op) : op.plain := by
  unfold talks at talk
  split at talk <;> first | exact ⟨rfl, by simp, by simp⟩ | exact talk.elim

/-- Opening the connection again agrees to nothing. -/
theorem reopens_plain (op : Op) (reopen : reopens m op) : op.plain := by
  unfold reopens at reopen
  split at reopen <;> first | exact ⟨rfl, by simp, by simp⟩ | exact talks_plain m op reopen

/-- The background task releases consent with the writes that name it only. -/
theorem serves_plain {purposes : Purpose → Prop}
    (silent : ∀ purpose, purposes purpose → purpose.releases = none) (op : Op)
    (serving : serves m purposes op) : op.plain := by
  cases op with
  | send manager purpose data => exact ⟨silent purpose serving.2, by simp, by simp⟩
  | answerConsent => exact serving.elim
  | recordAgreedDisclaimer => exact serving.elim
  | _ => exact ⟨rfl, by simp, by simp⟩

/-- The operator's acceptance of a prompt is his agreement to its text. -/
theorem awaitOperator_agreed (disclaimer : Text) (consent : ConsentId) :
    consentSetting.Triple (.actor m) (Asked disclaimer consent) (awaitOperator consent).run
      (outcome (fun accepted now => accepted = true → agreed disclaimer now.history = true)
        fun _ _ => True) := by
  have final : ∀ result, consentSetting.Stable (.actor m)
      (outcome (fun accepted now => accepted = true → agreed disclaimer now.history = true)
        (fun _ : AgwpeError => fun _ => True) result) :=
    stable_outcome (fun _ => (agreed_stable _ _).imp) fun _ => stable_const _
  refine triple_bind (fun waited now =>
    waited = .decided true → agreed disclaimer now.history = true) ?_ fun waited => ?_
  · refine triple_ask (asked_stable _ _ _) (fun _ => (agreed_stable _ _).imp) ?_
    intro now waited later asked moves
    refine ⟨consent_plain moves ⟨rfl, by simp, by simp⟩, ?_⟩
    rintro rfl
    have backed : ConsentBacked now := moves.inv
    have given := (exec_iff.mp moves.occurs.1).1
    simp only [World.gives, ConsentWait.status, beq_iff_eq] at given
    rw [moves.occurs.2, ← asked.2]
    exact agreed_later _ (backed.decided consent given)
  · cases waited with
    | decided accepted =>
      apply triple_done (final _)
      rintro now holds rfl
      exact holds rfl
    | senderDropped =>
      apply triple_done (final _)
      intro now _ accepted
      exact absurd accepted (by simp)
    | timedOut =>
      refine triple_bind (fun _ _ => True) ?_ fun _ => triple_done (final _) fun _ => id
      exact triple_ask (agreed_stable _ _).imp (fun _ => stable_const _) fun now answer later _ moves =>
        ⟨consent_plain moves ⟨rfl, by simp, by simp⟩, trivial⟩

/-- A prompt that is accepted was agreed to. -/
theorem askOperator_agreed (disclaimer : Text) :
    consentSetting.Triple (.actor m) (fun _ => True) (askOperator disclaimer).run
      (outcome (fun _ now => agreed disclaimer now.history = true) fun _ _ => True) := by
  have final : ∀ result, consentSetting.Stable (.actor m)
      (outcome (fun _ : Unit => fun now => agreed disclaimer now.history = true)
        (fun _ : AgwpeError => fun _ => True) result) :=
    stable_outcome (fun _ => agreed_stable _ _) fun _ => stable_const _
  refine triple_attempt (Asked disclaimer) (fun _ => stable_const _) ?_ fun consent => ?_
  · refine triple_lift (asked_stable _ _) (triple_ask (stable_const _) (asked_stable _ _) ?_)
    intro now consent later _ moves
    refine ⟨consent_plain moves ⟨rfl, by simp, by simp⟩, ?_⟩
    have given := (exec_iff.mp moves.occurs.1).1
    simp only [World.gives, beq_iff_eq] at given
    show Asked disclaimer consent later
    rw [Asked, (exec_iff.mp moves.occurs.1).2, given]
    exact ⟨Nat.lt_succ_self _, by simp [World.apply, World.park]⟩
  · refine triple_attempt _ (fun _ => stable_const _) (awaitOperator_agreed m disclaimer consent)
      fun accepted => ?_
    cases accepted with
    | true => exact triple_done (final _) fun now holds => holds rfl
    | false => exact triple_done (final _) fun _ _ => trivial

/-- Writing a consent that was agreed to keeps everything backed. -/
theorem sendBytes_agreed (purpose : Purpose) (data : Bytes) (disclaimer : Text)
    (sends : (Op.send m purpose data).releases = some disclaimer) :
    consentSetting.Triple (.actor m) (fun now => agreed disclaimer now.history = true)
      (sendBytes m purpose data).run fun _ _ => True := by
  refine triple_ask_return (agreed_stable _ _) (fun _ => stable_const _) ?_
  intro now answer later agreement moves
  refine ⟨consent_kept moves ?_ (by simp) (by simp), trivial⟩
  intro text release
  obtain rfl := Option.some.inj (release.symm.trans sends)
  exact agreement

/-- The handshake agrees only as the operator did. -/
theorem performBpqHandshake_backed (localCallsign : Text) :
    consentSetting.Triple (.actor m) (fun _ => True) (performBpqHandshake m localCallsign).run
      fun _ _ => True := by
  refine triple_attempt_only (stable_const _)
    ((receiveDisclaimer_talks m localCallsign).mono (talks_plain m)) plain_harmless
    (fun _ => stable_const _) (fun _ _ => id) fun receivedText => ?_
  apply triple_attempt _ (fun _ => stable_const _) (askOperator_agreed m receivedText)
  intro _
  exact sendBytes_agreed m _ _ receivedText rfl

/-- Consent is sent automatically only for the text remembered. -/
theorem requireAgreed_agreed (disclaimer : Text) :
    consentSetting.Triple (.actor m) (fun _ => True) (requireAgreed disclaimer).run
      (outcome (fun _ now => agreed disclaimer now.history = true) fun _ _ => True) := by
  have final : ∀ result, consentSetting.Stable (.actor m)
      (outcome (fun _ : Unit => fun now => agreed disclaimer now.history = true)
        (fun _ : AgwpeError => fun _ => True) result) :=
    stable_outcome (fun _ => agreed_stable _ _) fun _ => stable_const _
  have kept : ∀ stored : Option Text, consentSetting.Stable (.actor m) fun now =>
      ∀ text, stored = some text → agreed text now.history = true := by
    intro stored before after holds elsewhere text same
    exact agreed_stable _ text _ _ (holds text same) elsewhere
  refine triple_attempt (fun stored now =>
    ∀ text, stored = some text → agreed text now.history = true) (fun _ => stable_const _) ?_
    fun stored => ?_
  · refine triple_lift kept (triple_ask (stable_const _) kept ?_)
    intro now stored later _ moves
    refine ⟨consent_plain moves ⟨rfl, by simp, by simp⟩, ?_⟩
    rintro text rfl
    have backed : ConsentBacked now := moves.inv
    have given := (exec_iff.mp moves.occurs.1).1
    simp only [World.gives, beq_iff_eq] at given
    rw [moves.occurs.2]
    exact agreed_later _ (backed.stored text given.symm)
  · unfold requireStored
    split
    · rename_i equal
      apply triple_done (final _)
      intro now holds
      cases stored with
      | none => exact absurd equal (by simp [matchesStoredDisclaimer])
      | some text =>
        simp only [matchesStoredDisclaimer, beq_iff_eq] at equal
        exact holds disclaimer (by rw [equal])
    · refine triple_attempt (fun _ _ => True) (fun _ => stable_const _) ?_
        fun _ => triple_done (final _) fun _ _ => trivial
      refine triple_lift (fun _ => stable_const _) ?_
      exact triple_ask (kept stored) (fun _ => stable_const _) fun now answer later _ moves =>
        ⟨consent_plain moves ⟨rfl, by simp, by simp⟩, trivial⟩

/-- Setting a session up again agrees only to what was agreed to before. -/
theorem reestablish_backed (reason localCallsign : Text) :
    consentSetting.Triple (.actor m) (fun _ => True) (reestablish m reason localCallsign).run
      fun _ _ => True := by
  refine triple_attempt_only (stable_const _)
    ((receiveAgain_reopens m reason localCallsign).mono (reopens_plain m)) plain_harmless
    (fun _ => stable_const _) (fun _ _ => id) fun disclaimer => ?_
  apply triple_attempt _ (fun _ => stable_const _) (requireAgreed_agreed m disclaimer)
  intro _
  refine triple_attempt_only (agreed_stable _ disclaimer)
    ((bailIfAborted_only m).mono fun op same => same ▸ ⟨rfl, by simp, by simp⟩) plain_keeps
    (fun _ => stable_const _) (fun _ _ _ => trivial) fun _ => ?_
  refine triple_attempt (fun _ _ => True) (fun _ => stable_const _)
    ((sendBytes_agreed m _ _ disclaimer rfl).consequence (fun _ => id)
      (by rintro (error | value) _ _ <;> trivial)) fun _ => ?_
  exact triple_only (stable_const _) (only_lift _ ((setState_only _).mono
    fun op same => same ▸ ⟨rfl, by simp, by simp⟩)) plain_harmless

/-- A request agrees to nothing. -/
theorem handleSendRequest_backed (timeoutSecs : Nat) (data : Bytes) :
    consentSetting.Triple (.actor m) (fun _ => True) (handleSendRequest m timeoutSecs data).run
      fun _ _ => True :=
  triple_only (stable_const _) ((handleSendRequest_serves m timeoutSecs data).mono
    (serves_plain m (by rintro _ rfl; rfl))) plain_harmless

/-- The background task agrees only as the operator did. -/
theorem backgroundTask_backed (configuredTimeout : Nat) :
    consentSetting.Triple (.actor m) (fun _ => True) (backgroundTask m configuredTimeout)
      fun _ _ => True := by
  have plain : ∀ {op : Op}, op.plain → consentSetting.Triple (.actor m) (fun _ => True) (ask op)
      fun _ _ => True := fun plain => triple_only (stable_const _) (only_ask Op.plain plain)
    plain_harmless
  have silent : ∀ purpose : Purpose, purpose.binding = false → purpose.releases = none := by
    intro purpose unbound
    cases purpose <;> first | rfl | exact absurd unbound (by simp [Purpose.binding])
  apply backgroundTask_triple (fun _ _ => True) (fun _ _ _ => True) (stable_const _)
  · exact plain ⟨rfl, by simp, by simp⟩
  · intro timeoutSecs localCallsign _ command
    exact runCommand_triple (fun op serving now answer later moves =>
      consent_plain moves (serves_plain m silent op serving)) (performBpqHandshake_backed m)
      (reestablish_backed m) (handleSendRequest_backed m)
      (fun _ => plain ⟨rfl, by simp, by simp⟩) timeoutSecs localCallsign
  · intro ticket result
    exact plain ⟨rfl, by simp, by simp⟩

end Handshakes

/-- Connecting agrees to nothing. -/
theorem connects_plain (op : Op) (connect : connects op) : op.plain := by
  cases op <;> first | exact False.elim connect | exact ⟨rfl, by simp, by simp⟩

/-- Every task of the client agrees only as the operator did. -/
theorem client_backed (entries : Nat → Entry) (configuredTimeout : ManagerId → Nat) (task : Task)
    (now : Moment) :
    consentSetting.Safe task ((client entries configuredTimeout).threads task)
      (fun _ _ => True) now := by
  cases task with
  | actor m => exact backgroundTask_backed m _ now trivial
  | peer m =>
    refine safe_only (client_only entries configuredTimeout (.peer m))
      (fun op permitted now answer later moves => consent_plain moves ?_) now
    cases op <;> first | exact False.elim permitted | exact ⟨rfl, by simp, by simp⟩
  | handler index =>
    by_cases post : ∃ decision, entries index = .consentPost decision
    · obtain ⟨decision, same⟩ := post
      show consentSetting.Safe _ (entries index).routine _ _
      rw [same]
      exact triple_bind (fun _ _ => True) (apiConsentPost_backed _ decision)
        (fun _ => triple_done (stable_const _) fun _ => id) now trivial
    · exact safe_only ((entry_connects (entries index) fun decision same =>
        post ⟨decision, same⟩).mono connects_plain)
        (fun op plain now answer later moves => consent_plain moves plain) now

/-- At the start nothing has been agreed to. -/
theorem initial_backed : ConsentBacked ⟨World.initial, []⟩ := by
  constructor
  · intro consent slot
    exact absurd slot (by simp [World.initial])
  · intro consent decided
    exact absurd decided (by simp [World.initial])
  · intro text stored
    exact absurd stored (by simp [World.initial])
  · trivial

end Proof

/-- A run in which every acceptance meets the prompt it is meant for sends a consent
only for a text the operator accepted after he was shown it.

What backs a consent is an invariant: a decision that was made, or a text that is stored, was
accepted after it was shown. Every routine keeps it, and it is looked at when the consent is
sent. -/
theorem consent_follows_agreement (entries : Nat → Entry) (configuredTimeout : ManagerId → Nat)
    (pool : Pool World Task Answer)
    (reaches : Reaches exec (fun now event => answersPrompt now event = true)
      (client entries configuredTimeout) pool) : Throughout ConsentGiven pool.now.history := by
  have backed : consentSetting.inv pool.now ∧ _ := sound (client_roles reaches) initial_backed
    fun task => client_backed entries configuredTimeout task _
  exact backed.1.released

/-- The operator reads the disclaimer and accepts it. -/
theorem consent_follows_agreement_sample :
    ∃ pool : Pool World Task Answer, pool.now.history = (opening "AGREE".toList).reverse ∧
      Throughout ConsentGiven pool.now.history := by
  obtain ⟨pool, reaches, history⟩ := client_replays answersPrompt (browsing "AGREE".toList)
    (fun _ => 30) (opening "AGREE".toList) (by decide +kernel)
  exact ⟨pool, history, consent_follows_agreement _ _ pool reaches⟩

/-- Nobody answers a prompt in time. -/
def promptExpires (ticket consent : Nat) : List ClientEvent :=
  let message := "BPQ handshake failed: Connection failed: ".toList ++
    "Consent timeout: operator did not respond".toList
  [ (Task.actor 0).does (.awaitConsent consent) .timedOut,
    (Task.actor 0).does .withdrawConsent (),
    (Task.actor 0).does (.setConnectionState (.error message)) (),
    (Task.actor 0).does (.reply ticket (.error (.connectionFailed message))) () ]

/-- The operator reads a prompt, which expires; a session is opened again with another
disclaimer; then his acceptance of the first one arrives. -/
def lateAcceptance (first second : Text) : List ClientEvent :=
  asking 0 0 0 first ++ [(Task.handler 1).does .consentGet (some first)] ++ promptExpires 0 0 ++
    asking 2 1 1 second ++ accepting 3 1 first second

/-- A session is opened, its disclaimer read, and another one opened before it is accepted. -/
def reopening (first : Text) : Nat → Entry
  | 0 => .openSession 0 [] 0
  | 1 => .consentGet
  | 2 => .openSession 0 [] 0
  | _ => .consentPost ⟨true, some first⟩

/-- The acceptance of an expired prompt releases the consent for the text of the next. -/
theorem consent_without_agreement : ¬ ∀ (entries : Nat → Entry)
    (configuredTimeout : ManagerId → Nat) (pool : Pool World Task Answer),
    Reaches exec (fun _ _ => True) (client entries configuredTimeout) pool →
      Throughout ConsentGiven pool.now.history := by
  intro every
  obtain ⟨pool, reaches, history⟩ := client_replays (fun _ _ => true) (reopening "A AGREE".toList)
    (fun _ => 30) (lateAcceptance "A AGREE".toList "B AGREE".toList ++
      [agreeing "B AGREE".toList]) (by decide +kernel)
  have given := every _ _ pool (reaches.mono fun _ _ _ => trivial)
  rw [history, List.reverse_append] at given
  exact absurd (given.1 _ rfl) (by decide +kernel)

end PacketBrowser.Client
