import PacketBrowser.Agwpe.Recv
import PacketBrowser.Client.Reception
import PacketBrowser.Foundation.Respect

/-!
# Who is heard in a session

A handshake or a request runs over `recv`, and everything else it does is answered by its
surroundings, which do not know what is on the air. So whether a frame counts is decided by
its event alone: a frame without content passes unnoticed, and any other frame can change
the result, whoever sent it.
-/

namespace PacketBrowser.Agwpe

open Protocol Client Foundation Program AgwpeTransport

/-- The transport, and what was done besides receiving, newest first. -/
structure Air where
  transport : AgwpeTransport
  history : List (Sigma Answer)

/-- What else a run depends on: whether the operator has disconnected, and what the other
operations may be answered after what was done so far. -/
structure Around where
  aborted : Bool
  allows : List (Sigma Answer) → (op : Op) → Answer op → Bool

/-- An operation is carried out by the transport where it receives, and answered by what is
around it otherwise. -/
def Around.exec (around : Around) (op : Op) (answer : Answer op) (air : Air) : Option Air :=
  match op, answer with
  | .recv _ _, answer =>
    if answer = air.transport.recv.1 then some { air with transport := air.transport.recv.2 }
    else none
  | .loadAbort _, answer => if answer = around.aborted then some air else none
  | op, answer =>
    if around.allows air.history op answer then
      some { air with history := ⟨op, answer⟩ :: air.history }
    else none

/-- The frame comes from the station the session is with, on the port of the session. -/
def fromPeer (config : SessionConfig) (frame : AgwpeFrame) : Bool :=
  frame.port == config.agwpePort && frame.callFrom == config.remoteCallsign &&
    frame.callTo == config.localCallsign

/-- A frame without content. -/
def AgwpeFrame.silent (frame : AgwpeFrame) : Bool := decide (frame.event = .data [])

/-- The frames that are not silent. -/
def loud (frames : List AgwpeFrame) : List AgwpeFrame := frames.filter fun frame => !frame.silent

/-- Nobody can tell the two apart by what was done, or by the frames with content. -/
def Alike (one two : Air) : Prop :=
  one.history = two.history ∧ ∃ first second, one.transport.Delivers first ∧
    two.transport.Delivers second ∧ loud first = loud second

/-- Likeness goes both ways. -/
theorem Alike.symm {one two : Air} (alike : Alike one two) : Alike two one := by
  obtain ⟨history, first, second, delivers, delivers', same⟩ := alike
  exact ⟨history.symm, second, first, delivers', delivers, same.symm⟩

section Loops

variable {σ β : Type}

/-- What a loop that receives one event in each round makes of the frames: its result, and
the frames behind the last one it received. -/
def consume (step : σ → Except TransportError TransportEvent → σ ⊕ β) :
    σ → List AgwpeFrame → Option (β × List AgwpeFrame)
  | state, [] =>
    match step state (.error .timeout) with
    | .inl _ => none
    | .inr value => some (value, [])
  | state, frame :: frames =>
    match step state (.ok frame.event) with
    | .inl later => consume step later frames
    | .inr value => some (value, frames)

/-- The body of a loop receives one event in each round and decides by it. -/
structure Hears (around : Around) (body : σ → Routine (σ ⊕ β))
    (step : σ → Except TransportError TransportEvent → σ ⊕ β) : Prop where
  round : ∀ state air result out, Returns around.exec (body state) air result out ↔
    result = step state air.transport.recv.1 ∧ out = { air with transport := air.transport.recv.2 }
  stops : ∀ state, ∃ value, step state (.error .timeout) = .inr value

variable {around : Around} {body : σ → Routine (σ ⊕ β)}
variable {step : σ → Except TransportError TransportEvent → σ ⊕ β}

/-- One round of a loop and what follows it. -/
theorem Hears.next (hears : Hears around body step) (state : σ) (air out : Air) (result : β) :
    Returns around.exec (loop body state) air result out ↔
      match step state air.transport.recv.1 with
      | .inl later => Returns around.exec (loop body later)
          { air with transport := air.transport.recv.2 } result out
      | .inr value => result = value ∧ out = { air with transport := air.transport.recv.2 } := by
  rw [loop, returns_iterate]
  simp only [hears.round, returns_done]
  cases step state air.transport.recv.1 with
  | inl later => simp [loop]
  | inr value => simp

/-- The loop returns what it makes of the frames, and nothing else. The induction is on the
frames that are delivered. -/
theorem Hears.consumes (hears : Hears around body step) (state : σ) (air : Air)
    (frames : List AgwpeFrame) (delivers : air.transport.Delivers frames) :
    ∃ value rest later, consume step state frames = some (value, rest) ∧ later.Delivers rest ∧
      ∀ result out, Returns around.exec (loop body state) air result out ↔
        result = value ∧ out = { air with transport := later } := by
  induction frames generalizing state air with
  | nil =>
    obtain ⟨timeout, behind⟩ := recv_silence delivers
    obtain ⟨value, ended⟩ := hears.stops state
    refine ⟨value, [], air.transport.recv.2, by simp [consume, ended], behind, ?_⟩
    intro result out
    rw [hears.next, timeout, ended]
  | cons frame frames inductionHypothesis =>
    obtain ⟨received, behind⟩ := recv_frame delivers
    cases stepped : step state (.ok frame.event) with
    | inl later =>
      obtain ⟨value, rest, last, consumed, kept, returned⟩ :=
        inductionHypothesis later { air with transport := air.transport.recv.2 } behind
      refine ⟨value, rest, last, by simp [consume, stepped, consumed], kept, ?_⟩
      intro result out
      rw [hears.next, received, stepped]
      exact returned result out
    | inr value =>
      refine ⟨value, frames, air.transport.recv.2, by simp [consume, stepped], behind, ?_⟩
      intro result out
      rw [hears.next, received, stepped]

/-- A state that an event without content leaves as it is, and so after any round. -/
structure Unmoved (step : σ → Except TransportError TransportEvent → σ ⊕ β) (inv : σ → Prop) :
    Prop where
  quiet : ∀ state, inv state → step state (.ok (.data [])) = .inl state
  keeps : ∀ state answer later, inv state → step state answer = .inl later → inv later

/-- Frames without content make no difference. -/
theorem consume_loud {inv : σ → Prop} (unmoved : Unmoved step inv) (state : σ) (holds : inv state)
    (frames : List AgwpeFrame) : consume step state (loud frames) =
      (consume step state frames).map fun found => (found.1, loud found.2) := by
  induction frames generalizing state with
  | nil =>
    unfold loud consume
    simp only [List.filter_nil]
    split <;> rfl
  | cons frame frames inductionHypothesis =>
    unfold loud at inductionHypothesis ⊢
    by_cases silent : frame.silent = true
    · have event : frame.event = .data [] := by simpa [AgwpeFrame.silent] using silent
      rw [List.filter_cons_of_neg (by simp [silent]), inductionHypothesis state holds]
      conv => rhs; rw [consume, event, unmoved.quiet state holds]
    · rw [List.filter_cons_of_pos (by simp [silent])]
      unfold consume
      cases stepped : step state (.ok frame.event) with
      | inl later => exact inductionHypothesis later (unmoved.keeps _ _ _ holds stepped)
      | inr value => rfl

/-- So a loop over events cannot tell frames without content apart. -/
theorem Hears.respects (hears : Hears around body step) {inv : σ → Prop}
    (unmoved : Unmoved step inv) (state : σ) (holds : inv state) :
    Respects around.exec Alike (loop body state) := by
  rintro one two result out ⟨history, first, second, delivers, delivers', same⟩ returns
  obtain ⟨value, rest, later, consumed, kept, returned⟩ := hears.consumes state one first delivers
  obtain ⟨value', rest', later', consumed', kept', returned'⟩ :=
    hears.consumes state two second delivers'
  obtain ⟨rfl, rfl⟩ := (returned _ _).mp returns
  have left := consume_loud unmoved state holds first
  have right := consume_loud unmoved state holds second
  rw [same, right, consumed, consumed'] at left
  obtain ⟨rfl, loudRest⟩ := Prod.mk.inj (Option.some.inj left)
  exact ⟨_, (returned' _ _).mpr ⟨rfl, rfl⟩, history, rest, rest', kept, kept', loudRest.symm⟩

end Loops

section Routines

variable (around : Around) (manager : ManagerId) (timeoutSecs : Nat)

/-- A received event in front of what is done with it. -/
theorem returns_recv {α : Type} {next : Except TransportError TransportEvent → Routine α}
    {air out : Air} {result : α} :
    Returns around.exec ((Program.ask (.recv manager timeoutSecs)).bind next) air result out ↔
      Returns around.exec (next air.transport.recv.1)
        { air with transport := air.transport.recv.2 } result out := by
  rw [returns_bind]
  simp only [returns_ask, Around.exec]
  constructor
  · rintro ⟨answer, env, executed, returned⟩
    split at executed
    · rename_i answered
      obtain rfl := Option.some.inj executed
      rw [← answered]
      exact returned
    · exact absurd executed (by simp)
  · exact fun returned => ⟨air.transport.recv.1, _, if_pos rfl, returned⟩

/-- Whether the caller has gone is always answered alike. -/
theorem returns_loadAbort {α : Type} {next : Bool → Routine α} {air out : Air} {result : α} :
    Returns around.exec ((Program.ask (.loadAbort manager)).bind next) air result out ↔
      Returns around.exec (next around.aborted) air result out := by
  rw [returns_bind]
  simp only [returns_ask, Around.exec]
  constructor
  · rintro ⟨answer, env, executed, returned⟩
    split at executed
    · rename_i answered
      obtain rfl := Option.some.inj executed
      rw [← answered]
      exact returned
    · exact absurd executed (by simp)
  · exact fun returned => ⟨around.aborted, _, if_pos rfl, returned⟩

/-- Whatever is not about frames is answered alike. -/
theorem respects_other (op : Op) (other : ∀ manager timeoutSecs, op ≠ .recv manager timeoutSecs) :
    Respects around.exec Alike (Program.ask op) := by
  apply respects_ask
  rintro one two answer out ⟨history, heard⟩ executed
  unfold Around.exec at executed ⊢
  split at executed
  · exact absurd rfl (other _ _)
  · split at executed
    · rename_i answered
      obtain rfl := Option.some.inj executed
      exact ⟨two, if_pos answered, history, heard⟩
    · exact absurd executed (by simp)
  · split at executed
    · rename_i allowed
      obtain rfl := Option.some.inj executed
      rw [history] at allowed
      exact ⟨_, if_pos allowed, by rw [history], heard⟩
    · exact absurd executed (by simp)

/-- Sending goes the same way from alike states. -/
theorem respects_sendBytes (purpose : Purpose) (data : Bytes) :
    Respects around.exec Alike (sendBytes manager purpose data).run :=
  (respects_other around (.send manager purpose data) (by simp)).bind fun _ _ _ _ => respects_done _

/-- No reading is without content until the text is found. -/
theorem awaitStep_unmoved (found : Text → Bool) : Unmoved (awaitStep found) fun received =>
    found received = false ∧ Utf8.byteLength received ≤ maxHandshakeText where
  quiet := by
    rintro received ⟨missing, fits⟩
    have none : Utf8.lossy [] = [] := by decide
    have empty : Utf8.byteLength [] = 0 := by decide
    simp only [awaitStep, collectText, none, empty, Nat.add_zero, List.append_nil, missing,
      Nat.not_lt.mpr fits, if_false, Bool.false_eq_true]
  keeps := by
    rintro received answer later _ stepped
    cases answer with
    | error err => exact absurd stepped (by simp [awaitStep])
    | ok event =>
      cases event with
      | disconnected reason => exact absurd stepped (by simp [awaitStep, collectText])
      | data bytes =>
        simp only [awaitStep, collectText] at stepped
        split at stepped
        · exact absurd stepped (by simp)
        · rename_i fits
          split at stepped
          · exact absurd stepped (by simp)
          · rename_i missing
            obtain rfl := Sum.inl.inj stepped
            refine ⟨Bool.eq_false_iff.mpr missing, ?_⟩
            rw [Utf8.byteLength, Utf8.encode_append, List.length_append]
            exact Nat.not_lt.mp fits

/-- A round of waiting for a text hears one event and goes on by it. -/
theorem awaitText_hears (found : Text → Bool) : Hears around (fun received => do
    let answer ← Client.ask (.recv manager 30)
    return awaitStep found received answer) (awaitStep found) where
  round := by
    intro received air result out
    show Returns around.exec ((Program.ask (.recv manager 30)).bind _) air result out ↔ _
    rw [returns_recv]
    exact returns_done
  stops := fun received => ⟨_, rfl⟩

/-- Waiting for a text that is not found in nothing goes the same way. -/
theorem respects_awaitText {found : Text → Bool} (missing : found [] = false) :
    Respects around.exec Alike (awaitText manager found).run := by
  rw [awaitText_run]
  exact (awaitText_hears around manager found).respects (awaitStep_unmoved found) []
    ⟨missing, by decide⟩

/-- Reading the configuration goes the same way. -/
theorem respects_readConfig :
    Respects around.exec Alike (ExceptT.lift readConfig : Attempt AppConfig).run :=
  respects_lift (respects_other around .readConfig (by simp))

/-- The handshake goes the same way up to the disclaimer. -/
theorem respects_receiveDisclaimer (localCallsign : Text) :
    Respects around.exec Alike (receiveDisclaimer manager localCallsign).run := by
  apply respects_attempt (respects_readConfig around)
  intro _ config _ _
  apply respects_attempt
  · cases config.skipBpqApp with
    | true => exact respects_done _
    | false =>
      exact respects_attempt (respects_readConfig around) fun _ _ _ _ =>
        respects_sendBytes around manager _ _
  intro _ _ _ _
  apply respects_attempt
  · exact respects_attempt (respects_awaitText around manager (by decide)) fun _ _ _ _ =>
      respects_sendBytes around manager _ _
  · exact fun _ _ _ _ => respects_awaitText around manager (by decide)

/-- Asking the operator goes the same way. -/
theorem respects_askOperator (receivedText : Text) :
    Respects around.exec Alike (askOperator receivedText).run := by
  apply respects_attempt (respects_lift (respects_other around (.parkConsent receivedText) (by simp)))
  intro _ consent _ _
  apply respects_attempt
  · apply (respects_other around (.awaitConsent consent) (by simp)).bind
    intro _ waited _ _
    cases waited with
    | decided accepted => exact respects_done _
    | senderDropped => exact respects_done _
    | timedOut =>
      exact (respects_other around .withdrawConsent (by simp)).bind fun _ _ _ _ => respects_done _
  · intro _ accepted _ _
    cases accepted <;> exact respects_done _

/-- The whole handshake goes the same way. -/
theorem respects_handshake (localCallsign : Text) :
    Respects around.exec Alike (performBpqHandshake manager localCallsign).run := by
  apply respects_attempt (respects_receiveDisclaimer around manager localCallsign)
  intro _ receivedText _ _
  apply respects_attempt (respects_askOperator around receivedText)
  exact fun _ _ _ _ => respects_sendBytes around manager _ _

/-- Why a request without an answer is given up. -/
def noResponse (timeoutSecs : Nat) : Text :=
  "no response after ".toList ++ Decimal.printNat timeoutSecs ++ "s".toList

/-- What a round of the response loop makes of its event, while the operator does not
disconnect. -/
def receiveStep (reception : Reception) : Except TransportError TransportEvent → Reception ⊕ Reply
  | .error .timeout => .inr (.error (.sessionDied (noResponse timeoutSecs)))
  | .error err => .inr (.error (transportErrToAgwpe err))
  | .ok (.disconnected reason) => .inr (.error (.sessionDied reason))
  | .ok (.data bytes) => reception.step bytes

variable {around}

/-- A round of receiving a response hears one event and goes on by it. -/
theorem receiveEvent_hears (running : around.aborted = false) :
    Hears around (receiveEvent manager timeoutSecs) (receiveStep timeoutSecs) where
  round := by
    intro reception air result out
    show Returns around.exec ((Program.ask (.recv manager timeoutSecs)).bind _) air result out ↔ _
    rw [returns_recv]
    generalize air.transport.recv = received
    obtain ⟨answer, later⟩ := received
    cases answer with
    | error err => cases err <;> exact returns_done
    | ok event =>
      cases event with
      | disconnected reason => exact returns_done
      | data bytes =>
        simp only [receiveStep, Reception.step]
        cases reception.accept bytes with
        | error err => exact returns_done
        | ok grown =>
          show Returns around.exec ((Program.ask (.loadAbort manager)).bind _) _ result out ↔ _
          rw [returns_loadAbort, running]
          exact returns_done
  stops := fun reception => ⟨_, rfl⟩

/-- What was received so far decides nothing. -/
def Undecided (reception : Reception) : Prop :=
  ∃ data, reception = .after data ∧ judge data = .inl (.after data)

/-- An empty event does not move a reception that is undecided. -/
theorem receiveStep_unmoved : Unmoved (receiveStep timeoutSecs) Undecided where
  quiet := by
    rintro _ ⟨data, rfl, undecided⟩
    rw [receiveStep, step_after, List.append_nil, undecided]
  keeps := by
    rintro _ answer later ⟨data, rfl, _⟩ stepped
    cases answer with
    | error err => cases err <;> exact absurd stepped (by simp [receiveStep])
    | ok event =>
      cases event with
      | disconnected reason => exact absurd stepped (by simp [receiveStep])
      | data bytes =>
        rw [receiveStep, step_after] at stepped
        obtain rfl := judge_inl _ _ stepped
        exact ⟨data ++ bytes, rfl, stepped⟩

/-- A reception that has begun is undecided. -/
theorem undecided_empty : Undecided Reception.empty := ⟨[], by decide, by decide⟩

variable (around) in
/-- A request goes the same way. -/
theorem respects_request (data : Bytes) :
    Respects around.exec Alike (handleSendRequest manager timeoutSecs data).run := by
  apply respects_attempt
  · exact (respects_other around (.loadAbort manager) (by simp)).bind fun _ _ _ _ => respects_done _
  intro air _ middle checked
  have running : around.aborted = false := by
    change Returns around.exec ((Program.ask (.loadAbort manager)).bind _) air _ middle at checked
    rw [returns_loadAbort] at checked
    have bailed := (returns_done.mp checked).1
    cases aborted : around.aborted with
    | false => rfl
    | true => exact absurd bailed (by simp [aborted])
  apply respects_attempt (respects_sendBytes around manager _ _)
  intro _ _ _ _
  exact (receiveEvent_hears manager timeoutSecs running).respects (receiveStep_unmoved timeoutSecs)
    _ undecided_empty

end Routines

section Sessions

/-- A run of the program on this transport returns the result and has done this. -/
def Yields {α : Type} (around : Around) (program : Routine α) (t : AgwpeTransport) (result : α)
    (history : List (Sigma Answer)) : Prop :=
  ∃ later, Returns around.exec program ⟨t, []⟩ result ⟨later, history⟩

/-- In a session of this configuration, frames of others that may be heard make no
difference to any result of a request or a handshake. -/
def OnlyPeerHeard (config : SessionConfig) (heard : AgwpeFrame → Prop) : Prop :=
  ∀ (around : Around) (one two : AgwpeTransport) (first second : List AgwpeFrame),
    (∀ frame ∈ first ++ second, fromPeer config frame = false → heard frame) →
    one.Delivers first → two.Delivers second →
    first.filter (fromPeer config) = second.filter (fromPeer config) →
    (∀ manager timeoutSecs data result history,
      Yields around (handleSendRequest manager timeoutSecs data).run (one.openSession config)
          result history ↔
        Yields around (handleSendRequest manager timeoutSecs data).run (two.openSession config)
          result history) ∧
    ∀ manager result history,
      Yields around (performBpqHandshake manager config.localCallsign).run (one.openSession config)
          result history ↔
        Yields around (performBpqHandshake manager config.localCallsign).run (two.openSession config)
          result history

/-- A program that respects what is heard yields the same wherever the same is heard. -/
theorem yields_alike {α : Type} {around : Around} {program : Routine α}
    (respects : Respects around.exec Alike program) {one two : AgwpeTransport}
    (alike : Alike ⟨one, []⟩ ⟨two, []⟩) (result : α) (history : List (Sigma Answer)) :
    Yields around program one result history ↔ Yields around program two result history := by
  have direct : ∀ one two : AgwpeTransport, Alike ⟨one, []⟩ ⟨two, []⟩ →
      Yields around program one result history → Yields around program two result history := by
    rintro one two alike ⟨later, returns⟩
    obtain ⟨⟨later', history'⟩, returns', same, _⟩ := respects _ _ _ _ alike returns
    obtain rfl : history = history' := same
    exact ⟨later', returns'⟩
  exact ⟨direct one two alike, direct two one alike.symm⟩

/-- The operator does not disconnect, and every write succeeds. -/
def undisturbed : Around where
  aborted := false
  allows := fun _ op answer =>
    match op, answer with
    | .send _ _ _, .ok () => true
    | _, _ => false

/-- A request that is not disturbed returns what its loop makes of the frames. -/
theorem yields_request {t : AgwpeTransport} {frames rest : List AgwpeFrame} {value : Reply}
    {timeoutSecs : Nat} (delivers : t.Delivers frames)
    (consumed : consume (receiveStep timeoutSecs) Reception.empty frames = some (value, rest))
    (manager : ManagerId) (data : Bytes) (result : Reply) (history : List (Sigma Answer)) :
    Yields undisturbed (handleSendRequest manager timeoutSecs data).run t result history ↔
      result = value ∧ history = [⟨.send manager .request data, .ok ()⟩] := by
  have hears : Hears undisturbed (receiveEvent manager timeoutSecs) (receiveStep timeoutSecs) :=
    receiveEvent_hears manager timeoutSecs rfl
  let sent : Air := ⟨t, [⟨.send manager .request data, .ok ()⟩]⟩
  obtain ⟨value', rest', later, consumed', _, returned⟩ :=
    hears.consumes Reception.empty sent frames delivers
  obtain ⟨rfl, rfl⟩ := Prod.mk.inj (Option.some.inj (consumed.symm.trans consumed'))
  have bailed : ∀ air result out,
      Returns undisturbed.exec (bailIfAborted manager).run air result out ↔
        result = .ok () ∧ out = air := by
    intro air result out
    show Returns undisturbed.exec ((Program.ask (.loadAbort manager)).bind _) air result out ↔ _
    rw [returns_loadAbort]
    exact returns_done
  have wrote : ∀ result out, Returns undisturbed.exec (sendBytes manager .request data).run ⟨t, []⟩
      result out ↔ result = .ok () ∧ out = sent := by
    intro result out
    show Returns undisturbed.exec ((Program.ask (.send manager .request data)).bind _) _ result out ↔ _
    rw [returns_bind]
    simp only [returns_ask]
    constructor
    · rintro ⟨answer, env, executed, returned⟩
      cases answer with
      | error err => exact absurd executed (by simp [Around.exec, undisturbed])
      | ok value =>
        obtain rfl := Option.some.inj executed
        exact returns_done.mp returned
    · rintro ⟨rfl, rfl⟩
      exact ⟨.ok (), sent, rfl, .done _ _⟩
  constructor
  · rintro ⟨later', returns⟩
    obtain ⟨_, _, bail, rest⟩ := returns_attempt.mp returns
    obtain ⟨rfl, rfl⟩ := (bailed _ _ _).mp bail
    obtain ⟨_, _, write, rest⟩ := returns_attempt.mp rest
    obtain ⟨rfl, rfl⟩ := (wrote _ _).mp write
    obtain ⟨rfl, out⟩ := (returned _ _).mp rest
    exact ⟨rfl, congrArg Air.history out⟩
  · rintro ⟨rfl, rfl⟩
    refine ⟨later, returns_attempt.mpr ⟨.ok (), _, (bailed _ _ _).mpr ⟨rfl, rfl⟩, ?_⟩⟩
    refine returns_attempt.mpr ⟨.ok (), _, (wrote _ _).mpr ⟨rfl, rfl⟩, ?_⟩
    exact (returned _ _).mpr ⟨rfl, rfl⟩

/-- The report that nothing came is not empty. -/
theorem noResponse_head (timeoutSecs : Nat) : (noResponse timeoutSecs).head? = some 'n' := by
  have first : "no response after ".toList.head? = some 'n' := by decide
  unfold noResponse
  simp only [List.append_assoc, List.head?_append, first, Option.some_or]

/-- What is decided about bytes is not that no answer came. -/
theorem judge_answered {data : Bytes} {value : Reply} (decided : judge data = .inr value)
    (timeoutSecs : Nat) : value ≠ .error (.sessionDied (noResponse timeoutSecs)) := by
  have died : ∀ reason : Text, reason.head? ≠ some 'n' →
      (.error (.sessionDied reason) : Reply) ≠ .error (.sessionDied (noResponse timeoutSecs)) := by
    intro reason head same
    apply head
    rw [AgwpeError.sessionDied.inj (Except.error.inj same)]
    exact noResponse_head timeoutSecs
  unfold judge at decided
  split at decided
  · rw [← Sum.inr.inj decided]
    exact fun same => absurd (Except.error.inj same) (by simp)
  · split at decided
    · rw [← Sum.inr.inj decided]
      exact died _ (by decide)
    · split at decided
      · rw [← Sum.inr.inj decided]
        apply died
        rw [List.head?_append]
        have first : "malformed response header: ".toList.head? = some 'm' := by decide
        rw [first, Option.some_or]
        decide
      · split at decided
        · rw [← Sum.inr.inj decided]
          apply died
          unfold malformedResponse
          simp only [List.append_assoc]
          rw [List.head?_append]
          have first : "malformed response (".toList.head? = some 'm' := by decide
          rw [first, Option.some_or]
          decide
        · exact absurd decided (by simp)
      · split at decided
        · rw [← Sum.inr.inj decided]
          simp
        · exact absurd decided (by simp)

/-- The same content over and over is answered in the end: the response buffer is bounded. -/
theorem consume_flood {frame : AgwpeFrame} {bytes : Bytes} (content : frame.event = .data bytes)
    (some' : bytes ≠ []) (timeoutSecs count : Nat) (data : Bytes)
    (undecided : judge data = .inl (.after data)) (enough : maxResponseSize < data.length + count) :
    ∃ value rest, consume (receiveStep timeoutSecs) (.after data) (List.replicate count frame) =
      some (value, rest) ∧ value ≠ .error (.sessionDied (noResponse timeoutSecs)) := by
  have nonempty := List.length_pos_iff.mpr some'
  induction count generalizing data with
  | zero =>
    unfold judge at undecided
    rw [if_pos (by omega)] at undecided
    exact absurd undecided (by simp)
  | succ count inductionHypothesis =>
    rw [List.replicate_succ, consume, content, receiveStep, step_after]
    cases decided : judge (data ++ bytes) with
    | inl next =>
      obtain rfl := judge_inl _ _ decided
      apply inductionHypothesis (data ++ bytes) decided
      rw [List.length_append]
      omega
    | inr value => exact ⟨value, _, rfl, judge_answered decided timeoutSecs⟩

/-- A frame with content can change the result of a request that is not answered. -/
theorem content_counts {frame : AgwpeFrame} (content : frame.silent = false) :
    ∃ count timeoutSecs value rest, consume (receiveStep timeoutSecs) Reception.empty
        (List.replicate count frame) = some (value, rest) ∧
      value ≠ .error (.sessionDied (noResponse timeoutSecs)) := by
  have loud : frame.event ≠ .data [] := by simpa [AgwpeFrame.silent] using content
  cases event : frame.event with
  | disconnected reason =>
    -- One of two timeouts has another text than the reason of the frame.
    have texts : noResponse 0 ≠ noResponse 1 := by decide
    have other : ∃ timeoutSecs, reason ≠ noResponse timeoutSecs := by
      by_cases same : reason = noResponse 0
      · exact ⟨1, same ▸ texts⟩
      · exact ⟨0, same⟩
    obtain ⟨timeoutSecs, different⟩ := other
    refine ⟨1, timeoutSecs, .error (.sessionDied reason), [], ?_, ?_⟩
    · simp [List.replicate, consume, event, receiveStep]
    · intro same
      exact different (AgwpeError.sessionDied.inj (Except.error.inj same))
  | data bytes =>
    obtain ⟨data, empty, undecided⟩ := undecided_empty
    obtain ⟨value, rest, consumed, answered⟩ := consume_flood event (by
      rintro rfl
      exact loud event) 0 (maxResponseSize + 1) data undecided (by omega)
    exact ⟨maxResponseSize + 1, 0, value, rest, by rw [empty, consumed], answered⟩

/-- A transport whose socket gives these bytes and then falls silent. -/
def silentAfter (bytes : Bytes) : AgwpeTransport := ⟨some ⟨bytes, [], 0⟩, [], [], [], 0⟩

/-- A transport delivers the frames whose bytes come to it, and then nothing. -/
theorem silentAfter_delivers {raws : List Bytes} {frames : List AgwpeFrame}
    (carried : List.Forall₂ Carried raws frames) : (silentAfter raws.flatten).Delivers frames :=
  ⟨⟨_, rfl, rfl⟩, raws, carried, _, rfl, rfl, by simp [silentAfter, Reader.pending, arriving]⟩

/-- A frame that is carried is carried as often as one likes. -/
theorem carried_replicate {raw : Bytes} {frame : AgwpeFrame} (carried : Carried raw frame)
    (count : Nat) : List.Forall₂ Carried (List.replicate count raw) (List.replicate count frame) := by
  induction count with
  | zero => exact .nil
  | succ count inductionHypothesis => exact .cons carried inductionHypothesis

/-- Every frame that is delivered is carried by some bytes. -/
theorem delivered_carried {raws : List Bytes} {frames : List AgwpeFrame}
    (carried : List.Forall₂ Carried raws frames) : ∀ frame ∈ frames, ∃ raw, Carried raw frame := by
  induction carried with
  | nil => simp
  | @cons raw frame raws frames first _ inductionHypothesis =>
    intro other member
    rcases List.mem_cons.mp member with rfl | later
    · exact ⟨raw, first⟩
    · exact inductionHypothesis other later

/-- Where others are without content, the frames with content are those of the peer. -/
theorem loud_peer {config : SessionConfig} {raws : List Bytes} {frames : List AgwpeFrame}
    (carried : List.Forall₂ Carried raws frames)
    (others : ∀ raw, ∀ frame ∈ frames, Carried raw frame → fromPeer config frame = false →
      frame.silent = true) : loud (frames.filter (fromPeer config)) = loud frames := by
  unfold loud
  rw [List.filter_filter]
  apply List.filter_congr
  intro frame member
  cases peer : fromPeer config frame with
  | true => simp
  | false =>
    obtain ⟨raw, carries⟩ := delivered_carried carried frame member
    simp [others raw frame member carries peer]

/-- A frame of another station that has content cannot be among those that are heard
without making a difference. -/
theorem stranger_counts {config : SessionConfig} {heard : AgwpeFrame → Prop}
    (isolated : OnlyPeerHeard config heard) {raw : Bytes} {frame : AgwpeFrame}
    (carried : Carried raw frame) (hears : heard frame) (stranger : fromPeer config frame = false) :
    frame.silent = true := by
  by_contra content
  obtain ⟨count, timeoutSecs, value, rest, consumed, answered⟩ :=
    content_counts (Bool.eq_false_iff.mpr content)
  have flood := carried_replicate carried count
  have quiet : (silentAfter []).Delivers [] := silentAfter_delivers .nil
  have same := (isolated undisturbed (silentAfter _) (silentAfter []) _ [] ?_
    (silentAfter_delivers flood) quiet ?_).1 0 timeoutSecs [] value [⟨.send 0 .request [], .ok ()⟩]
  · have unanswered : consume (receiveStep timeoutSecs) Reception.empty [] =
        some (.error (.sessionDied (noResponse timeoutSecs)), []) := rfl
    rw [yields_request (delivers_openSession config (silentAfter_delivers flood)) consumed,
      yields_request (delivers_openSession config quiet) unanswered] at same
    exact answered (same.mp ⟨rfl, rfl⟩).1
  · intro other member _
    rw [List.append_nil] at member
    rw [List.eq_of_mem_replicate member]
    exact hears
  · rw [List.filter_replicate_of_neg (by simp [stranger])]
    rfl

/-- Only the connected station is heard if and only if all that is heard of others is
without content.

A frame that is heard of a stranger may be left out or put in, so it has to be silent.
Conversely, runs that differ in silent frames only are alike step by step, through the handshake
and every request. -/
theorem only_peer_heard_iff (config : SessionConfig) (heard : AgwpeFrame → Prop) :
    OnlyPeerHeard config heard ↔ ∀ raw frame, Carried raw frame → heard frame →
      fromPeer config frame = false → frame.silent = true := by
  constructor
  · exact fun isolated raw frame carried hears stranger =>
      stranger_counts isolated carried hears stranger
  · intro others around one two first second strangers delivers delivers' same
    have alike : Alike ⟨one.openSession config, []⟩ ⟨two.openSession config, []⟩ := by
      refine ⟨rfl, first, second, delivers_openSession config delivers,
        delivers_openSession config delivers', ?_⟩
      obtain ⟨_, _, carried, _⟩ := delivers
      obtain ⟨_, _, carried', _⟩ := delivers'
      have one' := loud_peer carried fun raw frame member carries stranger => others raw frame
        carries (strangers frame (List.mem_append_left _ member) stranger) stranger
      have two' := loud_peer carried' fun raw frame member carries stranger => others raw frame
        carries (strangers frame (List.mem_append_right _ member) stranger) stranger
      rw [← one', same, two']
    constructor
    · intro manager timeoutSecs data
      exact yields_alike (respects_request around manager timeoutSecs data) alike
    · intro manager
      exact yields_alike (respects_handshake around manager config.localCallsign) alike

/-- A session from A to B on port 1. -/
def sessionConfig : SessionConfig := ⟨['A'], ['B'], [], true, 1⟩

/-- The whole answer of B in one frame. -/
def answerFrame : AgwpeFrame :=
  .new 1 .sendData ['B'] ['A'] (Response.encode ⟨.ok, ['-'], 60, [1, 2, 3]⟩)

/-- Another station disconnects from A on another port. -/
def strangerFrame : AgwpeFrame := .new 0 .disconnect ['X'] ['A'] []

/-- The disconnect of another station ends the session before the answer is read. -/
theorem stranger_ends_session : ¬ ∀ config, OnlyPeerHeard config fun _ => True := by
  intro every
  have answer : Carried answerFrame.encode answerFrame :=
    ⟨⟨by decide, by decide, by decide⟩, by decide⟩
  have stranger : Carried strangerFrame.encode strangerFrame :=
    ⟨⟨by decide, by decide, by decide⟩, by decide⟩
  have alone := silentAfter_delivers (.cons answer .nil)
  have behind := silentAfter_delivers (.cons stranger (.cons answer .nil))
  have read : consume (receiveStep 30) Reception.empty [answerFrame] =
      some (.ok answerFrame.data, []) := by decide
  have ended : consume (receiveStep 30) Reception.empty [strangerFrame, answerFrame] =
      some (.error (.sessionDied []), [answerFrame]) := by decide
  have same := (every sessionConfig undisturbed _ _ _ _ (fun _ _ _ => trivial) behind alone
    (by decide)).1 0 30 [] (.ok answerFrame.data) [⟨.send 0 .request [], .ok ()⟩]
  rw [yields_request (delivers_openSession sessionConfig behind) ended,
    yields_request (delivers_openSession sessionConfig alone) read] at same
  exact absurd (same.mpr ⟨rfl, rfl⟩).1 (by simp)

end Sessions

end PacketBrowser.Agwpe
