import PacketBrowser.Client.Proxy
import PacketBrowser.Protocol.Framing

/-!
# Reading a response chunk by chunk

The reading loop re-examines the whole buffer after every chunk. What it decides
depends only on the bytes received so far, not on how they were cut: the header it
keeps from an earlier chunk is the one the whole buffer has. `judge` is that
decision as a function of the bytes, and the loop ends at the first chunk boundary
where `judge` ends.

`delivery` is the environment of a request whose bytes are all delivered in time
while the operator does not disconnect.
-/

namespace PacketBrowser.Client

open Protocol Foundation

/-- The reading state after bytes that decided nothing. -/
def Reception.after (data : Bytes) : Reception :=
  match decodeHeader data with
  | .ok (some header) => ⟨data, some header.payloadLen, header.headerEnd⟩
  | _ => ⟨data, none, 0⟩

/-- A complete frame: a header, and at least the announced number of bytes behind it. -/
def complete (header : Header) (data : Bytes) : Prop :=
  header.headerEnd + header.payloadLen.toNat ≤ data.length

instance (header : Header) (data : Bytes) : Decidable (complete header data) :=
  inferInstanceAs (Decidable (_ ≤ _))

/-- What is decided about all bytes received so far. -/
def judge (data : Bytes) : Reception ⊕ Reply :=
  if data.length > maxResponseSize then
    .inr (.error (.invalidFrame ("Response exceeded maximum size of ".toList ++
      Decimal.printNat maxResponseSize ++ " bytes".toList)))
  else if isSessionDeadPayload data then
    .inr (.error (.sessionDied "remote sent AX.25 disconnect notification".toList))
  else match decodeHeader data with
    | .error err => .inr (.error (.sessionDied ("malformed response header: ".toList ++ err.debug)))
    | .ok none =>
      if ¬ Search.occurs Response.magic data ∧ data.length > maxNoise then
        .inr (.error (.sessionDied (malformedResponse data)))
      else .inl (.after data)
    | .ok (some header) => if complete header data then .inr (.ok data) else .inl (.after data)

/-- One chunk while the operator does not disconnect. -/
def Reception.step (reception : Reception) (bytes : Bytes) : Reception ⊕ Reply :=
  match reception.accept bytes with
  | .error err => .inr (.error err)
  | .ok grown => grown.examine

/-- The bytes received are the bytes that came. -/
@[simp] theorem after_data (data : Bytes) : (Reception.after data).responseData = data := by
  unfold Reception.after
  split <;> rfl

/-- The header kept from earlier bytes is found again, or none was kept. -/
theorem findHeader_after (data bytes : Bytes) (header : Header)
    (found : decodeHeader (data ++ bytes) = .ok (some header)) :
    ({ Reception.after data with responseData := data ++ bytes } : Reception).findHeader =
      .ok (.after (data ++ bytes)) := by
  cases earlier : decodeHeader data with
  | error err =>
    rw [decodeHeader_append data bytes (by simp [earlier]), earlier] at found
    exact absurd found (by simp)
  | ok known =>
    cases known with
    | none => simp [Reception.after, earlier, Reception.findHeader, found]
    | some kept =>
      rw [decodeHeader_append data bytes (by simp [earlier]), earlier] at found
      have same : decodeHeader (data ++ bytes) = .ok (some kept) := by
        rw [decodeHeader_append data bytes (by simp [earlier]), earlier]
      simp [Reception.after, earlier, same, Reception.findHeader]

/-- Without a header yet, none was kept. -/
theorem after_undecided (data bytes : Bytes)
    (undecided : ∀ header, decodeHeader (data ++ bytes) ≠ .ok (some header)) :
    ({ Reception.after data with responseData := data ++ bytes } : Reception) =
      ⟨data ++ bytes, none, 0⟩ := by
  cases earlier : decodeHeader data with
  | error err => simp [Reception.after, earlier]
  | ok known =>
    cases known with
    | none => simp [Reception.after, earlier]
    | some kept =>
      refine absurd ?_ (undecided kept)
      rw [decodeHeader_append data bytes (by simp [earlier]), earlier]

/-- The loop decides by the bytes alone. The cases are the tests in the order in
which the loop makes them. -/
theorem step_after (data bytes : Bytes) :
    (Reception.after data).step bytes = judge (data ++ bytes) := by
  unfold Reception.step Reception.accept judge
  simp only [after_data, List.length_append]
  by_cases large : data.length + bytes.length > maxResponseSize
  · simp [large]
  by_cases dead : isSessionDeadPayload (data ++ bytes) = true
  · simp [large, dead]
  simp only [large, if_false, dead, Bool.false_eq_true]
  cases found : decodeHeader (data ++ bytes) with
  | error err =>
    rw [after_undecided data bytes (by simp [found])]
    simp [Reception.examine, Reception.findHeader, found]
  | ok known =>
    cases known with
    | none =>
      rw [after_undecided data bytes (by simp [found])]
      by_cases noise : ¬ Search.occurs Response.magic (data ++ bytes) ∧
          (data ++ bytes).length > maxNoise
      · have noise' := noise
        rw [List.length_append] at noise'
        simp only [Reception.examine, Reception.findHeader, found, if_pos noise, if_pos noise']
      · have noise' := noise
        rw [List.length_append] at noise'
        simp only [Reception.examine, Reception.findHeader, found, if_neg noise, if_neg noise',
          Reception.after]
    | some header =>
      unfold Reception.examine
      rw [findHeader_after data bytes header found]
      simp only [Reception.after, found, complete, ge_iff_le]

/-- The loop over all chunks: the first result, and the chunks left. -/
def Reception.receive (reception : Reception) : List Bytes → Option (Reply × List Bytes)
  | [] => none
  | chunk :: later =>
    match reception.step chunk with
    | .inl next => next.receive later
    | .inr result => some (result, later)

/-- What goes on is the state after the bytes. -/
theorem judge_inl (data : Bytes) (next : Reception) (goes : judge data = .inl next) :
    next = .after data := by
  unfold judge at goes
  split at goes
  · exact absurd goes (by simp)
  · split at goes
    · exact absurd goes (by simp)
    · split at goes
      · exact absurd goes (by simp)
      · split at goes
        · exact absurd goes (by simp)
        · exact (Sum.inl.inj goes).symm
      · split at goes
        · exact absurd goes (by simp)
        · exact (Sum.inl.inj goes).symm

/-- Every way of cutting the rest of a stream: either the loop consumes all of it
without a result, and the whole stream decides nothing, or it ends with what some
prefix of the stream decides. Induction is on the chunks. -/
theorem receive_prefix (data : Bytes) (chunks : List Bytes) :
    ((Reception.after data).receive chunks = none ∧
        (chunks = [] ∨ ∃ next, judge (data ++ chunks.flatten) = .inl next)) ∨
    ∃ result later read, (Reception.after data).receive chunks = some (result, later) ∧
      judge ((data ++ chunks.flatten).take read) = .inr result := by
  induction chunks generalizing data with
  | nil => exact Or.inl ⟨rfl, Or.inl rfl⟩
  | cons chunk later inductionHypothesis =>
    have stream : data ++ (chunk :: later).flatten = (data ++ chunk) ++ later.flatten := by simp
    cases decided : judge (data ++ chunk) with
    | inr result =>
      right
      refine ⟨result, later, (data ++ chunk).length, ?_, ?_⟩
      · rw [Reception.receive, step_after, decided]
      · rw [stream, List.take_left, decided]
    | inl next =>
      obtain rfl := judge_inl _ _ decided
      have goes : (Reception.after data).receive (chunk :: later) =
          (Reception.after (data ++ chunk)).receive later := by
        rw [Reception.receive, step_after, decided]
      rw [goes, stream]
      rcases inductionHypothesis (data ++ chunk) with ⟨ends, none | whole⟩ | found
      · subst none
        exact Or.inl ⟨ends, Or.inr ⟨_, by simpa using decided⟩⟩
      · exact Or.inl ⟨ends, Or.inr whole⟩
      · exact Or.inr found

/-- The environment of one request: every write succeeds, the chunks arrive one by
one before their deadlines, and the abort flag stays clear. -/
def delivery : (op : Op) → Answer op → List Bytes → Option (List Bytes)
  | .send _ _ _, answer, chunks => if answer = .ok () then some chunks else none
  | .loadAbort _, answer, chunks => if answer = false then some chunks else none
  | .recv _ _, answer, chunk :: later => if answer = .ok (.data chunk) then some later else none
  | _, _, _ => none

section Delivered

variable (manager : ManagerId) (timeoutSecs : Nat)

/-- One round of the loop reads one chunk. -/
theorem receiveEvent_returns (reception : Reception) (chunks later : List Bytes)
    (next : Reception ⊕ Reply) :
    Program.Returns delivery (receiveEvent manager timeoutSecs reception) chunks next later ↔
      ∃ chunk, chunks = chunk :: later ∧ reception.step chunk = next := by
  have round : receiveEvent manager timeoutSecs reception =
      (ask (.recv manager timeoutSecs)).bind _ := rfl
  rw [round, Program.returns_bind]
  simp only [Program.returns_ask]
  constructor
  · rintro ⟨answer, middle, received, rest⟩
    cases chunks with
    | nil => simp [delivery] at received
    | cons chunk remaining =>
      by_cases same : answer = .ok (.data chunk)
      · simp only [delivery, same, if_true, Option.some.injEq] at received
        subst same received
        cases accepted : reception.accept chunk with
        | error err =>
          simp only [accepted] at rest
          obtain ⟨rfl, rfl⟩ := Program.returns_done.mp rest
          exact ⟨chunk, rfl, by simp [Reception.step, accepted]⟩
        | ok grown =>
          simp only [accepted] at rest
          obtain ⟨aborted, env, loaded, ended⟩ := Program.returns_bind.mp rest
          rw [isAborted, Program.returns_ask] at loaded
          by_cases clear : aborted = false
          · subst clear
            simp only [delivery, if_true, Option.some.injEq] at loaded
            subst loaded
            obtain ⟨rfl, rfl⟩ := Program.returns_done.mp ended
            exact ⟨chunk, rfl, by simp [Reception.step, accepted]⟩
          · simp [delivery, clear] at loaded
      · simp [delivery, same] at received
  · rintro ⟨chunk, rfl, rfl⟩
    refine ⟨.ok (.data chunk), later, by simp [delivery], ?_⟩
    cases accepted : reception.accept chunk with
    | error err =>
      simp only [accepted, Reception.step]
      exact .done _ _
    | ok grown =>
      simp only [accepted, Reception.step]
      refine Program.returns_bind.mpr ⟨false, later, ?_, ?_⟩
      · rw [isAborted, Program.returns_ask]
        simp [delivery]
      · exact .done _ _

/-- The loop returns what `receive` computes. Induction is on the chunks, each round
consuming one. -/
theorem receiveResponse_returns (reception : Reception) (chunks later : List Bytes)
    (result : Reply) :
    Program.Returns delivery (Program.loop (receiveEvent manager timeoutSecs) reception) chunks
      result later ↔ reception.receive chunks = some (result, later) := by
  induction chunks generalizing reception with
  | nil =>
    unfold Program.loop
    rw [Program.returns_iterate]
    simp [receiveEvent_returns, Reception.receive]
  | cons chunk remaining inductionHypothesis =>
    have split : Program.Returns delivery (Program.loop (receiveEvent manager timeoutSecs) reception)
        (chunk :: remaining) result later ↔
        (∃ next, reception.step chunk = .inl next ∧ Program.Returns delivery
          (Program.loop (receiveEvent manager timeoutSecs) next) remaining result later) ∨
        reception.step chunk = .inr result ∧ later = remaining := by
      unfold Program.loop
      rw [Program.returns_iterate]
      simp only [receiveEvent_returns, List.cons.injEq, Program.returns_done]
      constructor
      · rintro (⟨next, middle, ⟨_, ⟨rfl, rfl⟩, stepped⟩, rest⟩ |
          ⟨ended, middle, ⟨_, ⟨rfl, rfl⟩, stepped⟩, rfl, rfl⟩)
        · exact Or.inl ⟨next, stepped, rest⟩
        · exact Or.inr ⟨stepped, rfl⟩
      · rintro (⟨next, stepped, rest⟩ | ⟨stepped, rfl⟩)
        · exact Or.inl ⟨next, remaining, ⟨chunk, ⟨rfl, rfl⟩, stepped⟩, rest⟩
        · exact Or.inr ⟨result, later, ⟨chunk, ⟨rfl, rfl⟩, stepped⟩, rfl, rfl⟩
    rw [split, Reception.receive]
    cases stepped : reception.step chunk with
    | inl next => simp [inductionHypothesis]
    | inr ended =>
      simp only [reduceCtorEq, false_and, exists_false, Sum.inr.injEq, false_or,
        Option.some.injEq, Prod.mk.injEq]
      exact and_congr_right fun _ => eq_comm

/-- Sending a request whose response is delivered: the write succeeds, and the loop
decides. -/
theorem handleSendRequest_returns (data : Bytes) (chunks later : List Bytes) (result : Reply) :
    Program.Returns delivery (handleSendRequest manager timeoutSecs data).run chunks result later ↔
      Reception.empty.receive chunks = some (result, later) := by
  have checked : ∀ answer env, Program.Returns delivery (bailIfAborted manager).run chunks answer env ↔
      answer = .ok () ∧ env = chunks := by
    intro answer env
    have form : (bailIfAborted manager).run = (isAborted manager).bind _ := rfl
    rw [form, Program.returns_bind]
    simp only [isAborted, Program.returns_ask]
    constructor
    · rintro ⟨aborted, middle, loaded, ended⟩
      by_cases clear : aborted = false
      · subst clear
        simp only [delivery, if_true, Option.some.injEq] at loaded
        subst loaded
        simpa using Program.returns_done.mp ended
      · simp [delivery, clear] at loaded
    · rintro ⟨rfl, rfl⟩
      exact ⟨false, env, by simp [delivery], .done _ _⟩
  have sent : ∀ answer env, Program.Returns delivery (sendBytes manager .request data).run chunks
      answer env ↔ answer = .ok () ∧ env = chunks := by
    intro answer env
    have form : (sendBytes manager .request data).run =
        (ask (.send manager .request data)).bind _ := rfl
    rw [form, Program.returns_bind]
    simp only [Program.returns_ask]
    constructor
    · rintro ⟨written, middle, wrote, ended⟩
      by_cases fine : written = .ok ()
      · subst fine
        simp only [delivery, if_true, Option.some.injEq] at wrote
        subst wrote
        simpa [mapErr] using Program.returns_done.mp ended
      · simp [delivery, fine] at wrote
    · rintro ⟨rfl, rfl⟩
      exact ⟨.ok (), env, by simp [delivery], .done _ _⟩
  rw [handleSendRequest, Program.returns_attempt]
  simp only [checked]
  constructor
  · rintro ⟨_, _, ⟨rfl, rfl⟩, continued⟩
    obtain ⟨_, _, written, received⟩ := Program.returns_attempt.mp continued
    obtain ⟨rfl, rfl⟩ := (sent _ _).mp written
    exact (receiveResponse_returns manager timeoutSecs _ _ _ _).mp received
  · intro received
    refine ⟨_, _, ⟨rfl, rfl⟩, Program.returns_attempt.mpr ⟨_, _, (sent _ _).mpr ⟨rfl, rfl⟩, ?_⟩⟩
    exact (receiveResponse_returns manager timeoutSecs _ _ _ _).mpr received

end Delivered

end PacketBrowser.Client
