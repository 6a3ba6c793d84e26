import PacketBrowser.Client.Reassembly

/-!
# When the cutting of a response matters

The loop tests for tear-down text, for the size limit and for missing magic before
it tests whether the frame is complete, and it makes all tests only at chunk
boundaries. A complete response whose chunk also brings tear-down text is therefore
lost, and returned if the chunk ends earlier. `Unambiguous` says which streams end
in the same way for every way of cutting them.
-/

namespace PacketBrowser.Client

open Protocol Foundation

/-- What the renderer reads from returned data: status, etag, maximal age and payload. -/
def decoded (data : Bytes) :
    Except Text (Status × Text × Int32 × Except ProtocolError Bytes) :=
  (openResponse data).map fun (header, base64Bytes) =>
    (header.status, header.etag, header.maxAge, decodePayload base64Bytes)

/-- Two endings agree: both calls still wait, both return the same decoded response,
or both fail with the same kind of error. -/
def SameEnding : Option Reply → Option Reply → Prop
  | none, none => True
  | some (.ok left), some (.ok right) => decoded left = decoded right
  | some (.error left), some (.error right) => left.ctorIdx = right.ctorIdx
  | _, _ => False

/-- How a request ends whose response bytes arrive in these chunks and then no more:
with a result, or still waiting. -/
def Ends (manager : ManagerId) (timeoutSecs : Nat) (request : Bytes) (chunks : List Bytes) :
    Option Reply → Prop
  | some result => ∃ later, Program.Returns delivery
      (handleSendRequest manager timeoutSecs request).run chunks result later
  | none => ∀ result later, ¬ Program.Returns delivery
      (handleSendRequest manager timeoutSecs request).run chunks result later

/-- Any two ways of cutting the stream end the request in the same way. -/
def CuttingIrrelevant (manager : ManagerId) (timeoutSecs : Nat) (request stream : Bytes) : Prop :=
  ∀ left right : List Bytes, left.flatten = stream → right.flatten = stream →
    ∀ one two, Ends manager timeoutSecs request left one →
      Ends manager timeoutSecs request right two → SameEnding one two

/-- The data holds a complete frame. -/
def Finished (data : Bytes) : Prop :=
  ∃ header, decodeHeader data = .ok (some header) ∧ complete header data

/-- The data holds a magic that no header follows. -/
def Malformed (data : Bytes) : Prop := ∃ err, decodeHeader data = .error err

/-- Streams whose ending does not depend on the cutting. Within the size limit, no
tear-down text follows a complete frame, and a magic behind too much noise stands
in a stream that is lost anyway. Beyond the size limit, nothing is decided before
the limit is exceeded. -/
def Unambiguous (stream : Bytes) : Prop :=
  if stream.length ≤ maxResponseSize then
    (∀ data, data <+: stream → Finished data → isSessionDeadPayload stream = true →
      isSessionDeadPayload data = true) ∧
    (∀ offset, Search.position Response.magic stream = some offset → maxNoise - 3 < offset →
      isSessionDeadPayload stream = true ∨ Malformed stream)
  else
    ¬ Finished (stream.take maxResponseSize) ∧
    isSessionDeadPayload (stream.take maxResponseSize) = false ∧
    ¬ Malformed (stream.take maxResponseSize) ∧
    ∃ offset, Search.position Response.magic (stream.take maxResponseSize) = some offset ∧
      offset ≤ maxNoise - 3

/-- Ending alike goes both ways. -/
theorem SameEnding.symm {left right : Option Reply} (same : SameEnding left right) :
    SameEnding right left := by
  rcases left with _ | err | data <;> rcases right with _ | err' | data' <;>
    simp_all [SameEnding]

/-- Ending alike goes on. -/
theorem SameEnding.trans {left middle right : Option Reply} (first : SameEnding left middle)
    (second : SameEnding middle right) : SameEnding left right := by
  rcases left with _ | err | data <;> rcases middle with _ | err' | data' <;>
    rcases right with _ | err'' | data'' <;> simp_all [SameEnding]

section Deciding

/-- The result of the bytes received so far, if they decide one. -/
def verdict (data : Bytes) : Option Reply := (judge data).getRight?

/-- The session counts as lost: tear-down text, a malformed header, or too much
noise without a magic. -/
def Lost (data : Bytes) : Prop :=
  isSessionDeadPayload data = true ∨ Malformed data ∨
    (¬ Response.magic <:+: data ∧ maxNoise < data.length)

/-- Too many bytes are refused. -/
theorem verdict_large (data : Bytes) (large : maxResponseSize < data.length) :
    ∃ message, verdict data = some (.error (.invalidFrame message)) :=
  ⟨_, by rw [verdict, judge, if_pos large, Sum.getRight?_inr]⟩

/-- The notice of a lost session ends the request. -/
theorem verdict_lost (data : Bytes) (small : data.length ≤ maxResponseSize) (lost : Lost data) :
    ∃ reason, verdict data = some (.error (.sessionDied reason)) := by
  have bounded : ¬ data.length > maxResponseSize := by omega
  by_cases dead : isSessionDeadPayload data = true
  · exact ⟨_, by rw [verdict, judge, if_neg bounded, if_pos dead, Sum.getRight?_inr]⟩
  · rcases lost with dead' | ⟨err, refused⟩ | ⟨absent, noisy⟩
    · exact absurd dead' dead
    · exact ⟨_, by rw [verdict, judge, if_neg bounded, if_neg dead, refused, Sum.getRight?_inr]⟩
    · have undecided := decodeHeader_without_magic data absent
      have missing : ¬ Search.occurs Response.magic data ∧ data.length > maxNoise :=
        ⟨fun inside => absent ((Search.occurs_iff _ _).mp inside), noisy⟩
      exact ⟨malformedResponse data, by
        rw [verdict, judge, if_neg bounded, if_neg dead, undecided]
        simp only [if_pos missing, Sum.getRight?_inr]⟩

/-- A response that is complete is the result. -/
theorem verdict_finished (data : Bytes) (small : data.length ≤ maxResponseSize)
    (alive : isSessionDeadPayload data = false) (finished : Finished data) :
    verdict data = some (.ok data) := by
  obtain ⟨header, found, whole⟩ := finished
  have bounded : ¬ data.length > maxResponseSize := by omega
  rw [verdict, judge, if_neg bounded, alive, found]
  simp only [Bool.false_eq_true, if_false, if_pos whole, Sum.getRight?_inr]

/-- Anything else is waited for. -/
theorem verdict_waiting (data : Bytes) (small : data.length ≤ maxResponseSize)
    (open' : ¬ Lost data) (unfinished : ¬ Finished data) : verdict data = none := by
  have bounded : ¬ data.length > maxResponseSize := by omega
  simp only [Lost, not_or, not_and, Bool.not_eq_true] at open'
  obtain ⟨alive, formed, noise⟩ := open'
  cases found : decodeHeader data with
  | error err => exact absurd ⟨err, found⟩ formed
  | ok known =>
    cases known with
    | none =>
      have quiet : ¬ (¬ Search.occurs Response.magic data = true ∧ data.length > maxNoise) := by
        rintro ⟨absent, noisy⟩
        exact noise (fun inside => absent ((Search.occurs_iff _ _).mpr inside)) noisy
      rw [verdict, judge, if_neg bounded, alive, found]
      simp only [Bool.false_eq_true, if_false, if_neg quiet, Sum.getRight?_inl]
    | some header =>
      have part : ¬ complete header data := fun whole => unfinished ⟨header, found, whole⟩
      rw [verdict, judge, if_neg bounded, alive, found]
      simp only [Bool.false_eq_true, if_false, if_neg part, Sum.getRight?_inl]

/-- Within the size limit there are three ways to go on. -/
theorem verdict_cases (data : Bytes) (small : data.length ≤ maxResponseSize) :
    (Lost data ∧ ∃ reason, verdict data = some (.error (.sessionDied reason))) ∨
    (¬ Lost data ∧ Finished data ∧ verdict data = some (.ok data)) ∨
    (¬ Lost data ∧ ¬ Finished data ∧ verdict data = none) := by
  by_cases lost : Lost data
  · exact Or.inl ⟨lost, verdict_lost data small lost⟩
  · by_cases finished : Finished data
    · have alive : isSessionDeadPayload data = false := by
        rw [← Bool.not_eq_true]
        exact fun dead => lost (Or.inl dead)
      exact Or.inr (Or.inl ⟨lost, finished, verdict_finished data small alive finished⟩)
    · exact Or.inr (Or.inr ⟨lost, finished, verdict_waiting data small lost finished⟩)

/-- A response that is complete stays so, and is decoded alike, when more comes. -/
theorem finished_extends (data stream : Bytes) (inside : data <+: stream)
    (finished : Finished data) : Finished stream ∧ decoded data = decoded stream := by
  obtain ⟨header, found, whole⟩ := finished
  obtain ⟨rest, rfl⟩ := inside
  have found' : decodeHeader (data ++ rest) = .ok (some header) := by
    rw [decodeHeader_append data rest (by simp [found]), found]
  have whole' : complete header (data ++ rest) := by
    simp only [complete, List.length_append] at whole ⊢
    omega
  refine ⟨⟨header, found', whole'⟩, ?_⟩
  have front : header.headerEnd ≤ data.length := by
    simp only [complete] at whole
    omega
  have enough : header.payloadLen.toNat ≤ (data.drop header.headerEnd).length := by
    simp only [complete] at whole
    rw [List.length_drop]
    omega
  rw [decoded, decoded, openResponse_complete _ _ found whole,
    openResponse_complete _ _ found' whole', List.drop_append_of_le_length front,
    List.take_append_of_le_length enough]

/-- A response that is malformed stays so when more comes. -/
theorem malformed_extends (data stream : Bytes) (inside : data <+: stream)
    (malformed : Malformed data) : Malformed stream := by
  obtain ⟨err, refused⟩ := malformed
  obtain ⟨rest, rfl⟩ := inside
  exact ⟨err, by rw [decodeHeader_append data rest (by simp [refused]), refused]⟩

/-- A prefix without the magic ends before the magic of the stream does. -/
theorem position_beyond (data stream : Bytes) (inside : data <+: stream) (offset : Nat)
    (absent : ¬ Response.magic <:+: data)
    (found : Search.position Response.magic stream = some offset) : data.length < offset + 4 := by
  by_contra long
  obtain ⟨window, _⟩ := Search.position_window _ _ _ found
  obtain ⟨rest, rfl⟩ := inside
  rw [List.drop_append_of_le_length (by omega)] at window
  have four : Response.magic.length = 4 := by decide
  have fits : Response.magic <+: data.drop offset :=
    List.prefix_of_prefix_length_le window (List.prefix_append _ _)
      (by rw [four, List.length_drop]; omega)
  exact absent (fits.isInfix.trans (List.drop_suffix offset data).isInfix)

end Deciding

section Cutting

variable (manager : ManagerId) (timeoutSecs : Nat) (request stream : Bytes)

/-- A request ends as the loop computes. -/
theorem ends_iff (chunks : List Bytes) (ending : Option Reply) :
    Ends manager timeoutSecs request chunks ending ↔
      ending = (Reception.empty.receive chunks).map Prod.fst := by
  cases ending with
  | none =>
    simp only [Ends, handleSendRequest_returns]
    cases Reception.empty.receive chunks with
    | none => simp
    | some outcome => simpa using ⟨outcome.1, outcome.2, rfl⟩
  | some result =>
    simp only [Ends, handleSendRequest_returns]
    cases Reception.empty.receive chunks with
    | none => simp
    | some outcome =>
      constructor
      · rintro ⟨later, same⟩
        rw [same]
        rfl
      · intro same
        refine ⟨outcome.2, ?_⟩
        obtain rfl := Option.some.inj same
        rfl

/-- The whole stream as one chunk ends with its verdict. -/
theorem ends_whole : (Reception.empty.receive [stream]).map Prod.fst = verdict stream := by
  have start : Reception.empty = .after [] := rfl
  rw [start, Reception.receive, step_after, List.nil_append, verdict]
  cases judge stream <;> rfl

/-- A first chunk that decides something ends the request. -/
theorem ends_first (data rest : Bytes) (result : Reply) (decides : verdict data = some result) :
    (Reception.empty.receive [data, rest]).map Prod.fst = some result := by
  have start : Reception.empty = .after [] := rfl
  rw [start, Reception.receive, step_after, List.nil_append]
  rw [verdict] at decides
  cases judged : judge data with
  | inl next => simp [judged] at decides
  | inr ended =>
    rw [judged, Sum.getRight?_inr] at decides
    simpa using decides

/-- The cutting is irrelevant exactly when no prefix decides differently from the
whole stream. -/
theorem cuttingIrrelevant_iff :
    CuttingIrrelevant manager timeoutSecs request stream ↔
      ∀ data, data <+: stream → verdict data = none ∨ SameEnding (verdict data) (verdict stream) := by
  constructor
  · intro irrelevant data inside
    cases decides : verdict data with
    | none => exact Or.inl rfl
    | some result =>
      obtain ⟨rest, rfl⟩ := inside
      refine Or.inr (irrelevant [data, rest] [data ++ rest] (by simp) (by simp) _ _ ?_ ?_)
      · rw [ends_iff, ends_first data rest result decides]
      · rw [ends_iff, ends_whole]
  · intro settled
    have each : ∀ chunks : List Bytes, chunks.flatten = stream →
        SameEnding ((Reception.empty.receive chunks).map Prod.fst) (verdict stream) := by
      intro chunks cut
      have start : Reception.empty = .after [] := rfl
      rw [start]
      rcases receive_prefix [] chunks with ⟨none, quiet⟩ | ⟨result, later, read, ends, judged⟩
      · have waits : verdict stream = .none := by
          rcases quiet with rfl | ⟨next, goes⟩
          · rw [← cut]
            rfl
          · rw [List.nil_append, cut] at goes
            rw [verdict, goes, Sum.getRight?_inl]
        rw [none, waits]
        trivial
      · rw [List.nil_append, cut] at judged
        have decides : verdict (stream.take read) = some result := by
          rw [verdict, judged, Sum.getRight?_inr]
        rw [ends]
        rcases settled _ (List.take_prefix read stream) with waits | same
        · rw [waits] at decides
          exact absurd decides (by simp)
        · rwa [decides] at same
    intro left right cutLeft cutRight one two endsOne endsTwo
    rw [ends_iff] at endsOne endsTwo
    subst endsOne endsTwo
    exact (each left cutLeft).trans (each right cutRight).symm

end Cutting

section Exactly

variable (stream : Bytes)

/-- In front of a late magic there is too much noise, so whatever settles the stream is
decided by the noise alone. -/
theorem noise_settled (small : stream.length ≤ maxResponseSize)
    (settled : ∀ data, data <+: stream →
      verdict data = none ∨ SameEnding (verdict data) (verdict stream))
    (offset : Nat) (found : Search.position Response.magic stream = some offset)
    (late : maxNoise - 3 < offset) : isSessionDeadPayload stream = true ∨ Malformed stream := by
  by_contra neither
  rw [not_or] at neither
  obtain ⟨window, fits⟩ := Search.position_window _ _ _ found
  have four : Response.magic.length = 4 := by decide
  have noiseLimit : maxNoise = 32768 := rfl
  have inside := List.take_prefix (maxNoise + 1) stream
  have size : (stream.take (maxNoise + 1)).length = maxNoise + 1 :=
    List.length_take_of_le (by omega)
  have absent : ¬ Response.magic <:+: stream.take (maxNoise + 1) := by
    rw [← Search.position_none_iff]
    cases earlier : Search.position Response.magic (stream.take (maxNoise + 1)) with
    | none => rfl
    | some before =>
      have bound := (Search.position_window _ _ _ earlier).2
      have same := Search.position_append _ _ (stream.drop (maxNoise + 1)) _ earlier
      rw [List.take_append_drop, found] at same
      obtain rfl := Option.some.inj same
      omega
  obtain ⟨reason, ends⟩ := verdict_lost (stream.take (maxNoise + 1)) (by omega)
    (Or.inr (Or.inr ⟨absent, by omega⟩))
  have magicInside : Response.magic <:+: stream :=
    window.isInfix.trans (List.drop_suffix offset stream).isInfix
  have same := settled _ inside
  rw [ends] at same
  rcases verdict_cases stream small with ⟨lost, _⟩ | ⟨_, _, ends'⟩ | ⟨_, _, ends'⟩
  · rcases lost with dead | malformed | ⟨missing, _⟩
    · exact neither.1 dead
    · exact neither.2 malformed
    · exact missing magicInside
  · rw [ends'] at same
    simp [SameEnding] at same
  · rw [ends'] at same
    simp [SameEnding] at same

/-- A stream is lost with each of its prefixes, if no magic comes after too much noise. -/
theorem lost_extends {data : Bytes} (inside : data <+: stream)
    (noisy : ∀ offset, Search.position Response.magic stream = some offset →
      maxNoise - 3 < offset → isSessionDeadPayload stream = true ∨ Malformed stream)
    (lost : Lost data) : Lost stream := by
  have noiseLimit : maxNoise = 32768 := rfl
  rcases lost with dead | malformed | ⟨absent, long⟩
  · exact Or.inl (dead_extends data stream inside dead)
  · exact Or.inr (Or.inl (malformed_extends data stream inside malformed))
  · cases found : Search.position Response.magic stream with
    | none =>
      rw [Search.position_none_iff] at found
      exact Or.inr (Or.inr ⟨found, Nat.lt_of_lt_of_le long inside.length_le⟩)
    | some offset =>
      have beyond := position_beyond data stream inside offset absent found
      rcases noisy offset found (by omega) with dead | malformed
      · exact Or.inl dead
      · exact Or.inr (Or.inl malformed)

/-- Within the size limit, a prefix that decides differently is either complete in
front of tear-down text, or noise in front of a late magic. -/
theorem settled_iff_small (small : stream.length ≤ maxResponseSize) :
    (∀ data, data <+: stream → verdict data = none ∨ SameEnding (verdict data) (verdict stream)) ↔
      Unambiguous stream := by
  rw [Unambiguous, if_pos small]
  constructor
  · intro settled
    constructor
    · intro data inside finished dead
      by_contra alive
      rw [Bool.not_eq_true] at alive
      have fits : data.length ≤ maxResponseSize := inside.length_le.trans small
      obtain ⟨reason, ends⟩ := verdict_lost stream small (Or.inl dead)
      have same := settled data inside
      rw [verdict_finished data fits alive finished, ends] at same
      simp [SameEnding] at same
    · exact noise_settled stream small settled
  · rintro ⟨torn, noisy⟩ data inside
    have fits : data.length ≤ maxResponseSize := inside.length_le.trans small
    rcases verdict_cases data fits with ⟨lost, reason, ends⟩ | ⟨open', finished, ends⟩ | ⟨_, _, ends⟩
    · right
      obtain ⟨reason', ends'⟩ := verdict_lost stream small (lost_extends stream inside noisy lost)
      rw [ends, ends']
      rfl
    · right
      have alive : isSessionDeadPayload stream = false := by
        rw [← Bool.not_eq_true]
        exact fun dead => open' (Or.inl (torn data inside finished dead))
      obtain ⟨finished', same⟩ := finished_extends data stream inside finished
      rw [ends, verdict_finished stream small alive finished']
      exact same
    · exact Or.inl ends

/-- Beyond the size limit the whole stream ends with the size error, so nothing may
be decided within the limit. -/
theorem settled_iff_large (large : maxResponseSize < stream.length) :
    (∀ data, data <+: stream → verdict data = none ∨ SameEnding (verdict data) (verdict stream)) ↔
      Unambiguous stream := by
  obtain ⟨message, whole⟩ := verdict_large stream large
  have noiseLimit : maxNoise = 32768 := rfl
  have limit : maxResponseSize = 10485760 := rfl
  rw [Unambiguous, if_neg (by omega)]
  have quietSmall : (∀ data, data <+: stream →
      verdict data = none ∨ SameEnding (verdict data) (verdict stream)) →
      ∀ data, data <+: stream → data.length ≤ maxResponseSize → ¬ Lost data ∧ ¬ Finished data := by
    intro settled data inside fits
    have same := settled data inside
    rw [whole] at same
    rcases verdict_cases data fits with ⟨_, reason, ends⟩ | ⟨_, _, ends⟩ | ⟨kept, unfinished, _⟩
    · rw [ends] at same
      simp [SameEnding, AgwpeError.ctorIdx] at same
    · rw [ends] at same
      simp [SameEnding] at same
    · exact ⟨kept, unfinished⟩
  have frontSize : (stream.take maxResponseSize).length = maxResponseSize :=
    List.length_take_of_le (by omega)
  constructor
  · intro settled
    obtain ⟨kept, unfinished⟩ := quietSmall settled _ (List.take_prefix maxResponseSize stream)
      (by omega)
    simp only [Lost, not_or, Bool.not_eq_true] at kept
    refine ⟨unfinished, kept.1, kept.2.1, ?_⟩
    have early : stream.take (maxNoise + 1) <+: stream.take maxResponseSize :=
      List.take_prefix_take_left (by omega)
    have size : (stream.take (maxNoise + 1)).length = maxNoise + 1 :=
      List.length_take_of_le (by omega)
    obtain ⟨keptEarly, _⟩ := quietSmall settled _ (List.take_prefix (maxNoise + 1) stream) (by omega)
    cases found : Search.position Response.magic (stream.take (maxNoise + 1)) with
    | none =>
      rw [Search.position_none_iff] at found
      exact absurd (Or.inr (Or.inr ⟨found, by omega⟩)) keptEarly
    | some offset =>
      have bound := (Search.position_window _ _ _ found).2
      have four : Response.magic.length = 4 := by decide
      obtain ⟨rest, split⟩ := early
      refine ⟨offset, ?_, by omega⟩
      rw [← split]
      exact Search.position_append _ _ rest _ found
  · rintro ⟨unfinished, alive, formed, offset, found, early⟩ data inside
    by_cases fits : data.length ≤ maxResponseSize
    · left
      have front : data <+: stream.take maxResponseSize :=
        List.prefix_of_prefix_length_le inside (List.take_prefix _ _) (by omega)
      refine verdict_waiting data fits ?_ fun finished =>
        unfinished (finished_extends data _ front finished).1
      rintro (dead | malformed | ⟨absent, long⟩)
      · rw [dead_extends data _ front dead] at alive
        exact absurd alive (by decide)
      · exact formed (malformed_extends data _ front malformed)
      · have beyond := position_beyond data _ front offset absent found
        omega
    · obtain ⟨message', ends⟩ := verdict_large data (by omega)
      rw [ends, whole]
      exact Or.inr rfl

end Exactly

/-- The cutting of a stream is irrelevant exactly for unambiguous streams.

Cutting does not matter exactly if no prefix decides differently from the whole stream. Which
prefixes decide is another question for streams within the limit than for those beyond it. -/
theorem cutting_irrelevant_iff_unambiguous (manager : ManagerId) (timeoutSecs : Nat)
    (request stream : Bytes) :
    CuttingIrrelevant manager timeoutSecs request stream ↔ Unambiguous stream := by
  rw [cuttingIrrelevant_iff]
  by_cases small : stream.length ≤ maxResponseSize
  · exact settled_iff_small stream small
  · exact settled_iff_large stream (by omega)

/-- A complete page with the node's tear-down line behind it: lost in one chunk,
returned in two. -/
theorem cutting_relevant_before_tear_down :
    ¬ CuttingIrrelevant 0 30 (ascii "GET a\n")
      (ascii "RESP0 4 - 60\nAQL/\n*** DISCONNECTED\r\n") := by
  intro irrelevant
  have same := irrelevant [ascii "RESP0 4 - 60\nAQL/\n*** DISCONNECTED\r\n"]
    [ascii "RESP0 4 - 60\nAQL/\n", ascii "*** DISCONNECTED\r\n"] (by decide) (by decide)
    (some (.error (.sessionDied "remote sent AX.25 disconnect notification".toList)))
    (some (.ok (ascii "RESP0 4 - 60\nAQL/\n")))
    ((ends_iff _ _ _ _ _).mpr (by decide)) ((ends_iff _ _ _ _ _).mpr (by decide))
  exact same

end PacketBrowser.Client
