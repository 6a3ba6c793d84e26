import PacketBrowser.Client.Reception

/-!
# A response is put together again

Whatever the transport does, a response that is returned contains a complete frame
with the header the renderer finds. And a frame behind harmless noise is returned
for every way of cutting it: no prefix of such a stream looks dead, oversized or
malformed, and the whole stream completes the frame.
-/

namespace PacketBrowser.Client

open Protocol Foundation

section Markers

/-- Tear-down text of the modem. -/
def disconnectedMarker : Bytes := ascii "*** DISCONNECTED"

/-- Tear-down text of the node. -/
def returnedMarker : Bytes := ascii "Returned to Node"

/-- The notices of a lost session are found by what they contain. -/
theorem isSessionDeadPayload_iff (data : Bytes) :
    isSessionDeadPayload data = true ↔ disconnectedMarker <:+: data ∨ returnedMarker <:+: data := by
  have first : ascii "*** DISCONNECTED" ≠ [] := by decide
  have second : ascii "Returned to Node" ≠ [] := by decide
  simp only [isSessionDeadPayload, containsSlice, first, second, ne_eq, not_false_eq_true, true_and,
    decide_eq_true_eq, Bool.or_eq_true, Search.occurs_iff, disconnectedMarker, returnedMarker]

/-- Tear-down text does not disappear again. -/
theorem dead_extends (data stream : Bytes) (inside : data <+: stream)
    (dead : isSessionDeadPayload data = true) : isSessionDeadPayload stream = true := by
  rw [isSessionDeadPayload_iff] at dead ⊢
  exact dead.imp (·.trans inside.isInfix) (·.trans inside.isInfix)

variable (response : Response) (valid : response.Valid)

include valid

/-- No asterisk occurs in a frame. -/
theorem encode_no_asterisk : 42 ∉ response.encode := by
  intro member
  rw [encode_split, Response.header] at member
  simp only [List.mem_append, List.mem_cons, List.not_mem_nil, or_false] at member
  rcases member with (magic | digit | space | line | feed) | payload | feed
  · exact absurd magic (by decide)
  · cases kind : response.status <;> rw [kind] at digit <;> exact absurd digit (by decide)
  · exact absurd space (by decide)
  · have short : ∀ c ∈ response.headerLine, c.toNat < 0x80 := fun c inside => by
      have upper := (headerLine_printable response valid.etag c inside).2
      omega
    obtain ⟨c, inside, code⟩ := Utf8.char_of_mem _ short _ line
    obtain rfl : c = '*' := by
      rw [← Char.ofNat_toNat c, code]
      rfl
    simp only [Response.headerLine, List.mem_append, List.mem_cons] at inside
    rcases inside with length | space | etag | space | age
    · exact absurd (Decimal.print_digit _ _ length) (by decide)
    · exact absurd space (by decide)
    · rcases valid.etag with dash | ⟨_, every⟩
      · rw [dash] at etag
        exact absurd etag (by decide)
      · exact absurd (List.all_eq_true.mp every _ etag) (by decide)
    · exact absurd space (by decide)
    · exact absurd (Decimal.print_int_char _ _ age) (by decide)
  · exact absurd feed (by decide)
  · have lower := (Base64.alphabet_bounds _ (Base64.encode_alphabet _ _ payload)).1
    exact absurd lower (by decide)
  · exact absurd feed (by decide)

/-- A space in a frame separates fields: there are exactly three. -/
theorem encode_fields :
    response.encode.splitOn 32 = [Response.magic ++ [response.status.digit],
      Utf8.encode (Decimal.printNat (Base64.encode response.payload).length),
      Utf8.encode response.etag,
      Utf8.encode (Decimal.printInt response.maxAge.toInt) ++
        (lineFeed :: (Base64.encode response.payload ++ [lineFeed]))] := by
  have plain : ∀ text : Text, (∀ c ∈ text, printable c ∧ c ≠ ' ') → (32 : UInt8) ∉ Utf8.encode text := by
    intro text every member
    have short : ∀ c ∈ text, c.toNat < 0x80 := fun c inside => by
      have upper := (every c inside).1.2
      omega
    obtain ⟨c, inside, code⟩ := Utf8.char_of_mem text short _ member
    refine (every c inside).2 ?_
    rw [← Char.ofNat_toNat c, code]
    rfl
  have front : (32 : UInt8) ∉ Response.magic ++ [response.status.digit] := by
    cases response.status <;> decide
  have length := plain _ fun c member => digit_printable c
    (Decimal.print_digit (Base64.encode response.payload).length c member)
  have etag := plain _ (etag_printable response valid.etag)
  have age := plain _ (number_printable response.maxAge.toInt)
  have payload : (32 : UInt8) ∉ Base64.encode response.payload := fun member =>
    absurd (Base64.alphabet_bounds _ (Base64.encode_alphabet _ _ member)).1 (by decide)
  have shape : response.encode = (Response.magic ++ [response.status.digit]) ++ 32 ::
      (Utf8.encode (Decimal.printNat (Base64.encode response.payload).length) ++ 32 ::
        (Utf8.encode response.etag ++ 32 ::
          (Utf8.encode (Decimal.printInt response.maxAge.toInt) ++
            (lineFeed :: (Base64.encode response.payload ++ [lineFeed]))))) := by
    simp [Response.encode]
  rw [shape, List.splitOn_append_cons_self_of_not_mem front,
    List.splitOn_append_cons_self_of_not_mem length, List.splitOn_append_cons_self_of_not_mem etag,
    List.splitOn_eq_singleton]
  simp only [List.mem_append, List.mem_cons, List.not_mem_nil, or_false, not_or]
  exact ⟨age, by decide, payload, by decide⟩

/-- The node's text has a two-letter word between spaces, and no field of a frame
is that word. -/
theorem encode_no_returned : ¬ returnedMarker <:+: response.encode := by
  rintro ⟨before, after, split⟩
  have word : ascii "to" ∈ response.encode.splitOn 32 := by
    have shape : response.encode = (before ++ ascii "Returned") ++ 32 ::
        (ascii "to" ++ 32 :: (ascii "Node" ++ after)) := by
      rw [← split]
      have marker : returnedMarker =
          ascii "Returned" ++ 32 :: (ascii "to" ++ 32 :: ascii "Node") := by decide
      simp [marker]
    rw [shape, List.splitOn_append_cons_self,
      List.splitOn_append_cons_self_of_not_mem (by decide)]
    simp
  rw [encode_fields response valid] at word
  simp only [List.mem_cons, List.not_mem_nil, or_false] at word
  rcases word with magic | length | etag | rest
  · exact absurd (congrArg List.length magic) (by simp [ascii, Response.magic])
  · have member : (116 : UInt8) ∈ Utf8.encode
        (Decimal.printNat (Base64.encode response.payload).length) := by
      rw [← length]
      decide
    have short : ∀ c ∈ Decimal.printNat (Base64.encode response.payload).length, c.toNat < 0x80 :=
      fun c inside => by
        have upper := (digit_printable c (Decimal.print_digit _ c inside)).1.2
        omega
    obtain ⟨c, inside, code⟩ := Utf8.char_of_mem _ short _ member
    have digit := Decimal.print_digit _ c inside
    rw [Char.isDigit_iff_toNat, code] at digit
    exact absurd digit.2 (by decide)
  · have short : ∀ c ∈ response.etag, c.toNat < 0x80 := fun c inside => by
      have upper := (etag_printable response valid.etag c inside).1.2
      omega
    have size := congrArg List.length etag
    rw [Utf8.encode_ascii _ short, List.length_map] at size
    have two : (ascii "to").length = 2 := by decide
    rcases valid.etag with dash | ⟨sixteen, _⟩
    · rw [dash] at size
      exact absurd size (by decide)
    · omega
  · have member : lineFeed ∈ ascii "to" := by
      rw [rest]
      simp
    exact absurd member (by decide)

/-- A frame contains no tear-down text, nor does one begin in front of it: a proper
end of either text never starts with the first byte of a frame. -/
theorem frame_alive (noise : Bytes) (alive : isSessionDeadPayload noise = false) :
    isSessionDeadPayload (noise ++ response.encode) = false := by
  rw [← Bool.not_eq_true, isSessionDeadPayload_iff, not_or] at alive ⊢
  have starts : response.encode = 82 :: response.encode.tail := rfl
  have straddle : ∀ marker : Bytes,
      (∀ cut < marker.length, 0 < cut → marker[cut]? ≠ some 82) →
      ∀ cut, 0 < cut → cut < marker.length → ¬ marker.drop cut <+: response.encode := by
    intro marker foreign cut positive inside begins
    obtain ⟨tail, same⟩ := begins
    have head : (marker.drop cut).head? = some 82 := by
      cases found : marker.drop cut with
      | nil =>
        have size := congrArg List.length found
        simp only [List.length_drop, List.length_nil] at size
        omega
      | cons first later =>
        rw [found, starts, List.cons_append, List.cons.injEq] at same
        rw [same.1]
        rfl
    rw [List.head?_drop] at head
    exact foreign cut inside positive head
  constructor
  · refine Search.occurs_append_false _ _ _ alive.1 ?_ (straddle _ (by decide))
    intro inside
    exact encode_no_asterisk response valid (inside.subset (by decide))
  · exact Search.occurs_append_false _ _ _ alive.2 (encode_no_returned response valid)
      (straddle _ (by decide))

end Markers

/-- Only a complete frame is returned, and it is the data received so far. -/
theorem judge_ok (data out : Bytes) (returned : judge data = .inr (.ok out)) :
    out = data ∧ ∃ header, decodeHeader data = .ok (some header) ∧ complete header data := by
  unfold judge at returned
  split at returned
  · exact absurd returned (by simp)
  · split at returned
    · exact absurd returned (by simp)
    · split at returned
      · exact absurd returned (by simp)
      · split at returned <;> exact absurd returned (by simp)
      · rename_i header found
        split at returned
        · rename_i whole
          exact ⟨(Except.ok.inj (Sum.inr.inj returned)).symm, header, found, whole⟩
        · exact absurd returned (by simp)

/-- The renderer opens every complete frame. -/
theorem openResponse_complete (data : Bytes) (header : Header)
    (found : decodeHeader data = .ok (some header)) (whole : complete header data) :
    openResponse data =
      .ok (header, (data.drop header.headerEnd).take header.payloadLen.toNat) := by
  have enough : ¬ data.length < header.headerEnd + header.payloadLen.toNat := Nat.not_lt.mpr whole
  simp [openResponse, found, enough]

section AnyTransport

variable {Env : Type} {exec : (op : Op) → Answer op → Env → Option Env}
variable (manager : ManagerId) (timeoutSecs : Nat)

/-- Whatever arrives, one round examines a chunk or ends with an error. -/
theorem receiveEvent_cases (reception : Reception) (env env' : Env) (next : Reception ⊕ Reply)
    (returns : Program.Returns exec (receiveEvent manager timeoutSecs reception) env next env') :
    (∃ bytes, reception.step bytes = next) ∨ ∃ err, next = .inr (.error err) := by
  have round : receiveEvent manager timeoutSecs reception =
      (ask (.recv manager timeoutSecs)).bind _ := rfl
  rw [round, Program.returns_bind] at returns
  obtain ⟨answer, middle, received, rest⟩ := returns
  clear received
  split at rest
  · exact Or.inr ⟨_, (Program.returns_done.mp rest).1⟩
  · exact Or.inr ⟨_, (Program.returns_done.mp rest).1⟩
  · exact Or.inr ⟨_, (Program.returns_done.mp rest).1⟩
  · rename_i bytes
    cases accepted : reception.accept bytes with
    | error err =>
      simp only [accepted] at rest
      exact Or.inr ⟨_, (Program.returns_done.mp rest).1⟩
    | ok grown =>
      simp only [accepted] at rest
      obtain ⟨aborted, _, _, ended⟩ := Program.returns_bind.mp rest
      obtain ⟨rfl, _⟩ := Program.returns_done.mp ended
      cases aborted with
      | true => exact Or.inr ⟨_, rfl⟩
      | false => exact Or.inl ⟨bytes, by simp [Reception.step, accepted]⟩

/-- A returned response is complete. The loop keeps the state that belongs to the
bytes received, so the header it kept is the header of the whole buffer. -/
theorem handleSendRequest_complete (request data : Bytes) (env env' : Env)
    (returns : Program.Returns exec (handleSendRequest manager timeoutSecs request).run env
      (.ok data) env') :
    ∃ header, decodeHeader data = .ok (some header) ∧ complete header data := by
  rw [handleSendRequest, Program.returns_attempt] at returns
  obtain ⟨checked, middle, _, continued⟩ := returns
  cases checked with
  | error err => exact absurd continued.1 (by simp)
  | ok =>
    obtain ⟨written, _, _, received⟩ := Program.returns_attempt.mp continued
    cases written with
    | error err => exact absurd received.1 (by simp)
    | ok =>
      refine Program.returns_loop (fun reception _ => reception = .after reception.responseData)
        (fun (reply : Reply) _ => ∀ data, reply = .ok data →
          ∃ header, decodeHeader data = .ok (some header) ∧ complete header data)
        ?_ rfl received data rfl
      intro reception env result env' known round
      rcases receiveEvent_cases manager timeoutSecs reception env env' result round with
        ⟨bytes, stepped⟩ | ⟨err, rfl⟩
      · rw [known, step_after] at stepped
        cases result with
        | inl next =>
          obtain rfl := judge_inl _ _ stepped
          simp
        | inr reply =>
          rintro out rfl
          obtain ⟨rfl, header⟩ := judge_ok _ _ stepped
          exact header
      · rintro out ended
        exact absurd ended (by simp)

end AnyTransport

/-- A decided header stays decided as bytes arrive, found or refused. A response
that `handleSendRequest` returns, whatever the transport does, therefore has the
complete frame the renderer looks for.

Decoding looks at nothing behind the header line, so more bytes do not change what is found; and
the loop returns only what it has judged to be whole. -/
theorem receiver_renderer_agree :
    (∀ data more : Bytes,
      (∀ header, decodeHeader data = .ok (some header) →
        decodeHeader (data ++ more) = .ok (some header)) ∧
      (∀ err, decodeHeader data = .error err → ∃ err', decodeHeader (data ++ more) = .error err')) ∧
    ∀ (Env : Type) (exec : (op : Op) → Answer op → Env → Option Env) (manager : ManagerId)
      (timeoutSecs : Nat) (request data : Bytes) (env env' : Env),
      Program.Returns exec (handleSendRequest manager timeoutSecs request).run env (.ok data) env' →
      ∃ header, decodeHeader data = .ok (some header) ∧
        header.headerEnd + header.payloadLen.toNat ≤ data.length ∧
        openResponse data =
          .ok (header, (data.drop header.headerEnd).take header.payloadLen.toNat) := by
  refine ⟨fun data more => ⟨fun header found => ?_, fun err refused => ⟨err, ?_⟩⟩, ?_⟩
  · rw [decodeHeader_append data more (by simp [found]), found]
  · rw [decodeHeader_append data more (by simp [refused]), refused]
  · intro Env exec manager timeoutSecs request data env env' returns
    obtain ⟨header, found, whole⟩ :=
      handleSendRequest_complete manager timeoutSecs request data env env' returns
    exact ⟨header, found, whole, openResponse_complete data header found whole⟩

/-- A frame received in one piece. -/
theorem receiver_renderer_agree_sample :
    ∃ header, decodeHeader (ascii "RESP0 4 - 60\nAQL/") = .ok (some header) ∧
      openResponse (ascii "RESP0 4 - 60\nAQL/") = .ok (header, ascii "AQL/") := by
  obtain ⟨header, found, _, opened⟩ := receiver_renderer_agree.2 (List Bytes) delivery 0 30 [] _ _ _
    ((handleSendRequest_returns 0 30 [] [ascii "RESP0 4 - 60\nAQL/"] []
      (.ok (ascii "RESP0 4 - 60\nAQL/"))).mpr (by decide))
  obtain rfl : header = ⟨.ok, 4, ['-'], 60, 13⟩ := by
    have known : decodeHeader (ascii "RESP0 4 - 60\nAQL/") = .ok (some ⟨.ok, 4, ['-'], 60, 13⟩) := by
      decide
    exact Option.some.inj (Except.ok.inj (found.symm.trans known))
  exact ⟨_, found, opened⟩

section Delivered

variable (response : Response) (valid : response.Valid) (noise : Bytes)

/-- The bytes of a stream that end a frame behind noise. -/
def streamHeader (response : Response) (noise : Bytes) : Header :=
  response.headerAt (noise ++ response.header lineFeed).length

include valid

/-- A whole stream of noise and frame contains the header of the frame. -/
theorem stream_header (absent : ¬ Response.magic <:+: noise) :
    decodeHeader (noise ++ response.encode) = .ok (some (streamHeader response noise)) := by
  rw [encode_split]
  exact decodeHeader_header noise _ response lineFeed valid absent rfl

/-- A whole stream of noise and frame is complete. -/
theorem stream_complete : complete (streamHeader response noise) (noise ++ response.encode) := by
  have size : (UInt32.ofNat (Base64.encode response.payload).length).toNat =
      (Base64.encode response.payload).length := UInt32.toNat_ofNat_of_lt' valid.fits
  simp only [complete, streamHeader, Response.headerAt, size, encode_split, List.length_append]
  omega

/-- No prefix of a stream of harmless noise and a frame ends the loop with an error. -/
theorem prefix_harmless (absent : ¬ Response.magic <:+: noise)
    (alive : isSessionDeadPayload noise = false) (short : noise.length ≤ 32 * 1024 - 3)
    (fits : (noise ++ response.encode).length ≤ maxResponseSize) (data : Bytes)
    (inside : data <+: noise ++ response.encode) (result : Reply)
    (ends : judge data = .inr result) : result = .ok data := by
  have small : ¬ data.length > maxResponseSize := by
    have size := inside.length_le
    omega
  have living : isSessionDeadPayload data = false := by
    rw [← Bool.not_eq_true]
    intro dead
    have whole := frame_alive response valid noise alive
    rw [dead_extends data _ inside dead] at whole
    exact absurd whole (by decide)
  obtain ⟨rest, whole⟩ := inside
  have stream := stream_header response valid noise absent
  unfold judge at ends
  rw [if_neg small, living] at ends
  simp only [Bool.false_eq_true, if_false] at ends
  cases found : decodeHeader data with
  | error err =>
    rw [← whole, decodeHeader_append data rest (by simp [found]), found] at stream
    exact absurd stream (by simp)
  | ok known =>
    cases known with
    | some header =>
      simp only [found] at ends
      split at ends
      · exact (Sum.inr.inj ends).symm
      · exact absurd ends (by simp)
    | none =>
      simp only [found] at ends
      split at ends
      · rename_i noisy
        have magicInside : Response.magic <:+: data := by
          have front : noise ++ Response.magic <+: noise ++ response.encode :=
            (List.prefix_append_right_inj _).mpr ⟨_, rfl⟩
          have long : (noise ++ Response.magic).length ≤ data.length := by
            have four : Response.magic.length = 4 := by decide
            have bound : maxNoise = 32 * 1024 := rfl
            rw [List.length_append]
            omega
          have covered := List.prefix_of_prefix_length_le front ⟨rest, whole⟩ long
          exact (List.suffix_append noise Response.magic).isInfix.trans covered.isInfix
        exact absurd ((Search.occurs_iff _ _).mpr magicInside) noisy.1
      · exact absurd ends (by simp)

/-- The whole stream completes the frame. -/
theorem stream_judged (absent : ¬ Response.magic <:+: noise)
    (alive : isSessionDeadPayload noise = false)
    (fits : (noise ++ response.encode).length ≤ maxResponseSize) :
    judge (noise ++ response.encode) = .inr (.ok (noise ++ response.encode)) := by
  have living := frame_alive response valid noise alive
  have whole := stream_complete response valid noise
  rw [judge, if_neg (by omega), living]
  simp [stream_header response valid noise absent, whole]

/-- The base64 text stands behind the header, in the stream and in every prefix of
it that is complete, whatever follows the frame. -/
theorem prefix_payload (tail data : Bytes) (inside : data <+: noise ++ response.encode ++ tail)
    (whole : complete (streamHeader response noise) data) :
    (data.drop (streamHeader response noise).headerEnd).take
      (streamHeader response noise).payloadLen.toNat = Base64.encode response.payload := by
  have size : (streamHeader response noise).payloadLen.toNat =
      (Base64.encode response.payload).length := UInt32.toNat_ofNat_of_lt' valid.fits
  obtain ⟨rest, split⟩ := inside
  have enough : (streamHeader response noise).payloadLen.toNat ≤
      (data.drop (streamHeader response noise).headerEnd).length := by
    simp only [complete] at whole
    rw [List.length_drop]
    omega
  have front : (streamHeader response noise).headerEnd ≤ data.length := by
    simp only [complete] at whole
    omega
  have stream : noise ++ response.encode ++ tail = (noise ++ response.header lineFeed) ++
      (Base64.encode response.payload ++ ([lineFeed] ++ tail)) := by
    simp only [encode_split, List.append_assoc]
  calc (data.drop (streamHeader response noise).headerEnd).take
        (streamHeader response noise).payloadLen.toNat
      = ((data ++ rest).drop (streamHeader response noise).headerEnd).take
          (streamHeader response noise).payloadLen.toNat := by
        rw [List.drop_append_of_le_length front, List.take_append_of_le_length enough]
    _ = Base64.encode response.payload := by
        rw [split, stream, size]
        show (List.drop (noise ++ response.header lineFeed).length _).take _ = _
        rw [List.drop_left, List.take_left]

/-- A complete frame read from the stream is the frame that was sent. -/
theorem frame_opened (absent : ¬ Response.magic <:+: noise) (tail data : Bytes) (header : Header)
    (inside : data <+: noise ++ response.encode ++ tail)
    (found : decodeHeader data = .ok (some header)) (whole : complete header data) :
    openResponse data =
      .ok (streamHeader response noise, Base64.encode response.payload) := by
  have sent := stream_header response valid noise absent
  have same : header = streamHeader response noise := by
    obtain ⟨rest, split⟩ := inside
    have read : decodeHeader (data ++ rest) = .ok (some header) := by
      rw [decodeHeader_append data rest (by simp [found]), found]
    rw [split, decodeHeader_append _ tail (by simp [sent]), sent] at read
    simpa using read.symm
  subst same
  rw [openResponse_complete data _ found whole, prefix_payload response valid noise tail data inside whole]

end Delivered

/-- Data of a stream that is opened at all has the frame that was sent. -/
theorem opened_frame {response : Response} (named : response.Named) {noise tail data : Bytes}
    (absent : ¬ Response.magic <:+: noise) (inside : data <+: noise ++ response.encode ++ tail)
    {header : Header} {base64Bytes : Bytes} (opened : openResponse data = .ok (header, base64Bytes)) :
    header = streamHeader response noise ∧ base64Bytes = Base64.encode response.payload := by
  obtain ⟨found, whole⟩ : decodeHeader data = .ok (some header) ∧ complete header data := by
    unfold openResponse at opened
    split at opened
    · exact absurd opened (by simp)
    · exact absurd opened (by simp)
    · rename_i known found
      split at opened
      · exact absurd opened (by simp)
      · rename_i enough
        obtain ⟨rfl, _⟩ := Prod.mk.inj (Except.ok.inj opened)
        exact ⟨found, Nat.not_lt.mp enough⟩
  have fits : (Base64.encode response.payload).length < UInt32.size := by
    by_contra long
    have rejected : decodeHeader (noise ++ response.encode) = .error .invalidResponse := by
      rw [encode_split, decodeHeader_named noise _ response lineFeed named absent rfl, if_neg long]
    obtain ⟨rest, split⟩ := inside
    have read : decodeHeader (data ++ rest) = .ok (some header) := by
      rw [decodeHeader_append data rest (by simp [found]), found]
    rw [split, decodeHeader_append _ tail (by simp [rejected]), rejected] at read
    exact absurd read (by simp)
  have sent := frame_opened response ⟨named, fits⟩ noise absent tail data header inside found whole
  exact Prod.mk.inj (Except.ok.inj (opened.symm.trans sent))

/-- A valid response behind harmless noise is returned for every way of cutting the
stream, and is rendered as what it is. The loop can only end with a complete prefix
of the stream, and it ends because the whole stream is complete.

The loop ends with a prefix of the stream that holds a whole frame: no shorter one does, since
noise does not name a frame, and the whole stream does. What is decided on a prefix is decided
alike on all of it. -/
theorem response_reassembled (manager : ManagerId) (timeoutSecs : Nat) (request : Bytes)
    (response : Response) (noise : Bytes) (chunks : List Bytes)
    (etag : response.etag = ['-'] ∨
      (response.etag.length = 16 ∧ response.etag.all base64Url))
    (short : noise.length ≤ 32 * 1024 - 3) (absent : ¬ Response.magic <:+: noise)
    (alive : isSessionDeadPayload noise = false)
    (fits : (noise ++ response.encode).length ≤ maxResponseSize)
    (cut : chunks.flatten = noise ++ response.encode) :
    ∃ data later header base64Bytes,
      Program.Returns delivery (handleSendRequest manager timeoutSecs request).run chunks
        (.ok data) later ∧
      (∀ result later', Program.Returns delivery
        (handleSendRequest manager timeoutSecs request).run chunks result later' →
        result = .ok data) ∧
      openResponse data = .ok (header, base64Bytes) ∧ header.status = response.status ∧
      header.etag = response.etag ∧ header.maxAge = response.maxAge ∧
      decodePayload base64Bytes = .ok response.payload := by
  have valid : response.Valid := by
    refine ⟨etag, ?_⟩
    have size := congrArg List.length (encode_split response)
    have limit : maxResponseSize = 10485760 := rfl
    have word : UInt32.size = 4294967296 := rfl
    simp only [List.length_append] at size fits
    omega
  simp only [handleSendRequest_returns]
  have start : Reception.empty = .after [] := rfl
  rw [start]
  rcases receive_prefix [] chunks with ⟨_, rfl | ⟨next, goes⟩⟩ | ⟨result, later, read, ends, judged⟩
  · have size := congrArg List.length cut
    simp [Response.encode, Response.magic, ascii] at size
  · rw [List.nil_append, cut, stream_judged response valid noise absent alive fits] at goes
    exact absurd goes (by simp)
  · rw [List.nil_append, cut] at judged
    have inside := List.take_prefix read (noise ++ response.encode)
    obtain rfl := prefix_harmless response valid noise absent alive short fits _ inside _ judged
    obtain ⟨_, header, found, whole⟩ := judge_ok _ _ judged
    obtain rfl : header = streamHeader response noise := by
      have stream := stream_header response valid noise absent
      obtain ⟨rest, split⟩ := inside
      rw [← split, decodeHeader_append _ rest (by simp [found]), found] at stream
      exact Option.some.inj (Except.ok.inj stream)
    refine ⟨_, later, _, _, ends, ?_, openResponse_complete _ _ found whole, rfl, rfl, rfl, ?_⟩
    · intro result' later' ends'
      rw [ends] at ends'
      exact (congrArg Prod.fst (Option.some.inj ends')).symm
    · rw [prefix_payload response valid noise [] _ (by simpa using inside) whole]
      exact decodePayload_encode response.payload

/-- A greeting and a page, cut inside the magic and inside the payload. -/
theorem response_reassembled_sample :
    ∃ data later, Program.Returns delivery (handleSendRequest 0 30 (ascii "GET a\n")).run
      [ascii "Hi\nRE", [], ascii "SP0 4 - 60\nAQ", ascii "L/", [lineFeed]] (.ok data) later := by
  obtain ⟨data, later, _, _, returned, _⟩ := response_reassembled 0 30 (ascii "GET a\n") samplePage
    (ascii "Hi\n") [ascii "Hi\nRE", [], ascii "SP0 4 - 60\nAQ", ascii "L/", [lineFeed]]
    (Or.inl rfl) (by decide) (by decide) (by decide) (by decide) (by decide)
  exact ⟨data, later, returned⟩

end PacketBrowser.Client
