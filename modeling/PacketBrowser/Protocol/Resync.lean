import PacketBrowser.Foundation.Lossy
import PacketBrowser.Protocol.Framing

/-!
# Frames behind banners

The decoder looks for the magic once. Where a banner contains its four letters, what follows
them there is taken for the header, and no later occurrence is tried: a line of the banner is
refused, and one that the frame would end has too many fields. So a frame is found exactly
behind leading bytes without the magic.
-/

namespace PacketBrowser.Protocol

open Foundation

/-- The frame of the response is found behind the noise. -/
def Resyncs (noise : Bytes) (response : Response) : Prop :=
  ∃ header, decodeHeader (noise ++ response.encode) = .ok (some header) ∧
    header.status = response.status ∧
    header.payloadLen.toNat = (Base64.encode response.payload).length ∧
    header.etag = response.etag ∧ header.maxAge = response.maxAge ∧
    (noise ++ response.encode).drop header.headerEnd = Base64.encode response.payload ++ [lineFeed]

/-- Nothing in the noise that starts like a frame is a header, or can become one. -/
def Bannerlike (noise : Bytes) : Prop :=
  ∀ offset more header, Response.magic <+: noise.drop offset →
    decodeHeader (noise.drop offset ++ more) ≠ .ok (some header)

section Fields

variable {response : Response}

/-- A line with more than two spaces is no header line. -/
theorem decodeFields_many (status : Status) (headerEnd : Nat) {line : Text}
    (many : 3 < (line.splitOn ' ').length) :
    decodeFields status headerEnd line = .error .invalidResponse := by
  unfold decodeFields
  cases pieces : line.splitOn ' ' with
  | nil => rfl
  | cons lenStr others =>
    cases others with
    | nil => rfl
    | cons etag more =>
      rw [pieces] at many
      cases more with
      | nil => exact absurd many (by simp)
      | cons maxAge rest =>
        cases rest with
        | nil => exact absurd many (by simp)
        | cons other rest =>
          dsimp only
          split <;> rfl

/-- The header ends where it was said to. -/
theorem decodeFields_end {status : Status} {headerEnd : Nat} {line : Text} {header : Header}
    (decoded : decodeFields status headerEnd line = .ok header) : header.headerEnd = headerEnd := by
  unfold decodeFields at decoded
  repeat' split at decoded
  all_goals first
    | contradiction
    | obtain rfl := Except.ok.inj decoded
      rfl

/-- A header line that the frame ends has a field too many. -/
theorem decode_crossing (named : response.Named) {fields : Bytes} {line : Text}
    (decoded : Utf8.decode (fields ++ response.opening) = some line) (status : Status)
    (headerEnd : Nat) : decodeFields status headerEnd line = .error .invalidResponse := by
  have whole : fields ++ response.opening = (fields ++ Response.magic ++ [response.status.digit]) ++
      Utf8.encode (' ' :: response.headerLine) ++ [] := by
    simp [Response.opening]
  have ascii : ∀ c ∈ ' ' :: response.headerLine, c.toNat < 0x80 := by
    intro c member
    rcases List.mem_cons.mp member with rfl | inLine
    · decide
    · have upper := (headerLine_printable response named c inLine).2
      omega
  have blurred := Utf8.blurred_decode decoded
  rw [whole] at blurred
  obtain ⟨before, after, rfl, _, rest⟩ := blurred.split_word (by simp) ascii
  obtain rfl := rest.nil_iff.mpr rfl
  apply decodeFields_many
  rw [List.append_nil, List.splitOn_append_cons_self, headerLine_split named]
  have some := List.length_pos_of_ne_nil (List.splitOn_ne_nil ' ' before)
  simp only [List.length_append, List.length_cons, List.length_nil]
  omega

end Fields

section Noise

variable {noise : Bytes} {response : Response}

/-- A result that is something was a result before. -/
theorem map_some_ok {result : Except ProtocolError Header} {header : Header}
    (mapped : result.map some = .ok (some header)) :
    ∃ found, result = .ok found ∧ header = found := by
  cases result with
  | error err => exact absurd mapped (by simp [Except.map])
  | ok found => exact ⟨found, rfl, (Option.some.inj (Except.ok.inj mapped)).symm⟩

/-- The letter that begins the magic is no status. -/
theorem magic_refused : statusOfDigit 82 = none := by decide

/-- A header that is found in what the frame follows ends in front of the frame. -/
theorem decodeAfterMagic_noise (named : response.Named) (rest : Bytes) (afterMagic : Nat)
    {header : Header}
    (decoded : decodeAfterMagic afterMagic (rest ++ response.encode) = .ok (some header)) :
    header.headerEnd ≤ afterMagic + rest.length := by
  obtain ⟨behind, letters⟩ : ∃ behind, response.encode = 82 :: 69 :: behind :=
    ⟨_, encode_opening response⟩
  match rest with
  | [] =>
    rw [List.nil_append, letters, decodeAfterMagic, magic_refused] at decoded
    exact absurd decoded (by simp)
  | [digit] =>
    rw [letters, List.singleton_append, decodeAfterMagic] at decoded
    cases known : statusOfDigit digit with
    | none => exact absurd decoded (by simp [known])
    | some status => exact absurd decoded (by simp [known])
  | digit :: space :: fields =>
    rw [List.cons_append, List.cons_append, decodeAfterMagic] at decoded
    cases known : statusOfDigit digit with
    | none => exact absurd decoded (by simp [known])
    | some status =>
      by_cases separated : space = 32
      · simp only [known, separated, ne_eq, not_true_eq_false, if_false] at decoded
        cases found : fields.findIdx? lineEnd with
        | some offset =>
          obtain ⟨inside, _⟩ := List.findIdx?_eq_some_iff_getElem.mp found
          obtain ⟨same, line⟩ := findIdx_append fields response.encode offset found
          simp only [same] at decoded
          cases read : Utf8.decode ((fields ++ response.encode).take offset) with
          | none => exact absurd decoded (by simp [read])
          | some line =>
            simp only [read] at decoded
            obtain ⟨header', fieldsRead, rfl⟩ := map_some_ok decoded
            rw [decodeFields_end fieldsRead, List.length_cons, List.length_cons]
            omega
        | none =>
          have ending := findIdx_terminator response.opening
            (Base64.encode response.payload ++ [lineFeed]) lineFeed (opening_printable named) rfl
          have line : (fields ++ response.encode).findIdx? lineEnd =
              some (fields ++ response.opening).length := by
            rw [List.findIdx?_append, found, encode_opening, ending]
            simp [Nat.add_comm]
          have taken : (fields ++ response.encode).take (fields ++ response.opening).length =
              fields ++ response.opening := by
            rw [encode_opening, ← List.append_assoc, List.take_left]
          simp only [line, taken] at decoded
          cases read : Utf8.decode (fields ++ response.opening) with
          | none => exact absurd decoded (by simp [read])
          | some line =>
            simp only [read, decode_crossing named read] at decoded
            exact absurd decoded (by simp [Except.map])
      · exact absurd decoded (by simp [known, separated])

/-- Where the noise contains the magic, no frame is found behind it. -/
theorem Resyncs.absent (named : response.Named) (resyncs : Resyncs noise response) :
    ¬ Response.magic <:+: noise := by
  intro inside
  obtain ⟨header, decoded, _, _, _, _, behind⟩ := resyncs
  cases found : Search.position Response.magic noise with
  | none => exact (Search.position_none_iff _ _).mp found inside
  | some offset =>
    have window := (Search.position_window _ _ _ found).2
    rw [decodeHeader, Search.position_append _ _ response.encode offset found] at decoded
    dsimp only at decoded
    rw [List.drop_append_of_le_length window] at decoded
    have early := decodeAfterMagic_noise named _ _ decoded
    rw [List.length_drop] at early
    have lengths := congrArg List.length behind
    rw [List.length_drop, encode_opening] at lengths
    simp only [List.length_append, List.length_cons, List.length_nil] at lengths
    omega

/-- A frame that is found has a payload whose length can be announced. -/
theorem Resyncs.fits (named : response.Named) (resyncs : Resyncs noise response) :
    (Base64.encode response.payload).length < UInt32.size := by
  have absent := resyncs.absent named
  obtain ⟨header, decoded, _⟩ := resyncs
  rw [encode_split, decodeHeader_named noise _ response lineFeed named absent rfl] at decoded
  by_contra large
  rw [if_neg large] at decoded
  exact absurd decoded (by simp)

/-- A frame is found behind noise exactly if the noise does not contain the magic, and the
length of the payload fits into the header.

The header of a frame that is named is found behind noise without the magic, and is accepted if
the length fits. Otherwise the noise is taken for the frame, or the header is refused. -/
theorem frame_found_iff (noise : Bytes) (response : Response) (named : response.Named) :
    Resyncs noise response ↔ ¬ Response.magic <:+: noise ∧
      (Base64.encode response.payload).length < UInt32.size := by
  constructor
  · exact fun resyncs => ⟨resyncs.absent named, resyncs.fits named⟩
  · rintro ⟨absent, fits⟩
    refine ⟨response.headerAt (noise ++ response.header lineFeed).length, ?_, rfl, ?_, rfl, rfl,
      ?_⟩
    · rw [encode_split, decodeHeader_named noise _ response lineFeed named absent rfl, if_pos fits]
    · exact UInt32.toNat_ofNat_of_lt fits
    · rw [encode_split, ← List.append_assoc, Response.headerAt, List.drop_left]

/-- The condition for a banner in front of a page. -/
theorem frame_found_iff_sample : Resyncs (ascii "junk banner text\r") samplePage ↔
    ¬ Response.magic <:+: ascii "junk banner text\r" ∧
      (Base64.encode samplePage.payload).length < UInt32.size :=
  frame_found_iff _ samplePage (by decide)

/-- A banner with a word that starts with the magic. -/
def responseBanner : Bytes := ascii "RESPONSE 2s\r"

/-- A line that tells of a response is a banner. -/
theorem responseBanner_bannerlike : Bannerlike responseBanner := by
  intro offset more header starts
  have refused : decodeHeader responseBanner = .error .invalidResponse := by decide
  have first : offset = 0 := by
    by_contra later
    have short : offset < responseBanner.length := by
      by_contra long
      rw [List.drop_eq_nil_of_le (Nat.le_of_not_lt long)] at starts
      exact absurd starts (by decide)
    have none : ∀ offset < responseBanner.length, offset ≠ 0 →
        ¬ Response.magic <+: responseBanner.drop offset := by decide
    exact none offset short later starts
  subst first
  rw [List.drop_zero, decodeHeader_append _ _ (by rw [refused]; simp), refused]
  simp

/-- Behind that banner, no frame is found. -/
theorem banner_blocks : ¬ ∀ noise response, Bannerlike noise → response.Named →
    Resyncs noise response := by
  intro every
  have resyncs := every responseBanner samplePage responseBanner_bannerlike (by decide)
  exact resyncs.absent (by decide) (by decide)

end Noise

end PacketBrowser.Protocol
