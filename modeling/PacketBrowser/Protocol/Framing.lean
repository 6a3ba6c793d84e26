import PacketBrowser.Protocol.Message

/-!
# Response frames are read back

A response frame is a header and a payload. The header is found behind any
leading bytes that do not contain the magic, whichever of the two line ends
terminates it. The telnet driver of the packet node removes NUL bytes and may
turn a line feed into a carriage return; a frame contains no NUL and only two
line feeds, neither of them inside a field or the payload, so it survives.
-/

namespace PacketBrowser.Protocol

open Foundation

/-- The line end, once found, is not moved by more bytes, nor is the line before it. -/
theorem findIdx_append (fields more : Bytes) (offset : Nat)
    (found : fields.findIdx? lineEnd = some offset) :
    (fields ++ more).findIdx? lineEnd = some offset ∧
      (fields ++ more).take offset = fields.take offset := by
  constructor
  · simp [List.findIdx?_append, found]
  · obtain ⟨inside, _⟩ := List.findIdx?_eq_some_iff_getElem.mp found
    rw [List.take_append_of_le_length (Nat.le_of_lt inside)]

/-- A header that is decided does not depend on what follows. -/
theorem decodeAfterMagic_append (afterMagic : Nat) (data more : Bytes)
    (decided : decodeAfterMagic afterMagic data ≠ .ok none) :
    decodeAfterMagic afterMagic (data ++ more) = decodeAfterMagic afterMagic data := by
  match data with
  | [] => exact absurd rfl decided
  | [_] => exact absurd rfl decided
  | digit :: space :: fields =>
    simp only [List.cons_append, decodeAfterMagic] at decided ⊢
    cases known : statusOfDigit digit with
    | none => rfl
    | some status =>
      by_cases separated : space = 32
      · cases found : fields.findIdx? lineEnd with
        | none => simp [known, separated, found] at decided
        | some offset =>
          obtain ⟨same, line⟩ := findIdx_append fields more offset found
          simp [separated, same, line]
      · simp [separated]

/-- Once a header is found or refused, more bytes change nothing: the first magic,
the end of the line and the line itself stay where they are. -/
theorem decodeHeader_append (data more : Bytes) (decided : decodeHeader data ≠ .ok none) :
    decodeHeader (data ++ more) = decodeHeader data := by
  unfold decodeHeader at decided ⊢
  cases found : Search.position Response.magic data with
  | none => simp [found] at decided
  | some magicPos =>
    have inside := (Search.position_window Response.magic data magicPos found).2
    rw [found] at decided
    rw [Search.position_append Response.magic data more magicPos found]
    dsimp only at decided ⊢
    rw [List.drop_append_of_le_length inside]
    exact decodeAfterMagic_append _ _ more decided

/-- Without the magic there is no header yet. -/
theorem decodeHeader_without_magic (data : Bytes) (absent : ¬ Response.magic <:+: data) :
    decodeHeader data = .ok none := by
  rw [decodeHeader, (Search.position_none_iff _ _).mpr absent]

/-- A character of the base64url alphabet. -/
def base64Url (c : Char) : Bool :=
  ('0' ≤ c && c ≤ '9') || ('A' ≤ c && c ≤ 'Z') || ('a' ≤ c && c ≤ 'z') || c == '-' || c == '_'

/-- The etag is a dash or sixteen base64url characters. -/
abbrev Response.Named (response : Response) : Prop :=
  response.etag = ['-'] ∨ (response.etag.length = 16 ∧ response.etag.all base64Url)

/-- A response whose etag is a dash or sixteen base64url characters and whose
base64 length fits in the announced 32-bit length. -/
structure Response.Valid (response : Response) : Prop where
  etag : response.etag = ['-'] ∨ (response.etag.length = 16 ∧ response.etag.all base64Url)
  fits : (Base64.encode response.payload).length < UInt32.size

instance (response : Response) : Decidable response.Valid :=
  decidable_of_iff ((response.etag = ['-'] ∨
      (response.etag.length = 16 ∧ response.etag.all base64Url)) ∧
    (Base64.encode response.payload).length < UInt32.size)
    ⟨fun ⟨etag, fits⟩ => ⟨etag, fits⟩, fun valid => ⟨valid.etag, valid.fits⟩⟩

/-- The fields of a header line: base64 length, etag and maximal age. -/
def Response.headerLine (response : Response) : Text :=
  Decimal.printNat (Base64.encode response.payload).length ++
    ' ' :: (response.etag ++ ' ' :: Decimal.printInt response.maxAge.toInt)

/-- A frame up to and including the byte that ends its header line. -/
def Response.header (response : Response) (terminator : UInt8) : Bytes :=
  Response.magic ++
    response.status.digit :: 32 :: (Utf8.encode response.headerLine ++ [terminator])

/-- The header a receiver finds, with the payload starting at the given offset. -/
def Response.headerAt (response : Response) (headerEnd : Nat) : Header :=
  ⟨response.status, UInt32.ofNat (Base64.encode response.payload).length, response.etag,
    response.maxAge, headerEnd⟩

/-- A frame is its header and its payload. -/
theorem encode_split (response : Response) :
    response.encode =
      response.header lineFeed ++ (Base64.encode response.payload ++ [lineFeed]) := by
  have space : Utf8.encode [' '] = [32] := by decide
  have line : Utf8.encode response.headerLine =
      Utf8.encode (Decimal.printNat (Base64.encode response.payload).length) ++ [32] ++
        Utf8.encode response.etag ++ [32] ++
        Utf8.encode (Decimal.printInt response.maxAge.toInt) := by
    rw [Response.headerLine, List.append_cons, List.append_cons _ ' ' (Decimal.printInt _)]
    simp only [Utf8.encode_append, space, List.append_assoc]
  rw [Response.encode, Response.header, line]
  simp only [List.append_assoc, List.cons_append, List.nil_append]

/-- A printable ASCII character. -/
def printable (c : Char) : Prop := 0x20 ≤ c.toNat ∧ c.toNat ≤ 0x7E

/-- Digits are visible and no blanks. -/
theorem digit_printable (c : Char) (digit : c.isDigit) : printable c ∧ c ≠ ' ' := by
  rw [Char.isDigit_iff_toNat] at digit
  have zero : '0'.toNat = 48 := rfl
  have nine : '9'.toNat = 57 := rfl
  refine ⟨⟨by omega, by omega⟩, ?_⟩
  rintro rfl
  exact absurd digit.1 (by decide)

/-- The characters of an ETag are visible and no blanks. -/
theorem base64Url_printable (c : Char) (member : base64Url c) : printable c ∧ c ≠ ' ' := by
  constructor
  · simp only [base64Url, Bool.or_eq_true, Bool.and_eq_true, decide_eq_true_eq, beq_iff_eq,
      Char.le_def, UInt32.le_iff_toNat_le] at member
    have codes : '0'.val.toNat = 48 ∧ '9'.val.toNat = 57 ∧ 'A'.val.toNat = 65 ∧
        'Z'.val.toNat = 90 ∧ 'a'.val.toNat = 97 ∧ 'z'.val.toNat = 122 := by decide
    have same : c.toNat = c.val.toNat := rfl
    rcases member with (((digit | upper) | lower) | rfl) | rfl
    · exact ⟨by omega, by omega⟩
    · exact ⟨by omega, by omega⟩
    · exact ⟨by omega, by omega⟩
    · exact ⟨by decide, by decide⟩
    · exact ⟨by decide, by decide⟩
  · rintro rfl
    exact absurd member (by decide)

/-- Every character of an etag is printable and not a space. -/
theorem etag_printable (response : Response) (named : response.Named) (c : Char)
    (member : c ∈ response.etag) : printable c ∧ c ≠ ' ' := by
  rcases named with dash | ⟨_, every⟩
  · rw [dash, List.mem_singleton] at member
    subst member
    exact ⟨⟨by decide, by decide⟩, by decide⟩
  · exact base64Url_printable c (List.all_eq_true.mp every c member)

/-- A printed number has only characters that are visible and no blanks. -/
theorem number_printable (value : Int) (c : Char) (member : c ∈ Decimal.printInt value) :
    printable c ∧ c ≠ ' ' := by
  rcases Decimal.print_int_char value c member with digit | rfl
  · exact digit_printable c digit
  · exact ⟨⟨by decide, by decide⟩, by decide⟩

/-- Every character of a header line is printable. -/
theorem headerLine_printable (response : Response) (named : response.Named) (c : Char)
    (member : c ∈ response.headerLine) : printable c := by
  simp only [Response.headerLine, List.mem_append, List.mem_cons] at member
  rcases member with length | rfl | etag | rfl | age
  · exact (digit_printable c (Decimal.print_digit _ c length)).1
  · exact ⟨by decide, by decide⟩
  · exact (etag_printable response named c etag).1
  · exact ⟨by decide, by decide⟩
  · exact (number_printable _ c age).1

/-- A printable ASCII byte. -/
def printableByte (b : UInt8) : Prop := 0x20 ≤ b.toNat ∧ b.toNat ≤ 0x7E

/-- A printable text has only printable bytes. -/
theorem encode_printable (text : Text) (every : ∀ c ∈ text, printable c) (b : UInt8)
    (member : b ∈ Utf8.encode text) : printableByte b := by
  have short : ∀ c ∈ text, c.toNat < 0x80 := fun c inside => by
    have upper := (every c inside).2
    omega
  obtain ⟨c, inside, code⟩ := Utf8.char_of_mem text short b member
  rw [printableByte, ← code]
  exact every c inside

/-- Every byte of a header before its terminator is printable. -/
theorem header_printable (response : Response) (valid : response.Valid) (b : UInt8)
    (member : b ∈ Response.magic ++
      response.status.digit :: 32 :: Utf8.encode response.headerLine) : printableByte b := by
  simp only [List.mem_append, List.mem_cons] at member
  rcases member with magic | rfl | rfl | line
  · have every : ∀ d ∈ Response.magic, 0x20 ≤ d.toNat ∧ d.toNat ≤ 0x7E := by decide +kernel
    exact every b magic
  · cases response.status <;> exact ⟨by decide, by decide⟩
  · exact ⟨by decide, by decide⟩
  · exact encode_printable _ (headerLine_printable response valid.etag) b line

/-- Every byte of base64 text is printable. -/
theorem payload_printable (payload : Bytes) (b : UInt8) (member : b ∈ Base64.encode payload) :
    printableByte b := by
  have bounds := Base64.alphabet_bounds b (Base64.encode_alphabet payload b member)
  exact ⟨by omega, by omega⟩

/-- The bytes of the characters of an ETag are such bytes. -/
theorem etagByte_char (c : Char) (member : base64Url c) : etagByte (UInt8.ofNat c.toNat) := by
  simp only [base64Url, Bool.or_eq_true, Bool.and_eq_true, decide_eq_true_eq, beq_iff_eq,
    Char.le_def, UInt32.le_iff_toNat_le] at member
  have small : c.toNat < 256 := by
    have upper := (base64Url_printable c (by
      simpa only [base64Url, Bool.or_eq_true, Bool.and_eq_true, decide_eq_true_eq, beq_iff_eq,
        Char.le_def, UInt32.le_iff_toNat_le] using member)).1.2
    omega
  have byte := Utf8.toNat_ofNat_byte c.toNat small
  have codes : '0'.val.toNat = 48 ∧ '9'.val.toNat = 57 ∧ 'A'.val.toNat = 65 ∧
      'Z'.val.toNat = 90 ∧ 'a'.val.toNat = 97 ∧ 'z'.val.toNat = 122 := by decide
  have same : c.toNat = c.val.toNat := rfl
  have bounds : (48 : UInt8).toNat = 48 ∧ (57 : UInt8).toNat = 57 ∧ (65 : UInt8).toNat = 65 ∧
      (90 : UInt8).toNat = 90 ∧ (97 : UInt8).toNat = 97 ∧ (122 : UInt8).toNat = 122 := by decide
  simp only [etagByte, Bool.or_eq_true, Bool.and_eq_true, decide_eq_true_eq, beq_iff_eq,
    UInt8.le_iff_toNat_le, byte]
  rcases member with (((digit | upper) | lower) | rfl) | rfl
  · exact Or.inl (Or.inl (Or.inl (Or.inl (by omega))))
  · exact Or.inl (Or.inl (Or.inl (Or.inr (by omega))))
  · exact Or.inl (Or.inl (Or.inr (by omega)))
  · exact Or.inl (Or.inr rfl)
  · exact Or.inr rfl

/-- The receiver accepts the etag. -/
theorem validEtag_of_named (response : Response) (named : response.Named) :
    validEtag response.etag = true := by
  have short : ∀ c ∈ response.etag, c.toNat < 0x80 := fun c member => by
    have upper := (etag_printable response named c member).1.2
    omega
  rcases named with dash | ⟨sixteen, every⟩
  · simp [validEtag, dash]
  · have bytes := Utf8.encode_ascii response.etag short
    have all : (response.etag.map fun c => UInt8.ofNat c.toNat).all etagByte = true := by
      simp only [List.all_map, List.all_eq_true, Function.comp_apply]
      intro c member
      exact etagByte_char c (List.all_eq_true.mp every c member)
    simp [validEtag, bytes, sixteen, all]

/-- No field of a header line contains the space between them. -/
theorem headerLine_split {response : Response} (named : response.Named) :
    response.headerLine.splitOn ' ' =
      [Decimal.printNat (Base64.encode response.payload).length, response.etag,
        Decimal.printInt response.maxAge.toInt] := by
  rw [Response.headerLine, List.splitOn_append_cons_self_of_not_mem,
    List.splitOn_append_cons_self_of_not_mem, List.splitOn_eq_singleton]
  · exact fun inside => (number_printable _ ' ' inside).2 rfl
  · exact fun inside => (etag_printable response named ' ' inside).2 rfl
  · exact fun inside => (digit_printable ' ' (Decimal.print_digit _ ' ' inside)).2 rfl

/-- The fields of a header line are read back if the length is a 32-bit number. -/
theorem decodeFields_headerLine (response : Response) (named : response.Named) (headerEnd : Nat) :
    decodeFields response.status headerEnd response.headerLine =
      if (Base64.encode response.payload).length < UInt32.size then
        .ok (response.headerAt headerEnd) else .error .invalidResponse := by
  have age : Decimal.parseSigned 2147483648 (Decimal.printInt response.maxAge.toInt) =
      some response.maxAge.toInt :=
    Decimal.parse_print_signed _ _ response.maxAge.le_toInt response.maxAge.toInt_lt
  simp only [decodeFields, headerLine_split named, validEtag_of_named response named,
    not_true_eq_false, if_false, Decimal.parse_print]
  by_cases fits : (Base64.encode response.payload).length < UInt32.size
  · simp only [if_pos fits, age, Int32.ofInt_toInt, Response.headerAt]
  · simp only [if_neg fits]

/-- A line ends with a line feed or a carriage return. -/
theorem lineEnd_iff (b : UInt8) : lineEnd b = true ↔ b = lineFeed ∨ b = carriageReturn := by
  simp [lineEnd]

/-- No printable byte ends a line. -/
theorem printableByte_not_lineEnd (b : UInt8) (plain : printableByte b) : lineEnd b = false := by
  rw [← Bool.not_eq_true, lineEnd_iff]
  rintro (rfl | rfl)
  · exact absurd plain.1 (by decide)
  · exact absurd plain.1 (by decide)

/-- The line ends at its terminator. -/
theorem findIdx_terminator (line rest : Bytes) (terminator : UInt8)
    (plain : ∀ b ∈ line, printableByte b) (ends : lineEnd terminator) :
    (line ++ terminator :: rest).findIdx? lineEnd = some line.length := by
  have absent : line.findIdx? lineEnd = none :=
    List.findIdx?_eq_none_iff.mpr fun b member => printableByte_not_lineEnd b (plain b member)
  simp [List.findIdx?_append, List.findIdx?_cons, absent, ends]

/-- The digit of a status is read back. -/
theorem statusOfDigit_digit (status : Status) : statusOfDigit status.digit = some status := by
  cases status <;> rfl

/-- A header is found behind leading bytes without the magic, whatever follows, and is
rejected if the length is too large. -/
theorem decodeHeader_named (noise rest : Bytes) (response : Response) (terminator : UInt8)
    (named : response.Named) (absent : ¬ Response.magic <:+: noise) (ends : lineEnd terminator) :
    decodeHeader (noise ++ (response.header terminator ++ rest)) =
      if (Base64.encode response.payload).length < UInt32.size then
        .ok (some (response.headerAt (noise ++ response.header terminator).length))
      else .error .invalidResponse := by
  have placed : noise ++ (response.header terminator ++ rest) =
      noise ++ (Response.magic ++ (response.status.digit :: 32 ::
        (Utf8.encode response.headerLine ++ terminator :: rest))) := by
    simp [Response.header]
  have found : Search.position Response.magic (noise ++ (response.header terminator ++ rest)) =
      some noise.length := by
    rw [placed]
    exact Search.position_placed _ noise _ (by decide) (by decide) absent
  have behind : (noise ++ (response.header terminator ++ rest)).drop
      (noise.length + Response.magic.length) = response.status.digit :: 32 ::
        (Utf8.encode response.headerLine ++ terminator :: rest) := by
    rw [placed, ← List.append_assoc, ← List.length_append, List.drop_left]
  have line : (Utf8.encode response.headerLine ++ terminator :: rest).findIdx? lineEnd =
      some (Utf8.encode response.headerLine).length :=
    findIdx_terminator _ rest terminator
      (encode_printable _ (headerLine_printable response named)) ends
  have size : (noise ++ response.header terminator).length =
      noise.length + Response.magic.length + 2 + (Utf8.encode response.headerLine).length + 1 := by
    simp only [Response.header, List.length_append, List.length_cons, List.length_nil]
    omega
  simp only [decodeHeader, found, behind, decodeAfterMagic, statusOfDigit_digit, ne_eq,
    not_true_eq_false, if_false, line, List.take_left, Utf8.decode_encode,
    decodeFields_headerLine response named, size]
  split <;> rfl

/-- A header behind noise without the magic is found, with its place. -/
theorem decodeHeader_header (noise rest : Bytes) (response : Response) (terminator : UInt8)
    (valid : response.Valid) (absent : ¬ Response.magic <:+: noise) (ends : lineEnd terminator) :
    decodeHeader (noise ++ (response.header terminator ++ rest)) =
      .ok (some (response.headerAt (noise ++ response.header terminator).length)) := by
  rw [decodeHeader_named noise rest response terminator valid.etag absent ends, if_pos valid.fits]

/-- The payload of a frame is read back. -/
theorem decodePayload_encode (payload : Bytes) :
    decodePayload (Base64.encode payload) = .ok payload := by
  rw [decodePayload, Base64.decode_encode]

/-- A node's telnet driver: NUL bytes disappear, and the given choice decides for
each line feed, by its offset, whether it becomes a carriage return. -/
def telnetDriver (rewrite : Nat → Bool) : Bytes → Bytes
  | [] => []
  | b :: rest =>
    let later := telnetDriver (fun offset => rewrite (offset + 1)) rest
    if b = 0 then later
    else if b = lineFeed then (if rewrite 0 then carriageReturn else lineFeed) :: later
    else b :: later

/-- The driver leaves printable bytes as they are. -/
theorem telnetDriver_printable (rewrite : Nat → Bool) (plain rest : Bytes)
    (every : ∀ b ∈ plain, printableByte b) :
    telnetDriver rewrite (plain ++ rest) =
      plain ++ telnetDriver (fun offset => rewrite (offset + plain.length)) rest := by
  induction plain generalizing rewrite with
  | nil => rfl
  | cons b plain inductionHypothesis =>
    have byte := every b List.mem_cons_self
    have notNul : b ≠ 0 := by
      rintro rfl
      exact absurd byte.1 (by decide)
    have notLineFeed : b ≠ lineFeed := by
      rintro rfl
      exact absurd byte.1 (by decide)
    have later := inductionHypothesis (fun offset => rewrite (offset + 1))
      fun d member => every d (List.mem_cons_of_mem b member)
    simp only [List.cons_append, telnetDriver, notNul, notLineFeed, if_false, later,
      List.length_cons, Nat.add_assoc]

/-- A line feed becomes one of the two line ends. -/
theorem telnetDriver_lineFeed (rewrite : Nat → Bool) (rest : Bytes) :
    ∃ terminator, lineEnd terminator = true ∧
      telnetDriver rewrite (lineFeed :: rest) =
        terminator :: telnetDriver (fun offset => rewrite (offset + 1)) rest := by
  refine ⟨if rewrite 0 then carriageReturn else lineFeed, ?_, rfl⟩
  cases rewrite 0 <;> rfl

/-- Behind the driver a frame still is a header and its payload; only the two
line ends may differ. -/
theorem telnetDriver_encode (rewrite : Nat → Bool) (response : Response)
    (valid : response.Valid) :
    ∃ terminator final, lineEnd terminator = true ∧
      telnetDriver rewrite response.encode =
        response.header terminator ++ (Base64.encode response.payload ++ [final]) := by
  have front := header_printable response valid
  have body := payload_printable response.payload
  obtain ⟨terminator, ends, first⟩ := telnetDriver_lineFeed
    (fun offset => rewrite (offset + (Response.magic ++ response.status.digit :: 32 ::
      Utf8.encode response.headerLine).length)) (Base64.encode response.payload ++ [lineFeed])
  obtain ⟨final, _, last⟩ := telnetDriver_lineFeed
    (fun offset => rewrite (offset + (Base64.encode response.payload).length + 1 +
      (Response.magic ++ response.status.digit :: 32 ::
        Utf8.encode response.headerLine).length)) []
  refine ⟨terminator, final, ends, ?_⟩
  have split : response.encode = (Response.magic ++ response.status.digit :: 32 ::
      Utf8.encode response.headerLine) ++ lineFeed ::
        (Base64.encode response.payload ++ [lineFeed]) := by
    simp [encode_split, Response.header]
  rw [split, telnetDriver_printable rewrite _ _ front, first,
    telnetDriver_printable _ _ _ body, last]
  simp [Response.header, telnetDriver]

/-- A frame consists of line feeds and printable bytes, and its header and its
payload are read back behind every telnet driver.

Behind any driver the frame is the same but for its line ends, and decoding takes any of these.
The bytes are those of the header, of base64 and of the two line ends. -/
theorem response_round_trip (response : Response) (valid : response.Valid) :
    (∀ b ∈ response.encode, b = lineFeed ∨ (0x20 ≤ b.toNat ∧ b.toNat ≤ 0x7E)) ∧
    ∀ rewrite : Nat → Bool, ∃ headerEnd,
      decodeHeader (telnetDriver rewrite response.encode) =
        .ok (some ⟨response.status, UInt32.ofNat (Base64.encode response.payload).length,
          response.etag, response.maxAge, headerEnd⟩) ∧
      (UInt32.ofNat (Base64.encode response.payload).length).toNat =
        (Base64.encode response.payload).length ∧
      decodePayload (((telnetDriver rewrite response.encode).drop headerEnd).take
        (Base64.encode response.payload).length) = .ok response.payload := by
  constructor
  · intro b member
    rw [encode_split, Response.header] at member
    simp only [List.mem_append, List.mem_cons, List.not_mem_nil, or_false] at member
    rcases member with (magic | digit | space | line | rfl) | payload | rfl
    · exact Or.inr (header_printable response valid b (by simp [magic]))
    · exact Or.inr (header_printable response valid b (by simp [digit]))
    · exact Or.inr (header_printable response valid b (by simp [space]))
    · exact Or.inr (header_printable response valid b (by simp [line]))
    · exact Or.inl rfl
    · exact Or.inr (payload_printable _ b payload)
    · exact Or.inl rfl
  · intro rewrite
    obtain ⟨terminator, final, ends, wire⟩ := telnetDriver_encode rewrite response valid
    refine ⟨(response.header terminator).length, ?_, ?_, ?_⟩
    · rw [wire]
      exact decodeHeader_header [] _ response terminator valid (by decide) ends
    · exact UInt32.toNat_ofNat_of_lt' valid.fits
    · rw [wire, List.drop_left, List.take_left, decodePayload_encode]

/-- A small page that the server does not want to be kept for long. -/
def samplePage : Response := ⟨.ok, ['-'], 60, [1, 2, 255]⟩

/-- The round trip of a small page whose line feeds all become carriage returns. -/
theorem response_round_trip_sample :
    ∃ headerEnd, decodeHeader (telnetDriver (fun _ => true) samplePage.encode) =
      .ok (some ⟨.ok, 4, ['-'], 60, headerEnd⟩) ∧
      decodePayload (((telnetDriver (fun _ => true) samplePage.encode).drop headerEnd).take 4) =
        .ok [1, 2, 255] := by
  obtain ⟨headerEnd, found, _, payload⟩ :=
    (response_round_trip samplePage (by decide)).2 fun _ => true
  exact ⟨headerEnd, found, payload⟩

section Openings

variable {response other : Response}

/-- A frame up to the end of its header line. -/
def Response.opening (response : Response) : Bytes :=
  Response.magic ++ response.status.digit :: Utf8.encode (' ' :: response.headerLine)

/-- A frame is its opening, a line feed, the payload in Base64 and another line feed. -/
theorem encode_opening (response : Response) : response.encode =
    response.opening ++ lineFeed :: (Base64.encode response.payload ++ [lineFeed]) := by
  have space : Utf8.encode [' '] = [32] := by decide
  have line : Utf8.encode (' ' :: response.headerLine) = 32 :: Utf8.encode response.headerLine := by
    rw [← List.singleton_append, Utf8.encode_append, space]
    rfl
  rw [encode_split, Response.header, Response.opening, line]
  simp

/-- The opening of a frame can be printed. -/
theorem opening_printable (named : response.Named) :
    ∀ b ∈ response.opening, printableByte b := by
  have letters : ∀ b ∈ Response.magic, printableByte b := by
    unfold printableByte
    decide +kernel
  have digit : printableByte response.status.digit := by
    unfold printableByte
    cases response.status <;> decide
  intro b member
  rcases List.mem_append.mp member with letter | behind
  · exact letters b letter
  · rcases List.mem_cons.mp behind with rfl | field
    · exact digit
    · apply encode_printable _ _ b field
      intro c inside
      rcases List.mem_cons.mp inside with rfl | inLine
      · exact ⟨by decide, by decide⟩
      · exact headerLine_printable response named c inLine

/-- Frames with the same bytes have the same status and the same age. -/
theorem encode_announces (named : response.Named) (named' : other.Named)
    (same : response.encode = other.encode) :
    response.status = other.status ∧ response.maxAge = other.maxAge := by
  have before : ∀ frame : Response, frame.Named →
      frame.encode.takeWhile (· != lineFeed) = frame.opening := by
    intro frame named
    rw [encode_opening, List.takeWhile_append_of_pos, List.takeWhile_cons_of_neg, List.append_nil]
    · simp
    · intro b member
      have printed := opening_printable named b member
      rw [bne_iff_ne]
      rintro rfl
      exact absurd printed.1 (by decide)
  have opening : response.opening = other.opening := by
    rw [← before response named, same, before other named']
  obtain ⟨digit, line⟩ := List.cons.inj (List.append_cancel_left opening)
  constructor
  · cases status : response.status <;> cases status' : other.status <;>
      first | rfl | exact absurd (status ▸ status' ▸ digit) (by decide)
  · have text := congrArg Utf8.decode line
    rw [Utf8.decode_encode, Utf8.decode_encode] at text
    have fields := congrArg (List.splitOn ' ') (List.cons.inj (Option.some.inj text)).2
    rw [headerLine_split named, headerLine_split named'] at fields
    have printed : Decimal.printInt response.maxAge.toInt = Decimal.printInt other.maxAge.toInt := by
      simpa using (List.cons.inj (List.cons.inj fields).2).2
    have read : ∀ age : Int32, Decimal.parseSigned 2147483648 (Decimal.printInt age.toInt) =
        some age.toInt := fun age => Decimal.parse_print_signed _ _ age.le_toInt age.toInt_lt
    have equal := congrArg (Decimal.parseSigned 2147483648) printed
    rw [read, read] at equal
    exact Int32.toInt_inj.mp (Option.some.inj equal)

end Openings

end PacketBrowser.Protocol
