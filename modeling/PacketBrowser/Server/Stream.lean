import PacketBrowser.Protocol.Framing
import PacketBrowser.Server.Readable

/-!
# Streams of requests

Requests written one after the other are read back one after the other, however the
bytes arrive. A driver that deletes NUL bytes leaves the requests of pages alone, but
never a POST: its length always has a NUL byte.
-/

namespace PacketBrowser.Server

open Foundation Protocol

/-- Successive calls of `readRequest`, each with a deadline of its own. -/
def readRequests : List Nat → Reader → List (Except IoError (Option Request)) × Reader
  | [], r => ([], r)
  | deadline :: deadlines, r =>
    let (result, next) := readRequest deadline r
    let (results, last) := readRequests deadlines next
    (result :: results, last)

/-- The URL of a request. -/
def urlOf : Request → Text
  | .get url _ => url
  | .post url _ => url

/-- A request with a URL without white space, an etag as the server makes them, and no
more bytes than the server accepts. -/
structure WellFormed (request : Request) : Prop where
  nonempty : urlOf request ≠ []
  solid : ∀ c ∈ urlOf request, Text.whitespace c = false
  etag : ∀ url etag, request = .get url (some etag) → etag.length = 16 ∧ etag.all base64Url
  line : Utf8.byteLength (firstLine request) ≤ maxLineLength
  body : ∀ url body, request = .post url body → body.length ≤ maxBodySize

/-- What is left of bytes when the NUL bytes are deleted. -/
def deleteNul (bytes : Bytes) : Bytes := bytes.filter (· != 0)

section Decode

variable (request : Request)

/-- Both readers agree on what stands behind `GET `. -/
theorem decodeGetLine_of_readGet {rest : Text} {parsed : Request}
    (read : readGet rest = .ok parsed) : decodeGetLine rest = parsed := by
  unfold readGet at read
  unfold decodeGetLine
  by_cases empty : rest = []
  · exact absurd read (by simp [empty])
  · rw [if_neg empty] at read
    cases found : Search.splitOnce ifNoneMatchSentinel rest with
    | none =>
      simp only [found] at read ⊢
      exact Except.ok.inj read
    | some parts =>
      simp only [found] at read ⊢
      exact Except.ok.inj read

/-- A first line behind its word, up to the line feed. -/
theorem cut_line (word line rest : Bytes) (fresh : lineFeed ∉ line) :
    ((word ++ (line ++ lineFeed :: rest)).drop word.length).findIdx? (· == lineFeed) =
        some line.length ∧
      ((word ++ (line ++ lineFeed :: rest)).drop word.length).take line.length = line ∧
      (word ++ (line ++ lineFeed :: rest)).drop (word.length + line.length + 1) = rest := by
  rw [List.drop_left]
  refine ⟨Search.findIdx_split lineFeed line rest fresh, List.take_left, ?_⟩
  rw [Nat.add_assoc, ← List.drop_drop, List.drop_left, ← List.drop_drop, List.drop_left]
  rfl

/-- The reader of a whole request agrees with the server on readable requests. -/
theorem decode_of_readable (readable : Readable request) :
    Request.decode request.encode = .ok request := by
  have unbroken : ∀ line : Text, '\n' ∉ line → lineFeed ∉ Utf8.encode line := fun line absent member =>
    absent ((Utf8.mem_encode_iff _ '\n' (by decide)).mp member)
  have unambiguous := readable.unambiguous
  have oneLine := readable.oneLine
  cases request with
  | get url ifNoneMatch =>
    obtain ⟨line, split⟩ : ∃ line, firstLine (.get url ifNoneMatch) = getWord ++ line := by
      cases ifNoneMatch <;> exact ⟨_, rfl⟩
    have behind : (firstLine (.get url ifNoneMatch)).drop 4 = line := by
      rw [split]
      rfl
    have wire : (Request.get url ifNoneMatch).encode =
        ascii "GET " ++ (Utf8.encode line ++ lineFeed :: []) := by
      rw [encode_firstLine, split, Utf8.encode_append, List.append_assoc]
      rfl
    have fresh := unbroken line fun member => oneLine (by rw [split]; simp [member])
    obtain ⟨found, taken, _⟩ := cut_line (ascii "GET ") (Utf8.encode line) [] fresh
    have get : (ascii "GET ").isPrefixOf (Request.get url ifNoneMatch).encode = true := by
      rw [wire, List.isPrefixOf_iff_prefix]
      exact List.prefix_append _ _
    have nonempty : (Request.get url ifNoneMatch).encode ≠ [] := by
      rw [wire]
      simp
    have read : readGet line = .ok (.get url ifNoneMatch) := by
      rw [← behind]
      exact (readGet_iff url ifNoneMatch (get_nonempty readable.trimmed)).mpr unambiguous
    unfold Request.decode
    rw [if_neg nonempty, if_pos get, wire]
    have four : (ascii "GET ").length = 4 := rfl
    rw [four] at found taken
    simp only [found, taken, Utf8.decode_encode, decodeGetLine_of_readGet read]
  | post url body =>
    let behind := toBeBytes (UInt32.ofNat body.length) ++ body
    have wire : (Request.post url body).encode =
        ascii "POST " ++ (Utf8.encode url ++ lineFeed :: behind) := by
      rw [encode_firstLine, firstLine, Utf8.encode_append, List.append_assoc]
      rfl
    have fresh := unbroken url fun member => oneLine (by simp [firstLine, member])
    obtain ⟨found, taken, left⟩ := cut_line (ascii "POST ") (Utf8.encode url) behind fresh
    have noGet : ¬ (ascii "GET ").isPrefixOf (Request.post url body).encode = true := by
      rw [wire, List.isPrefixOf_iff_prefix]
      rintro ⟨more, same⟩
      exact absurd (List.cons.inj same).1 (by decide)
    have post : (ascii "POST ").isPrefixOf (Request.post url body).encode = true := by
      rw [wire, List.isPrefixOf_iff_prefix]
      exact List.prefix_append _ _
    have nonempty : (Request.post url body).encode ≠ [] := by
      rw [wire]
      simp
    have long : ¬ behind.length < 4 := by
      simp only [behind, List.length_append, length_toBeBytes]
      omega
    have whole : ¬ behind.length < 4 + body.length := by
      simp only [behind, List.length_append, length_toBeBytes]
      omega
    have length : fromBeBytes (behind.take 4) = body.length := by
      rw [List.take_left' (length_toBeBytes _)]
      exact announced_length body unambiguous
    have kept : (behind.drop 4).take body.length = body := by
      rw [List.drop_left' (length_toBeBytes _), List.take_length]
    unfold Request.decode
    rw [if_neg nonempty, if_neg noGet, if_pos post, wire]
    have five : (ascii "POST ").length = 5 := rfl
    rw [five] at found taken left
    simp only [found, taken, left, Utf8.decode_encode, length, kept, long, whole, if_false]

end Decode

section WellFormed

/-- The characters of an ETag are no white space. -/
theorem etag_visible (c : Char) (member : base64Url c) : Text.whitespace c = false := by
  obtain ⟨⟨low, high⟩, notSpace⟩ := base64Url_printable c member
  have different : c.toNat ≠ 0x20 := fun same => notSpace (Char.toNat_inj.mp same)
  simp only [Text.whitespace, Bool.or_eq_false_iff, Bool.and_eq_false_iff, decide_eq_false_iff_not,
    beq_eq_false_iff_ne, ne_eq]
  omega

/-- The separator has two spaces, and a URL without white space has none. -/
theorem separator_absent (url : Text) (solid : ∀ c ∈ url, Text.whitespace c = false) :
    ¬ ifNoneMatchSentinel <:+: url ++ ifNoneMatchSentinel.dropLast := by
  intro inside
  have none : url.count ' ' = 0 := by
    apply List.count_eq_zero.mpr
    intro member
    exact absurd (solid ' ' member) (by decide)
  have counts := inside.sublist.count_le ' '
  rw [List.count_append, none] at counts
  exact absurd counts (by decide)

/-- A first line does not end with white space if what it ends with has none. -/
theorem last_visible {front back : Text} (some : back ≠ [])
    (visible : ∀ c ∈ back, Text.whitespace c = false) :
    ∀ c ∈ (front ++ back).getLast?, Text.whitespace c = false := by
  intro c member
  rw [List.getLast?_append_of_ne_nil _ some] at member
  exact visible c (List.mem_of_getLast? member)

/-- A conditional request with an etag as the server makes them, of any URL without white
space that fits. -/
theorem readable_conditional {url etag : Text} (solid : ∀ c ∈ url, Text.whitespace c = false)
    (sixteen : etag.length = 16) (every : etag.all base64Url)
    (line : Utf8.byteLength (firstLine (.get url (some etag))) ≤ maxLineLength) :
    Readable (.get url (some etag)) := by
  have visible : ∀ c ∈ etag, Text.whitespace c = false := fun c member =>
    etag_visible c (List.all_eq_true.mp every c member)
  have some : etag ≠ [] := by
    rintro rfl
    exact absurd sixteen (by decide)
  refine ⟨?_, line, ?_, separator_absent url solid⟩
  · intro member
    simp only [firstLine, List.mem_append] at member
    rcases member with word | address | separator | tag
    · exact absurd word (by decide)
    · exact absurd (solid '\n' address) (by decide)
    · exact absurd separator (by decide)
    · exact absurd (visible '\n' tag) (by decide)
  · rw [firstLine, ← List.append_assoc, ← List.append_assoc]
    exact last_visible some visible

/-- What is well formed can be read. -/
theorem readable_of_wellFormed {request : Request} (formed : WellFormed request) :
    Readable request := by
  obtain ⟨nonempty, solid, etag, line, body⟩ := formed
  have unbroken : '\n' ∉ urlOf request := fun member => absurd (solid '\n' member) (by decide)
  rcases request with ⟨url, _ | etag'⟩ | ⟨url, content⟩
  · refine ⟨?_, line, last_visible nonempty solid, fun inside => ?_⟩
    · have word : '\n' ∉ getWord := by decide
      exact fun member => (List.mem_append.mp member).elim word unbroken
    · exact separator_absent url solid (inside.trans (List.prefix_append _ _).isInfix)
  · obtain ⟨sixteen, every⟩ := etag url etag' rfl
    exact readable_conditional solid sixteen every line
  · refine ⟨?_, line, last_visible nonempty solid, body url content rfl⟩
    have word : '\n' ∉ postWord := by decide
    exact fun member => (List.mem_append.mp member).elim word unbroken

/-- One readable request in front of others. -/
theorem readRequest_next {deadline : Nat} {r : Reader} {request : Request} {rest : Bytes}
    (calm : Undisturbed deadline r) (readable : Readable request)
    (sent : r.pending = request.encode ++ rest) :
    ∃ later, readRequest deadline r = (.ok (some request), later) ∧ later.pending = rest ∧
      r.Later later :=
  readRequest_of calm (sent ▸ parses_of_readable request rest readable)

/-- Readable requests are read one after the other. The induction is on the requests. -/
theorem readRequests_readable (requests : List Request) (deadlines : List Nat)
    (every : ∀ request ∈ requests, Readable request)
    (calls : deadlines.length = requests.length + 1) (r : Reader) (steady : r.steady = true)
    (closes : r.closes = true) (early : ∀ deadline ∈ deadlines, r.horizon < deadline)
    (sent : r.pending = requests.flatMap Request.encode) :
    (readRequests deadlines r).1 = requests.map (fun request => .ok (some request)) ++ [.ok none] := by
  induction requests generalizing deadlines r with
  | nil =>
    obtain ⟨deadline, rfl⟩ := List.length_eq_one_iff.mp calls
    have finished := readRequest_end ⟨steady, early deadline (by simp)⟩ sent closes
    simp [readRequests, finished]
  | cons request requests inductionHypothesis =>
    cases deadlines with
    | nil => exact absurd calls (by simp)
    | cons deadline deadlines =>
      rw [List.flatMap_cons] at sent
      obtain ⟨later, read, rest, follows⟩ := readRequest_next
        ⟨steady, early deadline List.mem_cons_self⟩ (every request List.mem_cons_self) sent
      have others := inductionHypothesis deadlines
        (fun other member => every other (List.mem_cons_of_mem _ member)) (Nat.succ.inj calls) later
        (follows.steady steady) (follows.closes.trans closes)
        (fun other member => follows.horizon ▸ early other (List.mem_cons_of_mem _ member)) rest
      simp only [readRequests, read, others, List.map_cons, List.cons_append]

/-- Well-formed requests are read back in order, whatever the arrivals before the
deadlines, and then the end of the input; and each of them is decoded on its own.

Well-formed requests are readable, and readable requests are taken off the input one after the
other, by induction on them. -/
theorem requests_read_in_order (requests : List Request) (deadlines : List Nat)
    (formed : ∀ request ∈ requests, WellFormed request)
    (calls : deadlines.length = requests.length + 1) (r : Reader) (steady : r.steady = true)
    (closes : r.closes = true) (early : ∀ deadline ∈ deadlines, r.horizon < deadline)
    (sent : r.pending = requests.flatMap Request.encode) :
    (readRequests deadlines r).1 =
        requests.map (fun request => .ok (some request)) ++ [.ok none] ∧
      ∀ request ∈ requests, Request.decode request.encode = .ok request := by
  have readable : ∀ request ∈ requests, Readable request := fun request member =>
    readable_of_wellFormed (formed request member)
  constructor
  · exact readRequests_readable requests deadlines readable calls r steady closes early sent
  · exact fun request member => decode_of_readable request (readable request member)

/-- A page and a POST, cut in the middle of the length. -/
theorem requests_read_in_order_sample :
    let requests : List Request := [.get "a".toList none, .post "b".toList [0, 10]]
    let r : Reader := ⟨[], [⟨1, .bytes 71 [69, 84, 32, 97, 10, 80, 79]⟩, ⟨30, .wakeup⟩,
      ⟨1, .bytes 83 [84, 32, 98, 10, 0, 0]⟩, ⟨30, .wakeup⟩, ⟨2, .bytes 0 [2, 0, 10]⟩, ⟨0, .closed⟩], 0⟩
    (readRequests [100, 100, 100] r).1 =
        requests.map (fun request => .ok (some request)) ++ [.ok none] ∧
      ∀ request ∈ requests, Request.decode request.encode = .ok request := by
  intro requests r
  refine requests_read_in_order requests [100, 100, 100] ?_ rfl r (by decide) (by decide)
    (by decide) (by decide)
  intro request member
  rcases List.mem_cons.mp member with rfl | member
  · exact ⟨by decide, List.all_iff_forall_prop.mp (by decide), by simp, by decide, by simp⟩
  · obtain rfl := List.mem_singleton.mp member
    refine ⟨by decide, List.all_iff_forall_prop.mp (by decide), by simp, by decide, ?_⟩
    rintro url body same
    obtain ⟨_, rfl⟩ := Request.post.inj same
    decide

end WellFormed

section Driver

/-- On the wire without NUL bytes, a first line has no NUL characters. -/
theorem deleteNul_encode (request : Request) : deleteNul request.encode =
    Utf8.encode ((firstLine request).filter (· != '\x00')) ++
      lineFeed :: deleteNul (behindLine request) := by
  have deleted := Utf8.encode_filter (firstLine request) '\x00' (by decide)
  have feed : ∀ rest : Bytes, deleteNul (lineFeed :: rest) = lineFeed :: deleteNul rest :=
    fun rest => rfl
  rw [encode_firstLine, deleteNul, List.filter_append, ← deleteNul, ← deleteNul, feed]
  congr 1

/-- The first length byte of an accepted body is NUL. -/
theorem length_has_nul (body : Bytes) (fits : body.length ≤ maxBodySize) :
    0 ∈ toBeBytes (UInt32.ofNat body.length) := by
  have small : body.length < UInt32.size := Nat.lt_of_le_of_lt fits (by decide)
  have high : (UInt32.ofNat body.length >>> 24).toUInt8 = 0 := by
    apply UInt8.toNat_inj.mp
    rw [UInt32.toNat_toUInt8, UInt32.toNat_shiftRight, UInt32.toNat_ofNat_of_lt' small,
      Nat.shiftRight_eq_div_pow]
    simp only [maxBodySize, UInt32.reduceToNat, Nat.reduceMod, Nat.reducePow, UInt8.toNat_ofNat] at fits ⊢
    omega
  rw [toBeBytes, high]
  exact List.mem_cons_self

/-- A POST without its NUL bytes has not enough bytes behind its first line. -/
theorem post_cut_short {url : Text} {body rest : Bytes}
    (fits : body.length ≤ maxBodySize) :
    ¬ Behind (.post url body) (deleteNul (behindLine (.post url body)) ++ rest) rest := by
  rintro ⟨length, four, split⟩
  have counted := congrArg List.length split
  simp only [List.length_append, four] at counted
  have shorter : (deleteNul (behindLine (.post url body))).length <
      (behindLine (.post url body)).length := by
    apply List.length_filter_lt_length_iff_exists.mpr
    exact ⟨0, List.mem_append_left _ (length_has_nul body fits), by simp⟩
  simp only [behindLine, List.length_append, length_toBeBytes] at counted shorter
  omega

/-- A request survives the deletion of NUL bytes exactly if it is a GET without any.

The length of a POST has a NUL byte, so too few bytes are left behind its first line. A GET is
as it was if it has none, and is another one if it has. -/
theorem requests_survive_driver (request : Request) (rest : Bytes) (deadline : Nat) (r : Reader)
    (calm : Undisturbed deadline r) (sent : r.pending = deleteNul request.encode ++ rest) :
    (∃ later, readRequest deadline r = (.ok (some request), later) ∧ later.pending = rest) ↔
      (∃ url ifNoneMatch, request = .get url ifNoneMatch) ∧ '\x00' ∉ firstLine request ∧
        Readable request := by
  rw [deleteNul_encode, List.append_assoc, List.cons_append] at sent
  constructor
  · rintro ⟨later, read, kept⟩
    have parses := (readRequest_parses read).1
    rw [kept, sent] at parses
    obtain ⟨unambiguous, oneLine, whole⟩ := parses_sent parses
    obtain ⟨named, fits, follows⟩ := whole fun member => oneLine (List.mem_of_mem_filter member)
    have absent : '\x00' ∉ firstLine request := by
      intro member
      rw [named] at member
      exact absurd (List.of_mem_filter (Text.mem_of_mem_trim member)) (by decide)
    have same : (firstLine request).filter (· != '\x00') = firstLine request := by
      apply List.filter_eq_self.mpr
      intro c member
      exact bne_iff_ne.mpr fun nul => absent (nul ▸ member)
    rw [same] at named fits
    refine ⟨?_, absent, oneLine, fits, (trimmed_iff request).mp named.symm, unambiguous⟩
    cases request with
    | get url ifNoneMatch => exact ⟨url, ifNoneMatch, rfl⟩
    | post url body => exact absurd follows (post_cut_short unambiguous)
  · rintro ⟨⟨url, ifNoneMatch, rfl⟩, absent, readable⟩
    have same : (firstLine (.get url ifNoneMatch)).filter (· != '\x00') =
        firstLine (.get url ifNoneMatch) := by
      apply List.filter_eq_self.mpr
      intro c member
      exact bne_iff_ne.mpr fun nul => absent (nul ▸ member)
    have whole : r.pending = (Request.get url ifNoneMatch).encode ++ rest := by
      rw [sent, same, encode_firstLine, List.append_assoc]
      rfl
    obtain ⟨later, read, kept, _⟩ := readRequest_next calm readable whole
    exact ⟨later, read, kept⟩

/-- A page, with another request behind it. -/
theorem requests_survive_driver_sample :
    let request : Request := .get "a".toList none
    let r : Reader := ⟨deleteNul request.encode ++ [71, 69], [⟨0, .closed⟩], 0⟩
    (∃ later, readRequest 1 r = (.ok (some request), later) ∧ later.pending = [71, 69]) ↔
      (∃ url ifNoneMatch, request = .get url ifNoneMatch) ∧ '\x00' ∉ firstLine request ∧
        Readable request :=
  requests_survive_driver _ [71, 69] 1 _ ⟨by decide, by decide⟩ (by decide)

/-- A POST is not read back once its NUL bytes are gone: its body is taken for a part of
the length. -/
theorem post_lost_in_driver : ¬ ∀ (request : Request) (rest : Bytes) (deadline : Nat) (r : Reader),
    (∀ c ∈ urlOf request, Text.whitespace c = false) → Undisturbed deadline r →
    r.pending = deleteNul request.encode ++ rest →
    ∃ later, readRequest deadline r = (.ok (some request), later) ∧ later.pending = rest := by
  intro every
  let request : Request := .post "a".toList [65]
  obtain ⟨later, read, _⟩ := every request [] 1
    ⟨deleteNul request.encode, [⟨0, .closed⟩], 0⟩ (List.all_iff_forall_prop.mp (by decide))
    ⟨by decide, by decide⟩ (by decide)
  have result : (readRequest 1 ⟨deleteNul request.encode, [⟨0, .closed⟩], 0⟩).1 ≠
      .ok (some request) := by decide
  exact result (congrArg Prod.fst read)

end Driver

end PacketBrowser.Server
