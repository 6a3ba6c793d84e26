import PacketBrowser.Server.Requests

/-!
# Requests that are read back as themselves

The client puts whatever URL it is given on the request line; the server cuts the
line at its first line feed, trims it, and looks for the separator of an etag. A
request survives this exactly if it is `Readable`, a condition on its own text.
-/

namespace PacketBrowser.Server

open Foundation Protocol

/-- The first line of a request on the wire. -/
def firstLine : Request → Text
  | .get url none => getWord ++ url
  | .get url (some etag) => getWord ++ (url ++ (ifNoneMatchSentinel ++ etag))
  | .post url _ => postWord ++ url

/-- The length and the body of a POST. -/
def behindLine : Request → Bytes
  | .get _ _ => []
  | .post _ body => toBeBytes (UInt32.ofNat body.length) ++ body

/-- The first separator on the line is the one that was put there, and the body is one
the server accepts. -/
def Unambiguous : Request → Prop
  | .get url none => ¬ ifNoneMatchSentinel <:+: url
  | .get url (some _) => ¬ ifNoneMatchSentinel <:+: url ++ ifNoneMatchSentinel.dropLast
  | .post _ body => body.length ≤ maxBodySize

/-- No line feed in the first line, not too many bytes, no white space at its end, and
nothing in it that is mistaken for a separator. -/
structure Readable (request : Request) : Prop where
  oneLine : '\n' ∉ firstLine request
  fits : Utf8.byteLength (firstLine request) ≤ maxLineLength
  trimmed : ∀ c ∈ (firstLine request).getLast?, Text.whitespace c = false
  unambiguous : Unambiguous request

section Lines

variable (request : Request)

/-- A request is its first line and what stands behind. -/
theorem encode_firstLine :
    request.encode = Utf8.encode (firstLine request) ++ lineFeed :: behindLine request := by
  have get : ascii "GET " = Utf8.encode getWord := by decide
  have post : ascii "POST " = Utf8.encode postWord := by decide
  have separator : ascii " IF-NONE-MATCH " = Utf8.encode ifNoneMatchSentinel := by decide
  rcases request with ⟨url, _ | etag⟩ | ⟨url, body⟩ <;>
    simp [Request.encode, firstLine, behindLine, get, post, separator]

/-- A first line is a visible letter and more. -/
theorem firstLine_cons :
    ∃ letter rest, firstLine request = letter :: rest ∧ Text.whitespace letter = false := by
  rcases request with ⟨url, _ | etag⟩ | ⟨url, body⟩
  · exact ⟨'G', _, rfl, by decide⟩
  · exact ⟨'G', _, rfl, by decide⟩
  · exact ⟨'P', _, rfl, by decide⟩

/-- What the server makes of a first line. -/
theorem trim_firstLine :
    Text.trim (firstLine request) = (firstLine request).rdropWhile Text.whitespace := by
  obtain ⟨letter, rest, split, visible⟩ := firstLine_cons request
  rw [split, Text.trim_front letter _ visible]

/-- The first line loses nothing exactly if it ends with no white space. -/
theorem trimmed_iff : Text.trim (firstLine request) = firstLine request ↔
    ∀ c ∈ (firstLine request).getLast?, Text.whitespace c = false := by
  rw [trim_firstLine, List.rdropWhile_eq_self_iff]
  constructor
  · intro visible c last
    have nonempty : firstLine request ≠ [] := by
      intro empty
      rw [empty] at last
      exact absurd last (by simp)
    rw [List.getLast?_eq_some_getLast nonempty, Option.mem_some_iff] at last
    exact Bool.eq_false_iff.mpr (last ▸ visible nonempty)
  · intro visible nonempty
    rw [visible _ (by rw [List.getLast?_eq_some_getLast nonempty]; rfl)]
    exact Bool.false_ne_true

/-- The first line stands on the wire as a line of its own exactly if it is one and is
not too long. -/
theorem firstLine_read (rest : Bytes) (oneLine : '\n' ∉ firstLine request)
    (fits : Utf8.byteLength (firstLine request) ≤ maxLineLength) :
    FirstLine (firstLine request ++ ['\n']) (request.encode ++ rest)
      (behindLine request ++ rest) := by
  have feed : [lineFeed] = Utf8.encode ['\n'] := by decide
  refine ⟨Utf8.encode (firstLine request), ?_, fits, ?_, ?_⟩
  · exact fun member => oneLine ((Utf8.mem_encode_iff _ '\n' (by decide)).mp member)
  · rw [encode_firstLine, List.append_assoc, List.cons_append]
  · rw [feed, ← Utf8.encode_append]
    exact Utf8.decode_encode _

/-- A line the server cuts off has one line feed, at its end. Either it is the text
that was sent, or that has line feeds of its own. -/
theorem firstLine_text {text sent : Text} {rest behind : Bytes}
    (read : FirstLine text (Utf8.encode sent ++ lineFeed :: behind) rest) :
    ∃ line, text = line ++ ['\n'] ∧ '\n' ∉ line ∧
      (line = sent ∧ rest = behind ∧ Utf8.byteLength sent ≤ maxLineLength ∨ '\n' ∈ sent) := by
  obtain ⟨bytes, fresh, fits, split, decoded⟩ := read
  have feed : [lineFeed] = Utf8.encode ['\n'] := by decide
  have unbroken : ∀ {line : Text}, '\n' ∉ line → lineFeed ∉ Utf8.encode line :=
    fun absent member => absent ((Utf8.mem_encode_iff _ '\n' (by decide)).mp member)
  have named : ∀ {line : Text}, bytes = Utf8.encode line → text = line ++ ['\n'] := by
    rintro line rfl
    rw [feed, ← Utf8.encode_append, Utf8.decode_encode] at decoded
    exact (Option.some.inj decoded).symm
  by_cases broken : '\n' ∈ sent
  · obtain ⟨line, more, rfl, absent⟩ := List.eq_append_cons_of_mem broken
    have cut : Utf8.encode (line ++ '\n' :: more) ++ lineFeed :: behind =
        Utf8.encode line ++ lineFeed :: (Utf8.encode more ++ lineFeed :: behind) := by
      have char : String.utf8EncodeChar '\n' = [lineFeed] := by decide
      simp [char]
    obtain ⟨same, _⟩ := Search.split_unique fresh (unbroken absent) (split.trans cut)
    exact ⟨line, named same, absent, Or.inr broken⟩
  · obtain ⟨same, rfl⟩ := Search.split_unique fresh (unbroken broken) split
    subst same
    exact ⟨sent, named rfl, broken, Or.inl ⟨rfl, rfl, fits⟩⟩

end Lines

section RoundTrip

/-- A number is read back from its bytes. -/
theorem fromBeBytes_toBeBytes (value : UInt32) : fromBeBytes (toBeBytes value) = value.toNat := by
  have bound := value.toNat_lt
  simp only [fromBeBytes, toBeBytes, List.foldl_cons, List.foldl_nil, UInt32.toNat_toUInt8,
    UInt32.toNat_shiftRight, Nat.shiftRight_eq_div_pow]
  simp only [UInt32.reduceToNat, Nat.reduceMod, Nat.reducePow] at bound ⊢
  omega

/-- A number takes four bytes. -/
theorem length_toBeBytes (value : UInt32) : (toBeBytes value).length = 4 := rfl

/-- What is read from the line of a page is a request for one. -/
theorem readGet_get {rest : Text} {request : Request} (read : readGet rest = .ok request) :
    ∃ url ifNoneMatch, request = .get url ifNoneMatch := by
  unfold readGet at read
  split at read
  · exact absurd read (by simp)
  · split at read
    · exact ⟨_, _, (Except.ok.inj read).symm⟩
    · exact ⟨_, _, (Except.ok.inj read).symm⟩

/-- What is read behind `GET ` names its URL and etag as the first line would. -/
theorem readGet_firstLine {line : Text} {request : Request} (get : getWord <+: line)
    (read : readGet (line.drop 4) = .ok request) : firstLine request = line := by
  obtain ⟨rest, split⟩ := get
  have behind : line.drop 4 = rest := by
    rw [← split]
    rfl
  rw [behind] at read
  unfold readGet at read
  split at read
  · exact absurd read (by simp)
  · split at read
    · rename_i url etag found
      obtain rfl := Except.ok.inj read
      rw [firstLine, ← split, ← (Search.splitOnce_some _ _ _ _ found).1]
    · obtain rfl := Except.ok.inj read
      exact split

/-- It is the request meant exactly if the separator is not mistaken. -/
theorem readGet_iff (url : Text) (ifNoneMatch : Option Text)
    (nonempty : (firstLine (.get url ifNoneMatch)).drop 4 ≠ []) :
    readGet ((firstLine (.get url ifNoneMatch)).drop 4) = .ok (.get url ifNoneMatch) ↔
      Unambiguous (.get url ifNoneMatch) := by
  unfold readGet
  rw [if_neg nonempty]
  cases ifNoneMatch with
  | none =>
    have behind : (firstLine (.get url none)).drop 4 = url := rfl
    rw [behind, Unambiguous, ← Search.splitOnce_none_iff]
    cases Search.splitOnce ifNoneMatchSentinel url with
    | none => simp
    | some parts => simp
  | some etag =>
    have behind : (firstLine (.get url (some etag))).drop 4 =
        url ++ (ifNoneMatchSentinel ++ etag) := rfl
    rw [behind, Unambiguous, ← Search.splitOnce_placed_iff _ url etag (by decide)]
    cases Search.splitOnce ifNoneMatchSentinel (url ++ (ifNoneMatchSentinel ++ etag)) with
    | none => simp
    | some parts =>
      obtain ⟨front, back⟩ := parts
      simp

/-- Something stands behind `GET `, since a first line does not end with a space. -/
theorem get_nonempty {url : Text} {ifNoneMatch : Option Text}
    (trimmed : ∀ c ∈ (firstLine (.get url ifNoneMatch)).getLast?, Text.whitespace c = false) :
    (firstLine (.get url ifNoneMatch)).drop 4 ≠ [] := by
  intro empty
  have whole : firstLine (.get url ifNoneMatch) = getWord := by
    rw [← List.take_append_drop 4 (firstLine (.get url ifNoneMatch)), empty]
    cases ifNoneMatch <;> rfl
  rw [whole] at trimmed
  exact absurd (trimmed ' ' (by decide)) (by decide)

/-- The announced length of a body that is not too large. -/
theorem announced_length (body : Bytes) (fits : body.length ≤ maxBodySize) :
    fromBeBytes (toBeBytes (UInt32.ofNat body.length)) = body.length := by
  rw [fromBeBytes_toBeBytes, UInt32.toNat_ofNat_of_lt']
  exact Nat.lt_of_le_of_lt fits (by decide)

variable (request : Request) (rest : Bytes)

/-- A readable request is what its wire form begins with. -/
theorem parses_of_readable (readable : Readable request) :
    Parses request (request.encode ++ rest) rest := by
  obtain ⟨oneLine, fits, trimmed, unambiguous⟩ := readable
  have first := firstLine_read request rest oneLine fits
  have kept : Text.trim (firstLine request ++ ['\n']) = firstLine request := by
    rw [Text.trim_concat _ _ (by decide), (trimmed_iff request).mpr trimmed]
  cases request with
  | get url ifNoneMatch =>
    refine .get first ?_ ?_
    · rw [kept]
      cases ifNoneMatch <;> exact List.prefix_append _ _
    · rw [kept]
      exact (readGet_iff url ifNoneMatch (get_nonempty trimmed)).mpr unambiguous
  | post url body =>
    have drop : (firstLine (.post url body)).drop 5 = url := rfl
    have noGet : ¬ getWord <+: firstLine (.post url body) := by
      rintro ⟨more, same⟩
      exact absurd (List.cons.inj same).1 (by decide)
    have nonempty : url ≠ [] := by
      rintro rfl
      exact absurd (trimmed ' ' rfl) (by decide)
    rw [← kept] at drop noGet
    conv => enter [1]; rw [← drop]
    refine .post (toBeBytes (UInt32.ofNat body.length)) body ?_ noGet ?_ ?_ rfl
      (announced_length body unambiguous) unambiguous
    · rw [← List.append_assoc]
      exact first
    · rw [kept]
      exact List.prefix_append _ _
    · rw [drop]
      exact nonempty

/-- What a server reads behind the first line of a request. -/
def Behind : Request → Bytes → Bytes → Prop
  | .get _ _, behind, rest => behind = rest
  | .post _ body, behind, rest => ∃ length : Bytes, length.length = 4 ∧
      behind = length ++ (body ++ rest)

variable {request rest} in
/-- A request that is read has the first line that the server trims. -/
theorem parses_line {whole : Bytes} (parses : Parses request whole rest) :
    ∃ text behind, FirstLine text whole behind ∧ firstLine request = Text.trim text ∧
      Unambiguous request ∧ Behind request behind rest := by
  cases parses with
  | @get text _ _ _ first get read =>
    have named := readGet_firstLine get read
    obtain ⟨url, ifNoneMatch, rfl⟩ := readGet_get read
    refine ⟨text, rest, first, named, ?_, rfl⟩
    rw [← named] at read
    apply (readGet_iff url ifNoneMatch _).mp read
    intro empty
    rw [empty] at read
    exact absurd read (by simp [readGet])
  | @post text _ _ length body first noGet post nonempty four announced fits =>
    refine ⟨text, _, first, ?_, fits, length, four, rfl⟩
    obtain ⟨url, split⟩ := post
    rw [← split]
    rfl

variable {request rest} in
/-- If what was sent is one line, its trimmed text is the first line of the request. -/
theorem parses_sent {sent : Text} {behind : Bytes}
    (parses : Parses request (Utf8.encode sent ++ lineFeed :: behind) rest) :
    Unambiguous request ∧ '\n' ∉ firstLine request ∧ ('\n' ∉ sent →
      firstLine request = Text.trim sent ∧ Utf8.byteLength sent ≤ maxLineLength ∧
      Behind request behind rest) := by
  obtain ⟨text, after, first, named, unambiguous, follows⟩ := parses_line parses
  obtain ⟨line, rfl, fresh, whole⟩ := firstLine_text first
  rw [Text.trim_concat _ _ (by decide)] at named
  refine ⟨unambiguous, ?_, fun oneLine => ?_⟩
  · rw [named]
    exact fun member => fresh (Text.mem_of_mem_trim member)
  · rcases whole with ⟨rfl, rfl, fits⟩ | broken
    · exact ⟨named, fits, follows⟩
    · exact absurd broken oneLine

/-- Nothing else is read back as itself. -/
theorem readable_of_parses (parses : Parses request (request.encode ++ rest) rest) :
    Readable request := by
  rw [encode_firstLine, List.append_assoc, List.cons_append] at parses
  obtain ⟨unambiguous, oneLine, whole⟩ := parses_sent parses
  obtain ⟨trimmed, fits, _⟩ := whole oneLine
  exact ⟨oneLine, fits, (trimmed_iff request).mp trimmed.symm, unambiguous⟩

/-- A request is parsed back exactly if it is readable. -/
theorem parses_encode_iff : Parses request (request.encode ++ rest) rest ↔ Readable request :=
  ⟨readable_of_parses request rest, parses_of_readable request rest⟩

end RoundTrip

section Browse

/-- A request on an undisturbed connection is consumed as exactly this one request if
and only if it is readable.

A reader takes a request off its input exactly if the input parses to it, and encoded requests
parse to themselves exactly if they are readable. -/
theorem browse_is_one_request (request : Request) (deadline : Nat) (r : Reader)
    (calm : Undisturbed deadline r) (sent : r.pending = request.encode) :
    (∃ later, readRequest deadline r = (.ok (some request), later) ∧ later.pending = []) ↔
      Readable request := by
  rw [← parses_encode_iff request [], List.append_nil, ← sent]
  constructor
  · rintro ⟨later, read, nothing⟩
    rw [← nothing]
    exact (readRequest_parses read).1
  · intro parses
    obtain ⟨later, read, nothing, _⟩ := readRequest_of calm parses
    exact ⟨later, read, nothing⟩

/-- The URL arrives in two pieces, with a wakeup between them. -/
theorem browse_is_one_request_sample :
    let request : Request := .get "a".toList none
    let r : Reader := ⟨[], [⟨1, .bytes 71 [69, 84, 32]⟩, ⟨30, .wakeup⟩, ⟨1, .bytes 97 [10]⟩,
      ⟨1, .closed⟩], 0⟩
    (∃ later, readRequest 100 r = (.ok (some request), later) ∧ later.pending = []) ↔
      Readable request :=
  browse_is_one_request _ 100 _ ⟨by decide, by decide⟩ (by decide)

/-- A URL with a line feed smuggles in a second request. -/
theorem browse_smuggles_request : ¬ ∀ (url : Text) (ifNoneMatch : Option Text) (deadline : Nat)
    (r : Reader), url ≠ [] → Undisturbed deadline r →
    r.pending = (Request.get url ifNoneMatch).encode →
    ∃ later, readRequest deadline r = (.ok (some (.get url ifNoneMatch)), later) ∧
      later.pending = [] := by
  intro every
  let url : Text := "a\nGET b".toList
  let r : Reader := ⟨(Request.get url none).encode, [⟨0, .closed⟩], 0⟩
  obtain ⟨later, read, _⟩ := every url none 1 r (by decide) ⟨by decide, by decide⟩ (by decide)
  have first : readRequest 1 r = (.ok (some (.get "a".toList none)),
      ⟨(Request.get "b".toList none).encode, [⟨0, .closed⟩], 0⟩) := by decide
  rw [first] at read
  have same := Option.some.inj (Except.ok.inj (congrArg Prod.fst read))
  exact absurd same (by decide)

end Browse

end PacketBrowser.Server
