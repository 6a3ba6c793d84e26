import PacketBrowser.Agwpe.Frame
import PacketBrowser.Foundation.Reader

/-!
# The stream of frames

Data is sent in frames of at most 256 bytes. The receiver collects what its socket gives
it until the buffer holds a whole frame. Frames that can be decoded come back in their
order, however the bytes are cut; a frame that cannot be decoded stays at the head of
the buffer, so every later call ends with the same error.
-/

namespace PacketBrowser.Agwpe

open Protocol Client Foundation

/-- The connection to the modem and the session it is used for. -/
structure AgwpeTransport where
  stream : Option Reader
  readBuf : Bytes
  localCallsign : Text
  remoteCallsign : Text
  agwpePort : UInt8
  deriving DecidableEq

/-- Cut into pieces of the given size; the last one may be shorter. -/
def chunksWithin (size : Nat) : Nat → Bytes → List Bytes
  | 0, _ => []
  | count + 1, data =>
    if data = [] then [] else data.take size :: chunksWithin size count (data.drop size)

/-- Data in pieces of a size, the last one of which may be shorter. -/
def chunks (size : Nat) (data : Bytes) : List Bytes := chunksWithin size data.length data

/-- The data of one frame that is sent. -/
def chunkSize : Nat := 256

/-- Bytes of one socket read. -/
def readSize : Nat := 4096

/-- The error about a header that announces too much. -/
def announcedTooLarge (dataLen : Nat) : AgwpeError :=
  .invalidFrame ("Peer announced frame data_len ".toList ++ Decimal.printNat dataLen ++
    " exceeds maximum ".toList ++ Decimal.printNat maxFrameDataSize)

/-- The error about a connection that is closed. -/
def connectionClosed : AgwpeError := .connectionFailed "Connection closed".toList

/-- The frame at the head of the buffer with its length, once the buffer holds it. -/
def bufferedFrame (readBuf : Bytes) : Option (Except AgwpeError (AgwpeFrame × Nat)) :=
  if readBuf.length < headerSize then none
  else
    let dataLen := AgwpeFrame.announced readBuf
    if dataLen > maxFrameDataSize then some (.error (announcedTooLarge dataLen))
    else
      let total := headerSize + dataLen
      if readBuf.length < total then none
      else some ((AgwpeFrame.decode (readBuf.take total)).map (·, total))

namespace AgwpeTransport

/-- The frames that carry the data of one call. -/
def frames (t : AgwpeTransport) (data : Bytes) : List AgwpeFrame :=
  (chunks chunkSize data).map fun chunk =>
    .new t.agwpePort .sendData t.localCallsign t.remoteCallsign chunk

/-- What one call writes. -/
def send (t : AgwpeTransport) (data : Bytes) : Bytes := (t.frames data).flatMap AgwpeFrame.encode

/-- The rounds of `readFrameFromStream`. Without a result the call is still waiting. -/
def frameRounds : Nat → AgwpeTransport → Option (Except AgwpeError AgwpeFrame) × AgwpeTransport
  | 0, t => (none, t)
  | rounds + 1, t =>
    match bufferedFrame t.readBuf with
    | some (.error err) => (some (.error err), t)
    | some (.ok (frame, total)) => (some (.ok frame), { t with readBuf := t.readBuf.drop total })
    | none =>
      match t.stream with
      | none => (some (.error .notConnected), t)
      | some stream =>
        match stream.read readSize with
        | (.ok bytes, stream) =>
          if bytes = [] then (some (.error connectionClosed), { t with stream := some stream })
          else frameRounds rounds { t with readBuf := t.readBuf ++ bytes, stream := some stream }
        | (.error .wakeup, stream) => frameRounds rounds { t with stream := some stream }
        | (.error (.failed message), stream) =>
          (some (.error (.io message)), { t with stream := some stream })
        | (.error .silence, stream) => (none, { t with stream := some stream })

/-- Reads that may still come back from a stream. -/
def readsLeft (stream : Reader) : Nat := 2 * stream.pending.length + stream.steps + 2

/-- The next frame. The rounds do not run out. -/
def readFrameFromStream (t : AgwpeTransport) :
    Option (Except AgwpeError AgwpeFrame) × AgwpeTransport :=
  frameRounds ((t.stream.map readsLeft).getD 1) t

/-- Successive calls of `readFrameFromStream`. -/
def readFrames : Nat → AgwpeTransport → List (Option (Except AgwpeError AgwpeFrame)) × AgwpeTransport
  | 0, t => ([], t)
  | count + 1, t =>
    let (result, next) := t.readFrameFromStream
    let (results, last) := readFrames count next
    (result :: results, last)

/-- The bytes still to be decoded, in the buffer and on a stream that does not fail. -/
def Holds (t : AgwpeTransport) (bytes : Bytes) : Prop :=
  ∃ stream, t.stream = some stream ∧ stream.steady = true ∧ t.readBuf ++ stream.pending = bytes

end AgwpeTransport

section Buffers

/-- A length in the header does not depend on what follows the header. -/
theorem announced_append {raw : Bytes} (header : headerSize ≤ raw.length) (more : Bytes) :
    AgwpeFrame.announced (raw ++ more) = AgwpeFrame.announced raw := by
  unfold headerSize at header
  unfold AgwpeFrame.announced
  rw [List.drop_append_of_le_length (by omega),
    List.take_append_of_le_length (by simp only [List.length_drop]; omega)]

/-- A frame at the head of the buffer is decoded. -/
theorem bufferedFrame_whole {raw : Bytes} (delimited : Delimited raw) (more : Bytes) :
    bufferedFrame (raw ++ more) = some ((AgwpeFrame.decode raw).map (·, raw.length)) := by
  obtain ⟨header, bounded, whole⟩ := delimited
  have announced := announced_append header more
  have long : ¬ (raw ++ more).length < headerSize := by
    rw [List.length_append]
    omega
  have small : ¬ AgwpeFrame.announced raw > maxFrameDataSize := Nat.not_lt.mpr bounded
  have complete : ¬ (raw ++ more).length < raw.length := by
    rw [List.length_append]
    omega
  unfold bufferedFrame
  simp only [announced, long, small, complete, if_false, ← whole, List.take_left]

/-- A part of a frame is not decoded. -/
theorem bufferedFrame_part {raw part : Bytes} (delimited : Delimited raw) (front : part <+: raw)
    (short : part.length < raw.length) : bufferedFrame part = none := by
  obtain ⟨header, bounded, whole⟩ := delimited
  unfold bufferedFrame
  split
  · rfl
  · rename_i long
    obtain ⟨more, rfl⟩ := front
    have announced := announced_append (Nat.not_lt.mp long) more
    rw [announced] at bounded whole
    simp only [Nat.not_lt.mpr bounded, if_false, ← whole, short, if_true]

end Buffers

section Frames

open AgwpeTransport

/-- Reading uses up bytes or arrivals. -/
theorem readsLeft_taken {stream later : Reader} {taken : Bytes} (nonempty : taken ≠ [])
    (kept : taken ++ later.pending = stream.pending) (follows : stream.Later later) :
    readsLeft later < readsLeft stream := by
  have some : 0 < taken.length := List.length_pos_iff.mpr nonempty
  have lengths := congrArg List.length kept
  rw [List.length_append] at lengths
  have fewer := follows.fewer
  have steps : ∀ r : Reader, r.incoming.length ≤ r.steps ∧ r.steps ≤ r.incoming.length + 1 := by
    intro r
    unfold Reader.steps
    split <;> omega
  have before := steps stream
  have after := steps later
  unfold readsLeft
  omega

/-- What is left behind a frame: an error leaves the frame itself. -/
def leftBehind (raw rest : Bytes) : Bytes :=
  match AgwpeFrame.decode raw with
  | .ok _ => rest
  | .error _ => raw ++ rest

/-- The first frame is the next result. The induction is on the rounds: as long as the
buffer holds only a part of the frame, a read brings more of it. -/
theorem frameRounds_frame {raw rest : Bytes} (delimited : Delimited raw) (rounds : Nat)
    {t : AgwpeTransport} {stream : Reader} (connected : t.stream = some stream)
    (steady : stream.steady = true) (kept : t.readBuf ++ stream.pending = raw ++ rest)
    (enough : readsLeft stream ≤ rounds) :
    (frameRounds rounds t).1 = some (AgwpeFrame.decode raw) ∧
      (frameRounds rounds t).2.Holds (leftBehind raw rest) := by
  induction rounds generalizing t stream with
  | zero => exact absurd enough (by unfold readsLeft; omega)
  | succ rounds inductionHypothesis =>
    have first : t.readBuf <+: raw ++ rest := ⟨_, kept⟩
    have second : raw <+: raw ++ rest := List.prefix_append _ _
    unfold frameRounds
    by_cases whole : raw.length ≤ t.readBuf.length
    · obtain ⟨more, same⟩ := List.prefix_of_prefix_length_le second first whole
      have behind : more ++ stream.pending = rest := by
        rw [← same, List.append_assoc] at kept
        exact List.append_cancel_left kept
      rw [← same, bufferedFrame_whole delimited]
      unfold leftBehind
      cases decoded : AgwpeFrame.decode raw with
      | error err => exact ⟨rfl, stream, connected, steady, kept⟩
      | ok frame =>
        refine ⟨rfl, stream, connected, steady, ?_⟩
        simp only [Except.map, List.drop_left, behind]
    · have short := Nat.lt_of_not_le whole
      have part := bufferedFrame_part delimited
        (List.prefix_of_prefix_length_le first second (Nat.le_of_lt short)) short
      have unread : stream.pending ≠ [] := by
        intro empty
        rw [empty, List.append_nil] at kept
        rw [kept, List.length_append] at short
        omega
      have took := stream.read_took readSize (by decide)
      simp only [part, connected]
      generalize stream.read readSize = result at took ⊢
      obtain ⟨outcome, later⟩ := result
      cases took with
      | some taken later nonempty _ keptLater follows _ =>
        simp only [nonempty, if_false]
        have fewer := readsLeft_taken nonempty keptLater follows
        apply inductionHypothesis rfl (follows.steady steady)
        · rw [List.append_assoc, keptLater, kept]
        · omega
      | finished later _ empty => exact absurd empty unread
      | woken later keptLater follows fewer =>
        apply inductionHypothesis rfl (follows.steady steady)
        · rw [keptLater, kept]
        · unfold readsLeft at enough ⊢
          rw [keptLater]
          omega
      | broken later message _ unsteady => exact absurd steady (by simp [unsteady])
      | silent empty => exact absurd empty unread

/-- One call on a stream that begins with a frame. -/
theorem readFrame_next {raw rest : Bytes} (delimited : Delimited raw) {t : AgwpeTransport}
    (holds : t.Holds (raw ++ rest)) :
    t.readFrameFromStream.1 = some (AgwpeFrame.decode raw) ∧
      t.readFrameFromStream.2.Holds (leftBehind raw rest) := by
  obtain ⟨stream, connected, steady, kept⟩ := holds
  have rounds : readFrameFromStream t = frameRounds (readsLeft stream) t := by
    simp [readFrameFromStream, connected]
  rw [rounds]
  exact frameRounds_frame delimited _ connected steady kept (Nat.le_refl _)

/-- A transport holds one sequence of bytes. -/
theorem holds_unique {t : AgwpeTransport} {left right : Bytes} (one : t.Holds left)
    (two : t.Holds right) : left = right := by
  obtain ⟨stream, connected, _, rfl⟩ := one
  obtain ⟨other, connected', _, rfl⟩ := two
  obtain rfl := Option.some.inj (connected.symm.trans connected')
  rfl

/-- Frames that can be decoded are results in their order. -/
theorem readFrames_decoded (raws : List Bytes) (each : ∀ raw ∈ raws, Delimited raw)
    (decoded : ∀ raw ∈ raws, ∃ frame, AgwpeFrame.decode raw = .ok frame) {rest : Bytes}
    {t : AgwpeTransport} (holds : t.Holds (raws.flatten ++ rest)) :
    (t.readFrames raws.length).1 = raws.map (fun raw => some (AgwpeFrame.decode raw)) ∧
      (t.readFrames raws.length).2.Holds rest := by
  induction raws generalizing t with
  | nil => exact ⟨rfl, holds⟩
  | cons raw raws inductionHypothesis =>
    rw [List.flatten_cons, List.append_assoc] at holds
    obtain ⟨result, behind⟩ := readFrame_next (each raw List.mem_cons_self) holds
    obtain ⟨frame, found⟩ := decoded raw List.mem_cons_self
    simp only [leftBehind, found] at behind
    obtain ⟨results, last⟩ := inductionHypothesis
      (fun other member => each other (List.mem_cons_of_mem _ member))
      (fun other member => decoded other (List.mem_cons_of_mem _ member)) behind
    simp only [List.length_cons, readFrames, List.map_cons, result, results]
    exact ⟨trivial, last⟩

/-- A frame that cannot be decoded stays where it is. -/
theorem readFrames_stuck {raw rest : Bytes} (delimited : Delimited raw) {err : AgwpeError}
    (failed : AgwpeFrame.decode raw = .error err) (count : Nat) {t : AgwpeTransport}
    (holds : t.Holds (raw ++ rest)) : (t.readFrames count).2.Holds (raw ++ rest) := by
  induction count generalizing t with
  | zero => exact holds
  | succ count inductionHypothesis =>
    have behind := (readFrame_next delimited holds).2
    simp only [leftBehind, failed] at behind
    exact inductionHypothesis behind

/-- There is one result for each frame, and the call after it goes on behind the frame, if
and only if every frame can be decoded.

By induction on the frames: a frame that can be decoded leaves the reader behind it, and one
that cannot keeps it in front. -/
theorem one_result_per_frame_iff (raws : List Bytes) (each : ∀ raw ∈ raws, Delimited raw)
    (rest : Bytes) (t : AgwpeTransport) (holds : t.Holds (raws.flatten ++ rest)) :
    ((t.readFrames raws.length).1 = raws.map (fun raw => some (AgwpeFrame.decode raw)) ∧
        (t.readFrames raws.length).2.Holds rest) ↔
      ∀ raw ∈ raws, ∃ frame, AgwpeFrame.decode raw = .ok frame := by
  constructor
  · rintro ⟨results, last⟩
    clear results
    induction raws generalizing t with
    | nil => simp
    | cons raw raws inductionHypothesis =>
      have delimited := each raw List.mem_cons_self
      rw [List.flatten_cons, List.append_assoc] at holds
      cases decoded : AgwpeFrame.decode raw with
      | error err =>
        have stuck := readFrames_stuck delimited decoded (raw :: raws).length holds
        have lengths := congrArg List.length (holds_unique last stuck)
        have header := delimited.header
        rw [List.length_append, List.length_append] at lengths
        unfold headerSize at header
        omega
      | ok frame =>
        have behind := (readFrame_next delimited holds).2
        simp only [leftBehind, decoded] at behind
        have others := inductionHypothesis
          (fun other member => each other (List.mem_cons_of_mem _ member)) _ behind last
        intro other member
        rcases List.mem_cons.mp member with rfl | later
        · exact ⟨frame, decoded⟩
        · exact others other later
  · exact fun decoded => readFrames_decoded raws each decoded holds

/-- A data frame from A to B with one byte of data. -/
def goodFrame : AgwpeFrame := .new 1 .sendData ['A'] ['B'] [7]

/-- The same frame with a kind that is not known. -/
def badFrame : Bytes := [1, 0, 0, 0, 0x4B] ++ goodFrame.encode.drop 5

/-- Where the frames come in a single read. -/
def delivered (bytes : Bytes) : AgwpeTransport := ⟨some ⟨bytes, [⟨0, .closed⟩], 0⟩, [], ['B'], ['A'], 1⟩

/-- The frame that can be decoded has the form of one. -/
theorem goodFrame_delimited : Delimited goodFrame.encode := ⟨by decide, by decide, by decide⟩

/-- The frame that cannot be decoded has the form of one. -/
theorem badFrame_delimited : Delimited badFrame := ⟨by decide, by decide, by decide⟩

/-- Two frames that can be decoded. -/
theorem one_result_per_frame_iff_sample :
    let raws := [goodFrame.encode, goodFrame.encode]
    let t := delivered raws.flatten
    ((t.readFrames raws.length).1 = raws.map (fun raw => some (AgwpeFrame.decode raw)) ∧
        (t.readFrames raws.length).2.Holds []) ↔
      ∀ raw ∈ raws, ∃ frame, AgwpeFrame.decode raw = .ok frame := by
  intro raws t
  apply one_result_per_frame_iff raws _ [] t ⟨_, rfl, rfl, by decide⟩
  intro raw member
  simp only [raws, List.mem_cons, List.not_mem_nil, or_false, or_self] at member
  rw [member]
  exact goodFrame_delimited

/-- Behind a frame of an unknown kind no frame is read any more. -/
theorem bad_frame_wedges : ¬ ∀ (raws : List Bytes) (rest : Bytes) (t : AgwpeTransport),
    (∀ raw ∈ raws, Delimited raw) → t.Holds (raws.flatten ++ rest) →
    (t.readFrames raws.length).1 = raws.map (fun raw => some (AgwpeFrame.decode raw)) := by
  intro every
  have each : ∀ raw ∈ [badFrame, goodFrame.encode], Delimited raw := by
    intro raw member
    rcases List.mem_cons.mp member with rfl | member
    · exact badFrame_delimited
    · rw [List.mem_singleton.mp member]
      exact goodFrame_delimited
  have results := every _ [] (delivered (badFrame ++ goodFrame.encode)) each
    ⟨_, rfl, rfl, by decide⟩
  exact absurd results (by decide)

end Frames

section Data

open AgwpeTransport

/-- The pieces of data are not empty and not too large, and nothing is lost. -/
theorem chunksWithin_data (size count : Nat) (positive : 0 < size) (data : Bytes)
    (enough : data.length ≤ count) :
    (chunksWithin size count data).flatten = data ∧
      ∀ chunk ∈ chunksWithin size count data, 1 ≤ chunk.length ∧ chunk.length ≤ size := by
  induction count generalizing data with
  | zero =>
    obtain rfl := List.length_eq_zero_iff.mp (Nat.le_zero.mp enough)
    simp [chunksWithin]
  | succ count inductionHypothesis =>
    unfold chunksWithin
    split
    · rename_i empty
      simp [empty]
    · rename_i nonempty
      have some : 0 < data.length := List.length_pos_iff.mpr nonempty
      obtain ⟨whole, sizes⟩ := inductionHypothesis (data.drop size) (by
        rw [List.length_drop]
        omega)
      constructor
      · rw [List.flatten_cons, whole, List.take_append_drop]
      · intro chunk member
        rcases List.mem_cons.mp member with rfl | later
        · rw [List.length_take]
          omega
        · exact sizes chunk later

/-- A frame that carries data from the sender's callsign to that of its peer. -/
structure Carries (sender : AgwpeTransport) (frame : AgwpeFrame) : Prop where
  kind : frame.frameType = .sendData
  port : frame.port = sender.agwpePort
  callFrom : frame.callFrom = sender.localCallsign
  callTo : frame.callTo = sender.remoteCallsign
  nonempty : 1 ≤ frame.data.length
  fits : frame.data.length ≤ chunkSize

variable {sender : AgwpeTransport}

/-- The frames of some data carry it piece by piece. -/
theorem frames_carry (data : Bytes) : (∀ frame ∈ sender.frames data, Carries sender frame) ∧
    (sender.frames data).flatMap AgwpeFrame.data = data := by
  obtain ⟨whole, sizes⟩ := chunksWithin_data chunkSize data.length (by decide) data (Nat.le_refl _)
  constructor
  · intro frame member
    obtain ⟨chunk, inside, rfl⟩ := List.mem_map.mp member
    obtain ⟨some, fits⟩ := sizes chunk inside
    exact ⟨rfl, rfl, rfl, rfl, some, fits⟩
  · rw [frames, List.flatMap_map]
    show (chunks chunkSize data).flatMap id = data
    rw [List.flatMap_id]
    exact whole

/-- The frames of two stations whose callsigns fit are sound. -/
theorem frames_sound (callFrom : Callsign sender.localCallsign)
    (callTo : Callsign sender.remoteCallsign) (data : Bytes) :
    ∀ frame ∈ sender.frames data, Sound frame := by
  intro frame member
  have carried := (frames_carry data).1 frame member
  obtain ⟨chunk, _, rfl⟩ := List.mem_map.mp member
  exact ⟨callFrom, callTo, rfl, Nat.le_trans carried.fits (by decide), rfl⟩

/-- What a round without bytes can do: see the end of the input, be woken up, or wait. -/
theorem frameRounds_idle (rounds : Nat) {t : AgwpeTransport} {stream : Reader}
    (connected : t.stream = some stream) (steady : stream.steady = true)
    (nothing : t.readBuf ++ stream.pending = []) :
    ∃ later, stream.Later later ∧ t.readBuf ++ later.pending = [] ∧
      (stream.closes = true ∧ frameRounds (rounds + 1) t =
          (some (.error connectionClosed), { t with stream := some later }) ∨
        frameRounds (rounds + 1) t = frameRounds rounds { t with stream := some later } ∨
        frameRounds (rounds + 1) t = (none, { t with stream := some later })) := by
  obtain ⟨empty, unread⟩ := List.append_eq_nil_iff.mp nothing
  have none : bufferedFrame [] = none := by decide
  rw [frameRounds, empty, none]
  have took := stream.read_took readSize (by decide)
  simp only [connected, List.nil_append]
  generalize stream.read readSize = result at took ⊢
  obtain ⟨outcome, later⟩ := result
  cases took with
  | some taken later nonempty _ keptLater =>
    rw [unread] at keptLater
    exact absurd (List.append_eq_nil_iff.mp keptLater).1 nonempty
  | finished later keptLater _ follows closes =>
    exact ⟨later, follows, keptLater.trans unread, .inl ⟨closes, by simp⟩⟩
  | woken later keptLater follows =>
    exact ⟨later, follows, keptLater.trans unread, .inr (.inl (by simp))⟩
  | broken later message _ unsteady => exact absurd steady (by simp [unsteady])
  | silent _ _ => exact ⟨later, .refl later, unread, .inr (.inr (by simp))⟩

/-- Without bytes there is no frame. The induction is on the rounds. -/
theorem frameRounds_nothing (rounds : Nat) {t : AgwpeTransport} (holds : t.Holds []) :
    (∀ frame, (frameRounds rounds t).1 ≠ some (.ok frame)) ∧ (frameRounds rounds t).2.Holds [] := by
  induction rounds generalizing t with
  | zero => exact ⟨by simp [frameRounds], holds⟩
  | succ rounds inductionHypothesis =>
    obtain ⟨stream, connected, steady, kept⟩ := holds
    obtain ⟨later, follows, left, round⟩ := frameRounds_idle rounds connected steady kept
    have behind : ({ t with stream := some later } : AgwpeTransport).Holds [] :=
      ⟨later, rfl, follows.steady steady, left⟩
    rcases round with ⟨_, ended⟩ | goesOn | waits
    · rw [ended]
      exact ⟨by simp, behind⟩
    · rw [goesOn]
      exact inductionHypothesis behind
    · rw [waits]
      exact ⟨by simp, behind⟩

/-- From nothing no frame is read. -/
theorem readFrames_nothing (count : Nat) {t : AgwpeTransport} (holds : t.Holds []) :
    ∀ frame, some (.ok frame) ∉ (t.readFrames count).1 := by
  induction count generalizing t with
  | zero => simp [readFrames]
  | succ count inductionHypothesis =>
    have nothing : (∀ frame, t.readFrameFromStream.1 ≠ some (.ok frame)) ∧
        t.readFrameFromStream.2.Holds [] := frameRounds_nothing _ holds
    intro frame member
    rcases List.mem_cons.mp member with first | later
    · exact nothing.1 frame first.symm
    · exact inductionHypothesis nothing.2 frame later

variable (sender) in
/-- Whatever is sent in any number of calls is received in frames from the sender to its
peer, and nothing is received besides.

What is sent is a list of frames, each delimited and decodable, so that reading gives them back
one by one, and their data is what was sent. -/
theorem sent_data_is_received (callFrom : Callsign sender.localCallsign)
    (callTo : Callsign sender.remoteCallsign) (calls : List Bytes) (t : AgwpeTransport)
    (holds : t.Holds (calls.flatMap sender.send)) :
    ∃ received : List AgwpeFrame,
      (t.readFrames received.length).1 = received.map (fun frame => some (.ok frame)) ∧
        (t.readFrames received.length).2.Holds [] ∧
        (∀ count frame, some (.ok frame) ∉ ((t.readFrames received.length).2.readFrames count).1) ∧
        (∀ frame ∈ received, Carries sender frame) ∧
        received.flatMap AgwpeFrame.data = calls.flatten := by
  let received := calls.flatMap sender.frames
  let raws := received.map AgwpeFrame.encode
  have sound : ∀ frame ∈ received, Sound frame := by
    intro frame member
    obtain ⟨data, _, inside⟩ := List.mem_flatMap.mp member
    exact frames_sound callFrom callTo data frame inside
  have wire : raws.flatten = calls.flatMap sender.send := by
    show (List.map AgwpeFrame.encode (calls.flatMap sender.frames)).flatten = _
    rw [← List.flatMap_def, List.flatMap_assoc]
    rfl
  have delimited : ∀ raw ∈ raws, Delimited raw := by
    intro raw member
    obtain ⟨frame, inside, rfl⟩ := List.mem_map.mp member
    exact delimited_encode (sound frame inside)
  have decoded : ∀ raw ∈ raws, ∃ frame, AgwpeFrame.decode raw = .ok frame := by
    intro raw member
    obtain ⟨frame, inside, rfl⟩ := List.mem_map.mp member
    exact ⟨frame, decode_encode (sound frame inside)⟩
  rw [← wire, ← List.append_nil raws.flatten] at holds
  obtain ⟨results, last⟩ := readFrames_decoded raws delimited decoded holds
  rw [List.length_map] at results last
  refine ⟨received, ?_, last, fun count => readFrames_nothing count last, ?_, ?_⟩
  · rw [results, List.map_map]
    apply List.map_congr_left
    intro frame member
    exact congrArg some (decode_encode (sound frame member))
  · intro frame member
    obtain ⟨data, _, inside⟩ := List.mem_flatMap.mp member
    exact (frames_carry data).1 frame inside
  · rw [List.flatMap_assoc]
    simp only [(frames_carry _).2]
    exact List.flatMap_id

/-- Two calls, cut in the middle of a header. -/
theorem sent_data_is_received_sample :
    let sender : AgwpeTransport := ⟨none, [], ['A'], ['B'], 1⟩
    let calls : List Bytes := [[7], [8, 9]]
    let wire := calls.flatMap sender.send
    let t : AgwpeTransport := ⟨some ⟨wire.take 20, [⟨3, .bytes 0 (wire.drop 21)⟩, ⟨0, .closed⟩], 0⟩,
      [], ['B'], ['A'], 1⟩
    ∃ received : List AgwpeFrame,
      (t.readFrames received.length).1 = received.map (fun frame => some (.ok frame)) ∧
        (t.readFrames received.length).2.Holds [] ∧
        (∀ count frame, some (.ok frame) ∉ ((t.readFrames received.length).2.readFrames count).1) ∧
        (∀ frame ∈ received, Carries sender frame) ∧
        received.flatMap AgwpeFrame.data = calls.flatten := by
  intro sender calls wire t
  exact sent_data_is_received sender ⟨List.all_iff_forall_prop.mp (by decide), by decide, by decide⟩
    ⟨List.all_iff_forall_prop.mp (by decide), by decide, by decide⟩ calls t ⟨_, rfl, rfl, by decide⟩

end Data

end PacketBrowser.Agwpe
