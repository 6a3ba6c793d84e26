import Mathlib.Data.Bool.AllAny
import Mathlib.Data.List.TakeWhile
import PacketBrowser.Client.State

/-!
# AGWPE frames

A frame is a header of 36 bytes and as many bytes of data as the header announces. The
header has fields at fixed offsets: the radio port, the kind of frame, two callsigns
padded with NUL bytes, and two numbers in little-endian order.

`Delimited` are the byte strings that have the form of a frame, whether or not they can
be decoded.
-/

namespace PacketBrowser.Agwpe

open Protocol Client Foundation

/-- Largest data of a frame. -/
def maxFrameDataSize : Nat := 64 * 1024

/-- The bytes in front of the data. -/
def headerSize : Nat := 36

/-- The kinds of frames that the transport knows. -/
inductive FrameType where
  | registerCallsign
  | registrationResponse
  | connect
  | connected
  | disconnect
  | sendData
  | connectionRejected
  | queryPorts
  | portInfo
  deriving DecidableEq, Repr

/-- The kind of frame on the wire. -/
def FrameType.code : FrameType → UInt8
  | .registerCallsign => 0x58
  | .registrationResponse => 0x78
  | .connect => 0x43
  | .connected => 0x63
  | .disconnect => 0x64
  | .sendData => 0x44
  | .connectionRejected => 0x52
  | .queryPorts => 0x47
  | .portInfo => 0x67

/-- A byte as two hexadecimal digits. -/
def hexByte (value : UInt8) : Text :=
  [Nat.digitChar (value.toNat / 16), Nat.digitChar (value.toNat % 16)].map Char.toUpper

/-- The kind of a frame by its byte; an error for any other. -/
def FrameType.tryFrom (value : UInt8) : Except AgwpeError FrameType :=
  if value = 0x58 then .ok .registerCallsign
  else if value = 0x78 then .ok .registrationResponse
  else if value = 0x43 then .ok .connect
  else if value = 0x63 then .ok .connected
  else if value = 0x64 then .ok .disconnect
  else if value = 0x44 then .ok .sendData
  else if value = 0x52 then .ok .connectionRejected
  else if value = 0x47 then .ok .queryPorts
  else if value = 0x67 then .ok .portInfo
  else .error (.invalidFrame ("Unknown frame type: 0x".toList ++ hexByte value))

/-- A frame, with its header and its data. -/
structure AgwpeFrame where
  port : UInt8
  frameType : FrameType
  pid : UInt8
  callFrom : Text
  callTo : Text
  dataLen : UInt32
  userData : UInt32
  data : Bytes
  deriving DecidableEq

/-- A number in little-endian order. -/
def toLeBytes (value : UInt32) : Bytes :=
  [value.toUInt8, (value >>> 8).toUInt8, (value >>> 16).toUInt8, (value >>> 24).toUInt8]

/-- The number behind bytes in little-endian order. -/
def fromLeBytes (bytes : Bytes) : Nat := bytes.foldr (fun b value => b.toNat + 256 * value) 0

/-- At most nine bytes of a callsign, padded to ten. -/
def callsignField (callsign : Text) : Bytes :=
  let call := (Utf8.encode callsign).take 9
  call ++ List.replicate (10 - call.length) 0

namespace AgwpeFrame

/-- A frame with these data, in the way the transport makes its own. -/
def new (port : UInt8) (frameType : FrameType) (callFrom callTo : Text) (data : Bytes) : AgwpeFrame :=
  ⟨port, frameType, 0, callFrom, callTo, UInt32.ofNat data.length, 0, data⟩

/-- The bytes of a frame: numbers with their low byte first, and callsigns in fields of ten. -/
def encode (frame : AgwpeFrame) : Bytes :=
  [frame.port, 0, 0, 0, frame.frameType.code, 0, 0, 0] ++
    (callsignField frame.callFrom ++ (callsignField frame.callTo ++
      (toLeBytes frame.dataLen ++ (toLeBytes frame.userData ++ frame.data))))

/-- The callsign in a field ends at its first NUL byte. -/
def extractCallsign (bytes : Bytes) : Except AgwpeError Text :=
  match Utf8.decode (bytes.takeWhile (· != 0)) with
  | some callsign => .ok callsign
  | none => .error (.invalidFrame "Invalid callsign encoding".toList)

/-- The data length that stands in a header. -/
def announced (data : Bytes) : Nat := fromLeBytes ((data.drop 28).take 4)

/-- The error about a length that no frame may have. -/
def tooLarge (dataLen : Nat) : AgwpeError :=
  .invalidFrame ("Frame data_len ".toList ++ Decimal.printNat dataLen ++ " exceeds maximum ".toList ++
    Decimal.printNat maxFrameDataSize)

/-- The payload behind a header, and the frame. -/
def withPayload (data : Bytes) (frameType : FrameType) (callFrom callTo : Text) :
    Except AgwpeError AgwpeFrame :=
  if announced data > maxFrameDataSize then .error (tooLarge (announced data))
  else if data.length < headerSize + announced data then
    .error (.invalidFrame "Frame data truncated".toList)
  else .ok ⟨data.headD 0, frameType, 0, callFrom, callTo, UInt32.ofNat (announced data),
    UInt32.ofNat (fromLeBytes ((data.drop 32).take 4)), (data.drop headerSize).take (announced data)⟩

/-- A frame from its bytes, with the data that its header announces. -/
def decode (data : Bytes) : Except AgwpeError AgwpeFrame :=
  if data.length < headerSize then .error (.invalidFrame "Frame too short".toList)
  else do
    let frameType ← FrameType.tryFrom ((data.drop 4).headD 0)
    let callFrom ← extractCallsign ((data.drop 8).take 10)
    let callTo ← extractCallsign ((data.drop 18).take 10)
    withPayload data frameType callFrom callTo

end AgwpeFrame

/-- A header and exactly the data it announces, of a size that is accepted. -/
structure Delimited (raw : Bytes) : Prop where
  header : headerSize ≤ raw.length
  bounded : AgwpeFrame.announced raw ≤ maxFrameDataSize
  whole : raw.length = headerSize + AgwpeFrame.announced raw

/-- A callsign that fits into its field. -/
structure Callsign (callsign : Text) : Prop where
  ascii : ∀ c ∈ callsign, c.toNat < 0x80
  solid : '\x00' ∉ callsign
  short : callsign.length ≤ 9

/-- A frame with callsigns and data that fit, as `AgwpeFrame.new` makes them. -/
structure Sound (frame : AgwpeFrame) : Prop where
  callFrom : Callsign frame.callFrom
  callTo : Callsign frame.callTo
  pid : frame.pid = 0
  fits : frame.data.length ≤ maxFrameDataSize
  dataLen : frame.dataLen = UInt32.ofNat frame.data.length

section Fields

/-- The byte of a kind is read back. -/
theorem tryFrom_code (frameType : FrameType) : FrameType.tryFrom frameType.code = .ok frameType := by
  cases frameType <;> rfl

/-- A number takes four bytes. -/
theorem length_toLeBytes (value : UInt32) : (toLeBytes value).length = 4 := rfl

/-- A number is read back from its bytes. -/
theorem fromLeBytes_toLeBytes (value : UInt32) : fromLeBytes (toLeBytes value) = value.toNat := by
  have bound := value.toNat_lt
  simp only [fromLeBytes, toLeBytes, List.foldr_cons, List.foldr_nil, UInt32.toNat_toUInt8,
    UInt32.toNat_shiftRight, Nat.shiftRight_eq_div_pow]
  simp only [UInt32.reduceToNat, Nat.reduceMod, Nat.reducePow] at bound ⊢
  omega

/-- A callsign takes ten bytes. -/
theorem length_callsignField (callsign : Text) : (callsignField callsign).length = 10 := by
  simp only [callsignField, List.length_append, List.length_replicate, List.length_take]
  omega

/-- What stands in a field in front of the first NUL byte. -/
theorem field_visible (callsign : Text) : (callsignField callsign).takeWhile (· != 0) =
    ((Utf8.encode callsign).take 9).takeWhile (· != 0) := by
  have padded : (List.replicate (10 - ((Utf8.encode callsign).take 9).length) (0 : UInt8)).takeWhile
      (· != 0) = [] := by
    rw [List.takeWhile_replicate]
    rfl
  unfold callsignField
  rw [List.takeWhile_append, padded]
  split
  · rename_i whole
    rw [List.append_nil, (List.takeWhile_prefix _).eq_of_length whole]
  · rfl

/-- The bytes of a callsign contain a zero only where it has a null character. -/
theorem zero_mem_encode_iff (callsign : Text) :
    0 ∈ Utf8.encode callsign ↔ '\x00' ∈ callsign :=
  Utf8.mem_encode_iff callsign '\x00' (by decide)

/-- A callsign comes back out of its field exactly if it has at most nine bytes, and no
NUL among them. -/
theorem extract_callsignField_iff (callsign : Text) :
    AgwpeFrame.extractCallsign (callsignField callsign) = .ok callsign ↔
      (Utf8.encode callsign).length ≤ 9 ∧ '\x00' ∉ callsign := by
  unfold AgwpeFrame.extractCallsign
  rw [field_visible, ← zero_mem_encode_iff]
  constructor
  · intro extracted
    obtain ⟨read, decoded⟩ : ∃ read, Utf8.decode
        (((Utf8.encode callsign).take 9).takeWhile (· != 0)) = some read := by
      cases decoded : Utf8.decode (((Utf8.encode callsign).take 9).takeWhile (· != 0)) with
      | none => exact absurd extracted (by simp [decoded])
      | some read => exact ⟨read, rfl⟩
    rw [decoded] at extracted
    obtain rfl := Except.ok.inj extracted
    -- What is decoded stands in front of the callsign, so it is the whole callsign.
    have visible : ((Utf8.encode read).take 9).takeWhile (· != 0) <+: (Utf8.encode read).take 9 :=
      List.takeWhile_prefix _
    obtain ⟨behind, front⟩ := visible.trans (List.take_prefix 9 (Utf8.encode read))
    rw [Utf8.decode_prefix decoded front.symm, List.append_nil] at front
    constructor
    · rw [← front]
      apply Nat.le_trans visible.length_le
      exact List.length_take_le 9 _
    · intro zero
      rw [← front] at zero
      exact absurd (List.mem_takeWhile_imp zero) (by decide)
  · rintro ⟨short, solid⟩
    have visible : ∀ b ∈ Utf8.encode callsign, (b != 0) = true := by
      intro b member
      apply bne_iff_ne.mpr
      rintro rfl
      exact solid member
    rw [List.take_of_length_le short, List.takeWhile_eq_self_iff.mpr visible, Utf8.decode_encode]

/-- A callsign that fits into its field comes back out of it. -/
theorem extract_callsignField {callsign : Text} (fits : Callsign callsign) :
    AgwpeFrame.extractCallsign (callsignField callsign) = .ok callsign := by
  apply (extract_callsignField_iff callsign).mpr
  constructor
  · rw [Utf8.encode_ascii callsign fits.ascii, List.length_map]
    exact fits.short
  · exact fits.solid

end Fields

section RoundTrip

variable (frame : AgwpeFrame) (rest : Bytes)

omit frame rest in
/-- A field of known length at a known offset, and what is behind it. -/
theorem field_split {whole field behind : Bytes} {count : Nat} (offset : Nat)
    (split : whole.drop offset = field ++ behind) (length : field.length = count) :
    (whole.drop offset).take count = field ∧ whole.drop (offset + count) = behind := by
  constructor
  · rw [split, List.take_left' length]
  · rw [← List.drop_drop, split, List.drop_left' length]

/-- Where the fields of an encoded frame stand. -/
theorem encode_fields :
    (frame.encode ++ rest).headD 0 = frame.port ∧
      ((frame.encode ++ rest).drop 4).headD 0 = frame.frameType.code ∧
      ((frame.encode ++ rest).drop 8).take 10 = callsignField frame.callFrom ∧
      ((frame.encode ++ rest).drop 18).take 10 = callsignField frame.callTo ∧
      ((frame.encode ++ rest).drop 28).take 4 = toLeBytes frame.dataLen ∧
      ((frame.encode ++ rest).drop 32).take 4 = toLeBytes frame.userData ∧
      (frame.encode ++ rest).drop headerSize = frame.data ++ rest := by
  let kind : Bytes := [frame.port, 0, 0, 0, frame.frameType.code, 0, 0, 0]
  have callFrom := length_callsignField frame.callFrom
  have callTo := length_callsignField frame.callTo
  have dataLen := length_toLeBytes frame.dataLen
  have userData := length_toLeBytes frame.userData
  have split : frame.encode ++ rest = kind ++ (callsignField frame.callFrom ++
      (callsignField frame.callTo ++ (toLeBytes frame.dataLen ++
        (toLeBytes frame.userData ++ (frame.data ++ rest))))) := by
    simp [AgwpeFrame.encode, kind]
  obtain ⟨_, behindKind⟩ := field_split 0 split (show kind.length = 8 from rfl)
  obtain ⟨from', behindFrom⟩ := field_split 8 behindKind callFrom
  obtain ⟨to', behindTo⟩ := field_split 18 behindFrom callTo
  obtain ⟨length, behindLength⟩ := field_split 28 behindTo dataLen
  obtain ⟨user, behindUser⟩ := field_split 32 behindLength userData
  exact ⟨by rw [split]; rfl, by rw [split]; rfl, from', to', length, user, behindUser⟩

/-- A frame takes its header and its data. -/
theorem length_encode : frame.encode.length = headerSize + frame.data.length := by
  simp only [AgwpeFrame.encode, List.length_append, List.length_cons, List.length_nil,
    length_callsignField, length_toLeBytes, headerSize]
  omega

variable {frame} in
/-- A sound frame announces its own data. -/
theorem announced_encode (sound : Sound frame) :
    AgwpeFrame.announced frame.encode = frame.data.length := by
  obtain ⟨_, _, _, _, dataLen, _, _⟩ := encode_fields frame []
  rw [List.append_nil] at dataLen
  unfold AgwpeFrame.announced
  rw [dataLen, fromLeBytes_toLeBytes, sound.dataLen, UInt32.toNat_ofNat_of_lt']
  exact Nat.lt_of_le_of_lt sound.fits (by decide)

variable {frame} in
/-- A sound frame is delimited by its own header. -/
theorem delimited_encode (sound : Sound frame) : Delimited frame.encode := by
  have announced := announced_encode sound
  refine ⟨?_, ?_, ?_⟩
  · rw [length_encode]
    exact Nat.le_add_right _ _
  · rw [announced]
    exact sound.fits
  · rw [length_encode, announced]

variable {frame} in
/-- A sound frame is decoded as itself. -/
theorem decode_encode (sound : Sound frame) : AgwpeFrame.decode frame.encode = .ok frame := by
  have announced := announced_encode sound
  obtain ⟨port, kind, callFrom, callTo, _, userData, data⟩ := encode_fields frame []
  rw [List.append_nil] at port kind callFrom callTo userData data
  have long : ¬ frame.encode.length < headerSize := by
    rw [length_encode]
    omega
  have whole : ¬ frame.encode.length < headerSize + frame.data.length := by
    rw [length_encode]
    exact Nat.lt_irrefl _
  have small : ¬ frame.data.length > maxFrameDataSize := Nat.not_lt.mpr sound.fits
  unfold AgwpeFrame.decode
  rw [if_neg long, kind, callFrom, callTo, tryFrom_code, extract_callsignField sound.callFrom,
    extract_callsignField sound.callTo]
  show AgwpeFrame.withPayload frame.encode frame.frameType frame.callFrom frame.callTo = .ok frame
  unfold AgwpeFrame.withPayload
  rw [announced, if_neg small, if_neg whole, port, userData, data, fromLeBytes_toLeBytes,
    List.append_nil, List.take_length, UInt32.ofNat_toNat, ← sound.dataLen, ← sound.pid]

end RoundTrip

end PacketBrowser.Agwpe
