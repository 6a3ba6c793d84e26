import Mathlib.Data.List.Basic
import PacketBrowser.Foundation.Decimal
import PacketBrowser.Foundation.Prefix

/-!
# Internet addresses and their text

An address of version four has four bytes, one of version six has sixteen. The readers
follow the standard library: numbers in decimal have no leading zeros, and the end of an
address of version six may be spelled as one of version four. A reader gives what it has
read and the text behind it; an address is read only where nothing is left.
-/

namespace Foundation.Address

open Prefix

/-- Address of version four. -/
structure Ipv4Addr where
  first : UInt8
  second : UInt8
  third : UInt8
  fourth : UInt8
  deriving DecidableEq, Repr

/-- Address of version six. -/
structure Ipv6Addr where
  octets : List UInt8
  length : octets.length = 16
  deriving DecidableEq, Repr

/-- An address of either version. -/
inductive IpAddr where
  | v4 (ip : Ipv4Addr)
  | v6 (ip : Ipv6Addr)
  deriving DecidableEq, Repr

/-- The bytes of the address, in the order in which they are written. -/
def Ipv4Addr.octets (ip : Ipv4Addr) : List UInt8 := [ip.first, ip.second, ip.third, ip.fourth]

/-- One of the sixteen bytes. -/
def Ipv6Addr.octet (ip : Ipv6Addr) (place : Nat) : UInt8 := ip.octets.getD place 0

/-- The address with these eight numbers of two bytes. -/
def Ipv6Addr.ofSegments (segment : Nat → UInt16) : Ipv6Addr where
  octets := (List.range 8).flatMap fun place =>
    [(segment place >>> 8).toUInt8, (segment place).toUInt8]
  length := rfl

/-- One of the eight groups, its high byte first. -/
def Ipv6Addr.segment (ip : Ipv6Addr) (place : Nat) : UInt16 :=
  (ip.octet (2 * place)).toUInt16 <<< 8 ||| (ip.octet (2 * place + 1)).toUInt16

/-- The groups in the order in which they are written. -/
def Ipv6Addr.segments (ip : Ipv6Addr) : List UInt16 := (List.range 8).map ip.segment

/-- The address `::1`. -/
def Ipv6Addr.isLoopback (ip : Ipv6Addr) : Bool := value ip.octets == 1

/-- The address `::`. -/
def Ipv6Addr.isUnspecified (ip : Ipv6Addr) : Bool := value ip.octets == 0

/-- The first byte has all its bits. -/
def Ipv6Addr.isMulticast (ip : Ipv6Addr) : Bool := ip.octet 0 == 0xff

/-- The network `127.0.0.0/8`. -/
def Ipv4Addr.isLoopback (ip : Ipv4Addr) : Bool := ip.first == 127

/-- The address `0.0.0.0`. -/
def Ipv4Addr.isUnspecified (ip : Ipv4Addr) : Bool := value ip.octets == 0

/-- The three networks for private use. -/
def Ipv4Addr.isPrivate (ip : Ipv4Addr) : Bool :=
  ip.first == 10 || (ip.first == 172 && 16 ≤ ip.second && ip.second ≤ 31) ||
    (ip.first == 192 && ip.second == 168)

/-- The network `169.254.0.0/16`. -/
def Ipv4Addr.isLinkLocal (ip : Ipv4Addr) : Bool := ip.first == 169 && ip.second == 254

/-- Whether the address means the host itself, by its version. -/
def IpAddr.isLoopback : IpAddr → Bool
  | .v4 ip => ip.isLoopback
  | .v6 ip => ip.isLoopback

/-- Whether the address means none, by its version. -/
def IpAddr.isUnspecified : IpAddr → Bool
  | .v4 ip => ip.isUnspecified
  | .v6 ip => ip.isUnspecified

/-- The leading bits of an address are those of some bytes. -/
def InNetwork (octets leading : List UInt8) (bits : Nat) : Prop :=
  Agree (8 * leading.length - bits) (value (octets.take leading.length)) (value leading)

/-- The leading bytes of `::ffff:0:0/96`. -/
def mappedOctets : List UInt8 := [0, 0, 0, 0, 0, 0, 0, 0, 0, 0, 0xff, 0xff]

/-- The address of version four that is spelled as one of `::ffff:0:0/96`. -/
def Ipv6Addr.toIpv4Mapped (ip : Ipv6Addr) : Option Ipv4Addr :=
  if ip.octets.take 12 = mappedOctets then
    some ⟨ip.octet 12, ip.octet 13, ip.octet 14, ip.octet 15⟩
  else none

section Reading

/-- The value of a digit. -/
def toDigit (radix : Nat) (c : Char) : Option Nat :=
  let value :=
    if '0' ≤ c ∧ c ≤ '9' then some (c.toNat - '0'.toNat)
    else if 'a' ≤ c ∧ c ≤ 'z' then some (c.toNat - 'a'.toNat + 10)
    else if 'A' ≤ c ∧ c ≤ 'Z' then some (c.toNat - 'A'.toNat + 10)
    else none
  value.filter (· < radix)

/-- A number below the limit, with at most so many digits. -/
def readNumber (radix maxDigits limit : Nat) (allowZeroPrefix : Bool) (text : List Char) :
    Option (Nat × List Char) :=
  let digits := text.takeWhile fun c => (toDigit radix c).isSome
  let number := digits.foldl (fun total c => total * radix + (toDigit radix c).getD 0) 0
  let leadingZero := digits.head? = some '0' ∧ 1 < digits.length
  if digits.length = 0 ∨ maxDigits < digits.length then none
  else if allowZeroPrefix = false ∧ leadingZero then none
  else if number < limit then some (number, text.drop digits.length)
  else none

/-- What is behind a given character, where the text begins with it. -/
def readGivenChar (given : Char) : List Char → Option (List Char)
  | c :: rest => if c = given then some rest else none
  | [] => none

/-- A part with a separator in front, unless it is the first part. -/
def readSeparator {α : Type} (separator : Char) (index : Nat)
    (inner : List Char → Option (α × List Char)) (text : List Char) : Option (α × List Char) :=
  if index = 0 then inner text else (readGivenChar separator text).bind inner

/-- A byte of an address of version four. -/
def readOctet (text : List Char) : Option (UInt8 × List Char) :=
  (readNumber 10 3 256 false text).map fun (number, rest) => (UInt8.ofNat number, rest)

/-- Four numbers of one byte each, with dots between them, and what is behind them. -/
def readIpv4Addr (text : List Char) : Option (Ipv4Addr × List Char) := do
  let (first, text) ← readSeparator '.' 0 readOctet text
  let (second, text) ← readSeparator '.' 1 readOctet text
  let (third, text) ← readSeparator '.' 2 readOctet text
  let (fourth, text) ← readSeparator '.' 3 readOctet text
  return (⟨first, second, third, fourth⟩, text)

/-- Two bytes of an address of version six. -/
def readGroup (text : List Char) : Option (UInt16 × List Char) :=
  (readNumber 16 4 65536 true text).map fun (number, rest) => (UInt16.ofNat number, rest)

/-- At most so many further groups, and whether they end with an address of version four,
which takes the place of two. -/
def readGroups : (room : Nat) → (groups : List UInt16) → (text : List Char) →
    List UInt16 × Bool × List Char
  | 0, groups, text => (groups, false, text)
  | room + 1, groups, text =>
    match if 0 < room then readSeparator ':' groups.length readIpv4Addr text else none with
    | some (ip, rest) =>
      (groups ++ [ip.first.toUInt16 <<< 8 ||| ip.second.toUInt16,
        ip.third.toUInt16 <<< 8 ||| ip.fourth.toUInt16], true, rest)
    | none =>
      match readSeparator ':' groups.length readGroup text with
      | some (group, rest) => readGroups room (groups ++ [group]) rest
      | none => (groups, false, text)

/-- The groups in front, zeros, and the groups at the end. -/
def joined (head tail : List UInt16) (place : Nat) : UInt16 :=
  if 8 - tail.length ≤ place then tail.getD (place - (8 - tail.length)) 0 else head.getD place 0

/-- Eight groups, or fewer with one gap that stands for the missing ones, and what is behind
them. -/
def readIpv6Addr (text : List Char) : Option (Ipv6Addr × List Char) :=
  let (head, headIpv4, text) := readGroups 8 [] text
  if head.length = 8 then some (.ofSegments (joined head []), text)
  else if headIpv4 then none
  else do
    let text ← readGivenChar ':' text
    let text ← readGivenChar ':' text
    let (tail, _, text) := readGroups (8 - (head.length + 1)) [] text
    return (.ofSegments (joined head tail), text)

/-- An address of version 4 where the text begins with one, else one of version 6. -/
def readIpAddr (text : List Char) : Option (IpAddr × List Char) :=
  match readIpv4Addr text with
  | some (ip, rest) => some (.v4 ip, rest)
  | none => (readIpv6Addr text).map fun (ip, rest) => (.v6 ip, rest)

/-- What a reader gives of the whole text. -/
def parseWith {α : Type} (read : List Char → Option (α × List Char)) (text : List Char) : Option α :=
  match read text with
  | some (value, []) => some value
  | _ => none

/-- The address that is the whole text, which is no longer than the longest one. -/
def parseIpv4Addr (text : List Char) : Option Ipv4Addr :=
  if 15 < text.length then none else parseWith readIpv4Addr text

/-- The address of either version that is the whole text. -/
def parseIpAddr (text : List Char) : Option IpAddr := parseWith readIpAddr text

end Reading

section Showing

/-- The numbers in decimal, with dots between them. -/
def Ipv4Addr.display (ip : Ipv4Addr) : List Char :=
  ['.'].intercalate (ip.octets.map fun octet => Decimal.printNat octet.toNat)

/-- The groups in hexadecimal, between colons. -/
def fmtSubslice (groups : List UInt16) : List Char :=
  [':'].intercalate (groups.map fun group => Nat.toDigits 16 group.toNat)

/-- Where a run of zeros starts, and how long it is. -/
structure Span where
  start : Nat
  len : Nat
  deriving DecidableEq, Repr

/-- The first of the longest runs of zeros. -/
def longestZeros : (index : Nat) → (current longest : Span) → List UInt16 → Span
  | _, _, longest, [] => longest
  | index, current, longest, group :: rest =>
    if group = 0 then
      let start := if current.len = 0 then index else current.start
      let current := ⟨start, current.len + 1⟩
      longestZeros (index + 1) current (if longest.len < current.len then current else longest) rest
    else longestZeros (index + 1) ⟨0, 0⟩ longest rest

/-- The groups in hexadecimal, with the longest run of zeros left out, or the address of version
4 that is mapped into it. -/
def Ipv6Addr.display (ip : Ipv6Addr) : List Char :=
  match ip.toIpv4Mapped with
  | some mapped => "::ffff:".toList ++ mapped.display
  | none =>
    let zeroes := longestZeros 0 ⟨0, 0⟩ ⟨0, 0⟩ ip.segments
    if 1 < zeroes.len then
      fmtSubslice (ip.segments.take zeroes.start) ++ "::".toList ++
        fmtSubslice (ip.segments.drop (zeroes.start + zeroes.len))
    else fmtSubslice ip.segments

/-- How the address is written, by its version. -/
def IpAddr.display : IpAddr → List Char
  | .v4 ip => ip.display
  | .v6 ip => ip.display

end Showing

/-- The value of an address fits in 32 bits. -/
theorem Ipv4Addr.value_lt (ip : Ipv4Addr) : value ip.octets < span 32 := Prefix.value_lt ip.octets

/-- The bytes one by one. -/
theorem Ipv6Addr.octets_each (ip : Ipv6Addr) : ip.octets = (List.range 16).map ip.octet := by
  apply List.ext_getElem
  · rw [ip.length, List.length_map, List.length_range]
  · intro place inside _
    simp [octet, inside]

/-- How many bytes are left behind the first ones. -/
theorem Ipv6Addr.length_drop (ip : Ipv6Addr) (count : Nat) :
    (ip.octets.drop count).length = 16 - count := by
  rw [List.length_drop, ip.length]

/-- The four last bytes behind the twelve of `::ffff:0:0/96`. -/
theorem Ipv6Addr.toIpv4Mapped_iff (ip : Ipv6Addr) (mapped : Ipv4Addr) :
    ip.toIpv4Mapped = some mapped ↔ ip.octets = mappedOctets ++ mapped.octets := by
  have last : ip.octets.drop 12 = [ip.octet 12, ip.octet 13, ip.octet 14, ip.octet 15] := by
    rw [ip.octets_each]
    rfl
  have whole : ip.octets = ip.octets.take 12 ++ ip.octets.drop 12 :=
    (List.take_append_drop 12 ip.octets).symm
  unfold toIpv4Mapped
  constructor
  · intro found
    split at found
    · rename_i leading
      obtain rfl := Option.some.inj found
      rw [whole, leading, last]
      rfl
    · exact absurd found (by simp)
  · intro split
    have leading : ip.octets.take 12 = mappedOctets := by
      rw [split]
      rfl
    have tail : ip.octets.drop 12 = mapped.octets := by
      rw [split]
      rfl
    rw [if_pos leading]
    simp only [last, Ipv4Addr.octets, List.cons.injEq, and_true] at tail
    obtain ⟨one, two, three, four⟩ := tail
    rw [one, two, three, four]

/-- A network of whole bytes. -/
theorem inNetwork_bytes {octets leading : List UInt8} (fits : leading.length ≤ octets.length) :
    InNetwork octets leading (8 * leading.length) ↔ octets.take leading.length = leading := by
  have lengths : (octets.take leading.length).length = leading.length := by
    rw [List.length_take]
    omega
  unfold InNetwork
  rw [Nat.sub_self]
  exact agree_bytes lengths

/-- The test for link-local addresses is that for their network. -/
theorem Ipv4Addr.linkLocal_iff (ip : Ipv4Addr) :
    ip.isLinkLocal = true ↔ InNetwork ip.octets [169, 254] 16 := by
  rw [show InNetwork ip.octets [169, 254] 16 ↔ _ from inNetwork_bytes (Nat.le_of_ble_eq_true rfl)]
  simp [isLinkLocal, octets]

/-- The private addresses are those of three networks. -/
theorem Ipv4Addr.private_iff (ip : Ipv4Addr) : ip.isPrivate = true ↔
    InNetwork ip.octets [10] 8 ∨ InNetwork ip.octets [172, 16] 12 ∨
      InNetwork ip.octets [192, 168] 16 := by
  have twelve : InNetwork ip.octets [172, 16] 12 ↔
      ip.first = 172 ∧ 16 ≤ ip.second ∧ ip.second ≤ 31 := by
    have bytes : InNetwork ip.octets [172, 16] 12 ↔
        ip.first = 172 ∧ Agree 4 (value [ip.second]) (value [16]) :=
      agree_cons (show [ip.second].length = [16].length from rfl) (show 4 ≤ 8 by decide)
    have second : Agree 4 (value [ip.second]) (value [16]) ↔ 16 ≤ ip.second ∧ ip.second ≤ 31 := by
      have low : 16 ≤ ip.second ↔ 16 ≤ ip.second.toNat := Iff.rfl
      have high : ip.second ≤ 31 ↔ ip.second.toNat ≤ 31 := Iff.rfl
      rw [low, high]
      show (0 * 256 + ip.second.toNat) / 16 = 1 ↔ _
      omega
    rw [bytes, second]
  rw [show InNetwork ip.octets [10] 8 ↔ _ from inNetwork_bytes (Nat.le_of_ble_eq_true rfl),
    show InNetwork ip.octets [192, 168] 16 ↔ _ from inNetwork_bytes (Nat.le_of_ble_eq_true rfl),
    twelve]
  simp [isPrivate, octets, or_assoc, and_assoc]

/-- Unique-local addresses of version six. -/
theorem Ipv6Addr.uniqueLocal_iff (ip : Ipv6Addr) :
    ip.octet 0 &&& 0xfe = 0xfc ↔ InNetwork ip.octets [0xfc] 7 := by
  unfold InNetwork
  rw [ip.octets_each]
  exact (agree_byte 1 (ip.octet 0) 0xfc).symm

/-- Link-local addresses of version six. -/
theorem Ipv6Addr.linkLocal_iff (ip : Ipv6Addr) :
    ip.octet 0 = 0xfe ∧ ip.octet 1 &&& 0xc0 = 0x80 ↔ InNetwork ip.octets [0xfe, 0x80] 10 := by
  have bytes : Agree 6 (value [ip.octet 0, ip.octet 1]) (value [0xfe, 0x80]) ↔
      ip.octet 0 = 0xfe ∧ Agree 6 (value [ip.octet 1]) (value [0x80]) :=
    agree_cons (show [ip.octet 1].length = [0x80].length from rfl) (show 6 ≤ 8 by decide)
  rw [agree_byte] at bytes
  unfold InNetwork
  rw [ip.octets_each]
  exact bytes.symm

end Foundation.Address
