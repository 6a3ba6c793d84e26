import PacketBrowser.Foundation.Address
import PacketBrowser.Foundation.Triple
import PacketBrowser.Server.Operations

/-!
# The filter of outbound connections

A host is resolved at most once, and the address that comes of it is the one to connect
to. Which addresses are blocked is computed with masks over machine integers; `Blocked`
says it in terms of networks, as numbers that agree in their leading bits.
-/

namespace PacketBrowser.Server

open Protocol Foundation Foundation.Address Foundation.Prefix

/-! ## Blocked addresses -/

/-- The number that four bytes are in big-endian order. -/
def ipv4Bits (ip : Ipv4Addr) : BitVec 32 := BitVec.ofNat 32 (value ip.octets)

/-- The address agrees with the network in its first bits. -/
def isIpv4InCidr (ip network : Ipv4Addr) (prefixLen : Nat) : Bool :=
  let mask : BitVec 32 := if prefixLen = 0 then 0 else ~~~(0 : BitVec 32) <<< (32 - prefixLen)
  ipv4Bits ip &&& mask == ipv4Bits network &&& mask

/-- Whether the address is in the network of one entry of the list. -/
def rangeBlocks (ip : Ipv4Addr) (range : Text) : Bool :=
  match Search.splitOnce ['/'] range with
  | none => false
  | some (network, prefixText) =>
    match parseIpv4Addr network, Decimal.parseUnsigned 256 prefixText with
    | some netIp, some prefixLen => prefixLen ≤ 32 && isIpv4InCidr ip netIp prefixLen
    | _, _ => false

/-- A range of the configuration contains the address. -/
def ipv4IsBlocked (ip : Ipv4Addr) (blockedRanges : List Text) : Bool :=
  blockedRanges.any (rangeBlocks ip)

/-- The networks that nobody is to be led to, and the addresses of version 4 inside the others. -/
def ipv6IsBlocked (ip : Ipv6Addr) (blockedRanges : List Text) : Bool :=
  if ip.isLoopback || ip.isUnspecified || ip.isMulticast then true
  -- unique-local fc00::/7
  else if ip.octet 0 &&& 0xfe == 0xfc then true
  -- link-local fe80::/10
  else if ip.octet 0 == 0xfe && ip.octet 1 &&& 0xc0 == 0x80 then true
  -- discard prefix 100::/64
  else if ip.octets.take 8 == [0x01, 0x00, 0, 0, 0, 0, 0, 0] then true
  else match ip.toIpv4Mapped with
  | some v4 => ipv4IsBlocked v4 blockedRanges
  | none =>
    -- 6to4 2002::/16
    if ip.octet 0 == 0x20 && ip.octet 1 == 0x02 then
      ipv4IsBlocked ⟨ip.octet 2, ip.octet 3, ip.octet 4, ip.octet 5⟩ blockedRanges
    else false

/-- Whether nobody is to be led to the address, by its version. -/
def ipIsBlocked (ip : IpAddr) (blockedRanges : List Text) : Bool :=
  match ip with
  | .v4 v4 => ipv4IsBlocked v4 blockedRanges
  | .v6 v6 => ipv6IsBlocked v6 blockedRanges

section Networks

/-- The text is this network, in the form `network/length`. -/
def Entry (range : Text) (network : Ipv4Addr) (prefixLen : Nat) : Prop :=
  ∃ networkText prefixText, Search.splitOnce ['/'] range = some (networkText, prefixText) ∧
    parseIpv4Addr networkText = some network ∧ Decimal.parseUnsigned 256 prefixText = some prefixLen

/-- The address is in the network with these leading bytes and a prefix of this length. -/
def Within (ip : Ipv6Addr) (leading : List UInt8) (prefixLen : Nat) : Prop :=
  Agree (128 - prefixLen) (value ip.octets)
    (value (leading ++ List.replicate (16 - leading.length) 0))

/-- The addresses nothing may connect to. -/
inductive Blocked (blockedRanges : List Text) : IpAddr → Prop
  | range {ip network : Ipv4Addr} {range : Text} {prefixLen : Nat} (listed : range ∈ blockedRanges)
      (entry : Entry range network prefixLen) (short : prefixLen ≤ 32)
      (agree : Agree (32 - prefixLen) (value ip.octets) (value network.octets)) :
      Blocked blockedRanges (.v4 ip)
  | loopback {ip : Ipv6Addr} (one : value ip.octets = 1) : Blocked blockedRanges (.v6 ip)
  | unspecified {ip : Ipv6Addr} (zero : value ip.octets = 0) : Blocked blockedRanges (.v6 ip)
  | multicast {ip : Ipv6Addr} (within : Within ip [0xff] 8) : Blocked blockedRanges (.v6 ip)
  | uniqueLocal {ip : Ipv6Addr} (within : Within ip [0xfc] 7) : Blocked blockedRanges (.v6 ip)
  | linkLocal {ip : Ipv6Addr} (within : Within ip [0xfe, 0x80] 10) : Blocked blockedRanges (.v6 ip)
  | discard {ip : Ipv6Addr} (within : Within ip [0x01, 0, 0, 0, 0, 0, 0, 0] 64) :
    Blocked blockedRanges (.v6 ip)
  | mapped {ip : Ipv6Addr} {v4 : Ipv4Addr} (within : Within ip (mappedOctets ++ v4.octets) 128)
      (inner : Blocked blockedRanges (.v4 v4)) : Blocked blockedRanges (.v6 ip)
  | sixToFour {ip : Ipv6Addr} {v4 : Ipv4Addr} (within : Within ip ([0x20, 0x02] ++ v4.octets) 48)
      (inner : Blocked blockedRanges (.v4 v4)) : Blocked blockedRanges (.v6 ip)

variable {blockedRanges : List Text}

/-- The mask compares the leading bits, also where there are none. -/
theorem isIpv4InCidr_iff (ip network : Ipv4Addr) (prefixLen : Nat) :
    isIpv4InCidr ip network prefixLen = true ↔
      Agree (32 - prefixLen) (value ip.octets) (value network.octets) := by
  have bits : ∀ ip : Ipv4Addr, (ipv4Bits ip).toNat = value ip.octets := by
    intro ip
    unfold ipv4Bits
    rw [BitVec.toNat_ofNat]
    exact Nat.mod_eq_of_lt ip.value_lt
  unfold isIpv4InCidr
  dsimp only
  by_cases all : prefixLen = 0
  · have agree : Agree 32 (value ip.octets) (value network.octets) := by
      unfold Agree
      rw [Nat.div_eq_of_lt ip.value_lt, Nat.div_eq_of_lt network.value_lt]
    simp [all, agree]
  · rw [if_neg all, beq_iff_eq, ← bits ip, ← bits network, ← masked_eq_iff]
    exact Iff.rfl

/-- A range blocks exactly the addresses of its network, where it is written as one. -/
theorem rangeBlocks_iff (ip : Ipv4Addr) (range : Text) :
    rangeBlocks ip range = true ↔ ∃ network prefixLen, Entry range network prefixLen ∧
      prefixLen ≤ 32 ∧ Agree (32 - prefixLen) (value ip.octets) (value network.octets) := by
  unfold rangeBlocks
  constructor
  · intro blocks
    split at blocks
    · exact absurd blocks Bool.false_ne_true
    · rename_i networkText prefixText split
      split at blocks
      · rename_i network prefixLen read length
        obtain ⟨short, inside⟩ := Bool.and_eq_true_iff.mp blocks
        exact ⟨network, prefixLen, ⟨networkText, prefixText, split, read, length⟩,
          of_decide_eq_true short, (isIpv4InCidr_iff ip network prefixLen).mp inside⟩
      · exact absurd blocks Bool.false_ne_true
  · rintro ⟨network, prefixLen, ⟨networkText, prefixText, split, read, length⟩, short, agree⟩
    rw [split]
    dsimp only
    rw [read, length]
    exact Bool.and_eq_true_iff.mpr
      ⟨decide_eq_true short, (isIpv4InCidr_iff ip network prefixLen).mpr agree⟩

/-- The test is the one for the blocked addresses of version 4. -/
theorem ipv4IsBlocked_iff (ip : Ipv4Addr) :
    ipv4IsBlocked ip blockedRanges = true ↔ Blocked blockedRanges (.v4 ip) := by
  unfold ipv4IsBlocked
  rw [List.any_eq_true]
  constructor
  · rintro ⟨range, listed, blocks⟩
    obtain ⟨network, prefixLen, entry, short, agree⟩ := (rangeBlocks_iff ip range).mp blocks
    exact .range listed entry short agree
  · intro blocked
    cases blocked with
    | range listed entry short agree =>
      exact ⟨_, listed, (rangeBlocks_iff ip _).mpr ⟨_, _, entry, short, agree⟩⟩

/-- Only the leading bytes matter, and of these only the bits that are not free. -/
theorem within_iff (ip : Ipv6Addr) (leading : List UInt8) (fits : leading.length ≤ 16) {bits : Nat}
    (long : bits ≤ 8 * leading.length) : Within ip leading bits ↔ InNetwork ip.octets leading bits := by
  have lengths : (ip.octets.drop leading.length).length =
      (List.replicate (16 - leading.length) (0 : UInt8)).length := by
    rw [ip.length_drop, List.length_replicate]
  have width : 128 - bits =
      8 * (ip.octets.drop leading.length).length + (8 * leading.length - bits) := by
    rw [ip.length_drop]
    omega
  have whole := List.take_append_drop leading.length ip.octets
  unfold Within
  rw [width]
  nth_rewrite 2 [← whole]
  exact agree_append lengths _

/-- A network of whole bytes. -/
theorem within_bytes (ip : Ipv6Addr) (leading : List UInt8) (fits : leading.length ≤ 16) :
    Within ip leading (8 * leading.length) ↔ ip.octets.take leading.length = leading :=
  (within_iff ip leading fits (Nat.le_refl _)).trans (inNetwork_bytes (ip.length ▸ fits))

/-- The test on the first byte is the one for the network. -/
theorem multicast_iff (ip : Ipv6Addr) : ip.isMulticast = true ↔ Within ip [0xff] 8 := by
  rw [show Within ip [0xff] 8 ↔ _ from within_bytes ip [0xff] (by decide), ip.octets_each]
  show (ip.octet 0 == 0xff) = true ↔ [ip.octet 0] = [0xff]
  simp

/-- The test on the first byte is the one for the network. -/
theorem uniqueLocal_iff (ip : Ipv6Addr) : ip.octet 0 &&& 0xfe = 0xfc ↔ Within ip [0xfc] 7 :=
  ip.uniqueLocal_iff.trans (within_iff ip [0xfc] (by decide) (by decide)).symm

/-- The test on the first two bytes is the one for the network. -/
theorem linkLocal_iff (ip : Ipv6Addr) :
    ip.octet 0 = 0xfe ∧ ip.octet 1 &&& 0xc0 = 0x80 ↔ Within ip [0xfe, 0x80] 10 :=
  ip.linkLocal_iff.trans (within_iff ip [0xfe, 0x80] (by decide) (by decide)).symm

/-- An address of version 4 is mapped exactly if the bytes say so. -/
theorem mapped_iff (ip : Ipv6Addr) (v4 : Ipv4Addr) :
    ip.toIpv4Mapped = some v4 ↔ Within ip (mappedOctets ++ v4.octets) 128 := by
  rw [show Within ip (mappedOctets ++ v4.octets) 128 ↔ _ from
    within_bytes ip (mappedOctets ++ v4.octets) (Nat.le_refl 16), ip.toIpv4Mapped_iff]
  rw [show ip.octets.take (mappedOctets ++ v4.octets).length = ip.octets from
    List.take_of_length_le (Nat.le_of_eq ip.length)]

/-- The four bytes behind the first two. -/
def sixToFourAddr (ip : Ipv6Addr) : Ipv4Addr := ⟨ip.octet 2, ip.octet 3, ip.octet 4, ip.octet 5⟩

/-- An address of version 4 is behind a gateway exactly if the bytes say so. -/
theorem sixToFour_iff (ip : Ipv6Addr) (v4 : Ipv4Addr) :
    (ip.octet 0 = 0x20 ∧ ip.octet 1 = 0x02) ∧ v4 = sixToFourAddr ip ↔
      Within ip ([0x20, 0x02] ++ v4.octets) 48 := by
  obtain ⟨first, second, third, fourth⟩ := v4
  rw [show Within ip _ 48 ↔ _ from
    within_bytes ip ([0x20, 0x02] ++ Ipv4Addr.octets ⟨first, second, third, fourth⟩)
      (Nat.le_of_ble_eq_true rfl),
    ip.octets_each]
  show _ ↔ [ip.octet 0, ip.octet 1, ip.octet 2, ip.octet 3, ip.octet 4, ip.octet 5] =
    [0x20, 0x02, first, second, third, fourth]
  simp only [sixToFourAddr, Ipv4Addr.mk.injEq, List.cons.injEq, and_true, and_assoc,
    eq_comm (a := first), eq_comm (a := second), eq_comm (a := third), eq_comm (a := fourth)]

/-- The test is the one for the blocked addresses of version 6. -/
theorem ipv6IsBlocked_iff (ip : Ipv6Addr) :
    ipv6IsBlocked ip blockedRanges = true ↔ Blocked blockedRanges (.v6 ip) := by
  unfold ipv6IsBlocked
  constructor
  · intro blocks
    split at blocks
    · rename_i special
      rcases Bool.or_eq_true_iff.mp special with special | multicast
      · rcases Bool.or_eq_true_iff.mp special with loopback | unspecified
        · exact .loopback (eq_of_beq loopback)
        · exact .unspecified (eq_of_beq unspecified)
      · exact .multicast ((multicast_iff ip).mp multicast)
    split at blocks
    · rename_i uniqueLocal
      exact .uniqueLocal ((uniqueLocal_iff ip).mp (eq_of_beq uniqueLocal))
    split at blocks
    · rename_i linkLocal
      obtain ⟨first, second⟩ := Bool.and_eq_true_iff.mp linkLocal
      exact .linkLocal ((linkLocal_iff ip).mp ⟨eq_of_beq first, eq_of_beq second⟩)
    split at blocks
    · rename_i discard
      exact .discard ((within_bytes ip _ (by decide)).mpr (eq_of_beq discard))
    split at blocks
    · rename_i v4 mapped
      exact .mapped ((mapped_iff ip v4).mp mapped) ((ipv4IsBlocked_iff v4).mp blocks)
    split at blocks
    · rename_i sixToFour
      obtain ⟨first, second⟩ := Bool.and_eq_true_iff.mp sixToFour
      exact .sixToFour ((sixToFour_iff ip _).mp ⟨⟨eq_of_beq first, eq_of_beq second⟩, rfl⟩)
        ((ipv4IsBlocked_iff _).mp blocks)
    · exact absurd blocks Bool.false_ne_true
  · intro blocked
    split
    · rfl
    split
    · rfl
    split
    · rfl
    split
    · rfl
    rename_i special uniqueLocal linkLocal discard
    simp only [Bool.or_eq_true, not_or] at special
    cases blocked with
    | loopback one => exact absurd (beq_iff_eq.mpr one) special.1.1
    | unspecified zero => exact absurd (beq_iff_eq.mpr zero) special.1.2
    | multicast within => exact absurd ((multicast_iff ip).mpr within) special.2
    | uniqueLocal within =>
      exact absurd (beq_iff_eq.mpr ((uniqueLocal_iff ip).mpr within)) uniqueLocal
    | linkLocal within =>
      have bytes := (linkLocal_iff ip).mpr within
      exact absurd (by simp [bytes]) linkLocal
    | discard within =>
      exact absurd (beq_iff_eq.mpr ((within_bytes ip _ (by decide)).mp within)) discard
    | @mapped _ v4 within inner =>
      rw [(mapped_iff ip v4).mpr within]
      exact (ipv4IsBlocked_iff v4).mpr inner
    | @sixToFour _ v4 within inner =>
      obtain ⟨⟨first, second⟩, rfl⟩ := (sixToFour_iff ip v4).mpr within
      have unmapped : ip.toIpv4Mapped = none := by
        unfold Ipv6Addr.toIpv4Mapped
        rw [ip.octets_each]
        apply if_neg
        intro leading
        have zero : ip.octet 0 = 0 := (List.cons.inj leading).1
        exact absurd (first.symm.trans zero) (by decide)
      rw [unmapped]
      simp only [first, second, beq_self_eq_true, Bool.and_self, if_true]
      exact (ipv4IsBlocked_iff _).mpr inner

/-- The test is the one for the blocked addresses. -/
theorem ipIsBlocked_iff (ip : IpAddr) :
    ipIsBlocked ip blockedRanges = true ↔ Blocked blockedRanges ip := by
  cases ip with
  | v4 ip => exact ipv4IsBlocked_iff ip
  | v6 ip => exact ipv6IsBlocked_iff ip

example : ipIsBlocked (.v6 (.ofSegments (joined [0x2002, 0x0a01] []))) ["10.0.0.0/8".toList] = true := by
  decide

end Networks

/-! ## Resolving -/

/-- What is sent to the target of a request. -/
structure OutboundRequest where
  method : Text
  pathAndQuery : Text
  headers : List (Text × Text)
  body : Bytes
  deriving DecidableEq, Repr

/-- What is answered to the browser. -/
structure Reply where
  status : Nat
  headers : List (Text × Text)
  body : Bytes
  deriving DecidableEq, Repr

/-- What the proxy asks for while it handles a request. -/
inductive ProxyOp where
  | readBlocklist
  | lookup (host : Text) (port : Nat)
  | connect (ip : IpAddr) (port : Nat)
  | handshake
  | buildUri (pathAndQuery : Text)
  | headerValue (text : Text)
  | sendRequest (request : OutboundRequest)
  | respond (reply : Reply)
  | awaitUpgrade
  | spliceTunnel
  deriving DecidableEq

/-- The type of answers of each operation. A lookup gives the addresses in their order. -/
abbrev ProxyAnswer : ProxyOp → Type
  | .readBlocklist => Option (List Text)
  | .lookup _ _ => Option (List IpAddr)
  | .connect _ _ => Except Text Unit
  | .handshake => Except Text Unit
  | .buildUri _ => Except Text Unit
  | .headerValue _ => Except Text Unit
  | .sendRequest _ => Except Text Reply
  | .respond _ => Unit
  | .awaitUpgrade => Except Text Unit
  | .spliceTunnel => Except Text Unit

/-- What the proxy does. -/
abbrev ProxyRoutine := Program ProxyOp ProxyAnswer

/-- Perform one operation. -/
abbrev askProxy (op : ProxyOp) : ProxyRoutine (ProxyAnswer op) := Program.ask op

/-- The names of the host itself. -/
def blockedHostnames : List Text :=
  ["localhost".toList, "localhost.localdomain".toList, "ip6-localhost".toList,
    "ip6-loopback".toList, "broadcasthost".toList]

/-- Whether the host is on the list of domains, which is none before it is set up. -/
def isDomainBlocked (host : Text) : ProxyRoutine Bool := do
  match ← askProxy .readBlocklist with
  | none => return false
  | some domains => return domains.contains (Text.toAsciiLowercase host)

/-- The address, unless it is blocked. -/
def unblocked (shown : Text) (ip : IpAddr) (blockedRanges : List Text) : Except UrlError IpAddr :=
  if ipIsBlocked ip blockedRanges then .error (.blockedHost shown) else .ok ip

/-- The address that the host is a spelling of, possibly in brackets. -/
def literal (host : Text) : Option IpAddr :=
  match parseIpAddr host with
  | some ip => some ip
  | none => ((Text.stripPrefix ['['] host).bind (Text.stripSuffix [']'])).bind parseIpAddr

/-- Only the first of the addresses counts. -/
def resolveFirst (host : Text) (port : Nat) (blockedRanges : List Text) :
    ExceptT UrlError ProxyRoutine IpAddr := ExceptT.mk do
  match ← askProxy (.lookup host port) with
  | none => return .error (.unresolvableHost host)
  | some [] => return .error (.unresolvableHost host)
  | some (first :: _) =>
    return unblocked (host ++ " (resolves to ".toList ++ first.display ++ [')']) first blockedRanges

/-- The address that a host stands for, checked; it is the one that is connected to. -/
def resolveAndPin (host : Text) (port : Nat) (blockedRanges : List Text) :
    ExceptT UrlError ProxyRoutine IpAddr :=
  let hostLc := Text.toAsciiLowercase host
  if blockedHostnames.contains hostLc then throw (.blockedHost hostLc)
  else do
    if ← ExceptT.lift (isDomainBlocked hostLc) then throw (.blockedHost hostLc)
    else match literal host with
      | some ip => ExceptT.mk (return unblocked ip.display ip blockedRanges)
      | none => resolveFirst host port blockedRanges

end PacketBrowser.Server
