import PacketBrowser.Foundation.Address
import PacketBrowser.Foundation.Lines
import PacketBrowser.Foundation.Text
import PacketBrowser.Protocol.Message

/-!
# The guard in front of the handlers

A request is served only under a host that is the client's own, and a `POST` only from a
page of that host. The host stands in front of the port, or between brackets; it is an
address of this machine, or of its network where it listens everywhere, or a name of a list.

`AllowedHost` says which hosts these are, with networks in place of masks, and `Behind` how
a host and what follows it make up a header.
-/

namespace PacketBrowser.Client

open Protocol Foundation Foundation.Address

section Allowlist

/-- The hosts that are served. -/
structure HostAllowlist where
  hostnames : List Text
  boundIp : Option IpAddr
  allowLan : Bool
  deriving DecidableEq

/-- The name of the host itself. -/
def localhost : Text := "localhost".toList

/-- The hosts that are served: this one, those of the configuration, the address that is
listened on, and the local network where every address is. -/
def HostAllowlist.new (listenIp : IpAddr) (extraHostnames : List Text) : HostAllowlist where
  hostnames := localhost :: (extraHostnames.map fun h => Text.toAsciiLowercase (Text.trim h)).filter
    fun h => !h.isEmpty
  boundIp := if !listenIp.isLoopback && !listenIp.isUnspecified then some listenIp else none
  allowLan := listenIp.isUnspecified

/-- The address belongs to a local network. -/
def isLanIp : IpAddr → Bool
  | .v4 ip => ip.isPrivate || ip.isLinkLocal
  | .v6 ip => ip.octet 0 &&& 0xfe == 0xfc || (ip.octet 0 == 0xfe && ip.octet 1 &&& 0xc0 == 0x80)

/-- Up to the first closing bracket, if the text begins with an opening one. -/
def bracketed : Text → Option Text
  | '[' :: rest => (Lines.first (· == ']') rest).map fun found => '[' :: (found.1 ++ [']'])
  | _ => none

/-- The host of a header, without its port and its brackets. -/
def stripPortFromHost (host : Text) : Text :=
  (bracketed host).getD (((Lines.last (· == ':') host).map Prod.fst).getD host)

/-- Without the brackets around it. -/
def unbracketed (hostname : Text) : Text :=
  ((Text.stripPrefix ['['] hostname).bind (Text.stripSuffix [']'])).getD hostname

/-- The host is an address or a name that is served. -/
def HostAllowlist.allows (allowlist : HostAllowlist) (hostname : Text) : Bool :=
  match parseIpAddr (unbracketed hostname) with
  | some ip =>
    ip.isLoopback || allowlist.boundIp == some ip || (allowlist.allowLan && isLanIp ip)
  | none => allowlist.hostnames.contains (Text.toAsciiLowercase hostname)

/-- Whether a header names a host that is served. -/
def HostAllowlist.containsHostHeader (allowlist : HostAllowlist) (hostHeader : Text) : Bool :=
  allowlist.allows (stripPortFromHost hostHeader)

/-- The authority of the origin is the host, letter by letter. -/
def originMatchesHost (origin host : Text) : Bool :=
  match (Text.stripPrefix "http://".toList origin).or
    (Text.stripPrefix "https://".toList origin) with
  | some authority => authority == host
  | none => false

/-- The status of a request that is refused. -/
def forbidden : Nat := 403

/-- A request goes on to its handler, or is refused with a status. -/
def securityGuard (allowlist : HostAllowlist) (method : Text) (host origin : Option Text) :
    Except Nat Unit :=
  match host with
  | none => .error forbidden
  | some host =>
    if allowlist.containsHostHeader host then
      if method = "POST".toList then
        if origin.any (originMatchesHost · host) then .ok () else .error forbidden
      else .ok ()
    else .error forbidden

end Allowlist

section Meaning

/-- The address belongs to a network at home. -/
def OnLan : IpAddr → Prop
  | .v4 ip => InNetwork ip.octets [10] 8 ∨ InNetwork ip.octets [172, 16] 12 ∨
    InNetwork ip.octets [192, 168] 16 ∨ InNetwork ip.octets [169, 254] 16
  | .v6 ip => InNetwork ip.octets [0xfc] 7 ∨ InNetwork ip.octets [0xfe, 0x80] 10

/-- The address is one under which this machine is to be reached. -/
inductive Ours (listenIp ip : IpAddr) : Prop
  | loopback (loops : ip.isLoopback = true)
  | bound (specific : listenIp.isLoopback = false ∧ listenIp.isUnspecified = false)
      (same : ip = listenIp)
  | lan (everywhere : listenIp.isUnspecified = true) (near : OnLan ip)

/-- The name is in the list, but for the case of letters. -/
def Listed (extraHostnames : List Text) (host : Text) : Prop :=
  Text.toAsciiLowercase host = localhost ∨ host ≠ [] ∧
    ∃ extra ∈ extraHostnames,
      Text.toAsciiLowercase (Text.trim extra) = Text.toAsciiLowercase host

/-- A host that is served: an address, perhaps between brackets, or a name. -/
inductive AllowedHost (listenIp : IpAddr) (extraHostnames : List Text) : Text → Prop
  | literal {host : Text} {ip : IpAddr} (read : parseIpAddr host = some ip)
      (ours : Ours listenIp ip) : AllowedHost listenIp extraHostnames host
  | bracketed {inner : Text} {ip : IpAddr} (read : parseIpAddr inner = some ip)
      (ours : Ours listenIp ip) : AllowedHost listenIp extraHostnames ('[' :: (inner ++ [']']))
  | name {host : Text} (bare : parseIpAddr host = none)
      (inside : ∀ inner, host = '[' :: (inner ++ [']']) → parseIpAddr inner = none)
      (listed : Listed extraHostnames host) : AllowedHost listenIp extraHostnames host

/-- A bracket is opened at the beginning and closed. -/
def Enclosed (text : Text) : Prop := ∃ rest, text = '[' :: rest ∧ ']' ∈ rest

/-- What may stand behind a host so that it is taken for the host: anything behind a closing
bracket, else nothing, or a colon and no further one. -/
inductive Behind : Text → Text → Prop
  | enclosed {inner : Text} (rest : Text) (closes : ']' ∉ inner) :
      Behind ('[' :: (inner ++ [']'])) rest
  | bare {host : Text} (plain : ¬ Enclosed host) (portless : ':' ∉ host) : Behind host []
  | port {host more : Text} (plain : ¬ Enclosed (host ++ ':' :: more)) (last : ':' ∉ more) :
      Behind host (':' :: more)

/-- No port, or a number. -/
def PortPart (text : Text) : Prop :=
  text = [] ∨ ∃ digits, text = ':' :: digits ∧ digits ≠ [] ∧ ∀ c ∈ digits, c.isDigit = true

end Meaning

section Literals

variable {listenIp : IpAddr} {extraHostnames : List Text} {host : Text}

/-- The test on bytes is the one for the networks. -/
theorem isLanIp_iff (ip : IpAddr) : isLanIp ip = true ↔ OnLan ip := by
  cases ip with
  | v4 ip =>
    unfold isLanIp OnLan
    rw [Bool.or_eq_true_iff, ip.private_iff, ip.linkLocal_iff]
    simp only [or_assoc]
  | v6 ip =>
    simp only [isLanIp, OnLan, ← ip.uniqueLocal_iff, ← ip.linkLocal_iff, Bool.or_eq_true,
      Bool.and_eq_true, beq_iff_eq]

/-- An address of this machine passes, and no other one. -/
theorem ours_iff (ip : IpAddr) :
    (ip.isLoopback || (HostAllowlist.new listenIp extraHostnames).boundIp == some ip ||
      ((HostAllowlist.new listenIp extraHostnames).allowLan && isLanIp ip)) = true ↔
    Ours listenIp ip := by
  have bound : ((HostAllowlist.new listenIp extraHostnames).boundIp == some ip) = true ↔
      (listenIp.isLoopback = false ∧ listenIp.isUnspecified = false) ∧ ip = listenIp := by
    rw [beq_iff_eq]
    show (if (!listenIp.isLoopback && !listenIp.isUnspecified) = true then some listenIp
      else none) = some ip ↔ _
    rw [Option.ite_none_right_eq_some, Bool.and_eq_true_iff, Bool.not_eq_true', Bool.not_eq_true',
      Option.some.injEq, @eq_comm _ listenIp]
  have lan : ((HostAllowlist.new listenIp extraHostnames).allowLan && isLanIp ip) = true ↔
      listenIp.isUnspecified = true ∧ OnLan ip := by
    rw [Bool.and_eq_true_iff, isLanIp_iff]
    rfl
  rw [Bool.or_eq_true_iff, Bool.or_eq_true_iff, bound, lan]
  constructor
  · rintro ((loops | ⟨specific, same⟩) | ⟨everywhere, near⟩)
    · exact .loopback loops
    · exact .bound specific same
    · exact .lan everywhere near
  · intro ours
    cases ours with
    | loopback loops => exact .inl (.inl loops)
    | bound specific same => exact .inl (.inr ⟨specific, same⟩)
    | lan everywhere near => exact .inr ⟨everywhere, near⟩

/-- The list holds the names that were configured, in lower case. -/
theorem listed_iff (host : Text) :
    (HostAllowlist.new listenIp extraHostnames).hostnames.contains (Text.toAsciiLowercase host) =
      true ↔ Listed extraHostnames host := by
  have empty : Text.toAsciiLowercase host = [] ↔ host = [] := by
    unfold Text.toAsciiLowercase
    exact List.map_eq_nil_iff
  rw [List.contains_iff_mem]
  show _ ∈ localhost :: List.filter _ _ ↔ _
  rw [List.mem_cons, List.mem_filter, List.mem_map]
  unfold Listed
  constructor
  · rintro (same | ⟨⟨extra, given, same⟩, some⟩)
    · exact .inl same
    · right
      constructor
      · intro none
        rw [empty.mpr none] at some
        exact absurd some (by simp)
      · exact ⟨extra, given, same⟩
  · rintro (same | ⟨some, extra, given, same⟩)
    · exact .inl same
    · right
      constructor
      · exact ⟨extra, given, same⟩
      · have filled : Text.toAsciiLowercase host ≠ [] := fun none => some (empty.mp none)
        simpa using filled

/-- What is in brackets is read without them. -/
theorem unbracketed_inner (inner : Text) : unbracketed ('[' :: (inner ++ [']'])) = inner := by
  have front : Text.stripPrefix ['['] ('[' :: (inner ++ [']'])) = some (inner ++ [']']) :=
    Text.stripPrefix_append ['['] _
  have back : Text.stripSuffix [']'] (inner ++ [']']) = some inner := by
    simp [Text.stripSuffix]
  unfold unbracketed
  rw [front, Option.bind_some, back]
  rfl

/-- What is not between brackets is left alone. -/
theorem unbracketed_plain (plain : ∀ inner, host ≠ '[' :: (inner ++ [']'])) :
    unbracketed host = host := by
  unfold unbracketed
  cases front : Text.stripPrefix ['['] host with
  | none => rfl
  | some rest =>
    cases back : Text.stripSuffix [']'] rest with
    | none => simp [back]
    | some inner =>
      obtain rfl := Text.stripSuffix_some back
      exact absurd (Text.stripPrefix_some front) (plain inner)

/-- No address begins with a bracket. -/
theorem parseIpAddr_bracket (rest : Text) : parseIpAddr ('[' :: rest) = none := rfl

/-- An allowed host is an address of this machine or a listed name, without its brackets. -/
theorem allowedHost_iff (host : Text) : AllowedHost listenIp extraHostnames host ↔
    (∃ ip, parseIpAddr (unbracketed host) = some ip ∧ Ours listenIp ip) ∨
      parseIpAddr (unbracketed host) = none ∧ Listed extraHostnames host := by
  by_cases brackets : ∃ inner, host = '[' :: (inner ++ [']'])
  · obtain ⟨inner, rfl⟩ := brackets
    have inside := unbracketed_inner inner
    constructor
    · intro allowed
      generalize whole : '[' :: (inner ++ [']']) = host at allowed
      cases allowed with
      | literal read ours =>
        rw [← whole, parseIpAddr_bracket] at read
        exact absurd read (by simp)
      | bracketed read ours =>
        rw [whole, unbracketed_inner] at inside
        obtain rfl := inside
        exact .inl ⟨_, by rwa [← whole, unbracketed_inner], ours⟩
      | name bare within listed =>
        rw [← whole] at within listed
        exact .inr ⟨by rw [← whole, inside]; exact within inner rfl, whole ▸ listed⟩
    · rw [inside]
      rintro (⟨ip, read, ours⟩ | ⟨unread, listed⟩)
      · exact .bracketed read ours
      · apply AllowedHost.name (parseIpAddr_bracket _) _ listed
        intro other same
        rw [← unbracketed_inner other, ← same, inside]
        exact unread
  · have plain : ∀ inner, host ≠ '[' :: (inner ++ [']']) :=
      fun inner same => brackets ⟨inner, same⟩
    rw [unbracketed_plain plain]
    constructor
    · intro allowed
      cases allowed with
      | literal read ours => exact .inl ⟨_, read, ours⟩
      | bracketed read ours => exact absurd rfl (plain _)
      | name bare within listed => exact .inr ⟨bare, listed⟩
    · rintro (⟨ip, read, ours⟩ | ⟨unread, listed⟩)
      · exact .literal read ours
      · exact .name unread (fun inner same => absurd same (plain inner)) listed

/-- What is served is an allowed host. -/
theorem allows_iff (host : Text) : (HostAllowlist.new listenIp extraHostnames).allows host = true ↔
    AllowedHost listenIp extraHostnames host := by
  rw [allowedHost_iff]
  unfold HostAllowlist.allows
  cases parseIpAddr (unbracketed host) with
  | some ip =>
    dsimp only
    rw [ours_iff]
    simp
  | none =>
    dsimp only
    rw [listed_iff]
    simp

end Literals

section Headers

variable {host rest : Text}

/-- What stands behind a host is stripped off. -/
theorem stripPort_behind (behind : Behind host rest) : stripPortFromHost (host ++ rest) = host := by
  have outside : ∀ text, ¬ Enclosed text → bracketed text = none := by
    intro text plain
    unfold bracketed
    split
    · rename_i later
      rw [Option.map_eq_none_iff]
      cases found : Lines.first (· == ']') later with
      | none => rfl
      | some split =>
        obtain ⟨c, same, rfl, _⟩ := Lines.first_some found
        rw [beq_iff_eq.mp same] at plain
        exact absurd ⟨_, rfl, by simp⟩ plain
    · rfl
  have other : ∀ {c : Char} {text : Text}, c ∉ text → ∀ d ∈ text, (d == c) = false := by
    intro c text absent d member
    apply beq_false_of_ne
    rintro rfl
    exact absent member
  unfold stripPortFromHost
  cases behind with
  | @enclosed inner _ closes =>
    have found : bracketed ('[' :: (inner ++ [']']) ++ rest) = some ('[' :: (inner ++ [']'])) := by
      have first : Lines.first (· == ']') (inner ++ ']' :: rest) = some (inner, rest) :=
        Lines.first_append (other closes) rfl rest
      simp [bracketed, first]
    rw [found]
    rfl
  | bare plain portless =>
    rw [List.append_nil, outside host plain, Lines.last_absent (other portless)]
    rfl
  | port plain last =>
    rw [outside _ plain, Lines.last_append host rfl (other last)]
    rfl

/-- Every header is a host with something behind it. -/
theorem header_split (header : Text) : ∃ host rest, header = host ++ rest ∧ Behind host rest := by
  by_cases enclosed : Enclosed header
  · obtain ⟨later, rfl, closed⟩ := enclosed
    cases found : Lines.first (· == ']') later with
    | none => exact absurd (Lines.first_none found _ closed) (by simp)
    | some split =>
      obtain ⟨inner, rest⟩ := split
      obtain ⟨c, same, rfl, within⟩ := Lines.first_some found
      rw [beq_iff_eq.mp same]
      exact ⟨'[' :: (inner ++ [']']), rest, by simp,
        .enclosed rest fun member => by simpa using within _ member⟩
  · cases found : Lines.last (· == ':') header with
    | none =>
      exact ⟨header, [], by simp, .bare enclosed fun member => by
        simpa using Lines.last_none found _ member⟩
    | some split =>
      obtain ⟨host, more⟩ := split
      obtain ⟨c, same, rfl, within⟩ := Lines.last_some found
      rw [beq_iff_eq.mp same] at enclosed ⊢
      exact ⟨host, ':' :: more, rfl, .port enclosed fun member => by simpa using within _ member⟩

/-- A header is accepted exactly for the host in it. -/
theorem contains_behind (listenIp : IpAddr) (extraHostnames : List Text)
    (behind : Behind host rest) :
    (HostAllowlist.new listenIp extraHostnames).containsHostHeader (host ++ rest) = true ↔
      AllowedHost listenIp extraHostnames host := by
  unfold HostAllowlist.containsHostHeader
  rw [stripPort_behind behind, allows_iff]

/-- An origin matches only the host it names. -/
theorem originMatchesHost_iff (origin host : Text) : originMatchesHost origin host = true ↔
    origin = "http://".toList ++ host ∨ origin = "https://".toList ++ host := by
  have apart : Text.stripPrefix "http://".toList ("https://".toList ++ host) = none := rfl
  unfold originMatchesHost
  constructor
  · intro matched
    cases plain : Text.stripPrefix "http://".toList origin with
    | some authority =>
      rw [plain] at matched
      obtain rfl := beq_iff_eq.mp matched
      exact .inl (Text.stripPrefix_some plain)
    | none =>
      cases secure : Text.stripPrefix "https://".toList origin with
      | some authority =>
        rw [plain, secure] at matched
        obtain rfl := beq_iff_eq.mp matched
        exact .inr (Text.stripPrefix_some secure)
      | none =>
        rw [plain, secure] at matched
        exact absurd matched Bool.false_ne_true
  · rintro (rfl | rfl)
    · rw [Text.stripPrefix_append]
      exact beq_self_eq_true host
    · rw [apart, Text.stripPrefix_append]
      exact beq_self_eq_true host

/-- A request without an allowed host is refused. -/
theorem securityGuard_host {allowlist : HostAllowlist} {header : Text}
    (foreign : allowlist.containsHostHeader header ≠ true) (method : Text) (origin : Option Text) :
    securityGuard allowlist method (some header) origin = .error forbidden := by
  unfold securityGuard
  exact if_neg foreign

/-- A `POST` passes only with the origin of its own host. -/
theorem securityGuard_origin {allowlist : HostAllowlist} {host origin : Option Text}
    (passed : securityGuard allowlist "POST".toList host origin ≠ .error forbidden) :
    ∃ header, host = some header ∧ allowlist.containsHostHeader header = true ∧
      (origin = some ("http://".toList ++ header) ∨
        origin = some ("https://".toList ++ header)) := by
  unfold securityGuard at passed
  split at passed
  · exact absurd rfl passed
  · rename_i header
    split at passed
    · rename_i accepted
      rw [if_pos rfl] at passed
      split at passed
      · rename_i sameSite
        cases origin with
        | none => exact absurd sameSite Bool.false_ne_true
        | some page =>
          have matched := (originMatchesHost_iff page header).mp sameSite
          exact ⟨header, rfl, accepted, matched.imp (congrArg some) (congrArg some)⟩
      · exact absurd rfl passed
    · exact absurd rfl passed

end Headers

section Guard

/-- What the guard does under some address and some list of names. -/
structure HostGuard (listenIp : IpAddr) (extraHostnames : List Text) : Prop where
  /-- With a number for its port or without a port, a host is accepted if and only if it is
  allowed. -/
  accepts : ∀ host port, PortPart port → Behind host port →
    ((HostAllowlist.new listenIp extraHostnames).containsHostHeader (host ++ port) = true ↔
      AllowedHost listenIp extraHostnames host)
  /-- No header is accepted but for an allowed host in front. -/
  fronted : ∀ header,
    (HostAllowlist.new listenIp extraHostnames).containsHostHeader header = true →
    ∃ host rest, header = host ++ rest ∧ Behind host rest ∧
      AllowedHost listenIp extraHostnames host
  /-- A name that is not in the list is refused, on whatever port the page came from. -/
  rebound : ∀ name port, parseIpAddr name = none → '[' ∉ name → ':' ∉ name →
    ¬ Listed extraHostnames name → PortPart port → ∀ method origin,
    securityGuard (.new listenIp extraHostnames) method (some (name ++ port)) origin =
      .error forbidden
  /-- A `POST` whose origin is missing or names another authority is refused. -/
  foreign : ∀ host origin, (∀ authority, origin = some ("http://".toList ++ authority) ∨
      origin = some ("https://".toList ++ authority) → host ≠ some authority) →
    securityGuard (.new listenIp extraHostnames) "POST".toList host origin = .error forbidden

/-- A name without brackets and colons is the host of its headers. -/
theorem behind_name {name port : Text} (open' : '[' ∉ name) (colon : ':' ∉ name)
    (number : PortPart port) : Behind name port := by
  have plain : ∀ rest, ¬ Enclosed (name ++ ':' :: rest) := by
    rintro rest ⟨later, same, _⟩
    cases name with
    | nil => exact absurd (List.cons.inj same).1 (by decide)
    | cons first name =>
      obtain ⟨rfl, _⟩ := List.cons.inj same
      exact open' List.mem_cons_self
  rcases number with rfl | ⟨digits, rfl, some, each⟩
  · apply Behind.bare _ colon
    rintro ⟨later, rfl, _⟩
    exact open' List.mem_cons_self
  · exact .port (plain digits) fun member => absurd (each ':' member) (by decide)

/-- The guard in front of the handlers, for every address, every list and every header.

Each part of the guard is an equivalence of its own. A name that is no address and not listed is
not allowed, whatever stands behind it. -/
theorem host_guarded (listenIp : IpAddr) (extraHostnames : List Text) :
    HostGuard listenIp extraHostnames where
  accepts := fun _ _ _ behind => contains_behind listenIp extraHostnames behind
  fronted := by
    intro header accepted
    obtain ⟨host, rest, rfl, behind⟩ := header_split header
    exact ⟨host, rest, rfl, behind, (contains_behind _ _ behind).mp accepted⟩
  rebound := by
    intro name port unread open' colon unlisted number method origin
    apply securityGuard_host
    rw [ne_eq, contains_behind _ _ (behind_name open' colon number), allowedHost_iff,
      unbracketed_plain, unread]
    · rintro (⟨ip, read, _⟩ | ⟨_, listed⟩)
      · exact absurd read (by simp)
      · exact unlisted listed
    · rintro inner rfl
      exact open' List.mem_cons_self
  foreign := by
    intro host origin other
    by_contra passed
    obtain ⟨header, rfl, _, sameSite⟩ := securityGuard_origin passed
    exact other header sameSite rfl

end Guard

section Grammar

/-- A host as a browser writes it: a listed name, an address of version four, or one of
version six between brackets. -/
inductive WrittenHost (listenIp : IpAddr) (extraHostnames : List Text) : Text → Prop
  | name {host : Text} (listed : Listed extraHostnames host) :
      WrittenHost listenIp extraHostnames host
  | v4 {host : Text} {ip : Ipv4Addr} (read : parseIpAddr host = some (.v4 ip))
      (ours : Ours listenIp (.v4 ip)) : WrittenHost listenIp extraHostnames host
  | v6 {inner : Text} {ip : Ipv6Addr} (read : parseIpAddr inner = some (.v6 ip))
      (ours : Ours listenIp (.v6 ip)) :
      WrittenHost listenIp extraHostnames ('[' :: (inner ++ [']']))

/-- Such a host, and perhaps a port. -/
def WrittenHeader (listenIp : IpAddr) (extraHostnames : List Text) (header : Text) : Prop :=
  ∃ host port, header = host ++ port ∧ PortPart port ∧ WrittenHost listenIp extraHostnames host

/-- This machine. -/
def loopback : IpAddr := .v4 ⟨127, 0, 0, 1⟩

/-- The address of this machine in version six. -/
def loopback6 : Ipv6Addr := ⟨[0, 0, 0, 0, 0, 0, 0, 0, 0, 0, 0, 0, 0, 0, 0, 1], rfl⟩

/-- A name that is not listed and an address of version six without its brackets are not
written hosts. -/
theorem written_plain {host : Text} {ip : Ipv6Addr} (read : parseIpAddr host = some (.v6 ip))
    (other : Text.toAsciiLowercase host ≠ localhost) : ¬ WrittenHost loopback [] host := by
  intro written
  cases written with
  | name listed =>
    rcases listed with same | ⟨_, extra, given, _⟩
    · exact other same
    · exact absurd given List.not_mem_nil
  | v4 short ours =>
    rw [read] at short
    exact absurd short (by simp)
  | v6 inside ours =>
    rw [parseIpAddr_bracket] at read
    exact absurd read (by simp)

/-- A header that is neither a written host, nor one in front of its last colon, is not
written. -/
theorem written_split {header host more : Text} (cut : Lines.last (· == ':') header =
      some (host, more)) (whole : ¬ WrittenHost loopback [] header)
    (front : ¬ WrittenHost loopback [] host) : ¬ WrittenHeader loopback [] header := by
  rintro ⟨before, port, rfl, rfl | ⟨digits, rfl, _, each⟩, written⟩
  · rw [List.append_nil] at whole
    exact whole written
  · have colonless : ∀ d ∈ digits, (d == ':') = false := by
      intro d member
      apply beq_false_of_ne
      rintro rfl
      exact absurd (each ':' member) (by decide)
    rw [Lines.last_append before rfl colonless] at cut
    obtain ⟨rfl, rfl⟩ := Prod.mk.inj (Option.some.inj cut)
    exact front written

/-- Neither half of the grammar of written headers holds: an address of version six is taken
for a host without its brackets, and a configured name that is an address is not looked for
among the names. -/
theorem host_read_loosely :
    ¬ (∀ listenIp extraHostnames header,
        (HostAllowlist.new listenIp extraHostnames).containsHostHeader header = true →
          WrittenHeader listenIp extraHostnames header) ∧
      ¬ ∀ listenIp extraHostnames header, WrittenHeader listenIp extraHostnames header →
        (HostAllowlist.new listenIp extraHostnames).containsHostHeader header = true := by
  constructor
  · intro grammar
    have inner : parseIpAddr "::1".toList = some (.v6 loopback6) := by decide
    have short := written_plain inner (by decide)
    have long : parseIpAddr "::1:80".toList =
        some (.v6 ⟨[0, 0, 0, 0, 0, 0, 0, 0, 0, 0, 0, 0, 0, 1, 0, 0x80], rfl⟩) := by
      decide
    have cut : Lines.last (· == ':') "::1:80".toList = some ("::1".toList, "80".toList) := by
      decide
    exact written_split cut (written_plain long (by decide)) short
      (grammar loopback [] "::1:80".toList (by decide))
  · intro grammar
    have written : WrittenHeader loopback ["10.0.0.5".toList] "10.0.0.5".toList :=
      ⟨"10.0.0.5".toList, [], rfl, .inl rfl,
        .name (.inr ⟨by decide, _, List.mem_cons_self, by decide⟩)⟩
    exact absurd (grammar _ _ _ written) (by decide)

end Grammar

end PacketBrowser.Client
