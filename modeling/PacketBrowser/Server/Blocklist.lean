import PacketBrowser.Foundation.Lines
import PacketBrowser.Server.Proxy

/-!
# The blocklist of domains

Lists in the format of a hosts file are fetched from the network, and of each line the
first name behind the address is kept, in lower case. A host is looked up as it is
spelled, up to the case of ASCII letters.

So the further names of a line are not blocked, and neither is a name with a dot at its
end that was listed without one. Everything that is on the list is rejected by both ways
in, before any lookup.
-/

namespace PacketBrowser.Server

open Protocol Foundation Foundation.Address Program

section Fetching

/-- Sixteen mebibytes. -/
def maxBlocklistBytes : Nat := 16777216

/-- The longest name of a domain. -/
def maxDomainLen : Nat := 253

/-- Why a list could not be fetched. -/
inductive FetchError where
  | request (message : Text)
  | announced (url : Text) (len : Nat)
  | oversized (url : Text)
  | invalidUtf8
  deriving DecidableEq

/-- What a server answers: the length it announces, and the reads of the body. -/
structure HttpResponse where
  contentLength : Option Nat
  reads : List (Except FetchError Bytes)

/-- The body up to its end, unless it grows too large. A read of no bytes is the end. -/
def readCapped (url : Text) : Bytes → List (Except FetchError Bytes) → Except FetchError Bytes
  | buf, [] => .ok buf
  | _, .error err :: _ => .error err
  | buf, .ok chunk :: later =>
    if chunk.length = 0 then .ok buf
    else if buf.length + chunk.length > maxBlocklistBytes then .error (.oversized url)
    else readCapped url (buf ++ chunk) later

variable (get : Text → Except FetchError HttpResponse)

/-- The body as a text. -/
def fetchCapped (url : Text) : Except FetchError Text := do
  let resp ← get url
  match resp.contentLength with
  | some len => if len > maxBlocklistBytes then throw (.announced url len)
  | none => pure ()
  let buf ← readCapped url [] resp.reads
  match Utf8.decode buf with
  | some body => return body
  | none => throw .invalidUtf8

/-- The lines of a text, without their terminators. -/
def linesOf (body : Text) : List Text :=
  (Lines.complete (· == '\n') body).map (fun line => (Text.stripSuffix ['\r'] line).getD line) ++
    (if (Lines.unfinished (· == '\n') body).isEmpty then []
    else [Lines.unfinished (· == '\n') body])

/-- Entries that should not be blocked. -/
def localNames : List Text :=
  ["localhost".toList, "localhost.localdomain".toList, "broadcasthost".toList]

/-- The words of a line that is not a comment. -/
def fieldsOf (line : Text) : List Text :=
  let line := Text.trim line
  if line.isEmpty || ['#'].isPrefixOf line then [] else Text.words line

/-- A name that is kept. -/
def kept (domain : Text) : Bool :=
  decide (Utf8.byteLength domain ≤ maxDomainLen) && !localNames.contains domain

/-- The domain of a line: the word behind the address. -/
def lineDomain (line : Text) : Option Text :=
  match fieldsOf line with
  | _ :: domain :: _ => if kept domain then some (Text.toAsciiLowercase domain) else none
  | _ => none

/-- The list of domains, which is none before it is set up. -/
abbrev DomainBlocklist := Option (List Text)

/-- A list that is there, and empty if there was none. -/
def initDomainBlocklist (state : DomainBlocklist) : DomainBlocklist := some (state.getD [])

/-- The domains of several lists. -/
def domainsOf (bodies : List Text) : List Text :=
  bodies.flatMap fun body => (linesOf body).filterMap lineDomain

/-- Replace the list of domains, if all lists can be fetched. -/
def updateBlocklist (urls : List Text) (state : DomainBlocklist) :
    Except FetchError Unit × DomainBlocklist :=
  match urls.mapM (fetchCapped get) with
  | .error err => (.error err, state)
  | .ok bodies => (.ok (), state.map fun _ => domainsOf bodies)

end Fetching

section Validating

/-- Where a URL leads to: a name or an address. -/
inductive Host where
  | domain (name : Text)
  | ipv4 (ip : Ipv4Addr)
  | ipv6 (ip : Ipv6Addr)
  deriving DecidableEq

/-- A URL that could be parsed. -/
structure ParsedUrl where
  scheme : Text
  host : Option Host
  port : Option Nat
  deriving DecidableEq

/-- The port of a URL whose scheme is http or https. -/
def ParsedUrl.portOrKnownDefault (url : ParsedUrl) : Nat :=
  url.port.getD (if url.scheme = "https".toList then 443 else 80)

/-- All addresses of the name count. -/
def checkResolved (name : Text) (port : Nat) (blockedRanges : List Text) :
    ExceptT UrlError ProxyRoutine Unit := ExceptT.mk do
  match ← askProxy (.lookup name port) with
  | none => return .error (.unresolvableHost name)
  | some addrs =>
    match addrs.find? fun ip => ipIsBlocked ip blockedRanges with
    | some ip =>
      return .error (.blockedHost (name ++ " (resolves to ".toList ++ ip.display ++ [')']))
    | none => return .ok ()

/-- Stop for a name that is blocked by itself, by the list or by where it leads. -/
def checkDomain (name : Text) (port : Nat) (blockedRanges : List Text) :
    ExceptT UrlError ProxyRoutine Unit :=
  let nameLc := Text.toAsciiLowercase name
  if blockedHostnames.contains nameLc then throw (.blockedHost nameLc)
  else do
    if ← ExceptT.lift (isDomainBlocked nameLc) then throw (.blockedHost nameLc)
    else checkResolved name port blockedRanges

/-- An address in a URL is only compared with the ranges. -/
def checkAddress (ip : IpAddr) (blockedRanges : List Text) : ExceptT UrlError ProxyRoutine Unit :=
  if ipIsBlocked ip blockedRanges then throw (.blockedHost ip.display) else pure ()

/-- Stop for a URL that is none, is not of the web, or leads where nobody is to be led. -/
def validateUrl (parse : Text → Option ParsedUrl) (url : Text) (blockedRanges : List Text) :
    ExceptT UrlError ProxyRoutine Unit :=
  match parse url with
  | none => throw .invalidUrl
  | some parsed =>
    if parsed.scheme ≠ "http".toList ∧ parsed.scheme ≠ "https".toList then
      throw (.blockedProtocol parsed.scheme)
    else match parsed.host with
    | none => throw .invalidUrl
    | some (.domain name) => checkDomain name parsed.portOrKnownDefault blockedRanges
    | some (.ipv4 ip) => checkAddress (.v4 ip) blockedRanges
    | some (.ipv6 ip) => checkAddress (.v6 ip) blockedRanges

end Validating

section Enforcing

/-- The list of domains is what it is; everything else answers what it likes. -/
def filterExec (op : ProxyOp) (answer : ProxyAnswer op) (state : DomainBlocklist) :
    Option DomainBlocklist :=
  match op with
  | .readBlocklist => if answer = state then some state else none
  | _ => some state

/-- Some name was looked up. -/
def lookedUp (log : List (Sigma ProxyAnswer)) : Bool :=
  log.any fun event => match event.1 with
    | .lookup _ _ => true
    | _ => false

/-- The outcome is that the host is blocked, without any lookup. -/
def Rejects {α : Type} (state : DomainBlocklist) (check : ExceptT UrlError ProxyRoutine α) : Prop :=
  ∀ result after log, Returns (logged filterExec) check.run (state, []) result (after, log) →
    (∃ shown, result = .error (.blockedHost shown)) ∧ lookedUp log = false

/-- The host is on the list, and no way in lets it pass. -/
structure Enforced (parse : Text → Option ParsedUrl) (state : DomainBlocklist) (host : Text) :
    Prop where
  blocked : Returns filterExec (isDomainBlocked host) state true state
  pinned : ∀ port blockedRanges, Rejects state (resolveAndPin host port blockedRanges)
  validated : ∀ url parsed blockedRanges, parse url = some parsed →
    (parsed.scheme = "http".toList ∨ parsed.scheme = "https".toList) →
    parsed.host = some (.domain host) → Rejects state (validateUrl parse url blockedRanges)

/-- The name is the first one on a line of the lists, up to the case of ASCII letters. -/
def Listed (bodies : List Text) (host : Text) : Prop :=
  ∃ body ∈ bodies, ∃ line ∈ linesOf body, ∃ address domain others,
    fieldsOf line = address :: domain :: others ∧ kept domain = true ∧
      Text.toAsciiLowercase domain = Text.toAsciiLowercase host

variable {parse : Text → Option ParsedUrl} {state : DomainBlocklist} {domains bodies : List Text}
variable {host : Text}

/-- A name is in the list exactly if one of the bodies lists it. -/
theorem mem_domainsOf : Text.toAsciiLowercase host ∈ domainsOf bodies ↔ Listed bodies host := by
  unfold domainsOf Listed
  rw [List.mem_flatMap]
  apply exists_congr
  intro body
  apply and_congr_right
  intro _
  rw [List.mem_filterMap]
  apply exists_congr
  intro line
  apply and_congr_right
  intro _
  unfold lineDomain
  constructor
  · intro found
    split at found
    · rename_i address domain others fields
      split at found
      · rename_i keeps
        exact ⟨address, domain, others, fields, keeps, Option.some.inj found⟩
      · exact absurd found (by simp)
    · exact absurd found (by simp)
  · rintro ⟨address, domain, others, fields, keeps, same⟩
    rw [fields]
    simp only [keeps, if_true, same]

/-- The list is looked at, and tells whether the host is on it. -/
theorem isDomainBlocked_spec {blocked : Bool} {after : DomainBlocklist}
    {log : List (Sigma ProxyAnswer)}
    (returns : Returns (logged filterExec) (isDomainBlocked host) (some domains, []) blocked
      (after, log)) :
    blocked = domains.contains (Text.toAsciiLowercase host) ∧ after = some domains ∧
      lookedUp log = false := by
  obtain ⟨answer, ⟨middle, log₁⟩, first, rest⟩ := returns_bind.mp returns
  obtain ⟨executed, grown⟩ := returns_logged_ask.mp first
  unfold filterExec at executed
  dsimp only at executed
  split at executed
  · rename_i same
    subst same
    obtain ⟨rfl, ended⟩ := returns_done.mp rest
    obtain ⟨rfl, rfl⟩ := Prod.mk.inj ended
    obtain rfl : some domains = after := Option.some.inj executed
    exact ⟨rfl, rfl, by rw [show log = _ from grown]; rfl⟩
  · exact absurd executed (by simp)

/-- A name is looked up in the list, in small letters. -/
theorem isDomainBlocked_returns :
    Returns filterExec (isDomainBlocked host) (some domains)
      (domains.contains (Text.toAsciiLowercase host)) (some domains) :=
  .perform (some domains) (if_pos rfl) (.done _ _)

/-- A host that is blocked by its name is looked up nowhere. -/
theorem throws_rejects {α : Type} (shown : Text) :
    Rejects state (throw (.blockedHost shown) : ExceptT UrlError ProxyRoutine α) := by
  intro result after log returns
  obtain ⟨rfl, ended⟩ := returns_done.mp returns
  obtain ⟨_, rfl⟩ := Prod.mk.inj ended
  exact ⟨⟨shown, rfl⟩, rfl⟩

/-- Both checks of a name have this form. -/
theorem named_rejects {α : Type} {shown : Text} {otherwise : ExceptT UrlError ProxyRoutine α}
    (member : domains.contains (Text.toAsciiLowercase host) = true) :
    Rejects (some domains) (do
      if ← ExceptT.lift (isDomainBlocked host) then throw (.blockedHost shown)
      else otherwise : ExceptT UrlError ProxyRoutine α) := by
  intro result after log returns
  obtain ⟨blocked, ⟨middle, log₁⟩, first, rest⟩ := returns_lift.mp returns
  obtain ⟨rfl, rfl, nothing⟩ := isDomainBlocked_spec first
  rw [member] at rest
  obtain ⟨rfl, ended⟩ := returns_done.mp rest
  obtain ⟨_, rfl⟩ := Prod.mk.inj ended
  exact ⟨⟨shown, rfl⟩, nothing⟩

/-- A listed name is not resolved. -/
theorem resolveAndPin_rejects (member : domains.contains (Text.toAsciiLowercase host) = true)
    (port : Nat) (blockedRanges : List Text) :
    Rejects (some domains) (resolveAndPin host port blockedRanges) := by
  unfold resolveAndPin
  dsimp only
  split
  · exact throws_rejects _
  · apply named_rejects
    rw [Text.toAsciiLowercase_idempotent]
    exact member

/-- A listed name is stopped. -/
theorem checkDomain_rejects (member : domains.contains (Text.toAsciiLowercase host) = true)
    (port : Nat) (blockedRanges : List Text) :
    Rejects (some domains) (checkDomain host port blockedRanges) := by
  unfold checkDomain
  dsimp only
  split
  · exact throws_rejects _
  · apply named_rejects
    rw [Text.toAsciiLowercase_idempotent]
    exact member

/-- A URL of a listed name is stopped. -/
theorem validateUrl_rejects (member : domains.contains (Text.toAsciiLowercase host) = true)
    {url : Text} {parsed : ParsedUrl} (parses : parse url = some parsed)
    (scheme : parsed.scheme = "http".toList ∨ parsed.scheme = "https".toList)
    (named : parsed.host = some (.domain host)) (blockedRanges : List Text) :
    Rejects (some domains) (validateUrl parse url blockedRanges) := by
  have web : ¬ (parsed.scheme ≠ "http".toList ∧ parsed.scheme ≠ "https".toList) := by
    rintro ⟨first, second⟩
    exact scheme.elim first second
  simp only [validateUrl, parses, if_neg web, named]
  exact checkDomain_rejects member _ blockedRanges

/-- A host is rejected everywhere exactly if its spelling is on the list. -/
theorem enforced_contains :
    Enforced parse (some domains) host ↔ domains.contains (Text.toAsciiLowercase host) = true := by
  constructor
  · intro enforced
    have answered := enforced.blocked
    obtain ⟨answer, middle, first, rest⟩ := returns_bind.mp answered
    have executed := returns_ask.mp first
    unfold filterExec at executed
    dsimp only at executed
    split at executed
    · rename_i same
      subst same
      exact (returns_done.mp rest).1.symm
    · exact absurd executed (by simp)
  · intro member
    constructor
    · have returns : Returns filterExec (isDomainBlocked host) (some domains) _ (some domains) :=
        isDomainBlocked_returns
      rwa [member] at returns
    · exact resolveAndPin_rejects member
    · exact fun _ _ blockedRanges parses scheme named =>
        validateUrl_rejects member parses scheme named blockedRanges

/-- Once the lists were fetched, a host is rejected everywhere exactly if it is, up to the
case of ASCII letters, the first name on a line that is kept.

A host is rejected if it is in the set, and the set is that of the first names on the lines that
were kept. -/
theorem blocklist_enforced {get : Text → Except FetchError HttpResponse} {urls : List Text}
    {before after : DomainBlocklist} (fetched : urls.mapM (fetchCapped get) = .ok bodies)
    (updated : updateBlocklist get urls (initDomainBlocklist before) = (.ok (), after)) :
    Enforced parse after host ↔ Listed bodies host := by
  unfold updateBlocklist at updated
  rw [fetched] at updated
  obtain rfl : some (domainsOf bodies) = after := (Prod.mk.inj updated).2
  rw [enforced_contains, List.contains_iff_mem, mem_domainsOf]

/-- The name stands behind the address on a line of the lists, and is to be blocked. -/
def Appears (bodies : List Text) (domain : Text) : Prop :=
  ∃ body ∈ bodies, ∃ line ∈ linesOf body, ∃ address names,
    fieldsOf line = address :: names ∧ domain ∈ names ∧ kept domain = true

/-- Both name the same host: up to case, and to a dot at the end. -/
def Spells (host domain : Text) : Prop :=
  Text.toAsciiLowercase host = Text.toAsciiLowercase domain ∨
    Text.toAsciiLowercase host = Text.toAsciiLowercase domain ++ ['.'] ∨
    Text.toAsciiLowercase host ++ ['.'] = Text.toAsciiLowercase domain

section Samples

/-- A list of two names. -/
def sampleHosts : Text := "0.0.0.0 ads.example tracker.example\n".toList

/-- Every address answers with the list. -/
def sampleGet (_ : Text) : Except FetchError HttpResponse :=
  .ok ⟨none, [.ok (Utf8.encode sampleHosts)]⟩

/-- The list that was fetched. -/
def sampleState : DomainBlocklist := (updateBlocklist sampleGet [['u']] (some [])).2

/-- The list is fetched whole. -/
theorem sample_fetched : [['u']].mapM (fetchCapped sampleGet) = .ok [sampleHosts] := by
  decide

/-- Its names appear in it. -/
theorem sample_appears (domain : Text) (second : domain ∈ ["ads.example".toList, "tracker.example".toList])
    (keeps : kept domain = true) : Appears [sampleHosts] domain :=
  ⟨sampleHosts, List.mem_singleton_self _, "0.0.0.0 ads.example tracker.example".toList,
    by decide, "0.0.0.0".toList, ["ads.example".toList, "tracker.example".toList],
    by decide, second, keeps⟩

/-- The second name of a line, and the first one with a dot at its end, pass. -/
theorem blocklist_evaded :
    updateBlocklist sampleGet [['u']] (initDomainBlocklist none) = (.ok (), sampleState) ∧
      (∃ domain, Appears [sampleHosts] domain ∧ ¬ Enforced (fun _ => none) sampleState domain) ∧
      ∃ host domain, Appears [sampleHosts] domain ∧ Spells host domain ∧
        ¬ Enforced (fun _ => none) sampleState host := by
  have state : sampleState = some ["ads.example".toList] := by decide
  refine ⟨by decide, ⟨"tracker.example".toList, ?_, ?_⟩,
    "ads.example.".toList, "ads.example".toList, ?_, ?_, ?_⟩
  · exact sample_appears _ (by simp) (by decide)
  · rw [state, enforced_contains]
    decide
  · exact sample_appears _ (by simp) (by decide)
  · exact Or.inr (Or.inl (by decide))
  · rw [state, enforced_contains]
    decide

/-- A name of the list, in other letters. -/
theorem blocklist_enforced_sample :
    [['u']].mapM (fetchCapped sampleGet) = .ok [sampleHosts] ∧
      updateBlocklist sampleGet [['u']] (initDomainBlocklist none) = (.ok (), sampleState) ∧
      (Enforced (fun _ => none) sampleState "ADS.example".toList ↔
        Listed [sampleHosts] "ADS.example".toList) := by
  have updated : updateBlocklist sampleGet [['u']] (initDomainBlocklist none) =
      (.ok (), sampleState) := by decide
  exact ⟨sample_fetched, updated, blocklist_enforced sample_fetched updated⟩

end Samples

end Enforcing

end PacketBrowser.Server
