import PacketBrowser.Foundation.Lines
import PacketBrowser.Server.Filter

/-!
# The proxy in front of the browser

Every request of the browser goes through the proxy, any number of them at a time. The
target of a request is resolved and pinned before anything is connected to. Whatever the
lookups answer, each connection goes to the address that the target spells or that came
first in its only lookup, and to no blocked one.
-/

namespace PacketBrowser.Server

open Protocol Foundation Foundation.Address Program Setting

/-- A request of the browser, with the parts of its target that are present. -/
structure ProxyRequest where
  method : Text
  authority : Option Text
  scheme : Option Text
  host : Option Text
  port : Option Nat
  pathAndQuery : Option Text
  headers : List (Text × Text)
  body : Bytes
  deriving DecidableEq, Repr

/-- Why a request is not forwarded. -/
inductive ForwardError where
  | blocked (error : UrlError)
  | badRequest
  | upstream (message : Text)
  deriving DecidableEq, Repr

/-- The method that asks for a tunnel. -/
def connectMethod : Text := "CONNECT".toList

/-- A response with nothing but its status. -/
def emptyResponse (status : Nat) : Reply := ⟨status, [], []⟩

/-- The response about a refusal. -/
def errorResponse (err : UrlError) : Reply :=
  ⟨403, [], Utf8.encode ("packet-browser proxy: ".toList ++ err.display ++ ['\n'])⟩

/-- The host without brackets. -/
def hostClean (host : Text) : Text := (host.dropWhile (· == '[')).rdropWhile (· == ']')

/-- Host, port and address of a `CONNECT`. -/
def handleConnect (request : ProxyRequest) (blockedRanges : List Text) :
    ExceptT UrlError ProxyRoutine (Text × Nat × IpAddr) :=
  match request.authority with
  | none => throw .invalidUrl
  | some auth =>
    match Lines.last (· == ':') auth with
    | none => throw .invalidUrl
    | some (host, portStr) =>
      match Decimal.parseUnsigned 65536 portStr with
      | none => throw .invalidUrl
      | some port =>
        if port ≠ 443 ∧ port ≠ 80 then
          throw (.blockedProtocol ("CONNECT :".toList ++ Decimal.printNat port))
        else do
          let pinned ← resolveAndPin (hostClean host) port blockedRanges
          return (host, port, pinned)

/-- Connect, and copy in both directions. -/
def tunnel (ip : IpAddr) (port : Nat) : ProxyRoutine Unit := do
  match ← askProxy (.connect ip port) with
  | .error _ => return ()
  | .ok () =>
    let _ ← askProxy .spliceTunnel
    return ()

/-- A step that fails with a message. -/
def upstream {α : Type} (step : ProxyRoutine (Except Text α)) :
    ExceptT ForwardError ProxyRoutine α := ExceptT.mk do
  return (← step).mapError .upstream

/-- The headers that are for the next host only. -/
def hopByHop : List Text :=
  ["connection".toList, "proxy-connection".toList, "keep-alive".toList,
    "transfer-encoding".toList, "te".toList, "trailer".toList, "upgrade".toList,
    "proxy-authenticate".toList, "proxy-authorization".toList]

/-- The headers without those. -/
def removeHopByHop (headers : List (Text × Text)) : List (Text × Text) :=
  headers.filter fun header => !hopByHop.contains header.1

/-- Set a header, in place of all with its name. -/
def insertHeader (name text : Text) (headers : List (Text × Text)) : List (Text × Text) :=
  headers.filter (fun header => header.1 != name) ++ [(name, text)]

/-- Send the request to the target that is connected to. -/
def exchange (request : ProxyRequest) (host : Text) (port : Nat) :
    ExceptT ForwardError ProxyRoutine Reply := do
  upstream (askProxy .handshake)
  let pathAndQuery := request.pathAndQuery.getD ['/']
  upstream (askProxy (.buildUri pathAndQuery))
  let hostHeader := if port = 80 then host else host ++ ':' :: Decimal.printNat port
  upstream (askProxy (.headerValue hostHeader))
  let headers := removeHopByHop (insertHeader "host".toList hostHeader request.headers)
  upstream (askProxy (.sendRequest ⟨request.method, pathAndQuery, headers, request.body⟩))

/-- Forward a request to the address that its host was resolved to. -/
def forwardHttp (request : ProxyRequest) (blockedRanges : List Text) :
    ExceptT ForwardError ProxyRoutine Reply :=
  match request.scheme with
  | none => throw .badRequest
  | some scheme =>
    if scheme ≠ "http".toList then throw (.blocked (.blockedProtocol scheme))
    else match request.host with
    | none => throw .badRequest
    | some host => do
      let port := request.port.getD 80
      let pinned ← ExceptT.mk do
        return (← (resolveAndPin host port blockedRanges).run).mapError ForwardError.blocked
      upstream (askProxy (.connect pinned port))
      exchange request host port

/-- The reply, and the target of a tunnel behind it. -/
def handle (request : ProxyRequest) (blockedRanges : List Text) :
    ProxyRoutine (Reply × Option (IpAddr × Nat)) :=
  if request.method = connectMethod then do
    match ← (handleConnect request blockedRanges).run with
    | .ok (_, port, pinnedIp) => return (emptyResponse 200, some (pinnedIp, port))
    | .error urlErr => return (errorResponse urlErr, none)
  else do
    match ← (forwardHttp request blockedRanges).run with
    | .ok reply => return (reply, none)
    | .error (.blocked err) => return (errorResponse err, none)
    | .error .badRequest => return (emptyResponse 400, none)
    | .error (.upstream _) => return (emptyResponse 502, none)

/-- Handle a request, reply, and tunnel once the connection is upgraded. -/
def serveRequest (request : ProxyRequest) (blockedRanges : List Text) : ProxyRoutine Unit := do
  let (reply, target) ← handle request blockedRanges
  askProxy (.respond reply)
  match target with
  | none => return ()
  | some (pinnedIp, port) =>
    match ← askProxy .awaitUpgrade with
    | .error _ => return ()
    | .ok () => tunnel pinnedIp port

/-! ## Pinned connections -/

/-- An operation of a request and its answer. -/
abbrev ProxyEvent := Event Nat ProxyAnswer

/-- What has happened. -/
abbrev ProxyMoment := Snapshot Unit Nat ProxyAnswer

/-- Everything is answered anyhow. -/
def proxyExec (op : ProxyOp) (_ : ProxyAnswer op) (world : Unit) : Option Unit := some world

/-- A lookup with its answer. -/
def lookupOf : (op : ProxyOp) → ProxyAnswer op → Option (Text × Nat × Option (List IpAddr))
  | .lookup host port, answer => some (host, port, answer)
  | _, _ => none

/-- Lookups with their answers, newest first. -/
abbrev Lookups := List (Text × Nat × Option (List IpAddr))

/-- The lookups for one request. -/
def lookups (thread : Nat) (history : List ProxyEvent) : Lookups :=
  history.filterMap fun event =>
    if event.thread = thread then lookupOf event.op event.answer else none

/-- The host spells the address, possibly in brackets. -/
def Literal (host : Text) (ip : IpAddr) : Prop :=
  parseIpAddr host = some ip ∨
    ∃ inner, host = '[' :: (inner ++ [']']) ∧ parseIpAddr inner = some ip

/-- The host and the port that a request is for. -/
inductive Targets (request : ProxyRequest) : Text → Nat → Prop
  | connect {host portStr : Text} {port : Nat} (method : request.method = connectMethod)
      (authority : request.authority = some (host ++ ':' :: portStr)) (last : ':' ∉ portStr)
      (number : Decimal.parseUnsigned 65536 portStr = some port) :
      Targets request (hostClean host) port
  | http {host : Text} (method : request.method ≠ connectMethod)
      (scheme : request.scheme = some "http".toList) (given : request.host = some host) :
      Targets request host (request.port.getD 80)

/-- The address of a host, after these lookups: not blocked, and the literal that the host
is, without any lookup, or the first answer of the only lookup. -/
def Found (host : Text) (port : Nat) (blockedRanges : List Text) (ip : IpAddr) (seen : Lookups) :
    Prop :=
  ¬ Blocked blockedRanges ip ∧
    (Literal host ip ∧ seen = [] ∨ ∃ others, seen = [(host, port, some (ip :: others))])

section Pinning

variable (requests : Nat → ProxyRequest) (blockedRanges : List Text)

/-- After these lookups the request may connect to the address on the port. -/
def Allowed (thread : Nat) (ip : IpAddr) (port : Nat) (seen : Lookups) : Prop :=
  ∃ host, Targets (requests thread) host port ∧ Found host port blockedRanges ip seen

/-- So it is for the target of a tunnel, if there is one. -/
def TunnelAllowed (thread : Nat) (target : Option (IpAddr × Nat)) (seen : Lookups) : Prop :=
  ∀ ip port, target = some (ip, port) → Allowed requests blockedRanges thread ip port seen

/-- A connection is allowed. -/
def Pinned (event : ProxyEvent) (earlier : List ProxyEvent) : Prop :=
  ∀ ip port, event.op = .connect ip port →
    Allowed requests blockedRanges event.thread ip port (lookups event.thread earlier)

/-- All runs of the proxy. -/
def pinning : Setting Unit Nat ProxyAnswer where
  exec := proxyExec
  meets := fun _ _ => True
  inv := fun now => (∀ thread, (lookups thread now.history).length ≤ 1) ∧
    Throughout (Pinned requests blockedRanges) now.history

/-- The proxy before any of its requests is handled. -/
def proxyPool : Pool Unit Nat ProxyAnswer :=
  ⟨⟨(), []⟩, fun thread => serveRequest (requests thread) blockedRanges⟩

/-- Neither a lookup nor a connection. -/
def ProxyOp.quiet : ProxyOp → Prop
  | .lookup _ _ => False
  | .connect _ _ => False
  | _ => True

variable {requests} {blockedRanges} {thread : Nat} {now later : ProxyMoment}

/-- Another request's lookups are not this one's. -/
theorem lookups_other {event : ProxyEvent} (different : event.thread ≠ thread)
    (history : List ProxyEvent) : lookups thread (event :: history) = lookups thread history := by
  simp [lookups, different]

/-- An operation that looks nothing up adds no lookup. -/
theorem lookups_quiet {event : ProxyEvent} (quiet : lookupOf event.op event.answer = none)
    (history : List ProxyEvent) : lookups thread (event :: history) = lookups thread history := by
  simp [lookups, quiet]

/-- What only depends on the lookups of one request, no other request destroys. -/
theorem stable_lookups (assertion : Lookups → Prop) :
    (pinning requests blockedRanges).Stable thread
      fun now => assertion (lookups thread now.history) := by
  rintro before after holds ⟨event, different, moves, _⟩
  rw [moves.occurs.2, lookups_other different]
  exact holds

/-- An operation that looks nothing up keeps the lookups of every request. -/
theorem unseen_step {op : ProxyOp} {answer : ProxyAnswer op} (unseen : lookupOf op answer = none)
    (pinned : Pinned requests blockedRanges ⟨thread, op, answer⟩ now.history)
    (moves : (pinning requests blockedRanges).Moves now ⟨thread, op, answer⟩ later) :
    (pinning requests blockedRanges).inv later ∧
      ∀ other, lookups other later.history = lookups other now.history := by
  obtain ⟨⟨_, history⟩, _, single, kept⟩ := moves
  have same : ∀ other, lookups other later.history = lookups other now.history := by
    intro other
    rw [history]
    exact lookups_quiet unseen now.history
  refine ⟨⟨fun other => ?_, ?_⟩, same⟩
  · rw [same other]
    exact single other
  · rw [history]
    exact ⟨pinned, kept⟩

/-- A program of quiet operations keeps what depends on the lookups. -/
theorem quiet_keeps {α : Type} {program : ProxyRoutine α} (only : program.Only ProxyOp.quiet)
    (assertion : Lookups → Prop) :
    (pinning requests blockedRanges).Triple thread
      (fun now => assertion (lookups thread now.history)) program
      fun _ now => assertion (lookups thread now.history) := by
  apply triple_only (stable_lookups assertion) only
  intro op quiet now answer later holds moves
  have unseen : lookupOf op answer = none := by
    cases op <;> first | rfl | exact absurd quiet (by simp [ProxyOp.quiet])
  have pinned : Pinned requests blockedRanges ⟨thread, op, answer⟩ now.history := by
    rintro ip port rfl
    exact absurd quiet (by simp [ProxyOp.quiet])
  obtain ⟨kept, same⟩ := unseen_step unseen pinned moves
  exact ⟨kept, by rw [same thread]; exact holds⟩

/-- The first lookup of a request. -/
theorem lookup_first (host : Text) (port : Nat) :
    (pinning requests blockedRanges).Triple thread (fun now => lookups thread now.history = [])
      (askProxy (.lookup host port))
      fun answer now => lookups thread now.history = [(host, port, answer)] := by
  apply triple_ask (stable_lookups (· = []))
  · exact fun answer => stable_lookups (· = [(host, port, answer)])
  rintro now answer later nothing ⟨⟨_, history⟩, _, single, kept⟩
  have seen : lookups thread later.history = [(host, port, answer)] := by
    rw [history]
    simpa [lookups, lookupOf] using nothing
  refine ⟨⟨fun other => ?_, ?_⟩, seen⟩
  · by_cases same : other = thread
    · rw [same, seen]
      exact Nat.le_refl 1
    · rw [history, lookups_other (fun equal => same equal.symm)]
      exact single other
  · rw [history]
    exact ⟨fun ip port connects => absurd connects (by simp), kept⟩

/-- A connection that is allowed. -/
theorem connect_allowed (ip : IpAddr) (port : Nat) :
    (pinning requests blockedRanges).Triple thread
      (fun now => Allowed requests blockedRanges thread ip port (lookups thread now.history))
      (askProxy (.connect ip port)) fun _ _ => True := by
  apply triple_ask (stable_lookups (Allowed requests blockedRanges thread ip port))
    fun _ => stable_const True
  intro now answer later allowed moves
  have pinned : Pinned requests blockedRanges ⟨thread, .connect ip port, answer⟩ now.history := by
    intro ip' port' same
    obtain ⟨rfl, rfl⟩ := ProxyOp.connect.inj same
    exact allowed
  exact ⟨(unseen_step rfl pinned moves).1, trivial⟩

/-- A host that is written as an address is that address. -/
theorem literal_some {host : Text} {ip : IpAddr} (spelled : literal host = some ip) :
    Literal host ip := by
  unfold literal at spelled
  split at spelled
  · rename_i whole
    obtain rfl := Option.some.inj spelled
    exact Or.inl whole
  · obtain ⟨inner, stripped, parsed⟩ := Option.bind_eq_some_iff.mp spelled
    obtain ⟨opened, front, back⟩ := Option.bind_eq_some_iff.mp stripped
    rw [Text.stripPrefix_some front, Text.stripSuffix_some back]
    exact Or.inr ⟨inner, rfl, parsed⟩

/-- An address that is not blocked is the first that was found. -/
theorem unblocked_done {shown host : Text} {port : Nat} {ip : IpAddr} {seen : Lookups}
    (found : Literal host ip ∧ seen = [] ∨ ∃ others, seen = [(host, port, some (ip :: others))]) :
    (pinning requests blockedRanges).Triple thread (fun now => lookups thread now.history = seen)
      (.done (unblocked shown ip blockedRanges))
      (outcome (fun ip now => Found host port blockedRanges ip (lookups thread now.history))
        fun _ _ => True) := by
  apply triple_done
  · exact stable_outcome (fun ip => stable_lookups (Found host port blockedRanges ip))
      (fun _ => stable_const True) _
  · intro now same
    unfold unblocked
    split
    · trivial
    · rename_i free
      rw [ipIsBlocked_iff] at free
      exact ⟨free, same ▸ found⟩

/-- What is resolved may be connected to. -/
theorem resolveAndPin_found (host : Text) (port : Nat) :
    (pinning requests blockedRanges).Triple thread (fun now => lookups thread now.history = [])
      (resolveAndPin host port blockedRanges).run
      (outcome (fun ip now => Found host port blockedRanges ip (lookups thread now.history))
        fun _ _ => True) := by
  have failed : ∀ error : UrlError, (pinning requests blockedRanges).Triple thread
      (fun now => lookups thread now.history = []) (.done (.error error))
      (outcome (fun ip now => Found host port blockedRanges ip (lookups thread now.history))
        fun _ _ => True) :=
    fun error => triple_done (stable_const True) fun _ _ => trivial
  unfold resolveAndPin
  dsimp only
  split
  · exact failed _
  · apply triple_attempt (fun _ now => lookups thread now.history = []) fun _ => stable_const True
    · apply triple_lift fun _ => stable_lookups (· = [])
      apply quiet_keeps _ (· = [])
      apply only_bind _ (only_ask _ trivial)
      rintro (_ | domains) <;> trivial
    · intro listed
      split
      · exact failed _
      · split
        · rename_i ip spelled
          exact unblocked_done (Or.inl ⟨literal_some spelled, rfl⟩)
        · apply triple_bind _ (lookup_first host port)
          rintro (_ | _ | ⟨first, others⟩)
          · exact triple_done (stable_const True) fun _ _ => trivial
          · exact triple_done (stable_const True) fun _ _ => trivial
          · exact unblocked_done (Or.inr ⟨others, rfl⟩)

/-- A tunnel is opened to the address that was found. -/
theorem handleConnect_allowed (method : (requests thread).method = connectMethod) :
    (pinning requests blockedRanges).Triple thread (fun now => lookups thread now.history = [])
      (handleConnect (requests thread) blockedRanges).run
      (outcome (fun pinned now => Allowed requests blockedRanges thread pinned.2.2 pinned.2.1
        (lookups thread now.history)) fun _ _ => True) := by
  have failed : ∀ error : UrlError, (pinning requests blockedRanges).Triple thread
      (fun now => lookups thread now.history = []) (.done (.error error))
      (outcome (fun pinned : Text × Nat × IpAddr => fun now => Allowed requests blockedRanges thread
        pinned.2.2 pinned.2.1 (lookups thread now.history)) fun _ _ => True) :=
    fun error => triple_done (stable_const True) fun _ _ => trivial
  unfold handleConnect
  split
  · exact failed _
  · rename_i auth authority
    split
    · exact failed _
    · rename_i host portStr parted
      split
      · exact failed _
      · rename_i port number
        split
        · exact failed _
        · obtain ⟨colon, same, split, behind⟩ := Lines.last_some parted
          obtain rfl := eq_of_beq same
          have last : ':' ∉ portStr := fun member => by simpa using behind ':' member
          have targets : Targets (requests thread) (hostClean host) port :=
            .connect method (authority.trans (congrArg some split)) last number
          apply triple_attempt _ (fun _ => stable_const True)
            (resolveAndPin_found (hostClean host) port)
          intro pinned
          apply triple_done
          · exact stable_lookups (Allowed requests blockedRanges thread pinned port)
          · exact fun now found => ⟨hostClean host, targets, found⟩

/-- Talking to the origin looks nothing up. -/
theorem upstream_quiet {α : Type} {step : ProxyRoutine (Except Text α)}
    (only : step.Only ProxyOp.quiet) : (upstream step).run.Only ProxyOp.quiet :=
  only_bind _ only fun _ => trivial

/-- The exchange with the origin looks nothing up. -/
theorem exchange_quiet (request : ProxyRequest) (host : Text) (port : Nat) :
    (exchange request host port).run.Only ProxyOp.quiet := by
  unfold exchange
  apply only_attempt
  · apply upstream_quiet
    exact only_ask _ trivial
  intro _
  apply only_attempt
  · apply upstream_quiet
    exact only_ask _ trivial
  intro _
  apply only_attempt
  · apply upstream_quiet
    exact only_ask _ trivial
  intro _
  apply upstream_quiet
  exact only_ask _ trivial

/-- A request is forwarded only to the address that was found. -/
theorem forwardHttp_safe (method : (requests thread).method ≠ connectMethod) :
    (pinning requests blockedRanges).Triple thread (fun now => lookups thread now.history = [])
      (forwardHttp (requests thread) blockedRanges).run fun _ _ => True := by
  unfold forwardHttp
  split
  · exact triple_done (stable_const True) fun _ _ => trivial
  · rename_i scheme given
    split
    · exact triple_done (stable_const True) fun _ _ => trivial
    · rename_i http
      split
      · exact triple_done (stable_const True) fun _ _ => trivial
      · rename_i host named
        have targets : Targets (requests thread) host ((requests thread).port.getD 80) :=
          .http method (given.trans (congrArg some (not_not.mp http))) named
        apply triple_attempt (fun pinned now => Found host ((requests thread).port.getD 80)
          blockedRanges pinned (lookups thread now.history)) fun _ => stable_const True
        · apply triple_bind _ (resolveAndPin_found host _)
          rintro (error | pinned)
          · exact triple_done (stable_const True) fun _ _ => trivial
          · exact triple_done (stable_lookups (Found host _ blockedRanges pinned)) fun _ => id
        · intro pinned
          apply triple_attempt (fun _ _ => True) fun _ => stable_const True
          · apply triple_bind (fun _ _ => True)
            · apply (connect_allowed pinned _).consequence _ fun _ _ => id
              exact fun now found => ⟨host, targets, found⟩
            · rintro (error | _)
              · exact triple_done (stable_const True) fun _ _ => trivial
              · exact triple_done (stable_const True) fun _ _ => trivial
          · exact fun _ => quiet_keeps (exchange_quiet _ host _) fun _ => True

/-- A tunnel is only dug to an address that may be connected to. -/
theorem handle_allowed :
    (pinning requests blockedRanges).Triple thread (fun now => lookups thread now.history = [])
      (handle (requests thread) blockedRanges) fun handled now =>
        TunnelAllowed requests blockedRanges thread handled.2 (lookups thread now.history) := by
  have stable : ∀ target, (pinning requests blockedRanges).Stable thread fun now =>
      TunnelAllowed requests blockedRanges thread target (lookups thread now.history) :=
    fun target => stable_lookups (TunnelAllowed requests blockedRanges thread target)
  have replied : ∀ reply : Reply, (pinning requests blockedRanges).Triple thread (fun _ => True)
      (.done (reply, none)) fun handled now =>
        TunnelAllowed requests blockedRanges thread handled.2 (lookups thread now.history) :=
    fun reply => triple_done (stable none) fun now _ ip port none => absurd none (by simp)
  unfold handle
  split
  · rename_i method
    apply triple_bind _ (handleConnect_allowed method)
    rintro (error | ⟨host, port, pinnedIp⟩)
    · exact replied _
    · apply triple_done (stable (some (pinnedIp, port)))
      intro now allowed ip' port' same
      obtain ⟨rfl, rfl⟩ := Prod.mk.inj (Option.some.inj same)
      exact allowed
  · rename_i method
    apply triple_bind _ (forwardHttp_safe method)
    rintro ((error | _ | message) | reply)
    · exact replied _
    · exact replied _
    · exact replied _
    · exact replied _

/-- A tunnel is opened only to the address that was found. -/
theorem tunnel_safe (ip : IpAddr) (port : Nat) :
    (pinning requests blockedRanges).Triple thread
      (fun now => Allowed requests blockedRanges thread ip port (lookups thread now.history))
      (tunnel ip port) fun _ _ => True := by
  apply triple_bind _ (connect_allowed ip port)
  rintro (error | _)
  · exact triple_done (stable_const True) fun _ _ => trivial
  · apply quiet_keeps _ fun _ => True
    exact only_bind _ (only_ask _ trivial) fun _ => trivial

/-- Every request is connected only to the address that was found. -/
theorem serveRequest_safe :
    (pinning requests blockedRanges).Triple thread (fun now => lookups thread now.history = [])
      (serveRequest (requests thread) blockedRanges) fun _ _ => True := by
  have asks : ∀ (op : ProxyOp) (target : Option (IpAddr × Nat)), op.quiet →
      (pinning requests blockedRanges).Triple thread
        (fun now => TunnelAllowed requests blockedRanges thread target (lookups thread now.history))
        (askProxy op) fun _ now =>
          TunnelAllowed requests blockedRanges thread target (lookups thread now.history) :=
    fun op target quiet => quiet_keeps (only_ask _ quiet)
      (TunnelAllowed requests blockedRanges thread target)
  apply triple_bind _ handle_allowed
  rintro ⟨reply, target⟩
  apply triple_bind _ (asks (.respond reply) target trivial)
  intro _
  cases target with
  | none => exact triple_done (stable_const True) fun _ _ => trivial
  | some target =>
    apply triple_bind _ (asks .awaitUpgrade (some target) trivial)
    rintro (error | _)
    · exact triple_done (stable_const True) fun _ _ => trivial
    · apply (tunnel_safe target.1 target.2).consequence _ fun _ _ => id
      exact fun now allowed => allowed target.1 target.2 rfl

/-- Whatever is answered to the requests, at most one lookup is made for each of them, and
each connection goes to an address its request may connect to.

Each thread looks up once at most, and what it may connect to is decided by the one answer it
has got; other threads change neither. -/
theorem connections_pinned (requests : Nat → ProxyRequest) (blockedRanges : List Text)
    {pool : Pool Unit Nat ProxyAnswer}
    (reaches : Reaches proxyExec (fun _ _ => True) (proxyPool requests blockedRanges) pool) :
    (∀ thread, (lookups thread pool.now.history).length ≤ 1) ∧
      Throughout (Pinned requests blockedRanges) pool.now.history := by
  have start : (pinning requests blockedRanges).inv (proxyPool requests blockedRanges).now :=
    ⟨fun _ => Nat.zero_le 1, trivial⟩
  exact (sound reaches start fun thread => serveRequest_safe _ rfl).1

end Pinning

/-- A tunnel to a name, and plain requests to a literal. -/
def sampleRequests (thread : Nat) : ProxyRequest :=
  if thread = 0 then
    ⟨connectMethod, some "example.org:443".toList, none, some "example.org".toList, some 443, none,
      [], []⟩
  else
    ⟨"GET".toList, some "[2001:db8::7]".toList, some "http".toList, some "[2001:db8::7]".toList,
      none, some "/".toList, [], []⟩

/-- A network for private use. -/
def sampleRanges : List Text := ["10.0.0.0/8".toList]

/-- What the literal of the plain requests spells. -/
def sampleLiteral : IpAddr := .v6 (.ofSegments (joined [0x2001, 0xdb8] [7]))

/-- Two requests at a time. The second answer to the lookup is a blocked address. -/
def sampleProxied : List ProxyEvent :=
  [⟨0, .readBlocklist, some ["ads.example".toList]⟩,
    ⟨1, .readBlocklist, none⟩,
    ⟨0, .lookup "example.org".toList 443, some [.v4 ⟨93, 184, 216, 34⟩, .v4 ⟨10, 0, 0, 1⟩]⟩,
    ⟨1, .connect sampleLiteral 80, .ok ()⟩,
    ⟨0, .respond (emptyResponse 200), ()⟩,
    ⟨0, .awaitUpgrade, .ok ()⟩,
    ⟨0, .connect (.v4 ⟨93, 184, 216, 34⟩) 443, .error "refused".toList⟩]

/-- The events above are a run. -/
theorem sampleProxied_fits : ((proxyPool sampleRequests sampleRanges).replay proxyExec
    (fun _ _ => true) 1 sampleProxied).isSome := by decide

/-- A request that is forwarded, and one that is tunnelled. -/
theorem connections_pinned_sample : ∃ pool,
    Reaches proxyExec (fun _ _ => True) (proxyPool sampleRequests sampleRanges) pool ∧
      pool.now.history = sampleProxied.reverse ∧
      (∀ thread, (lookups thread pool.now.history).length ≤ 1) ∧
      Throughout (Pinned sampleRequests sampleRanges) pool.now.history := by
  obtain ⟨pool, reaches, history⟩ :=
    replay_reaches (fun _ _ _ => trivial) 1 sampleProxied sampleProxied_fits
  exact ⟨pool, reaches, by rw [history]; exact List.append_nil _,
    connections_pinned sampleRequests sampleRanges reaches⟩

end PacketBrowser.Server
