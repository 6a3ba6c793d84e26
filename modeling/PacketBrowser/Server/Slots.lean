import PacketBrowser.Foundation.Address
import PacketBrowser.Foundation.Machine

/-!
# Slots for connections

The accept loop claims a slot of the peer's address and one of all slots before it starts
a thread for a connection. The thread makes a guard for each of the two, and the guards
give the slots back when the session is over, even if it panics.

A claimed slot has no guard until the thread has begun. So the counters are the guards
that live and the threads that have still to make theirs.
-/

namespace PacketBrowser.Server

open Foundation Address Machine

/-- The most sessions. -/
def maxConnections : Nat := 50

/-- The most sessions of one peer. -/
def maxConnectionsPerIp : Nat := 5

section Counters

/-- A counter is a machine word. -/
def wordSize : Nat := 18446744073709551616

/-- One more, as a machine counts. -/
@[irreducible] def fetchAdd (count : Nat) : Nat := (count + 1) % wordSize

/-- One less, as a machine counts. -/
@[irreducible] def fetchSub (count : Nat) : Nat := (count + (wordSize - 1)) % wordSize

/-- How many slots each address holds. -/
abbrev PeerCounts := IpAddr → Option Nat

/-- A peer gets its count. -/
def PeerCounts.insert (peers : PeerCounts) (ip : IpAddr) (count : Nat) : PeerCounts :=
  fun other => if other = ip then some count else peers other

/-- A peer loses its count. -/
def PeerCounts.remove (peers : PeerCounts) (ip : IpAddr) : PeerCounts :=
  fun other => if other = ip then none else peers other

/-- Claim a slot of the address unless all of its slots are taken. -/
def PeerCounts.claim (peers : PeerCounts) (ip : IpAddr) : PeerCounts × Bool :=
  let entry := (peers ip).getD 0
  if entry ≥ maxConnectionsPerIp then (peers.insert ip entry, false)
  else (peers.insert ip (entry + 1), true)

/-- Give a slot of the address back. -/
def PeerCounts.release (peers : PeerCounts) (ip : IpAddr) : PeerCounts :=
  match peers ip with
  | none => peers
  | some count => if count - 1 = 0 then peers.remove ip else peers.insert ip (count - 1)

end Counters

section Sessions

/-- Where a session thread is. -/
inductive Phase where
  /-- The thread was started and has not run yet. -/
  | spawned
  /-- The guards are made, and `handle_connection` runs. -/
  | serving
  /-- `handle_connection` has returned or panicked. -/
  | ended
  /-- The guard of the address is dropped. -/
  | unguarded
  /-- Both guards are dropped. -/
  | gone
  deriving DecidableEq

/-- How `handle_connection` ends. -/
inductive Outcome where
  | returned
  | failed
  | panicked
  deriving DecidableEq

/-- A session at the door, with the peer it is counted for. -/
structure Slot where
  peer : Option IpAddr
  phase : Phase
  deriving DecidableEq

/-- The session is to run, or runs. -/
def Phase.live : Phase → Bool
  | .spawned => true
  | .serving => true
  | _ => false

/-- The guard of the counter lives. -/
def Phase.connGuard : Phase → Bool
  | .serving => true
  | .ended => true
  | .unguarded => true
  | _ => false

/-- The guard of the address lives. -/
def Phase.peerGuard : Phase → Bool
  | .serving => true
  | .ended => true
  | _ => false

/-- The thread has still to make its guards. -/
def Phase.unstarted : Phase → Bool
  | .spawned => true
  | _ => false

/-- A session in such a phase. -/
def Slot.is (kind : Phase → Bool) (slot : Slot) : Bool := kind slot.phase

/-- A session of the address in such a phase. -/
def Slot.isOf (ip : IpAddr) (kind : Phase → Bool) (slot : Slot) : Bool :=
  slot.peer == some ip && kind slot.phase

end Sessions

section Steps

/-- Where the accept loop is, and with which connection. -/
inductive Stage where
  /-- Waiting for the next connection. -/
  | between
  /-- The time-outs of the socket are to be set. -/
  | accepted (peer : Option IpAddr)
  /-- A slot of the address is to be claimed. -/
  | configured (peer : Option IpAddr)
  /-- A slot of all slots is to be claimed. -/
  | claimed (peer : Option IpAddr)
  /-- All slots were taken, and the claim is to be taken back. -/
  | busted (peer : Option IpAddr)
  /-- The slot of the address is to be given back. -/
  | returning (peer : Option IpAddr)
  /-- A thread is to be started. -/
  | admitted (peer : Option IpAddr)
  deriving DecidableEq

/-- The counters, the accept loop, and the threads it has started. -/
structure Door where
  connectionCount : Nat
  peerCounts : PeerCounts
  stage : Stage
  sessions : List Slot

/-- Nobody has come yet. -/
def Door.initial : Door := ⟨0, fun _ => none, .between, []⟩

/-- One step of the accept loop or of a session thread. -/
inductive Action where
  /-- A connection arrives, with the address of the peer if it is known. -/
  | accept (peer : Option IpAddr)
  /-- Accepting a connection fails. -/
  | acceptFails
  | setTimeouts (succeeds : Bool)
  | claimPeer
  | claimCount
  | unclaimCount
  | unclaimPeer
  | spawn
  /-- A thread begins and makes its guards. -/
  | begin (session : Nat)
  | finish (session : Nat) (outcome : Outcome)
  | dropPeer (session : Nat)
  | dropConn (session : Nat)
  deriving DecidableEq

/-- A session goes on from one phase to the next. -/
def Door.advance (door : Door) (session : Nat) (current next : Phase) : Option Door :=
  match door.sessions[session]? with
  | some slot =>
    if slot.phase = current then
      some { door with sessions := door.sessions.set session { slot with phase := next } }
    else none
  | none => none

/-- The critical section in which the accept loop claims a slot of the address. -/
def Door.claimPeer (door : Door) (peer : Option IpAddr) : Door :=
  match peer with
  | none => { door with stage := .claimed peer }
  | some ip =>
    { door with
      peerCounts := (door.peerCounts.claim ip).1
      stage := if (door.peerCounts.claim ip).2 then .claimed peer else .between }

/-- The critical section in which a slot is given back. -/
def Door.releasePeer (door : Door) (peer : Option IpAddr) : Door :=
  match peer with
  | none => door
  | some ip => { door with peerCounts := door.peerCounts.release ip }

/-- A step of the server; none if it is not possible. -/
def Door.step (door : Door) : Action → Option Door
  | .accept peer => if door.stage = .between then some { door with stage := .accepted peer } else none
  | .acceptFails => if door.stage = .between then some door else none
  | .setTimeouts succeeds =>
    match door.stage with
    | .accepted peer => some { door with stage := if succeeds then .configured peer else .between }
    | _ => none
  | .claimPeer =>
    match door.stage with
    | .configured peer => some (door.claimPeer peer)
    | _ => none
  | .claimCount =>
    match door.stage with
    | .claimed peer =>
      some { door with
        connectionCount := fetchAdd door.connectionCount
        stage := if door.connectionCount ≥ maxConnections then .busted peer else .admitted peer }
    | _ => none
  | .unclaimCount =>
    match door.stage with
    | .busted peer =>
      some { door with connectionCount := fetchSub door.connectionCount, stage := .returning peer }
    | _ => none
  | .unclaimPeer =>
    match door.stage with
    | .returning peer => some { door.releasePeer peer with stage := .between }
    | _ => none
  | .spawn =>
    match door.stage with
    | .admitted peer =>
      some { door with sessions := door.sessions ++ [⟨peer, .spawned⟩], stage := .between }
    | _ => none
  | .begin session => door.advance session .spawned .serving
  | .finish session _ => door.advance session .serving .ended
  | .dropPeer session =>
    (door.advance session .ended .unguarded).map fun later =>
      later.releasePeer ((door.sessions[session]?).bind Slot.peer)
  | .dropConn session =>
    (door.advance session .unguarded .gone).map fun later =>
      { later with connectionCount := fetchSub later.connectionCount }

end Steps

section Invariant

/-- How many sessions are of this kind. -/
abbrev Door.count (door : Door) (kind : Slot → Bool) : Nat := door.sessions.countP kind

/-- A slot of all slots is held. -/
def Phase.holdsConn : Phase → Bool
  | .gone => false
  | _ => true

/-- A slot of the address is held. -/
def Phase.holdsPeer : Phase → Bool
  | .unguarded => false
  | .gone => false
  | _ => true

/-- The session holds a connection. -/
def Slot.holds : Slot → Bool := Slot.is Phase.holdsConn

/-- The session holds a connection of this peer. -/
def Slot.holdsOf (ip : IpAddr) : Slot → Bool := Slot.isOf ip Phase.holdsPeer

/-- The accept loop holds a slot of all slots. -/
def Stage.holds : Stage → Nat
  | .busted _ => 1
  | .admitted _ => 1
  | _ => 0

/-- The accept loop holds a slot of the address. -/
def Stage.holdsOf (ip : IpAddr) : Stage → Nat
  | .claimed peer => if peer = some ip then 1 else 0
  | .busted peer => if peer = some ip then 1 else 0
  | .returning peer => if peer = some ip then 1 else 0
  | .admitted peer => if peer = some ip then 1 else 0
  | _ => 0

/-- The thread to be started has a slot. -/
def Stage.admits : Stage → Nat
  | .admitted _ => 1
  | _ => 0

/-- The entry of an address with so many slots. -/
def entryOfCount (count : Nat) : Option Nat := if count = 0 then none else some count

/-- The counters are what the sessions and the accept loop hold, and the limits are kept. -/
structure Door.Balanced (door : Door) : Prop where
  counter : door.connectionCount = door.count Slot.holds + door.stage.holds
  peers : ∀ ip, door.peerCounts ip =
    entryOfCount (door.count (Slot.holdsOf ip) + door.stage.holdsOf ip)
  few : door.count Slot.holds + door.stage.admits ≤ maxConnections
  fewOf : ∀ ip, door.count (Slot.holdsOf ip) + door.stage.holdsOf ip ≤ maxConnectionsPerIp

variable {door later : Door} {peers : PeerCounts} {ip : IpAddr} {count : Nat}

/-- At the start the counts are right. -/
theorem door_initial_balanced : Door.initial.Balanced := by
  constructor
  · rfl
  · exact fun _ => rfl
  · exact Nat.zero_le _
  · exact fun _ => Nat.zero_le _

/-- Claiming a slot adds one, unless there are as many as there may be. -/
theorem claim_spec (entry : peers ip = entryOfCount count) (few : count ≤ maxConnectionsPerIp) :
    peers.claim ip = if count < maxConnectionsPerIp then (peers.insert ip (count + 1), true)
      else (peers, false) := by
  have read : (peers ip).getD 0 = count := by
    rw [entry, entryOfCount]
    split
    · rename_i nothing
      exact nothing.symm
    · rfl
  unfold PeerCounts.claim
  simp only [read]
  by_cases full : count ≥ maxConnectionsPerIp
  · rw [if_pos full, if_neg (by omega)]
    congr 1
    funext other
    by_cases same : other = ip
    · have some' : count ≠ 0 := by
        unfold maxConnectionsPerIp at full
        omega
      simp [PeerCounts.insert, same, entry, entryOfCount, some']
    · simp [PeerCounts.insert, same]
  · rw [if_neg full, if_pos (by omega)]

/-- Giving a slot back takes one away, and leaves no entry without slots. -/
theorem release_spec (entry : peers ip = entryOfCount (count + 1)) (other : IpAddr) :
    peers.release ip other = if other = ip then entryOfCount count else peers other := by
  unfold PeerCounts.release
  simp only [entry, entryOfCount, Nat.add_eq_zero_iff, Nat.one_ne_zero, and_false, if_false,
    Nat.add_sub_cancel]
  by_cases last : count = 0
  · simp [last, PeerCounts.remove]
  · simp [last, PeerCounts.insert]

/-- What else is counted does not change. -/
theorem releasePeer_unchanged (peer : Option IpAddr) :
    (door.releasePeer peer).connectionCount = door.connectionCount ∧
      (door.releasePeer peer).stage = door.stage ∧
      (door.releasePeer peer).sessions = door.sessions := by
  cases peer with
  | none => exact ⟨rfl, rfl, rfl⟩
  | some ip => exact ⟨rfl, rfl, rfl⟩

/-- A peer that is released is counted once less. -/
theorem releasePeer_spec {peer : Option IpAddr} {held : IpAddr → Nat}
    (entries : ∀ ip, door.peerCounts ip =
      entryOfCount (held ip + if peer = some ip then 1 else 0)) (ip : IpAddr) :
    (door.releasePeer peer).peerCounts ip = entryOfCount (held ip) := by
  cases peer with
  | none => exact entries ip
  | some released =>
    have entry := entries released
    simp only [if_true] at entry
    simp only [Door.releasePeer, release_spec entry]
    by_cases same : ip = released
    · rw [if_pos same, same]
    · have others := entries ip
      simp only [Option.some.injEq, Ne.symm same, if_false, Nat.add_zero] at others
      rw [if_neg same, others]

/-- A session that goes on is counted in its new phase instead of its old one. -/
theorem advance_spec {session : Nat} {current next : Phase}
    (advanced : door.advance session current next = some later) :
    ∃ slot : Slot, door.sessions[session]? = some slot ∧ slot.phase = current ∧
      later.connectionCount = door.connectionCount ∧ later.peerCounts = door.peerCounts ∧
      later.stage = door.stage ∧ ∀ kind, later.count kind + (kind slot).toNat =
        door.count kind + (kind { slot with phase := next }).toNat := by
  unfold Door.advance at advanced
  split at advanced
  · rename_i slot found
    split at advanced
    · rename_i phase
      obtain rfl := Option.some.inj advanced
      obtain ⟨bound, entry⟩ := List.getElem?_eq_some_iff.mp found
      refine ⟨slot, found, phase, rfl, rfl, rfl, ?_⟩
      intro kind
      simp only [Door.count]
      rw [List.countP_set bound, entry]
      have within : (kind slot).toNat ≤ door.sessions.countP kind := by
        cases held : kind slot with
        | false => exact Nat.zero_le _
        | true => exact List.countP_pos_iff.mpr ⟨slot, List.mem_of_getElem? found, held⟩
      cases held : kind slot <;> cases kind { slot with phase := next } <;>
        simp only [held, Bool.toNat_true, Bool.toNat_false, if_true, Bool.false_eq_true,
          if_false] at within ⊢ <;> omega
    · exact absurd advanced (by simp)
  · exact absurd advanced (by simp)

/-- A small count does not wrap around. -/
theorem fetchAdd_small (small : count ≤ maxConnections) : fetchAdd count = count + 1 := by
  unfold maxConnections at small
  unfold fetchAdd wordSize
  omega

/-- A count that is not zero does not wrap around. -/
theorem fetchSub_small (small : count ≤ maxConnections) : fetchSub (count + 1) = count := by
  unfold maxConnections at small
  unfold fetchSub wordSize
  omega

/-- The accept loop goes on with the same slots. -/
theorem Door.Balanced.restage (balanced : door.Balanced) {stage : Stage}
    (holds : stage.holds = door.stage.holds) (holdsOf : ∀ ip, stage.holdsOf ip = door.stage.holdsOf ip)
    (admits : stage.admits = door.stage.admits) : ({ door with stage } : Door).Balanced := by
  constructor
  · exact balanced.counter.trans (congrArg (door.count Slot.holds + ·) holds.symm)
  · intro ip
    exact (balanced.peers ip).trans (by rw [← holdsOf ip])
  · exact (congrArg (door.count Slot.holds + ·) admits).trans_le balanced.few
  · intro ip
    exact (congrArg (door.count (Slot.holdsOf ip) + ·) (holdsOf ip)).trans_le (balanced.fewOf ip)

/-- Counting a peer keeps the counts right. -/
theorem claimPeer_balanced {peer : Option IpAddr} (balanced : door.Balanced)
    (stage : door.stage = .configured peer) : (door.claimPeer peer).Balanced := by
  obtain ⟨counter, peers, few, fewOf⟩ := balanced
  simp only [stage, Stage.holds, Stage.holdsOf, Stage.admits, Nat.add_zero] at counter peers few fewOf
  cases peer with
  | none => exact ⟨counter, peers, few, fewOf⟩
  | some ip =>
    simp only [Door.claimPeer, claim_spec (peers ip) (fewOf ip)]
    by_cases room : door.count (Slot.holdsOf ip) < maxConnectionsPerIp
    · simp only [room, if_true]
      refine ⟨counter, ?_, few, ?_⟩
      · intro other
        by_cases same : other = ip
        · subst same
          simp [PeerCounts.insert, Stage.holdsOf, entryOfCount, Door.count]
        · simp only [PeerCounts.insert, same, if_false, Stage.holdsOf, Option.some.injEq,
            Ne.symm same, Nat.add_zero]
          exact peers other
      · intro other
        by_cases same : other = ip
        · subst same
          simp only [Stage.holdsOf, if_true]
          exact room
        · simp only [Stage.holdsOf, Option.some.injEq, Ne.symm same, if_false, Nat.add_zero]
          exact fewOf other
    · simp only [room, if_false]
      exact ⟨counter, peers, few, fewOf⟩

/-- Counting a connection keeps the counts right. -/
theorem claimCount_balanced {peer : Option IpAddr} (balanced : door.Balanced)
    (stage : door.stage = .claimed peer) : ({ door with
      connectionCount := fetchAdd door.connectionCount
      stage := if door.connectionCount ≥ maxConnections then .busted peer else .admitted peer } :
        Door).Balanced := by
  obtain ⟨counter, peers, few, fewOf⟩ := balanced
  simp only [stage, Stage.holds, Stage.admits, Nat.add_zero] at counter few
  simp only [stage] at peers fewOf
  have added : fetchAdd door.connectionCount = door.count Slot.holds + 1 := by
    rw [counter]
    exact fetchAdd_small few
  by_cases full : door.connectionCount ≥ maxConnections
  · rw [if_pos full]
    exact ⟨added, peers, few, fewOf⟩
  · rw [if_neg full]
    refine ⟨added, peers, ?_, fewOf⟩
    rw [counter] at full
    exact Nat.not_le.mp full

/-- Giving the connection back keeps the counts right. -/
theorem unclaimCount_balanced {peer : Option IpAddr} (balanced : door.Balanced)
    (stage : door.stage = .busted peer) : ({ door with
      connectionCount := fetchSub door.connectionCount, stage := .returning peer } :
        Door).Balanced := by
  obtain ⟨counter, peers, few, fewOf⟩ := balanced
  simp only [stage, Stage.holds, Stage.admits, Nat.add_zero] at counter few
  simp only [stage] at peers fewOf
  have subtracted : fetchSub door.connectionCount = door.count Slot.holds := by
    rw [counter]
    exact fetchSub_small few
  exact ⟨subtracted.trans (Nat.add_zero _).symm, peers, few, fewOf⟩

/-- Giving the peer back keeps the counts right. -/
theorem unclaimPeer_balanced {peer : Option IpAddr} (balanced : door.Balanced)
    (stage : door.stage = .returning peer) :
    ({ door.releasePeer peer with stage := .between } : Door).Balanced := by
  obtain ⟨counter, peers, few, fewOf⟩ := balanced
  simp only [stage, Stage.holds, Stage.admits, Stage.holdsOf, Nat.add_zero] at counter few peers fewOf
  have unchanged : (door.releasePeer peer).connectionCount = door.connectionCount ∧ _ :=
    releasePeer_unchanged peer
  obtain ⟨sameCount, _, sameSessions⟩ := unchanged
  have counts : ∀ kind, (door.releasePeer peer).sessions.countP kind = door.count kind := by
    intro kind
    rw [sameSessions]
  constructor
  · exact sameCount.trans (counter.trans (counts _).symm)
  · intro ip
    exact (releasePeer_spec peers ip).trans (congrArg entryOfCount (counts _).symm)
  · exact (counts _).trans_le few
  · exact fun ip => (counts _).trans_le (Nat.le_trans (Nat.le_add_right _ _) (fewOf ip))

/-- A session that is spawned takes its counts along. -/
theorem spawn_balanced {peer : Option IpAddr} (balanced : door.Balanced)
    (stage : door.stage = .admitted peer) :
    ({ door with sessions := door.sessions ++ [⟨peer, .spawned⟩], stage := .between } :
      Door).Balanced := by
  obtain ⟨counter, peers, few, fewOf⟩ := balanced
  simp only [stage, Stage.holds, Stage.admits, Stage.holdsOf] at counter few peers fewOf
  have counts : ∀ kind : Slot → Bool, (door.sessions ++ ([⟨peer, .spawned⟩] : List Slot)).countP kind =
      door.count kind + (kind ⟨peer, .spawned⟩).toNat := by
    intro kind
    rw [List.countP_append, List.countP_singleton]
    cases kind ⟨peer, .spawned⟩ <;> rfl
  have heldOf : ∀ ip, (Slot.holdsOf ip ⟨peer, .spawned⟩).toNat = if peer = some ip then 1 else 0 := by
    intro ip
    by_cases same : peer = some ip
    · simp [Slot.holdsOf, Slot.isOf, Phase.holdsPeer, same]
    · simp [Slot.holdsOf, Slot.isOf, same]
  constructor
  · exact counter.trans (counts Slot.holds).symm
  · intro ip
    rw [peers ip, ← heldOf ip]
    exact congrArg entryOfCount (counts _).symm
  · exact (counts Slot.holds).trans_le few
  · intro ip
    have before := fewOf ip
    rw [← heldOf ip] at before
    exact (counts _).trans_le before

/-- A phase in which the session holds the same slots. -/
theorem advance_balanced {session : Nat} {current next : Phase} (balanced : door.Balanced)
    (advanced : door.advance session current next = some later)
    (holds : ∀ peer, Slot.holds ⟨peer, next⟩ = Slot.holds ⟨peer, current⟩)
    (holdsOf : ∀ ip peer, Slot.holdsOf ip ⟨peer, next⟩ = Slot.holdsOf ip ⟨peer, current⟩) :
    later.Balanced := by
  obtain ⟨slot, _, rfl, counter, peers, stage, counts⟩ := advance_spec advanced
  have same : later.count Slot.holds = door.count Slot.holds := by
    have moved := counts Slot.holds
    rw [holds slot.peer] at moved
    exact Nat.add_right_cancel moved
  have sameOf : ∀ ip, later.count (Slot.holdsOf ip) = door.count (Slot.holdsOf ip) := by
    intro ip
    have moved := counts (Slot.holdsOf ip)
    rw [holdsOf ip slot.peer] at moved
    exact Nat.add_right_cancel moved
  constructor
  · rw [counter, stage, same, balanced.counter]
  · intro ip
    rw [peers, stage, sameOf, balanced.peers]
  · rw [stage, same]
    exact balanced.few
  · intro ip
    rw [stage, sameOf]
    exact balanced.fewOf ip

/-- A session that ends gives its peer back. -/
theorem dropPeer_balanced {session : Nat} (balanced : door.Balanced)
    (advanced : door.advance session .ended .unguarded = some later) :
    (later.releasePeer ((door.sessions[session]?).bind Slot.peer)).Balanced := by
  obtain ⟨⟨peer, phase⟩, found, rfl, counter, peers, stage, counts⟩ := advance_spec advanced
  have held : later.count Slot.holds = door.count Slot.holds :=
    Nat.add_right_cancel (counts Slot.holds)
  have heldOf : ∀ ip, later.count (Slot.holdsOf ip) + (if peer = some ip then 1 else 0) =
      door.count (Slot.holdsOf ip) := by
    intro ip
    have moved := counts (Slot.holdsOf ip)
    have slot : (Slot.holdsOf ip ⟨peer, .ended⟩).toNat = if peer = some ip then 1 else 0 := by
      by_cases same : peer = some ip <;> simp [Slot.holdsOf, Slot.isOf, Phase.holdsPeer, same]
    have none : Slot.holdsOf ip ⟨peer, .unguarded⟩ = false := Bool.and_false _
    rw [slot, none] at moved
    exact moved
  have unchanged : (later.releasePeer peer).connectionCount = later.connectionCount ∧ _ :=
    releasePeer_unchanged peer
  obtain ⟨sameCount, sameStage, sameSessions⟩ := unchanged
  have recount : ∀ kind, (later.releasePeer peer).count kind = later.count kind :=
    fun kind => congrArg (List.countP kind) sameSessions
  have released : ∀ ip, (later.releasePeer peer).peerCounts ip =
      entryOfCount (later.count (Slot.holdsOf ip) + door.stage.holdsOf ip) := by
    apply releasePeer_spec
    intro ip
    rw [peers, balanced.peers, ← heldOf ip]
    congr 1
    omega
  rw [found]
  show (later.releasePeer peer).Balanced
  constructor
  · rw [sameCount, sameStage, recount, counter, stage, held, balanced.counter]
  · intro ip
    rw [released, sameStage, recount, stage]
  · rw [sameStage, recount, stage, held]
    exact balanced.few
  · intro ip
    rw [sameStage, recount, stage]
    have before := balanced.fewOf ip
    rw [← heldOf ip] at before
    omega

/-- What is admitted is held, and no more than once. -/
theorem Stage.admits_le_holds (stage : Stage) : stage.admits ≤ stage.holds ∧ stage.holds ≤ 1 := by
  cases stage <;> simp [Stage.admits, Stage.holds]

/-- A session that is gone has given its connection back. -/
theorem dropConn_balanced {session : Nat} (balanced : door.Balanced)
    (advanced : door.advance session .unguarded .gone = some later) :
    ({ later with connectionCount := fetchSub later.connectionCount } : Door).Balanced := by
  obtain ⟨⟨peer, phase⟩, found, rfl, counter, peers, stage, counts⟩ := advance_spec advanced
  have held : later.count Slot.holds + 1 = door.count Slot.holds := counts Slot.holds
  have heldOf : ∀ ip, later.count (Slot.holdsOf ip) = door.count (Slot.holdsOf ip) := by
    intro ip
    have moved := counts (Slot.holdsOf ip)
    simpa [Slot.holdsOf, Slot.isOf, Phase.holdsPeer] using moved
  have few := balanced.few
  have bound := door.stage.admits_le_holds
  have subtracted : fetchSub later.connectionCount = later.count Slot.holds + door.stage.holds := by
    rw [counter, balanced.counter, ← held, Nat.add_right_comm]
    exact fetchSub_small (by omega)
  constructor
  · exact subtracted.trans (by rw [stage])
  · intro ip
    exact (congrFun peers ip).trans ((balanced.peers ip).trans (by rw [stage, ← heldOf ip]))
  · rw [stage]
    exact Nat.le_trans (by rw [← held]; exact Nat.add_le_add_right (Nat.le_succ _) _) few
  · intro ip
    rw [stage]
    exact Nat.le_trans (Nat.le_of_eq (congrArg (· + _) (heldOf ip))) (balanced.fewOf ip)

/-- Every step of the accept loop or of a thread keeps the counters right. -/
theorem step_balanced {action : Action} (balanced : door.Balanced)
    (taken : door.step action = some later) : later.Balanced := by
  cases action with
  | accept peer =>
    simp only [Door.step] at taken
    split at taken
    · rename_i stage
      obtain rfl := Option.some.inj taken
      exact balanced.restage (by rw [stage]; rfl) (fun ip => by rw [stage]; rfl) (by rw [stage]; rfl)
    · exact absurd taken (by simp)
  | acceptFails =>
    simp only [Door.step] at taken
    split at taken
    · obtain rfl := Option.some.inj taken
      exact balanced
    · exact absurd taken (by simp)
  | setTimeouts succeeds =>
    simp only [Door.step] at taken
    split at taken
    · rename_i peer stage
      obtain rfl := Option.some.inj taken
      cases succeeds <;> exact balanced.restage (by rw [stage]; rfl) (fun ip => by rw [stage]; rfl)
        (by rw [stage]; rfl)
    · exact absurd taken (by simp)
  | claimPeer =>
    simp only [Door.step] at taken
    split at taken
    · rename_i peer stage
      obtain rfl := Option.some.inj taken
      exact claimPeer_balanced balanced stage
    · exact absurd taken (by simp)
  | claimCount =>
    simp only [Door.step] at taken
    split at taken
    · rename_i peer stage
      obtain rfl := Option.some.inj taken
      exact claimCount_balanced balanced stage
    · exact absurd taken (by simp)
  | unclaimCount =>
    simp only [Door.step] at taken
    split at taken
    · rename_i peer stage
      obtain rfl := Option.some.inj taken
      exact unclaimCount_balanced balanced stage
    · exact absurd taken (by simp)
  | unclaimPeer =>
    simp only [Door.step] at taken
    split at taken
    · rename_i peer stage
      obtain rfl := Option.some.inj taken
      exact unclaimPeer_balanced balanced stage
    · exact absurd taken (by simp)
  | spawn =>
    simp only [Door.step] at taken
    split at taken
    · rename_i peer stage
      obtain rfl := Option.some.inj taken
      exact spawn_balanced balanced stage
    · exact absurd taken (by simp)
  | begin session => exact advance_balanced balanced taken (fun _ => rfl) fun _ _ => rfl
  | finish session outcome => exact advance_balanced balanced taken (fun _ => rfl) fun _ _ => rfl
  | dropPeer session =>
    obtain ⟨middle, advanced, rfl⟩ := Option.map_eq_some_iff.mp taken
    exact dropPeer_balanced balanced advanced
  | dropConn session =>
    obtain ⟨middle, advanced, rfl⟩ := Option.map_eq_some_iff.mp taken
    exact dropConn_balanced balanced advanced

end Invariant

section Runs

variable {door : Door} {actions : List Action}

/-- The counts are right along every run. -/
theorem run_balanced (runs : run Door.step Door.initial actions = some door) : door.Balanced :=
  run_keeps (fun _ _ _ balanced taken => step_balanced balanced taken) door_initial_balanced runs

/-- Sessions of two kinds that exclude each other. -/
theorem count_split {kind left right : Slot → Bool}
    (split : ∀ slot, (kind slot).toNat = (left slot).toNat + (right slot).toNat) :
    door.count kind = door.count left + door.count right := by
  unfold Door.count
  induction door.sessions with
  | nil => rfl
  | cons slot others inductionHypothesis =>
    have ones : ∀ b : Bool, (if b = true then 1 else 0) = b.toNat := by decide
    simp only [List.countP_cons, inductionHypothesis, ones, split slot]
    omega

/-- A wider kind counts more. -/
theorem count_le {kind wider : Slot → Bool} (implies : ∀ slot, kind slot = true → wider slot = true) :
    door.count kind ≤ door.count wider :=
  List.countP_mono_left fun slot _ => implies slot

/-- The connections that are held are those with a guard and those not begun. -/
theorem holds_split :
    door.count Slot.holds =
      door.count (Slot.is Phase.connGuard) + door.count (Slot.is Phase.unstarted) := by
  apply count_split
  rintro ⟨peer, phase⟩
  cases phase <;> rfl

/-- The same for one peer. -/
theorem holdsOf_split (ip : IpAddr) :
    door.count (Slot.holdsOf ip) =
      door.count (Slot.isOf ip Phase.peerGuard) + door.count (Slot.isOf ip Phase.unstarted) := by
  apply count_split
  rintro ⟨peer, phase⟩
  unfold Slot.holdsOf Slot.isOf
  cases peer == some ip <;> cases phase <;> rfl

/-- A live session holds its connection. -/
theorem live_holds (slot : Slot) (live : slot.is Phase.live = true) : slot.holds = true := by
  obtain ⟨peer, phase⟩ := slot
  cases phase <;> first | rfl | exact live

/-- A live session of a peer holds it for that peer. -/
theorem liveOf_holds (ip : IpAddr) (slot : Slot) (live : slot.isOf ip Phase.live = true) :
    slot.holdsOf ip = true := by
  obtain ⟨peer, phase⟩ := slot
  obtain ⟨same, alive⟩ := Bool.and_eq_true_iff.mp live
  apply Bool.and_eq_true_iff.mpr
  refine ⟨same, ?_⟩
  cases phase <;> first | rfl | exact alive

/-- However connections and sessions interleave, the limits are kept. Between connections
the counters are the guards that live and the threads that have still to make theirs, and
once all sessions are gone nothing is counted.

Each step keeps the balance of counters and guards. The limits follow since whoever lives has a
guard, and the last statement since those who are gone have none. -/
theorem slots_kept (runs : run Door.step Door.initial actions = some door) :
    door.count (Slot.is Phase.live) ≤ maxConnections ∧
      (∀ ip, door.count (Slot.isOf ip Phase.live) ≤ maxConnectionsPerIp) ∧
      (door.stage = .between →
        door.connectionCount =
          door.count (Slot.is Phase.connGuard) + door.count (Slot.is Phase.unstarted) ∧
        ∀ ip, door.peerCounts ip = entryOfCount
          (door.count (Slot.isOf ip Phase.peerGuard) + door.count (Slot.isOf ip Phase.unstarted))) ∧
      (door.stage = .between → (∀ slot ∈ door.sessions, slot.phase = .gone) →
        door.connectionCount = 0 ∧ ∀ ip, door.peerCounts ip = none) := by
  obtain ⟨counter, peers, few, fewOf⟩ := run_balanced runs
  refine ⟨?_, ?_, ?_, ?_⟩
  · exact Nat.le_trans (count_le live_holds) (Nat.le_trans (Nat.le_add_right _ _) few)
  · intro ip
    exact Nat.le_trans (count_le (liveOf_holds ip)) (Nat.le_trans (Nat.le_add_right _ _) (fewOf ip))
  · intro between
    simp only [between, Stage.holds, Stage.holdsOf, Nat.add_zero] at counter peers
    constructor
    · rw [counter, holds_split]
    · intro ip
      rw [peers ip, holdsOf_split]
  · intro between gone
    simp only [between, Stage.holds, Stage.holdsOf, Nat.add_zero] at counter peers
    constructor
    · rw [counter]
      apply List.countP_eq_zero.mpr
      intro slot member
      simp [Slot.holds, Slot.is, gone slot member, Phase.holdsConn]
    · intro ip
      have none' : door.count (Slot.holdsOf ip) = 0 := by
        apply List.countP_eq_zero.mpr
        intro slot member
        simp [Slot.holdsOf, Slot.isOf, gone slot member, Phase.holdsPeer]
      rw [peers ip, none']
      rfl

/-- A peer. -/
def samplePeer : IpAddr := .v4 ⟨10, 0, 0, 1⟩

/-- A connection for which a thread is started. -/
def admission : List Action := [.accept (some samplePeer), .setTimeouts true, .claimPeer, .claimCount, .spawn]

/-- The thread that was started last makes no guard before it runs. -/
theorem slot_unguarded : ∃ door, run Door.step Door.initial admission = some door ∧
    door.stage = .between ∧ door.connectionCount = 1 ∧
    door.count (Slot.is Phase.connGuard) = 0 ∧ door.peerCounts samplePeer = some 1 ∧
    door.count (Slot.isOf samplePeer Phase.peerGuard) = 0 := by
  have checked : (run Door.step Door.initial admission).any (fun door =>
      door.stage == .between && door.connectionCount == 1 &&
        door.count (Slot.is Phase.connGuard) == 0 && door.peerCounts samplePeer == some 1 &&
        door.count (Slot.isOf samplePeer Phase.peerGuard) == 0) = true := by decide +kernel
  obtain ⟨door, runs, facts⟩ := (Option.any_eq_true _ _).mp checked
  simp only [Bool.and_eq_true, beq_iff_eq] at facts
  exact ⟨door, runs, facts.1.1.1.1, facts.1.1.1.2, facts.1.1.2, facts.1.2, facts.2⟩

/-- Six connections from one address, of which the last is turned away; then a session
that panics. -/
def crowdedRun : List Action :=
  (List.replicate 5 admission).flatten ++ [.accept (some samplePeer), .setTimeouts true, .claimPeer,
    .begin 0, .finish 0 .panicked, .dropPeer 0, .dropConn 0]

/-- More peers come than are let in. -/
theorem slots_kept_sample : ∃ door, run Door.step Door.initial crowdedRun = some door ∧
    door.stage = .between ∧ door.count (Slot.is Phase.unstarted) = 4 ∧
    (door.connectionCount =
        door.count (Slot.is Phase.connGuard) + door.count (Slot.is Phase.unstarted) ∧
      ∀ ip, door.peerCounts ip = entryOfCount
        (door.count (Slot.isOf ip Phase.peerGuard) + door.count (Slot.isOf ip Phase.unstarted))) := by
  have checked : (run Door.step Door.initial crowdedRun).any (fun door =>
      door.stage == .between && door.count (Slot.is Phase.unstarted) == 4) = true := by
    decide +kernel
  obtain ⟨door, runs, facts⟩ := (Option.any_eq_true _ _).mp checked
  simp only [Bool.and_eq_true, beq_iff_eq] at facts
  exact ⟨door, runs, facts.1, facts.2, (slots_kept runs).2.2.1 facts.1⟩

end Runs

end PacketBrowser.Server
