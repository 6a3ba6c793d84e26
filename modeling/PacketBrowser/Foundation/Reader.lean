import Mathlib.Data.List.Basic

/-!
# A buffered reader over a socket

What a socket will deliver is a list of arrivals with the time each one takes: bytes
in pieces of any size, wakeups without bytes, failures, and the end of the input.
Behind the last arrival there is silence. A read takes a whole piece into the buffer;
the capacity of the buffer cannot be observed, since what does not fit is delivered
to the next read at once.

`pending` is everything still to be read. `Scanned` says all that one delimited read
can do, and it never loses, repeats or reorders a byte of it.
-/

namespace Foundation

/-- What one read of the socket comes back with. A piece has at least one byte, and
a closed socket stays closed. -/
inductive Arrival where
  | bytes (first : UInt8) (later : List UInt8)
  | wakeup
  | failed (message : List Char)
  | closed
  deriving DecidableEq, Repr

/-- An arrival and the time until it. -/
structure Delivery where
  after : Nat
  arrival : Arrival
  deriving DecidableEq, Repr

/-- Why a read gave no bytes. Nothing at all arrives in silence. -/
inductive Trouble where
  | wakeup
  | failed (message : List Char)
  | silence
  deriving DecidableEq, Repr

/-- A buffered reader: what it holds, what will come to it, and the time. -/
structure Reader where
  buffered : List UInt8
  incoming : List Delivery
  now : Nat
  deriving DecidableEq, Repr

/-- The bytes of the arrivals before the end of the input. -/
def arriving : List Delivery → List UInt8
  | [] => []
  | delivery :: rest =>
    match delivery.arrival with
    | .bytes first later => first :: later ++ arriving rest
    | .closed => []
    | _ => arriving rest

/-- The input ends, rather than falling silent. -/
def closing : List Delivery → Bool
  | [] => false
  | delivery :: rest => delivery.arrival == .closed || closing rest

/-- No read fails before the end of the input. -/
def unfailing : List Delivery → Bool
  | [] => true
  | delivery :: rest =>
    match delivery.arrival with
    | .failed _ => false
    | .closed => true
    | _ => unfailing rest

/-- The time until all of these have arrived. -/
def delays : List Delivery → Nat
  | [] => 0
  | delivery :: rest => delivery.after + delays rest

namespace Reader

/-- Everything still to be read. -/
def pending (r : Reader) : List UInt8 := r.buffered ++ arriving r.incoming

/-- The time at which the last arrival is over. -/
def horizon (r : Reader) : Nat := r.now + delays r.incoming

/-- The connection is closed at the end of what comes. -/
def closes (r : Reader) : Bool := closing r.incoming

/-- Nothing that comes is an error. -/
def steady (r : Reader) : Bool := unfailing r.incoming

/-- Append to a buffer up to and including the delimiter, at most `limit` bytes. The
number of bytes is returned, and what was appended before trouble stays. -/
def scan (delimiter : UInt8) (limit read : Nat) (appended buffered : List UInt8) (now : Nat)
    (incoming : List Delivery) : Except Trouble Nat × List UInt8 × Reader :=
  match (buffered.take limit).findIdx? (· == delimiter) with
  | some offset => (.ok (read + (offset + 1)), appended ++ buffered.take (offset + 1),
      ⟨buffered.drop (offset + 1), incoming, now⟩)
  | none =>
    if limit ≤ buffered.length then
      (.ok (read + limit), appended ++ buffered.take limit, ⟨buffered.drop limit, incoming, now⟩)
    else match incoming with
      | [] => (.error .silence, appended ++ buffered, ⟨[], [], now⟩)
      | ⟨after, .bytes first later⟩ :: rest =>
        scan delimiter (limit - buffered.length) (read + buffered.length) (appended ++ buffered)
          (first :: later) (now + after) rest
      | ⟨after, .wakeup⟩ :: rest =>
        (.error .wakeup, appended ++ buffered, ⟨[], rest, now + after⟩)
      | ⟨after, .failed message⟩ :: rest =>
        (.error (.failed message), appended ++ buffered, ⟨[], rest, now + after⟩)
      | ⟨after, .closed⟩ :: rest => (.ok (read + buffered.length), appended ++ buffered,
          ⟨[], ⟨0, .closed⟩ :: rest, now + after⟩)

/-- Read up to a delimiter, but no more bytes than the limit. -/
def readUntil (delimiter : UInt8) (limit : Nat) (appended : List UInt8) (r : Reader) :
    Except Trouble Nat × List UInt8 × Reader :=
  scan delimiter limit 0 appended r.buffered r.now r.incoming

/-- At most `max` bytes, from the buffer or else from one arrival; none at the end of
the input. -/
def read (max : Nat) (r : Reader) : Except Trouble (List UInt8) × Reader :=
  if r.buffered ≠ [] then (.ok (r.buffered.take max), { r with buffered := r.buffered.drop max })
  else match r.incoming with
    | [] => (.error .silence, r)
    | ⟨after, .bytes first later⟩ :: rest =>
      (.ok ((first :: later).take max), ⟨(first :: later).drop max, rest, r.now + after⟩)
    | ⟨after, .wakeup⟩ :: rest => (.error .wakeup, ⟨[], rest, r.now + after⟩)
    | ⟨after, .failed message⟩ :: rest => (.error (.failed message), ⟨[], rest, r.now + after⟩)
    | ⟨after, .closed⟩ :: rest => (.ok [], ⟨[], ⟨0, .closed⟩ :: rest, r.now + after⟩)

/-- More arrives behind. -/
def followed (r : Reader) (late : List Delivery) : Reader :=
  { r with incoming := r.incoming ++ late }

/-- The second reader is the first one some arrivals later. -/
structure Later (r later : Reader) : Prop where
  time : r.now ≤ later.now
  horizon : later.horizon = r.horizon
  closes : later.closes = r.closes
  steady : r.steady = true → later.steady = true
  fewer : later.incoming.length ≤ r.incoming.length

/-- What a delimited read can do: return, the bytes it appends, and the reader it leaves. -/
inductive Scanned (delimiter : UInt8) (limit : Nat) (r : Reader) :
    Except Trouble Nat → List UInt8 → Reader → Prop
  | found (line : List UInt8) (later : Reader) (fresh : delimiter ∉ line)
      (fits : line.length + 1 ≤ limit) (kept : line ++ delimiter :: later.pending = r.pending)
      (follows : r.Later later) :
      Scanned delimiter limit r (.ok (line.length + 1)) (line ++ [delimiter]) later
  | full (taken : List UInt8) (later : Reader) (fresh : delimiter ∉ taken)
      (fits : taken.length = limit) (kept : taken ++ later.pending = r.pending)
      (follows : r.Later later) : Scanned delimiter limit r (.ok limit) taken later
  | ended (taken : List UInt8) (later : Reader) (fresh : delimiter ∉ taken)
      (fits : taken.length < limit) (kept : taken = r.pending) (follows : r.Later later)
      (finished : ∃ rest, later.incoming = ⟨0, .closed⟩ :: rest) (empty : later.buffered = []) :
      Scanned delimiter limit r (.ok taken.length) taken later
  | woken (taken : List UInt8) (later : Reader) (fresh : delimiter ∉ taken)
      (fits : taken.length < limit) (kept : taken ++ later.pending = r.pending)
      (follows : r.Later later) (fewer : later.incoming.length < r.incoming.length) :
      Scanned delimiter limit r (.error .wakeup) taken later
  | broken (taken : List UInt8) (later : Reader) (message : List Char) (fresh : delimiter ∉ taken)
      (kept : taken ++ later.pending = r.pending) (unsteady : r.steady = false) :
      Scanned delimiter limit r (.error (.failed message)) taken later
  | silent (taken : List UInt8) (later : Reader) (fresh : delimiter ∉ taken)
      (fits : taken.length < limit) (kept : taken = r.pending) (open' : r.closes = false)
      (follows : r.Later later) (empty : later.pending = []) :
      Scanned delimiter limit r (.error .silence) taken later

/-- What arrives of two lists, where nothing comes behind a close. -/
theorem arriving_append (early late : List Delivery) :
    arriving (early ++ late) = arriving early ++ if closing early then [] else arriving late := by
  induction early with
  | nil => rfl
  | cons delivery early inductionHypothesis =>
    obtain ⟨after, arrival⟩ := delivery
    cases arrival with
    | bytes first later => simp [arriving, closing, inductionHypothesis]
    | wakeup | failed message => simpa [arriving, closing] using inductionHypothesis
    | closed => simp [arriving, closing]

/-- Two lists close the connection if one of them does. -/
theorem closing_append (early late : List Delivery) :
    closing (early ++ late) = (closing early || closing late) := by
  induction early with
  | nil => rfl
  | cons delivery early inductionHypothesis =>
    simp only [List.cons_append, closing, inductionHypothesis, Bool.or_assoc]

/-- What is still to be read when more follows. -/
theorem pending_followed (r : Reader) (late : List Delivery) :
    (r.followed late).pending = r.pending ++ if r.closes then [] else arriving late := by
  unfold followed pending closes
  rw [arriving_append, List.append_assoc]

/-- Whether the connection closes when more follows. -/
theorem closes_followed (r : Reader) (late : List Delivery) :
    (r.followed late).closes = (r.closes || closing late) := closing_append r.incoming late

/-- A reader that has read nothing is a later one of itself. -/
theorem Later.refl (r : Reader) : r.Later r := ⟨Nat.le_refl _, rfl, rfl, id, Nat.le_refl _⟩

/-- A later reader of a later one is a later one. -/
theorem Later.trans {r middle last : Reader} (first : r.Later middle) (second : middle.Later last) :
    r.Later last where
  time := Nat.le_trans first.time second.time
  horizon := second.horizon.trans first.horizon
  closes := second.closes.trans first.closes
  steady := second.steady ∘ first.steady
  fewer := Nat.le_trans second.fewer first.fewer

/-- The buffer is nobody else's business. -/
theorem later_buffered (buffered other : List UInt8) (incoming : List Delivery) (now : Nat) :
    Later ⟨buffered, incoming, now⟩ ⟨other, incoming, now⟩ :=
  ⟨Nat.le_refl _, rfl, rfl, id, Nat.le_refl _⟩

/-- An arrival that neither fails nor ends the input. -/
theorem later_arrival (buffered other : List UInt8) (after now : Nat) (arrival : Arrival)
    (rest : List Delivery) (open' : arrival ≠ .closed) :
    Later ⟨buffered, ⟨after, arrival⟩ :: rest, now⟩ ⟨other, rest, now + after⟩ := by
  constructor
  · exact Nat.le_add_right now after
  · simp only [horizon, delays]
    omega
  · simp [Reader.closes, closing, open']
  · intro steady
    cases arrival with
    | bytes first later => exact steady
    | wakeup => exact steady
    | failed message => exact absurd steady (by simp [Reader.steady, unfailing])
    | closed => exact absurd rfl open'
  · exact Nat.le_succ _

/-- A reader that meets the end stays there. -/
theorem later_closed (buffered other : List UInt8) (after now : Nat) (rest : List Delivery) :
    Later ⟨buffered, ⟨after, .closed⟩ :: rest, now⟩
      ⟨other, ⟨0, .closed⟩ :: rest, now + after⟩ := by
  constructor
  · exact Nat.le_add_right now after
  · simp only [horizon, delays]
    omega
  · simp [Reader.closes, closing]
  · exact fun _ => rfl
  · exact Nat.le_refl _

/-- A delimited read behind bytes without the delimiter. -/
theorem Scanned.behind {delimiter : UInt8} {limit : Nat} {r next later : Reader}
    {outcome : Except Trouble Nat} {front taken : List UInt8} (fresh : delimiter ∉ front)
    (split : r.pending = front ++ next.pending) (follows : r.Later next)
    (scanned : Scanned delimiter limit next outcome taken later) :
    Scanned delimiter (front.length + limit) r (outcome.map (front.length + ·)) (front ++ taken)
      later := by
  have absent : ∀ {bytes : List UInt8}, delimiter ∉ bytes → delimiter ∉ front ++ bytes := by
    intro bytes other member
    exact (List.mem_append.mp member).elim fresh other
  cases scanned with
  | found line later new fits kept further =>
    rw [Except.map, ← List.append_assoc, ← Nat.add_assoc, ← List.length_append]
    refine .found (front ++ line) later (absent new) ?_ ?_ (follows.trans further)
    · rw [List.length_append]
      omega
    · rw [List.append_assoc, kept, split]
  | full taken later new fits kept further =>
    refine .full (front ++ taken) later (absent new) ?_ ?_ (follows.trans further)
    · rw [List.length_append, fits]
    · rw [List.append_assoc, kept, split]
  | ended taken later new fits kept further finished empty =>
    rw [Except.map, ← List.length_append]
    refine .ended (front ++ taken) later (absent new) ?_ ?_ (follows.trans further) finished empty
    · rw [List.length_append]
      omega
    · rw [kept, split]
  | woken taken later new fits kept further fewer =>
    refine .woken (front ++ taken) later (absent new) ?_ ?_ (follows.trans further) ?_
    · rw [List.length_append]
      omega
    · rw [List.append_assoc, kept, split]
    · exact Nat.lt_of_lt_of_le fewer follows.fewer
  | broken taken later message new kept unsteady =>
    refine .broken (front ++ taken) later message (absent new) ?_ ?_
    · rw [List.append_assoc, kept, split]
    · exact Bool.eq_false_iff.mpr fun steady =>
        absurd (follows.steady steady) (by simp [unsteady])
  | silent taken later new fits kept open' further empty =>
    refine .silent (front ++ taken) later (absent new) ?_ ?_ ?_ (follows.trans further) empty
    · rw [List.length_append]
      omega
    · rw [kept, split]
    · rw [← follows.closes, open']

/-- Where a delimiter is found, the bytes in front of it have none. -/
theorem split_found (delimiter : UInt8) (bytes : List UInt8) (offset : Nat)
    (found : bytes.findIdx? (· == delimiter) = some offset) :
    ∃ line rest, bytes = line ++ delimiter :: rest ∧ line.length = offset ∧ delimiter ∉ line := by
  induction bytes generalizing offset with
  | nil => exact absurd found (by simp)
  | cons first bytes inductionHypothesis =>
    rw [List.findIdx?_cons] at found
    split at found
    · rename_i same
      obtain rfl := beq_iff_eq.mp same
      obtain rfl := Option.some.inj found
      exact ⟨[], bytes, rfl, rfl, List.not_mem_nil⟩
    · rename_i different
      obtain ⟨previous, later, rfl⟩ := Option.map_eq_some_iff.mp found
      obtain ⟨line, rest, split, length, absent⟩ := inductionHypothesis previous later
      refine ⟨first :: line, rest, by rw [split, List.cons_append], by rw [← length]; rfl, ?_⟩
      rintro member
      rcases List.mem_cons.mp member with rfl | member
      · exact different (beq_self_eq_true _)
      · exact absent member

/-- The delimiter itself fits within the limit. -/
theorem found_within (delimiter : UInt8) (limit : Nat) (buffered : List UInt8) (offset : Nat)
    (found : (buffered.take limit).findIdx? (· == delimiter) = some offset) :
    offset + 1 ≤ limit := by
  obtain ⟨line, rest, split, rfl, _⟩ := split_found delimiter _ offset found
  have bound := List.length_take_le limit buffered
  rw [split, List.length_append, List.length_cons] at bound
  omega

/-- A delimiter that is not found is not there. -/
theorem absent_of_not_found (delimiter : UInt8) (bytes : List UInt8)
    (none : bytes.findIdx? (· == delimiter) = none) : delimiter ∉ bytes := by
  intro member
  have different := List.findIdx?_eq_none_iff.mp none delimiter member
  exact absurd different (by simp)

section Scan

variable (delimiter : UInt8) (limit read : Nat) (appended buffered : List UInt8) (now : Nat)
variable (incoming : List Delivery)

/-- The outcome of a delimited read, apart from what was read and appended before. -/
def ScansTo (outcome : Except Trouble Nat) (taken : List UInt8) (later : Reader) : Prop :=
  scan delimiter limit read appended buffered now incoming =
    (outcome.map (read + ·), appended ++ taken, later)

/-- The buffer holds the delimiter. -/
theorem scan_found (offset : Nat)
    (found : (buffered.take limit).findIdx? (· == delimiter) = some offset) :
    ∃ outcome taken later, ScansTo delimiter limit read appended buffered now incoming outcome
      taken later ∧ Scanned delimiter limit ⟨buffered, incoming, now⟩ outcome taken later := by
  obtain ⟨line, rest, split, rfl, absent⟩ := split_found delimiter _ offset found
  have whole : buffered = line ++ delimiter :: (rest ++ buffered.drop limit) := by
    rw [← List.cons_append, ← List.append_assoc, ← split, List.take_append_drop]
  have front : buffered.take (line.length + 1) = line ++ [delimiter] := by
    rw [whole, List.take_append, List.take_of_length_le (Nat.le_succ _)]
    simp
  have back : buffered.drop (line.length + 1) = rest ++ buffered.drop limit := by
    conv => lhs; rw [whole, List.drop_append]
    simp
  have fits := found_within delimiter limit buffered line.length found
  refine ⟨.ok (line.length + 1), line ++ [delimiter], ⟨rest ++ buffered.drop limit, incoming, now⟩,
    ?_, .found line _ absent fits ?_ (later_buffered _ _ _ _)⟩
  · unfold ScansTo scan
    rw [found]
    simp only [front, back, Except.map]
  · simp only [pending]
    conv => rhs; rw [whole]
    simp

/-- The limit is reached within the buffer. -/
theorem scan_full (none : (buffered.take limit).findIdx? (· == delimiter) = none)
    (enough : limit ≤ buffered.length) :
    ∃ outcome taken later, ScansTo delimiter limit read appended buffered now incoming outcome
      taken later ∧ Scanned delimiter limit ⟨buffered, incoming, now⟩ outcome taken later := by
  refine ⟨.ok limit, buffered.take limit, ⟨buffered.drop limit, incoming, now⟩, ?_,
    .full _ _ (absent_of_not_found delimiter _ none) ?_ ?_ (later_buffered _ _ _ _)⟩
  · unfold ScansTo scan
    rw [none]
    simp only [enough, if_true, Except.map]
  · rw [List.length_take, Nat.min_eq_left enough]
  · simp only [pending]
    rw [← List.append_assoc, List.take_append_drop]

/-- The read goes beyond the buffer. -/
theorem scan_beyond (none : (buffered.take limit).findIdx? (· == delimiter) = none)
    (short : ¬ limit ≤ buffered.length) :
    scan delimiter limit read appended buffered now incoming =
      match incoming with
      | [] => (.error .silence, appended ++ buffered, ⟨[], [], now⟩)
      | ⟨after, .bytes first later⟩ :: rest =>
        scan delimiter (limit - buffered.length) (read + buffered.length) (appended ++ buffered)
          (first :: later) (now + after) rest
      | ⟨after, .wakeup⟩ :: rest =>
        (.error .wakeup, appended ++ buffered, ⟨[], rest, now + after⟩)
      | ⟨after, .failed message⟩ :: rest =>
        (.error (.failed message), appended ++ buffered, ⟨[], rest, now + after⟩)
      | ⟨after, .closed⟩ :: rest => (.ok (read + buffered.length), appended ++ buffered,
          ⟨[], ⟨0, .closed⟩ :: rest, now + after⟩) := by
  conv => lhs; unfold scan
  rw [none]
  simp only [short, if_false]

/-- All that a delimited read can do. The induction is on the arrivals it consumes. -/
theorem scan_scanned :
    ∃ outcome taken later, ScansTo delimiter limit read appended buffered now incoming outcome
      taken later ∧ Scanned delimiter limit ⟨buffered, incoming, now⟩ outcome taken later := by
  induction incoming generalizing limit read appended buffered now with
  | nil =>
    cases found : (buffered.take limit).findIdx? (· == delimiter) with
    | some offset => exact scan_found delimiter limit read appended buffered now [] offset found
    | none =>
      by_cases enough : limit ≤ buffered.length
      · exact scan_full delimiter limit read appended buffered now [] found enough
      · have fresh := absent_of_not_found delimiter _ found
        rw [List.take_of_length_le (by omega)] at fresh
        have beyond := scan_beyond delimiter limit read appended buffered now [] found enough
        exact ⟨.error .silence, buffered, ⟨[], [], now⟩, beyond, .silent _ _ fresh (by omega)
          (by simp [pending, arriving]) rfl (later_buffered _ _ _ _) rfl⟩
  | cons delivery rest inductionHypothesis =>
    cases found : (buffered.take limit).findIdx? (· == delimiter) with
    | some offset => exact scan_found delimiter limit read appended buffered now _ offset found
    | none =>
      by_cases enough : limit ≤ buffered.length
      · exact scan_full delimiter limit read appended buffered now _ found enough
      · have fresh := absent_of_not_found delimiter _ found
        rw [List.take_of_length_le (by omega)] at fresh
        have beyond := scan_beyond delimiter limit read appended buffered now (delivery :: rest)
          found enough
        obtain ⟨after, arrival⟩ := delivery
        cases arrival with
        | bytes first later =>
          obtain ⟨outcome, taken, last, scans, scanned⟩ := inductionHypothesis
            (limit - buffered.length) (read + buffered.length) (appended ++ buffered)
            (first :: later) (now + after)
          refine ⟨outcome.map (buffered.length + ·), buffered ++ taken, last, ?_, ?_⟩
          · refine beyond.trans (scans.trans ?_)
            cases outcome <;> simp [Except.map, Nat.add_assoc]
          · have bound : limit = buffered.length + (limit - buffered.length) := by omega
            rw [bound]
            apply scanned.behind fresh _ (later_arrival _ _ _ _ _ _ (by simp))
            simp [pending, arriving]
        | wakeup =>
          exact ⟨.error .wakeup, buffered, ⟨[], rest, now + after⟩, beyond,
            .woken _ _ fresh (by omega) (by simp [pending, arriving])
              (later_arrival _ _ _ _ _ _ (by simp)) (Nat.lt_succ_self _)⟩
        | failed message =>
          exact ⟨.error (.failed message), buffered, ⟨[], rest, now + after⟩, beyond,
            .broken _ _ message fresh (by simp [pending, arriving]) rfl⟩
        | closed =>
          exact ⟨.ok buffered.length, buffered, ⟨[], ⟨0, .closed⟩ :: rest, now + after⟩, beyond,
            .ended _ _ fresh (by omega) (by simp [pending, arriving]) (later_closed _ _ _ _ _)
              ⟨rest, rfl⟩ rfl⟩

/-- A read appends no more than its limit. -/
theorem scan_appended :
    (scan delimiter limit read appended buffered now incoming).2.1.length ≤
      appended.length + limit := by
  induction incoming generalizing limit read appended buffered now with
  | nil =>
    unfold scan
    split
    · rename_i offset found
      have within := found_within delimiter limit buffered offset found
      simp only [List.length_append, List.length_take]
      omega
    · split <;> simp only [List.length_append, List.length_take] <;> omega
  | cons delivery rest inductionHypothesis =>
    unfold scan
    split
    · rename_i offset found
      have within := found_within delimiter limit buffered offset found
      simp only [List.length_append, List.length_take]
      omega
    · split
      · simp only [List.length_append, List.length_take]
        omega
      · obtain ⟨after, arrival⟩ := delivery
        cases arrival with
        | bytes first later =>
          have bound := inductionHypothesis (limit - buffered.length) (read + buffered.length)
            (appended ++ buffered) (first :: later) (now + after)
          simp only [List.length_append] at bound
          apply Nat.le_trans bound
          omega
        | wakeup | failed message | closed =>
          simp only [List.length_append]
          omega

/-- What arrives behind does not change a read that does not wait for it. -/
theorem scan_followed (late : List Delivery)
    (speaks : (scan delimiter limit read appended buffered now incoming).1 ≠ .error .silence) :
    scan delimiter limit read appended buffered now (incoming ++ late) =
      ((scan delimiter limit read appended buffered now incoming).1,
        (scan delimiter limit read appended buffered now incoming).2.1,
        (scan delimiter limit read appended buffered now incoming).2.2.followed late) := by
  induction incoming generalizing limit read appended buffered now with
  | nil =>
    unfold scan at speaks ⊢
    split
    · rfl
    · rename_i absent
      rw [absent] at speaks
      split
      · rfl
      · rename_i beyond
        rw [if_neg beyond] at speaks
        exact absurd rfl speaks
  | cons delivery rest inductionHypothesis =>
    unfold scan at speaks ⊢
    split
    · rfl
    · rename_i absent
      rw [absent] at speaks
      split
      · rfl
      · rename_i beyond
        rw [if_neg beyond] at speaks
        obtain ⟨after, arrival⟩ := delivery
        cases arrival with
        | bytes first later =>
          exact inductionHypothesis (limit - buffered.length) (read + buffered.length)
            (appended ++ buffered) (first :: later) (now + after) speaks
        | wakeup | failed message | closed => rfl

end Scan

/-- A read up to a delimiter takes what the scan of the bytes says. -/
theorem readUntil_scanned (delimiter : UInt8) (limit : Nat) (appended : List UInt8) (r : Reader) :
    ∃ outcome taken later, r.readUntil delimiter limit appended =
      (outcome, appended ++ taken, later) ∧ Scanned delimiter limit r outcome taken later := by
  obtain ⟨outcome, taken, later, scans, scanned⟩ :=
    scan_scanned delimiter limit 0 appended r.buffered r.now r.incoming
  refine ⟨outcome, taken, later, scans.trans ?_, scanned⟩
  cases outcome <;> simp [Except.map]

/-- A delimited read appends no more than its limit. -/
theorem readUntil_appended (delimiter : UInt8) (limit : Nat) (appended : List UInt8) (r : Reader) :
    (r.readUntil delimiter limit appended).2.1.length ≤ appended.length + limit :=
  scan_appended delimiter limit 0 appended r.buffered r.now r.incoming

/-- A read that does not end in silence does not depend on what follows. -/
theorem readUntil_followed (delimiter : UInt8) (limit : Nat) (appended : List UInt8) (r : Reader)
    (late : List Delivery) {outcome : Except Trouble Nat} {buf : List UInt8} {later : Reader}
    (reads : r.readUntil delimiter limit appended = (outcome, buf, later))
    (speaks : outcome ≠ .error .silence) :
    (r.followed late).readUntil delimiter limit appended = (outcome, buf, later.followed late) := by
  unfold readUntil at reads
  have same := scan_followed delimiter limit 0 appended r.buffered r.now r.incoming late
  rw [reads] at same
  exact same speaks

/-- How many reads may still come back with bytes of the buffer or of an arrival. -/
def steps (r : Reader) : Nat := r.incoming.length + if r.buffered = [] then 0 else 1

/-- What a plain read can do. -/
inductive Took (max : Nat) (r : Reader) : Except Trouble (List UInt8) → Reader → Prop
  | some (taken : List UInt8) (later : Reader) (nonempty : taken ≠ []) (fits : taken.length ≤ max)
      (kept : taken ++ later.pending = r.pending) (follows : r.Later later)
      (fewer : taken.length < max → later.steps < r.steps) : Took max r (.ok taken) later
  | finished (later : Reader) (kept : later.pending = r.pending) (empty : r.pending = [])
      (follows : r.Later later) (closes : r.closes = true) : Took max r (.ok []) later
  | woken (later : Reader) (kept : later.pending = r.pending) (follows : r.Later later)
      (fewer : later.steps < r.steps) : Took max r (.error .wakeup) later
  | broken (later : Reader) (message : List Char) (kept : later.pending = r.pending)
      (unsteady : r.steady = false) : Took max r (.error (.failed message)) later
  | silent (empty : r.pending = []) (open' : r.closes = false) : Took max r (.error .silence) r

/-- A part of a buffer, or of an arrival that becomes the buffer. -/
theorem took_part (max : Nat) (positive : 0 < max) (r : Reader) (chunk : List UInt8)
    (incoming : List Delivery) (now : Nat) (nonempty : chunk ≠ [])
    (whole : r.pending = chunk ++ arriving incoming) (follows : r.Later ⟨[], incoming, now⟩)
    (fewer : incoming.length < r.steps) :
    Took max r (.ok (chunk.take max)) ⟨chunk.drop max, incoming, now⟩ := by
  apply Took.some
  · intro empty
    rcases List.take_eq_nil_iff.mp empty with zero | none
    · omega
    · exact nonempty none
  · exact List.length_take_le max chunk
  · rw [whole, pending, ← List.append_assoc, List.take_append_drop]
  · exact follows.trans (later_buffered _ _ _ _)
  · intro short
    rw [List.length_take] at short
    have all : chunk.drop max = [] := List.drop_of_length_le (by omega)
    simpa [steps, all] using fewer

/-- A read takes from the front what it returns. -/
theorem read_took (max : Nat) (positive : 0 < max) (r : Reader) :
    Took max r (r.read max).1 (r.read max).2 := by
  obtain ⟨buffered, incoming, now⟩ := r
  unfold read
  by_cases nonempty : buffered ≠ []
  · simp only [nonempty, ne_eq, not_false_eq_true, if_true]
    apply took_part max positive _ buffered incoming now nonempty rfl (later_buffered _ _ _ _)
    simp [steps, nonempty]
  · obtain rfl : buffered = [] := not_not.mp nonempty
    simp only [ne_eq, not_true_eq_false, if_false]
    cases incoming with
    | nil => exact .silent rfl rfl
    | cons delivery rest =>
      obtain ⟨after, arrival⟩ := delivery
      cases arrival with
      | bytes first later =>
        apply took_part max positive _ (first :: later) rest (now + after) (by simp) rfl
        · exact later_arrival _ _ _ _ _ _ (by simp)
        · simp [steps]
      | wakeup =>
        exact .woken _ rfl (later_arrival _ _ _ _ _ _ (by simp)) (by simp [steps])
      | failed message => exact .broken _ message rfl rfl
      | closed => exact .finished _ rfl rfl (later_closed _ _ _ _ _) rfl

end Reader

end Foundation
