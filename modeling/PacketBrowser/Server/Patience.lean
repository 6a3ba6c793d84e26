import PacketBrowser.Server.Conduct

/-!
# How long the server waits for its peer

A read gives up for want of time only when its deadline has passed. The deadline of the
handshake is fixed by the first look at the clock, and that of each request by the last one,
which the session takes when it has answered the request before.

So a peer is given the whole time in every run: nobody is disconnected as idle earlier than
the configured time after the last answer, however the bytes before that were cut.
-/

namespace PacketBrowser.Server

open Protocol Foundation Program

section Reads

variable {deadline : Nat} {r later : Reader} {err : IoError}

/-- Decoding a line is no matter of time. -/
theorem lineText_timely {buf : Bytes} (failed : lineText buf = .error err) :
    err.kind ≠ .timedOut := by
  unfold lineText at failed
  split at failed
  · exact absurd failed (by simp)
  · rw [← Except.error.inj failed]
    exact IoErrorKind.noConfusion

/-- One turn gives up only when the deadline has passed. -/
theorem lineTurn_late {buf : Bytes} (timed : err.kind = .timedOut)
    (ends : lineTurn deadline buf r = .inl (.error err, later)) : deadline ≤ later.now := by
  have never {message : IoError} (kind : message.kind ≠ .timedOut) : message ≠ err :=
    fun same => kind (same ▸ timed)
  unfold lineTurn at ends
  split at ends
  · rename_i passed
    obtain ⟨-, rfl⟩ := Prod.mk.inj (Sum.inl.inj ends)
    exact passed
  split at ends
  · exact absurd (Except.error.inj (Prod.mk.inj (Sum.inl.inj ends)).1) (never (by decide))
  split at ends
  · split at ends
    · split at ends
      · exact absurd ends (by simp)
      · exact absurd (Except.error.inj (Prod.mk.inj (Sum.inl.inj ends)).1) (never (by decide))
    · split at ends
      · exact absurd timed (lineText_timely (Prod.mk.inj (Sum.inl.inj ends)).1)
      · split at ends
        · exact absurd (Except.error.inj (Prod.mk.inj (Sum.inl.inj ends)).1) (never (by decide))
        · exact absurd ends (by simp)
  · split at ends
    · exact absurd timed (lineText_timely (Prod.mk.inj (Sum.inl.inj ends)).1)
    · exact absurd ends (by simp)
  · exact absurd (Except.error.inj (Prod.mk.inj (Sum.inl.inj ends)).1)
      (never IoErrorKind.noConfusion)
  · obtain ⟨-, rfl⟩ := Prod.mk.inj (Sum.inl.inj ends)
    exact Nat.le_max_right _ _

/-- The induction is on the rounds, which do not run out before the turns do. -/
theorem lineRounds_late (rounds : Nat) (buf : Bytes) (fresh : lineFeed ∉ buf)
    (short : buf.length < lineCap) (enough : turns r < rounds) (timed : err.kind = .timedOut)
    (ends : lineRounds deadline rounds buf r = (.error err, later)) : deadline ≤ later.now := by
  induction rounds generalizing buf r with
  | zero => exact absurd enough (Nat.not_lt_zero _)
  | succ rounds inductionHypothesis =>
    rw [lineRounds_turn] at ends
    have turning := lineTurn_turning deadline (r := r) fresh short
    generalize turned : lineTurn deadline buf r = result at turning ends
    rcases result with finished | ⟨longer, next⟩
    · have same : finished = (.error err, later) := ends
      exact lineTurn_late timed (turned.trans (congrArg Sum.inl same))
    · cases turning with
      | more taken next new fits kept follows fewer grows =>
        apply inductionHypothesis (r := next) (buf ++ taken) _ _ (by omega) ends
        · exact fun member => (List.mem_append.mp member).elim fresh new
        · rwa [List.length_append]

/-- A line is given up for want of time only behind the deadline. -/
theorem readLine_late (timed : err.kind = .timedOut)
    (ends : readBoundedLineUntil deadline r = (.error err, later)) : deadline ≤ later.now :=
  lineRounds_late _ [] List.not_mem_nil (by decide) (turns_enough r) timed ends

/-- The induction is on the rounds; each one uses up the buffer or an arrival, unless it is
the last. -/
theorem exactRounds_late {need : Nat} (rounds : Nat) (filled : Bytes)
    (fits : filled.length ≤ need) (enough : filled.length < need → r.steps + 2 ≤ rounds)
    (positive : 0 < rounds) (timed : err.kind = .timedOut)
    (ends : exactRounds deadline need rounds filled r = (.error err, later)) :
    deadline ≤ later.now := by
  have never {message : IoError} (kind : message.kind ≠ .timedOut) : message ≠ err :=
    fun same => kind (same ▸ timed)
  induction rounds generalizing filled r with
  | zero => exact absurd positive (Nat.lt_irrefl 0)
  | succ rounds inductionHypothesis =>
    unfold exactRounds at ends
    split at ends
    · exact absurd ends (by simp)
    · rename_i missing
      have steps := enough (by omega)
      split at ends
      · rename_i late
        obtain ⟨-, rfl⟩ := Prod.mk.inj ends
        exact late
      · have took := r.read_took (need - filled.length) (by omega)
        generalize r.read (need - filled.length) = result at took ends
        obtain ⟨outcome, next⟩ := result
        cases took with
        | some taken next nonempty small kept follows fewer =>
          simp only [nonempty, if_false] at ends
          apply inductionHypothesis (r := next) (filled ++ taken) _ _ (by omega) ends
          · rw [List.length_append]
            omega
          · intro still
            rw [List.length_append] at still
            have used : next.steps < r.steps := fewer (by omega)
            omega
        | finished next kept empty follows closes =>
          simp only [if_true] at ends
          exact absurd (Except.error.inj (Prod.mk.inj ends).1) (never (by decide))
        | woken next kept follows fewer =>
          simp only at ends
          have used : next.steps < r.steps := fewer
          exact inductionHypothesis (r := next) filled fits (fun _ => by omega) (by omega) ends
        | broken next message kept unsteady =>
          exact absurd (Except.error.inj (Prod.mk.inj ends).1) (never IoErrorKind.noConfusion)
        | silent empty open' =>
          obtain ⟨-, rfl⟩ := Prod.mk.inj ends
          exact Nat.le_max_right _ _

/-- A body is given up for want of time only behind the deadline. -/
theorem readExact_late {need : Nat} (timed : err.kind = .timedOut)
    (ends : readExactUntil deadline need r = (.error err, later)) : deadline ≤ later.now :=
  exactRounds_late _ [] (Nat.zero_le _) (fun _ => Nat.le_refl _) (Nat.succ_pos _) timed ends

/-- Decoding a request is no matter of time. -/
theorem readGet_timely {rest : Text} (failed : readGet rest = .error err) :
    err.kind ≠ .timedOut := by
  unfold readGet at failed
  split at failed
  · rw [← Except.error.inj failed]
    exact IoErrorKind.noConfusion
  · split at failed <;> exact absurd failed (by simp)

/-- Waiting for a request ends for want of time only when the deadline has passed, in its
line or in its body. -/
theorem readRequest_late (timed : err.kind = .timedOut)
    (ends : readRequest deadline r = (.error err, later)) : deadline ≤ later.now := by
  have never {message : IoError} (kind : message.kind ≠ .timedOut) : message ≠ err :=
    fun same => kind (same ▸ timed)
  unfold readRequest at ends
  split at ends
  · rename_i failed next lineRead
    obtain ⟨same, rfl⟩ := Prod.mk.inj ends
    obtain rfl := Except.error.inj same
    exact readLine_late timed lineRead
  · exact absurd ends (by simp)
  · rename_i text next lineRead
    unfold readTrimmed at ends
    split at ends
    · have failed := (Prod.mk.inj ends).1
      cases parsed : readGet ((Text.trim text).drop 4) with
      | ok request => exact absurd failed (by simp [parsed, Except.map])
      | error message =>
        rw [parsed] at failed
        exact absurd (Except.error.inj failed) (never (readGet_timely parsed))
    · split at ends
      · unfold readPost at ends
        split at ends
        · exact absurd (Except.error.inj (Prod.mk.inj ends).1) (never (by decide))
        · split at ends
          · rename_i failed last lengthRead
            obtain ⟨same, rfl⟩ := Prod.mk.inj ends
            obtain rfl := Except.error.inj same
            exact readExact_late timed lengthRead
          · split at ends
            · exact absurd (Except.error.inj (Prod.mk.inj ends).1)
                (never IoErrorKind.noConfusion)
            · split at ends
              · rename_i failed last bodyRead
                obtain ⟨same, rfl⟩ := Prod.mk.inj ends
                obtain rfl := Except.error.inj same
                exact readExact_late timed bodyRead
              · exact absurd ends (by simp)
      · exact absurd (Except.error.inj (Prod.mk.inj ends).1) (never (by decide))

end Reads

section Sessions

variable {casing : Text.Casing} {config : Config} {conduct : Conduct}

/-- What a look at the clock told. -/
def reading : SessionEvent → Option Nat
  | ⟨_, .now, time⟩ => some time
  | _ => none

/-- What the session was told first. -/
def firstTold : List SessionEvent → Option Nat
  | [] => none
  | event :: earlier => (firstTold earlier).or (reading event)

/-- What the session was told last. -/
def lastTold : List SessionEvent → Option Nat
  | [] => none
  | event :: earlier => (reading event).or (lastTold earlier)

/-- A line changes nothing about the times. -/
theorem hear_times (line : Text) : (conduct.hear casing config line).deadline = conduct.deadline ∧
    (conduct.hear casing config line).touched = conduct.touched := by
  unfold Conduct.hear
  split
  · split <;> exact ⟨rfl, rfl⟩
  · split
    · split <;> exact ⟨rfl, rfl⟩
    · exact ⟨rfl, rfl⟩

variable (casing config) in
/-- Only the clock changes what the monitor knows of the time. -/
theorem after_times (conduct : Conduct) (op : Op) (answer : Answer op) :
    (conduct.after casing config op answer).deadline =
        conduct.deadline.or ((reading ⟨(), op, answer⟩).map (· + preAuthTimeout)) ∧
      (conduct.after casing config op answer).touched =
        (reading ⟨(), op, answer⟩).getD conduct.touched := by
  have unread : conduct.deadline.or ((none : Option Nat).map (· + preAuthTimeout)) =
      conduct.deadline := by simp
  cases op with
  | now => exact ⟨rfl, rfl⟩
  | readLine deadline =>
    rcases answer with err | _ | line
    · exact ⟨unread.symm, rfl⟩
    · exact ⟨unread.symm, rfl⟩
    · exact ⟨(hear_times line).1.trans unread.symm, (hear_times line).2⟩
  | readRequest deadline =>
    rcases answer with err | _ | request <;> exact ⟨unread.symm, rfl⟩
  | newBrowser callsign =>
    rcases answer with ⟨err | started, elapsed⟩ <;> exact ⟨unread.symm, rfl⟩
  | validateUrl valid =>
    rcases answer with ⟨err | _, elapsed⟩ <;> exact ⟨unread.symm, rfl⟩
  | fetchPage other page =>
    rcases answer with ⟨(_ | _ | _ | _) | html, elapsed⟩ <;> exact ⟨unread.symm, rfl⟩
  | joinProbe =>
    simp only [Conduct.after]
    split <;> exact ⟨unread.symm, rfl⟩
  | _ => exact ⟨unread.symm, rfl⟩

variable (casing config) in
/-- The monitor knows the first time the session was told, and the last one. -/
theorem state_times (history : List SessionEvent) :
    ((watch casing config).state .opening history).deadline =
        (firstTold history).map (· + preAuthTimeout) ∧
      ((watch casing config).state .opening history).touched = (lastTold history).getD 0 := by
  induction history with
  | nil => exact ⟨rfl, rfl⟩
  | cons event earlier inductionHypothesis =>
    obtain ⟨fixed, told⟩ := inductionHypothesis
    obtain ⟨until', touched⟩ := after_times casing config
      ((watch casing config).state .opening earlier) event.op event.answer
    simp only [Monitor.state, firstTold, lastTold]
    constructor
    · rw [show (watch casing config).after = Conduct.after casing config from rfl, until', fixed]
      cases firstTold earlier <;> simp
    · rw [show (watch casing config).after = Conduct.after casing config from rfl, touched, told]
      cases reading event <;> rfl

/-- When the first line has been awaited, the session knows the time. -/
theorem state_told {history : List SessionEvent}
    (obeyed : (watch casing config).Obeyed .opening history) :
    ((watch casing config).state .opening history).stage = .greeting ∨
      ((watch casing config).state .opening history).deadline ≠ none := by
  apply obeyed.invariant (fun conduct : Conduct =>
    conduct.stage = .greeting ∨ conduct.deadline ≠ none) (Or.inl rfl)
  intro conduct op answer holds permitted
  by_cases told : conduct.deadline = none
  · have begins := holds.resolve_right (not_not.mpr told)
    cases op with
    | write bytes => exact .inl (by simp [watch, Conduct.after, begins, Point.sent])
    | now => exact .inl begins
    | readLine deadline => exact absurd (permitted.2.symm.trans told) (by simp)
    | compress data quality => exact .inl begins
    | readRequest deadline => exact absurd (begins.symm.trans permitted.1) Point.noConfusion
    | log entry =>
      exact absurd permitted (by simp [watch, Conduct.permits, begins, Point.entry])
    | newBrowser callsign =>
      rcases permitted.2.2 with other | ⟨page, other⟩ <;>
        exact absurd (begins.symm.trans other) Point.noConfusion
    | validateUrl valid => exact absurd (begins.symm.trans permitted) Point.noConfusion
    | startProbe valid => exact absurd (begins.symm.trans permitted) Point.noConfusion
    | fetchPage browser page => exact absurd (begins.symm.trans permitted.1) Point.noConfusion
    | joinProbe => exact absurd (begins.symm.trans permitted.choose_spec) Point.noConfusion
  · refine Or.inr ?_
    rw [show (watch casing config).after = Conduct.after casing config from rfl,
      (after_times casing config conduct op answer).1]
    simp [told]

/-- A clock that was looked at first was looked at last. -/
theorem lastTold_some {history : List SessionEvent} (told : firstTold history ≠ none) :
    lastTold history ≠ none := by
  induction history with
  | nil => exact told
  | cons event earlier inductionHypothesis =>
    simp only [firstTold, lastTold, ne_eq, Option.or_eq_none_iff, not_and_or] at told ⊢
    exact told.symm.imp id inductionHypothesis

/-- The last event of a run was possible. -/
theorem last_occurs {α : Type} {program left : Routine α} {reader : Reader} {now : Moment}
    (leads : Leads exec (fun _ _ => True) program (Moment.opening reader) now left)
    {event : SessionEvent} {earlier : List SessionEvent} (last : now.history = event :: earlier) :
    ∃ world : World, world.gives event.op event.answer = true ∧
      now.world = world.apply event.op event.answer := by
  cases leads with
  | start => exact absurd last (by simp [Moment.opening])
  | @step before after left op next answer _ performs occurs met =>
    obtain ⟨rfl, -⟩ := List.cons.inj (occurs.2.symm.trans last)
    exact ⟨before.world, exec_iff.mp occurs.1⟩

/-- In every run, a peer is given the whole time: a request is given up for want of time only
when the idle time has passed since the session looked at the clock last, and a line of the
handshake only when its time has passed since the session looked at the clock first. The idle
time is the configured one where that does not wrap around in 64 bits.

The deadline of a read is one the monitor of the session permits, and a read that is given up
for want of time ends behind its deadline. -/
theorem patience_kept (casing : Text.Casing) (sha256 : Bytes → Bytes) (config : Config)
    (reader : Reader) {now : Moment} {left : Routine (Except IoError Unit)}
    (leads : Leads exec (fun _ _ => True) (handleConnection casing sha256 config).run
      (Moment.opening reader) now left) {deadline : Nat} {err : IoError}
    (timed : err.kind = .timedOut) {earlier : List SessionEvent} :
    (now.history = ⟨(), .readRequest deadline, .error err⟩ :: earlier →
      ∃ touched, lastTold earlier = some touched ∧
        touched + config.idleTimeout ≤ now.world.reader.now) ∧
    (now.history = ⟨(), .readLine deadline, .error err⟩ :: earlier →
      ∃ begun, firstTold earlier = some begun ∧
        begun + preAuthTimeout ≤ now.world.reader.now) ∧
    (config.idleTimeoutMinutes.toNat * 60 < UInt64.size →
      config.idleTimeout = seconds (config.idleTimeoutMinutes.toNat * 60)) := by
  have whole := session_conducted casing sha256 config reader leads
  obtain ⟨fixed, told⟩ := state_times casing config earlier
  refine ⟨?_, ?_, idleTimeout_exact⟩
  · intro last
    rw [last] at whole
    obtain ⟨ready, due⟩ : Conduct.permits config _ (.readRequest deadline) := whole.1
    obtain ⟨world, gives, moved⟩ := last_occurs leads last
    have knows := (state_told whole.2).resolve_left fun begins =>
      absurd (begins.symm.trans ready) Point.noConfusion
    have some : lastTold earlier ≠ none :=
      lastTold_some fun never => knows (by rw [fixed, never]; rfl)
    obtain ⟨touched, same⟩ := Option.ne_none_iff_exists'.mp some
    refine ⟨touched, same, ?_⟩
    rw [told, same, Option.getD_some] at due
    have passed : deadline ≤ (readRequest deadline world.reader).2.now :=
      readRequest_late timed (Prod.ext (beq_iff_eq.mp gives).symm rfl)
    rw [moved, ← due]
    exact passed
  · intro last
    rw [last] at whole
    obtain ⟨-, due⟩ : Conduct.permits config _ (.readLine deadline) := whole.1
    obtain ⟨world, gives, moved⟩ := last_occurs leads last
    rw [fixed] at due
    obtain ⟨begun, same, until'⟩ := Option.map_eq_some_iff.mp due
    refine ⟨begun, same, ?_⟩
    have passed : deadline ≤ (readBoundedLineUntil deadline world.reader).2.now :=
      readLine_late timed (Prod.ext (beq_iff_eq.mp gives).symm rfl)
    rw [moved, until']
    exact passed

/-- An operator agrees and is not heard of again. -/
def idleEvents : List (Sigma Answer) :=
  (handshakeEvents ++ startEvents).concat ⟨.readRequest 600000, .error idleDeadline⟩

/-- A peer that agrees and says no more. -/
def idleReader : Reader := ⟨ascii "N0CALL\nAGREE\n", [], 0⟩

/-- The events above are a run. -/
theorem idle_runs : ((handleConnection .onlyAscii id sampleConfig).run.follow exec 2
    (Moment.opening idleReader) idleEvents).isSome := by decide

/-- The clock was looked at when the session began. -/
theorem idle_told : lastTold ((handshakeEvents ++ startEvents).map eventOf).reverse = some 0 := by
  decide

/-- The session ends when ten minutes have passed. -/
theorem patience_kept_sample : ∃ now left,
    Leads exec (fun _ _ => True) (handleConnection .onlyAscii id sampleConfig).run
      (Moment.opening idleReader) now left ∧ now.history = (idleEvents.map eventOf).reverse ∧
      600000 ≤ now.world.reader.now := by
  obtain ⟨⟨now, left⟩, followed⟩ := Option.isSome_iff_exists.mp idle_runs
  obtain ⟨leads, history⟩ := follow_leads 2 idleEvents (fun _ _ => trivial) followed
  rw [Moment.opening, List.append_nil] at history
  have last : now.history = ⟨(), .readRequest 600000, .error idleDeadline⟩ ::
      ((handshakeEvents ++ startEvents).map eventOf).reverse := by
    rw [history, idleEvents, List.concat_eq_append, List.map_append, List.reverse_append]
    rfl
  obtain ⟨touched, same, passed⟩ :=
    (patience_kept .onlyAscii id sampleConfig idleReader leads rfl).1 last
  rw [idle_told] at same
  obtain rfl := Option.some.inj same
  exact ⟨now, left, leads, history, passed⟩

end Sessions

end PacketBrowser.Server
