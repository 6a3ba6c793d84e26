import PacketBrowser.Foundation.Expand
import PacketBrowser.Server.Duplicates

/-!
# How often a page is tried

A request whose browser crashes starts another browser and tries again, as often as it
takes. Nothing but the outcomes ends this: a fetch that does not crash, or a browser that does
not start. `Outcomes` fixes them for one request, and `Decisive` says of a round that it is
the last one. The request is answered after no more rounds than there are up to the first
decisive one, and never if there is none.
-/

namespace PacketBrowser.Server

open Protocol Foundation Program Setting

/-- The outcomes that one request meets with: of the filter, of every start of a browser and
of every fetch. -/
structure Outcomes where
  verdict : Except UrlError Unit
  launches : Nat → Except BrowserError BrowserId
  fetches : Nat → Except BrowserError Text

/-- A page is loaded. -/
def Op.isFetch : Op → Bool
  | .fetchPage _ _ => true
  | _ => false

/-- A browser is started. -/
def Op.isLaunch : Op → Bool
  | .newBrowser _ => true
  | _ => false

/-- How often a page was loaded. -/
def fetchCount (history : List SessionEvent) : Nat := history.countP fun event => event.op.isFetch

/-- How often a browser was started. -/
def launchCount (history : List SessionEvent) : Nat := history.countP fun event => event.op.isLaunch

/-- The answer is the outcome whose turn it is. -/
def Outcomes.Tells (outcomes : Outcomes) (now : Moment) (event : SessionEvent) : Prop :=
  match event.op, event.answer with
  | .validateUrl _, answer => answer.result = outcomes.verdict
  | .newBrowser _, answer => answer.result = outcomes.launches (launchCount now.history)
  | .fetchPage _ _, answer => answer.result = outcomes.fetches (fetchCount now.history)
  | _, _ => True

/-- The round is the last one: its browser does not start, or its fetch does not crash. -/
def Outcomes.Decisive (outcomes : Outcomes) (round : Nat) : Prop :=
  (∃ err, outcomes.launches round = .error err) ∨ outcomes.fetches round ≠ .error .browserCrashed

/-- A response has been written. -/
def Responds (history : List SessionEvent) : Prop :=
  ∃ event ∈ history, ∃ response : Response, event.op = .write response.encode

/-- A response has been written, after so many fetches and so many browsers at most. -/
def AnsweredWithin (bound : Nat) (now : Moment) : Prop :=
  fetchCount now.history ≤ bound ∧ launchCount now.history ≤ bound ∧ Responds now.history

/-- So many pages have been fetched and so many browsers started. -/
def Counted (fetched launched : Nat) (now : Moment) : Prop :=
  fetchCount now.history = fetched ∧ launchCount now.history = launched

/-- A page is still to be loaded, with this browser or a new one: every fetch has crashed, and
every browser has started. -/
structure Trying (outcomes : Outcomes) (fetched launched : Nat) (browser : Option BrowserId)
    (now : Moment) : Prop where
  counted : Counted fetched launched now
  crashed : ∀ round < fetched, outcomes.fetches round = .error .browserCrashed
  started : ∀ round < launched, ∃ other, outcomes.launches round = .ok other
  paired : fetched ≤ launched ∧ launched ≤ fetched + 1
  fresh : browser = none → launched = 0

/-- A browser is to be started: every fetch has crashed, and every browser has started. -/
structure Restarting (outcomes : Outcomes) (fetched launched : Nat) (now : Moment) : Prop where
  counted : Counted fetched launched now
  crashed : ∀ round < fetched, outcomes.fetches round = .error .browserCrashed
  started : ∀ round < launched, ∃ other, outcomes.launches round = .ok other
  paired : launched ≤ fetched ∧ fetched ≤ launched + 1

/-- A response has been written, and so much was counted by then. -/
def Replied (fetched launched : Nat) (now : Moment) : Prop :=
  Counted fetched launched now ∧ Responds now.history

section Steps

variable {outcomes : Outcomes} {now later : Moment} {op : Op} {answer : Answer op}
variable {fetched launched : Nat}

/-- The counts, with the latest event. -/
theorem counted_cons (grown : later.history = ⟨(), op, answer⟩ :: now.history)
    (counted : Counted fetched launched now) : Counted
      (fetched + if op.isFetch then 1 else 0) (launched + if op.isLaunch then 1 else 0) later := by
  obtain ⟨fetches, launches⟩ := counted
  constructor
  · rw [grown, fetchCount, List.countP_cons, ← fetches]
    rfl
  · rw [grown, launchCount, List.countP_cons, ← launches]
    rfl

/-- An operation that concerns no browser changes no count. -/
theorem counted_other (other : op.isFetch = false ∧ op.isLaunch = false)
    (grown : later.history = ⟨(), op, answer⟩ :: now.history)
    (counted : Counted fetched launched now) : Counted fetched launched later := by
  have after := counted_cons grown counted
  rwa [other.1, other.2] at after

/-- A decisive round is still to come. -/
theorem decisive_later {round : Nat}
    (crashed : ∀ round < fetched, outcomes.fetches round = .error .browserCrashed)
    (started : ∀ round < launched, ∃ other, outcomes.launches round = .ok other)
    (decisive : outcomes.Decisive round) : fetched ≤ round ∨ launched ≤ round := by
  by_contra sooner
  rcases decisive with ⟨err, failed⟩ | survived
  · obtain ⟨other, ok⟩ := started round (by omega)
    rw [failed] at ok
    exact absurd ok (by simp)
  · exact survived (crashed round (by omega))

/-- Without a browser, one is started first. -/
theorem Trying.restarts (trying : Trying outcomes fetched launched none now) :
    Restarting outcomes fetched launched now := by
  have paired := trying.paired
  have fresh := trying.fresh rfl
  exact ⟨trying.counted, trying.crashed, trying.started, by omega⟩

/-- The fetch has the next outcome. -/
theorem Trying.fetches {browser : BrowserId} {url : Text} {answer : Answer (.fetchPage browser url)}
    (trying : Trying outcomes fetched launched (some browser) now)
    (grown : later.history = ⟨(), .fetchPage browser url, answer⟩ :: now.history)
    (told : outcomes.Tells now ⟨(), .fetchPage browser url, answer⟩) :
    answer.result = outcomes.fetches fetched ∧ Counted (fetched + 1) launched later := by
  constructor
  · rw [← trying.counted.1]
    exact told
  · exact counted_cons grown trying.counted

/-- A browser that has crashed is replaced. -/
theorem Trying.crashes {browser : BrowserId}
    (trying : Trying outcomes fetched launched (some browser) now)
    (crashed : outcomes.fetches fetched = .error .browserCrashed)
    (counted : Counted (fetched + 1) launched later) :
    Restarting outcomes (fetched + 1) launched later := by
  have paired := trying.paired
  constructor
  · exact counted
  · intro round before
    rcases Nat.lt_succ_iff_lt_or_eq.mp before with earlier | rfl
    · exact trying.crashed round earlier
    · exact crashed
  · exact trying.started
  · omega

/-- The start of a browser has the next outcome. -/
theorem Restarting.launches {callsign : Text} {answer : Answer (.newBrowser callsign)}
    (restarting : Restarting outcomes fetched launched now)
    (grown : later.history = ⟨(), .newBrowser callsign, answer⟩ :: now.history)
    (told : outcomes.Tells now ⟨(), .newBrowser callsign, answer⟩) :
    answer.result = outcomes.launches launched ∧ Counted fetched (launched + 1) later := by
  constructor
  · rw [← restarting.counted.2]
    exact told
  · exact counted_cons grown restarting.counted

/-- With another browser, the page is tried again. -/
theorem Restarting.retries {browser : BrowserId} (restarting : Restarting outcomes fetched launched now)
    (started : outcomes.launches launched = .ok browser)
    (counted : Counted fetched (launched + 1) later) :
    Trying outcomes fetched (launched + 1) (some browser) later := by
  have paired := restarting.paired
  constructor
  · exact counted
  · exact restarting.crashed
  · intro round before
    rcases Nat.lt_succ_iff_lt_or_eq.mp before with earlier | rfl
    · exact restarting.started round earlier
    · exact ⟨browser, started⟩
  · omega
  · exact fun none => absurd none (by simp)

end Steps

section Answering

/-! A response is written after finitely many operations. -/

variable {outcomes : Outcomes} {now : Moment} {fetched launched : Nat}

/-- One operation that concerns no browser. -/
theorem other_settles (outcomes : Outcomes) (op : Op) (other : op.isFetch = false ∧ op.isLaunch = false)
    (told : ∀ answer, outcomes.Tells now ⟨(), op, answer⟩)
    (possible : ∃ answer, now.world.gives op answer = true) (counted : Counted fetched launched now) :
    Settles exec outcomes.Tells (fun answer later =>
      Counted fetched launched later ∧ later.history = ⟨(), op, answer⟩ :: now.history) (ask op) now := by
  obtain ⟨answer, given⟩ := possible
  apply settles_ask
  · exact ⟨answer, _, occurs_of given, told answer⟩
  · rintro answer after ⟨_, grown⟩ _
    exact ⟨counted_other other grown counted, grown⟩

/-- Writing a response replies, and counts nothing. -/
theorem write_settles (response : Response) (counted : Counted fetched launched now) :
    Settles exec outcomes.Tells (fun _ => Replied fetched launched)
      (writeBytes response.encode).run now := by
  have asked := other_settles outcomes (.write response.encode) ⟨rfl, rfl⟩
    (fun _ => trivial) ⟨allSent response.encode, beq_self_eq_true response.encode.length⟩ counted
  apply asked.bind
  rintro written later ⟨counted, grown⟩
  apply Settles.ended (.done _)
  constructor
  · exact counted
  · rw [grown]
    exact ⟨_, List.mem_cons_self, response, rfl⟩

/-- Logging counts nothing. -/
theorem log_settles (entry : LogEntry) (counted : Counted fetched launched now) :
    Settles exec outcomes.Tells (fun _ => Counted fetched launched) (logEntry entry) now := by
  have asked := other_settles outcomes (.log entry) ⟨rfl, rfl⟩
    (fun _ => trivial) ⟨⟨.ok (), 0⟩, rfl⟩ counted
  apply asked.bind
  rintro _ later ⟨counted, _⟩
  exact .ended (.done _) counted

/-- A status response replies, and counts nothing. -/
theorem sendStatusResponse_settles (status : Status) (message : Text)
    (counted : Counted fetched launched now) :
    Settles exec outcomes.Tells (fun _ => Replied fetched launched)
      (sendStatusResponse status message).run now := by
  have asked := other_settles outcomes (.compress (Utf8.encode message) 11)
    ⟨rfl, rfl⟩ (fun _ => trivial) ⟨⟨none, 0⟩, rfl⟩ counted
  apply settles_attempt (settles_lift asked)
  rintro compressed later ⟨counted, _⟩
  exact write_settles _ counted

/-- A refusal replies, and counts nothing. -/
theorem rejectUrl_replies (callsign url : Text) (err : UrlError)
    (counted : Counted fetched launched now) :
    Settles exec outcomes.Tells (fun _ => Replied fetched launched)
      (rejectUrl callsign url err).run now := by
  apply settles_attempt (settles_lift (log_settles _ counted))
  intro _ later counted
  exact sendStatusResponse_settles _ _ counted

/-- Sending a page replies, and counts nothing. -/
theorem sendPage_replies (sha256 : Bytes → Bytes) (config : Config) (callsign url : Text)
    (ifNoneMatch : Option Text) (html : Text) (counted : Counted fetched launched now) :
    Settles exec outcomes.Tells (fun _ => Replied fetched launched)
      (sendPage sha256 config callsign url ifNoneMatch html).run now := by
  have probed := other_settles outcomes .joinProbe ⟨rfl, rfl⟩
    (fun _ => trivial) ⟨⟨none, 0⟩, rfl⟩ counted
  apply settles_attempt (settles_lift probed)
  rintro maxAge later ⟨counted, _⟩
  apply settles_attempt (settles_lift (log_settles _ counted))
  intro _ later counted
  split
  · exact write_settles _ counted
  · have compressed := other_settles outcomes
      (.compress (Utf8.encode html) config.brotliQuality) ⟨rfl, rfl⟩ (fun _ => trivial)
      ⟨⟨none, 0⟩, rfl⟩ counted
    apply settles_attempt (settles_lift compressed)
    rintro compressed later ⟨counted, _⟩
    cases compressed.result with
    | none => exact sendStatusResponse_settles _ _ counted
    | some bytes => exact write_settles _ counted

end Answering

section Rounds

variable {outcomes : Outcomes} {now : Moment} {fetched launched : Nat} (callsign : Text)

/-- How a round ends before a decisive one is over: it goes on with more done than before, or
there is a page, or the response has been written. -/
def RoundEnds (outcomes : Outcomes) (round before : Nat) :
    Option BrowserId ⊕ Fetched × Option BrowserId → Moment → Prop
  | .inl browser, now => ∃ fetched launched, Trying outcomes fetched launched browser now ∧
      before < fetched + launched
  | .inr (.page _, _), now => ∃ fetched launched, fetched ≤ round + 1 ∧ launched ≤ round + 1 ∧
      Counted fetched launched now
  | .inr (.answered _, _), now => ∃ fetched launched, fetched ≤ round + 1 ∧ launched ≤ round + 1 ∧
      Replied fetched launched now

/-- A round that ends behind many rounds ends behind fewer. -/
theorem RoundEnds.earlier {round before sooner : Nat}
    {result : Option BrowserId ⊕ Fetched × Option BrowserId}
    (ends : RoundEnds outcomes round before result now)
    (less : sooner ≤ before) : RoundEnds outcomes round sooner result now := by
  match result, ends with
  | .inl browser, ⟨fetched, launched, trying, progress⟩ =>
    exact ⟨fetched, launched, trying, by omega⟩
  | .inr (.page _, _), ends => exact ends
  | .inr (.answered _, _), ends => exact ends

/-- A browser is started: the next outcome decides whether it goes on. -/
theorem restartBrowser_settles {round : Nat} (restarting : Restarting outcomes fetched launched now)
    (fetchedBefore : fetched ≤ round + 1) (launchedBefore : launched ≤ round) :
    Settles exec outcomes.Tells (RoundEnds outcomes round (fetched + launched))
      (restartBrowser callsign) now := by
  have asked : Settles exec outcomes.Tells (fun (created : Answer (.newBrowser callsign)) later =>
      created.result = outcomes.launches launched ∧ Counted fetched (launched + 1) later)
      (ask (.newBrowser callsign)) now := by
    apply settles_ask
    · refine ⟨⟨outcomes.launches launched, 0⟩, _, occurs_of rfl, ?_⟩
      show outcomes.launches launched = outcomes.launches (launchCount now.history)
      rw [restarting.counted.2]
    · rintro created after ⟨_, grown⟩ told
      exact restarting.launches grown told
  apply asked.bind
  rintro created later ⟨told, counted⟩
  cases result : created.result with
  | ok browser =>
    apply Settles.ended (.done _)
    exact ⟨fetched, launched + 1, restarting.retries (told.symm.trans result) counted, by omega⟩
  | error err =>
    apply (sendStatusResponse_settles .err "Browser unavailable".toList counted).bind
    intro sent last replied
    exact .ended (.done _) ⟨fetched, launched + 1, fetchedBefore, by omega, replied⟩

/-- A try ends the request, or leaves it to the next round. -/
theorem tryFetch_settles (url : Text) {round : Nat} (decisive : outcomes.Decisive round)
    {browser : Option BrowserId} (trying : Trying outcomes fetched launched browser now) :
    Settles exec outcomes.Tells (RoundEnds outcomes round (fetched + launched))
      (tryFetch callsign url browser) now := by
  have paired := trying.paired
  have later := decisive_later trying.crashed trying.started decisive
  cases browser with
  | none =>
    have fresh := trying.fresh rfl
    exact restartBrowser_settles callsign trying.restarts (by omega) (by omega)
  | some browser =>
    have asked : Settles exec outcomes.Tells (fun (answer : Answer (.fetchPage browser url)) later =>
        answer.result = outcomes.fetches fetched ∧ Counted (fetched + 1) launched later)
        (ask (.fetchPage browser url)) now := by
      apply settles_ask
      · refine ⟨⟨outcomes.fetches fetched, 0⟩, _, occurs_of rfl, ?_⟩
        show outcomes.fetches fetched = outcomes.fetches (fetchCount now.history)
        rw [trying.counted.1]
      · rintro answer after ⟨_, grown⟩ told
        exact trying.fetches grown told
    apply asked.bind
    rintro answer after ⟨told, counted⟩
    cases result : answer.result with
    | ok html =>
      apply Settles.ended (.done _)
      exact ⟨fetched + 1, launched, by omega, by omega, counted⟩
    | error err =>
      have failing : err ≠ .browserCrashed → Settles exec outcomes.Tells
          (RoundEnds outcomes round (fetched + launched)) (do
            logEntry ⟨callsign, url, .error, some err.display⟩
            let sent ← (sendErrorResponse "Failed to load page".toList).run
            return .inr (.answered sent, some browser)) after := by
        intro _
        apply (log_settles _ counted).bind
        intro _ between counted
        apply (sendStatusResponse_settles .err "Failed to load page".toList counted).bind
        intro sent last replied
        exact .ended (.done _) ⟨fetched + 1, launched, by omega, by omega, replied⟩
      cases err with
      | browserCrashed =>
        have crashed := told.symm.trans result
        have restarting := trying.crashes crashed counted
        have last := decisive_later restarting.crashed restarting.started decisive
        have restarted : Settles exec outcomes.Tells
            (RoundEnds outcomes round (fetched + 1 + launched)) (restartBrowser callsign) after :=
          restartBrowser_settles callsign restarting (by omega) (by omega)
        exact restarted.mono fun _ _ ends => ends.earlier (by omega)
      | launchFailed message => exact failing (by simp)
      | navigationFailed message => exact failing (by simp)
      | extractionFailed message => exact failing (by simp)

/-- The page is loaded, or the request is answered, when the decisive round is over. -/
theorem loadPage_settles (url : Text) {round : Nat} (decisive : outcomes.Decisive round)
    {browser : Option BrowserId} (trying : Trying outcomes fetched launched browser now) :
    Settles exec outcomes.Tells
      (fun result => RoundEnds outcomes round 0 (.inr result))
      (Program.loop (tryFetch callsign url) browser) now := by
  apply settles_loop (fun browser now => ∃ fetched launched, Trying outcomes fetched launched browser now)
    fun now => 2 * round + 2 - (fetchCount now.history + launchCount now.history)
  · rintro browser now ⟨fetched, launched, trying⟩
    apply (tryFetch_settles callsign url decisive trying).mono
    intro result later ends
    cases result with
    | inr result => exact ends.earlier (Nat.zero_le _)
    | inl browser =>
      obtain ⟨more, others, again, progress⟩ := ends
      have next := decisive_later again.crashed again.started decisive
      have paired := again.paired
      refine ⟨⟨more, others, again⟩, ?_⟩
      rw [again.counted.1, again.counted.2, trying.counted.1, trying.counted.2]
      omega
  · exact ⟨fetched, launched, trying⟩

/-- A request whose filter verdict or some round decides it is answered in time. -/
theorem handleRequest_answers (sha256 : Bytes → Bytes) (config : Config) (browser : Option BrowserId)
    (url : Text) (ifNoneMatch : Option Text) (world : World) {bound : Nat}
    (decides : (∃ err, outcomes.verdict = .error err) ∨ ∃ round < bound, outcomes.Decisive round) :
    Settles exec outcomes.Tells (fun _ => AnsweredWithin bound)
      (handleRequest sha256 config callsign browser url ifNoneMatch) ⟨world, []⟩ := by
  have start : Counted 0 0 ⟨world, []⟩ := ⟨rfl, rfl⟩
  have answered : ∀ {fetched launched : Nat} {now : Moment}, fetched ≤ bound → launched ≤ bound →
      Replied fetched launched now → AnsweredWithin bound now := by
    rintro fetched launched now fits fits' ⟨⟨rfl, rfl⟩, responds⟩
    exact ⟨fits, fits', responds⟩
  have filtered : Settles exec outcomes.Tells (fun (answer : Answer (.validateUrl url)) later =>
      answer.result = outcomes.verdict ∧ Counted 0 0 later) (ask (.validateUrl url)) ⟨world, []⟩ := by
    apply settles_ask
    · exact ⟨⟨outcomes.verdict, 0⟩, _, occurs_of rfl, rfl⟩
    · rintro answer after ⟨_, grown⟩ told
      exact ⟨told, counted_other ⟨rfl, rfl⟩ grown start⟩
  apply filtered.bind
  rintro answer later ⟨told, counted⟩
  cases verdict : answer.result with
  | error err =>
    apply (rejectUrl_replies callsign url err counted).bind
    intro sent last replied
    exact .ended (.done _) (answered (Nat.zero_le _) (Nat.zero_le _) replied)
  | ok value =>
    obtain ⟨round, inside, decisive⟩ := decides.resolve_left (by
      rintro ⟨err, rejected⟩
      rw [← told, verdict] at rejected
      exact absurd rejected (by simp))
    have probed := other_settles outcomes (.startProbe url) ⟨rfl, rfl⟩ (fun _ => trivial)
      ⟨(), rfl⟩ counted
    apply probed.bind
    rintro _ between ⟨counted, _⟩
    have trying : Trying outcomes 0 0 browser between :=
      ⟨counted, by simp, by simp, by omega, fun _ => rfl⟩
    apply (loadPage_settles callsign url decisive trying).bind
    rintro ⟨result, left⟩ last ends
    cases result with
    | answered sent =>
      obtain ⟨fetched, launched, fits, fits', replied⟩ := ends
      exact .ended (.done _) (answered (by omega) (by omega) replied)
    | page html =>
      obtain ⟨fetched, launched, fits, fits', counted⟩ := ends
      apply (sendPage_replies sha256 config callsign url ifNoneMatch html counted).bind
      intro sent final replied
      exact .ended (.done _) (answered (by omega) (by omega) replied)

end Rounds

section Endless

/-! Without a decisive round within the bound, the bound is exceeded. -/

variable {outcomes : Outcomes} {bound : Nat} (callsign : Text)

/-- A request with these outcomes. -/
def Outcomes.setting (outcomes : Outcomes) : Setting World Unit Answer where
  exec := exec
  meets := outcomes.Tells
  inv := fun _ => True

/-- More has been done than the bound allows. -/
def Exceeds (bound : Nat) (now : Moment) : Prop :=
  bound < fetchCount now.history ∨ bound < launchCount now.history

/-- Counts never fall. -/
theorem exceeds_cons {now later : Moment} {event : SessionEvent}
    (grown : later.history = event :: now.history) (exceeds : Exceeds bound now) :
    Exceeds bound later := by
  unfold Exceeds fetchCount launchCount at *
  rw [grown, List.countP_cons, List.countP_cons]
  omega

/-- What has exceeded the bound stays so. -/
theorem exceeds_stays {α : Type} (program : Routine α) :
    outcomes.setting.Triple () (Exceeds bound) program fun _ => Exceeds bound :=
  triple_only (stable_alone _) (only_any program) fun _ _ _ _ _ exceeds moves =>
    ⟨trivial, exceeds_cons moves.occurs.2 exceeds⟩

/-- A request that is still being tried, or has exceeded the bound. -/
def Trial (outcomes : Outcomes) (bound : Nat) :
    Option BrowserId ⊕ Fetched × Option BrowserId → Moment → Prop :=
  Sum.elim (fun browser now => ∃ fetched launched, Trying outcomes fetched launched browser now)
    fun _ => Exceeds bound

variable (endless : ∀ round < bound, ¬ outcomes.Decisive round)

include endless

/-- A browser that is started leads to a try. -/
theorem restartBrowser_endless (fetched launched : Nat) :
    outcomes.setting.Triple () (Restarting outcomes fetched launched) (restartBrowser callsign)
      (Trial outcomes bound) := by
  apply triple_bind fun (created : Answer (.newBrowser callsign)) =>
    outcome (fun browser => Trying outcomes fetched (launched + 1) (some browser))
      (fun _ => Exceeds bound) created.result
  · apply triple_ask (stable_alone _) (fun _ => stable_alone _)
    intro now created later restarting moves
    obtain ⟨told, counted⟩ := restarting.launches moves.occurs.2 moves.met
    constructor
    · trivial
    · cases result : created.result with
      | ok browser => exact restarting.retries (told.symm.trans result) counted
      | error err =>
        have decisive : outcomes.Decisive launched := Or.inl ⟨err, told.symm.trans result⟩
        apply Or.inr
        rw [counted.2]
        by_contra inside
        exact endless launched (by omega) decisive
  · intro created
    cases created.result with
    | ok browser => exact triple_done (stable_alone _) fun _ trying => ⟨_, _, trying⟩
    | error err =>
      apply triple_bind _ (exceeds_stays _)
      exact fun sent => triple_done (stable_alone _) fun _ => id

/-- A try may lead to any number of others. -/
theorem tryFetch_endless (url : Text) (browser : Option BrowserId) :
    outcomes.setting.Triple ()
      (fun now => ∃ fetched launched, Trying outcomes fetched launched browser now)
      (tryFetch callsign url browser) (Trial outcomes bound) := by
  rintro now ⟨fetched, launched, trying⟩
  cases browser with
  | none => exact restartBrowser_endless callsign endless fetched launched now trying.restarts
  | some browser =>
    have fetch : outcomes.setting.Triple () (Trying outcomes fetched launched (some browser))
        (ask (.fetchPage browser url)) fun answer now =>
          if answer.result = .error .browserCrashed then
            Restarting outcomes (fetched + 1) launched now
          else Exceeds bound now := by
      apply triple_ask (stable_alone _) (fun _ => stable_alone _)
      intro now answer later trying moves
      obtain ⟨told, counted⟩ := trying.fetches moves.occurs.2 moves.met
      constructor
      · trivial
      · split
        · rename_i crashed
          exact trying.crashes (told.symm.trans crashed) counted
        · rename_i survived
          have decisive : outcomes.Decisive fetched := Or.inr (told ▸ survived)
          apply Or.inl
          rw [counted.1]
          by_contra inside
          exact endless fetched (by omega) decisive
    have round : outcomes.setting.Triple () (Trying outcomes fetched launched (some browser))
        (tryFetch callsign url (some browser)) (Trial outcomes bound) := by
      apply triple_bind _ fetch
      intro answer
      cases answer.result with
      | ok html =>
        apply triple_done (stable_alone _)
        intro now exceeds
        show Exceeds bound now
        simpa using exceeds
      | error err =>
        have failing : err ≠ .browserCrashed → outcomes.setting.Triple () (Exceeds bound) (do
            logEntry ⟨callsign, url, .error, some err.display⟩
            let sent ← (sendErrorResponse "Failed to load page".toList).run
            return .inr (.answered sent, some browser)) (Trial outcomes bound) := by
          intro _
          apply triple_bind _ (exceeds_stays _)
          intro _
          apply triple_bind _ (exceeds_stays _)
          exact fun sent => triple_done (stable_alone _) fun _ exceeds => exceeds
        cases err with
        | browserCrashed => exact restartBrowser_endless callsign endless (fetched + 1) launched
        | launchFailed message => simpa using failing (by simp)
        | navigationFailed message => simpa using failing (by simp)
        | extractionFailed message => simpa using failing (by simp)
    exact round now trying

/-- Without a decisive round, the loop is not left before the bound is exceeded. -/
theorem loadPage_endless (url : Text) (browser : Option BrowserId) :
    outcomes.setting.Triple ()
      (fun now => ∃ fetched launched, Trying outcomes fetched launched browser now)
      (Program.loop (tryFetch callsign url) browser) fun _ => Exceeds bound :=
  triple_loop (fun browser now => ∃ fetched launched, Trying outcomes fetched launched browser now)
    (fun _ => stable_alone _) (fun _ => stable_alone _)
    (tryFetch_endless callsign endless url) browser

/-- An accepted request is not answered before the bound is exceeded. -/
theorem handleRequest_endless (sha256 : Bytes → Bytes) (config : Config)
    (browser : Option BrowserId) (url : Text) (ifNoneMatch : Option Text)
    (accepted : ¬ ∃ err, outcomes.verdict = .error err) :
    outcomes.setting.Triple () (Counted 0 0)
      (handleRequest sha256 config callsign browser url ifNoneMatch) fun _ => Exceeds bound := by
  apply triple_bind fun answer now => answer.result = outcomes.verdict ∧ Counted 0 0 now
  · apply triple_ask (stable_alone _) (fun _ => stable_alone _)
    intro now answer later counted moves
    exact ⟨trivial, moves.met, counted_other ⟨rfl, rfl⟩ moves.occurs.2 counted⟩
  · intro answer
    cases verdict : answer.result with
    | error err => exact fun _ told => absurd ⟨err, told.1.symm⟩ accepted
    | ok value =>
      apply triple_bind fun _ => Counted 0 0
      · apply triple_ask (stable_alone _) (fun _ => stable_alone _)
        intro now _ later counted moves
        exact ⟨trivial, counted_other ⟨rfl, rfl⟩ moves.occurs.2 counted.2⟩
      · intro _
        apply triple_bind fun _ => Exceeds bound
        · apply (loadPage_endless callsign endless url browser).consequence
          · exact fun _ counted => ⟨0, 0, counted, by simp, by simp, by omega, fun _ => rfl⟩
          · exact fun _ _ => id
        · rintro ⟨result, left⟩
          cases result with
          | answered sent => exact triple_done (stable_alone _) fun _ => id
          | page html =>
            apply triple_bind _ (exceeds_stays _)
            exact fun sent => triple_done (stable_alone _) fun _ => id

end Endless

section Termination

variable (sha256 : Bytes → Bytes) (config : Config) (callsign : Text) (browser : Option BrowserId)
variable (url : Text) (ifNoneMatch : Option Text) (world : World)

/-- Whatever else happens, the request is answered after so many fetches and so many starts
of a browser at most. -/
def Answers (outcomes : Outcomes) (bound : Nat) : Prop :=
  Settles exec outcomes.Tells (fun _ => AnsweredWithin bound)
    (handleRequest sha256 config callsign browser url ifNoneMatch) ⟨world, []⟩

/-- What is answered within a bound is decided within it. -/
theorem Answers.decided {outcomes : Outcomes} {bound : Nat}
    (answers : Answers sha256 config callsign browser url ifNoneMatch world outcomes bound) :
    (∃ err, outcomes.verdict = .error err) ∨ ∃ round < bound, outcomes.Decisive round := by
  by_contra undecided
  obtain ⟨accepted, undecided⟩ := not_or.mp undecided
  have endless : ∀ round < bound, ¬ outcomes.Decisive round :=
    fun round inside decisive => undecided ⟨round, inside, decisive⟩
  have safe := handleRequest_endless callsign endless sha256 config browser url ifNoneMatch
    accepted ⟨world, []⟩ ⟨rfl, rfl⟩
  obtain ⟨later, left, value, leads, ends, fetches, launches, _⟩ := answers.reached
  have exceeds : Exceeds bound later := (alone leads trivial safe).2.ends ends
  rcases exceeds with more | more <;> omega

/-- A request is answered within a bound exactly if its URL is rejected, or one of so many
rounds is decisive.

The rounds are followed one by one up to the first decisive one; without one, the browser may
crash once more each time. -/
theorem request_answered_iff (outcomes : Outcomes) (bound : Nat) :
    Answers sha256 config callsign browser url ifNoneMatch world outcomes bound ↔
      (∃ err, outcomes.verdict = .error err) ∨ ∃ round < bound, outcomes.Decisive round :=
  ⟨Answers.decided sha256 config callsign browser url ifNoneMatch world,
    handleRequest_answers callsign sha256 config browser url ifNoneMatch world⟩

/-- Every fetch of the page crashes its browser, and every browser starts. -/
def crashing : Outcomes where
  verdict := .ok ()
  launches := fun _ => .ok 0
  fetches := fun _ => .error .browserCrashed

/-- A page that crashes every browser is tried without bound. -/
theorem crashing_unbounded : ¬ ∃ bound, ∀ outcomes,
    Answers id sampleConfig "N0CALL".toList none "http://a.com/".toList none
      ⟨sampleReader, []⟩ outcomes bound := by
  rintro ⟨bound, answers⟩
  rcases (answers crashing).decided with ⟨err, rejected⟩ | ⟨round, _, ⟨err, failed⟩ | survived⟩
  · exact absurd rejected (by simp [crashing])
  · exact absurd failed (by simp [crashing])
  · exact survived rfl

end Termination

end PacketBrowser.Server
