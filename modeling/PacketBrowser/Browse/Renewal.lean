import PacketBrowser.Browse.Visits

/-!
# How long a confirmed page is served

A page is served without asking while it is younger than the lifetime stored with it. A
reply that confirms it carries a lifetime of its own, the one the server grants now; the
touch that follows makes the page young again and keeps the stored lifetime.

So a confirmed page is served no longer than granted where the stored lifetime is not
longer than the one confirmed.
-/

namespace PacketBrowser.Browse

open Protocol Foundation Program

/-- The latest visit of the URL that received a reply. -/
def latestReply (url : Text) : List Visit → Option Visit
  | [] => none
  | visit :: earlier =>
    if visit.request.url = url ∧ (visit.reply.bind opened).isSome then some visit
    else latestReply url earlier

/-- A page is served without asking the server only within the lifetime, counted from the
confirmation, that the latest reply granted if it was a confirmation. -/
def Granted (cache : Cache) (visit : Visit) (earlier : List Visit) : Prop :=
  visit.sent = none → visit.page ≠ .redirectToConnect →
    ∃ now, firstReading visit.events = some now ∧ ∀ renewal header received,
      latestReply visit.request.url earlier = some renewal → renewal.confirmed = some header →
      renewal.receivedAt = some received → 0 < header.maxAge ∧
        now - received < min header.maxAge.toInt cache.maxTtl * nanosPerSec

/-- The server confirms only what it was asked about. -/
def Honest (visit : Visit) : Prop := ∀ header, visit.confirmed = some header →
  visit.sent = some (.get visit.request.url (some header.etag))

/-- When a confirmation is received, the clock has reached the epoch, and the lifetime
stored is not longer than the one that is granted. -/
def RenewsWithin (cache : Cache) (entries : Entries) (visit : Visit) : Prop :=
  ∀ header received, visit.confirmed = some header → visit.receivedAt = some received →
    0 ≤ received ∧ ∀ row, entries.lookup visit.request.url = some row →
      row.maxAge ≤ cache.capped header.maxAge

/-- Where the latest reply was a confirmation, the row counts from it, and its lifetime is
not longer than granted. -/
def Renewed (cache : Cache) (visits : List Visit) (entries : Entries) : Prop :=
  ∀ url renewal header received, latestReply url visits = some renewal →
    renewal.confirmed = some header → renewal.receivedAt = some received →
    0 ≤ received ∧ ∀ row, entries.lookup url = some row →
      row.fetchedAt = unixSecs received ∧ row.maxAge ≤ cache.capped header.maxAge

section Proof

variable {ctx : AppContext} {cache : Cache} {visits earlier : List Visit}
variable {entries after : Entries} {visit : Visit}

/-- A confirmed visit of its own URL comes from a touch. -/
theorem Course.renews (course : Course ctx cache entries visit after) (honest : Honest visit)
    {header : Header} (confirmed : visit.confirmed = some header) :
    ∃ received, visit.receivedAt = some received ∧
      after = touchFresh entries visit.request.url received := by
  cases course with
  | redirected silent page =>
    exact absurd confirmed (by simp [Visit.confirmed, Visit.reply, silent])
  | fresh silent get found first fresh page =>
    exact absurd confirmed (by simp [Visit.confirmed, Visit.reply, silent])
  | @confirmed _ _ _ _ now later asked get confirms found current touched page =>
    exact ⟨now, by simp [Visit.receivedAt, asked, touched], rfl⟩
  | dropped asked accepts dropped page =>
    exact absurd confirmed (by simp [Visit.confirmed, Visit.reply, asked, accepted_unconfirmed accepts])
  | stored asked get accepts kept page =>
    exact absurd confirmed (by simp [Visit.confirmed, Visit.reply, asked, accepted_unconfirmed accepts])
  | other asked accepts unconfirmed page =>
    have confirms := confirmed
    simp only [Visit.confirmed, Visit.reply, asked, Option.map_some, Option.bind_some] at confirms
    have sent := honest header confirmed
    simp only [Visit.sent, asked, Option.map_some, Option.some.injEq] at sent
    exact absurd (by rw [sent]; rfl) (unconfirmed header confirms)

/-- A visit that is honest and renews within bounds keeps the renewals. -/
theorem Renewed.kept (renewed : Renewed cache earlier entries)
    (course : Course ctx cache entries visit after) (honest : Honest visit)
    (within : RenewsWithin cache entries visit) : Renewed cache (visit :: earlier) after := by
  intro url renewal header received latest confirmed at'
  unfold latestReply at latest
  split at latest
  · rename_i own
    obtain ⟨rfl, _⟩ := own
    obtain rfl := Option.some.inj latest
    obtain ⟨reached, shorter⟩ := within header received confirmed at'
    refine ⟨reached, ?_⟩
    intro row stored
    obtain ⟨now, touched, rfl⟩ := course.renews honest confirmed
    obtain rfl := Option.some.inj (touched.symm.trans at')
    simp only [touchFresh, lookup_update, if_true] at stored
    obtain ⟨old, found, rfl⟩ := Option.map_eq_some_iff.mp stored
    exact ⟨rfl, shorter old found⟩
  · rename_i unanswered
    obtain ⟨reached, rows⟩ := renewed url renewal header received latest confirmed at'
    refine ⟨reached, ?_⟩
    intro row stored
    rcases course.row stored with
      ⟨rfl, page, body, now, brought, _⟩ | ⟨old, found, alike, fetched⟩
    · exact absurd ⟨rfl, Visit.brought_opened brought⟩ unanswered
    · obtain ⟨young, short⟩ := rows old found
      rw [alike.2.2]
      rcases fetched with same | ⟨rfl, confirms, _⟩
      · exact ⟨same.trans young, short⟩
      · exact absurd ⟨rfl, Visit.confirmed_opened confirms⟩ unanswered

/-- Whole seconds are not later than the reading they are taken from. -/
theorem unixSecs_le {now : Int} (reached : 0 ≤ now) :
    (unixSecs now : Int) * nanosPerSec ≤ now := by
  simp only [unixSecs, nanosPerSec]
  omega

/-- What is fresh was fetched less than its lifetime ago. -/
theorem Hit.isFresh_iff (hit : Hit) (now : Int) : hit.isFresh now = true ↔
    (hit.fetchedAt : Int) * nanosPerSec ≤ now ∧
      now - hit.fetchedAt * nanosPerSec < hit.maxAge * nanosPerSec := by
  simp only [Hit.isFresh, Bool.and_eq_true, decide_eq_true_eq]
  exact and_congr_left' Int.sub_nonneg

/-- A row that counts from a confirmation and is still fresh. -/
theorem fresh_granted {row : CacheRow} {now received : Int} {maxAge : Int32}
    (reached : 0 ≤ received) (young : row.fetchedAt = unixSecs received)
    (short : row.maxAge ≤ cache.capped maxAge) (fresh : row.hit.isFresh now = true) :
    0 < maxAge ∧ now - received < min maxAge.toInt cache.maxTtl * nanosPerSec := by
  obtain ⟨later, within⟩ := (Hit.isFresh_iff _ _).mp fresh
  have early := unixSecs_le reached
  simp only [CacheRow.hit, young] at later within
  have spent : now - received < row.maxAge * nanosPerSec := by omega
  have some : 0 < row.maxAge := by
    rcases Nat.eq_zero_or_pos row.maxAge with zero | positive
    · rw [zero] at within
      omega
    · exact positive
  unfold Cache.capped at short
  have positive : 0 < maxAge.toInt := by omega
  constructor
  · exact Int32.lt_iff_toInt_lt.mpr positive
  · have capped : (row.maxAge : Int) ≤ min maxAge.toInt cache.maxTtl := by omega
    calc now - received < row.maxAge * nanosPerSec := spent
      _ ≤ min maxAge.toInt cache.maxTtl * nanosPerSec :=
        Int.mul_le_mul_of_nonneg_right capped (by decide)

/-- The time a page is given by a visit was granted by the server. -/
theorem Renewed.granted (renewed : Renewed cache earlier entries)
    (course : Course ctx cache entries visit after) : Granted cache visit earlier := by
  intro silent served
  cases course with
  | redirected _ page => exact absurd page served
  | @fresh hit now used _ get found first fresh page =>
    refine ⟨now, first, ?_⟩
    intro renewal header received latest confirmed at'
    obtain ⟨reached, rows⟩ := renewed _ renewal header received latest confirmed at'
    obtain ⟨row, stored, rfl⟩ := Option.map_eq_some_iff.mp found
    obtain ⟨young, short⟩ := rows row stored
    exact fresh_granted reached young short fresh
  | confirmed asked => exact absurd silent (by simp [Visit.sent, asked])
  | dropped asked => exact absurd silent (by simp [Visit.sent, asked])
  | stored asked => exact absurd silent (by simp [Visit.sent, asked])
  | other asked => exact absurd silent (by simp [Visit.sent, asked])

end Proof

/-- Where no confirmation grants less than the lifetime stored, a confirmed page is served
without asking only as long as the confirmation grants.

By induction on the visits: a stored lifetime is not longer than the last grant, and a visit
that confirms a page renews it within that. -/
theorem renewal_granted {ctx : AppContext} {cache : Cache} (enabled : ctx.cache = some cache)
    {visits : List Visit} {entries : Entries} (run : Visits ctx cache
      (fun entries visit => Honest visit ∧ RenewsWithin cache entries visit) visits entries) :
    ∀ visit earlier, visits = visit :: earlier → Granted cache visit earlier := by
  have renewed : ∀ {visits : List Visit} {entries : Entries}, Visits ctx cache
      (fun entries visit => Honest visit ∧ RenewsWithin cache entries visit) visits entries →
      Renewed cache visits entries := by
    intro visits entries run
    induction run with
    | start => exact fun url renewal header received latest => absurd latest (by simp [latestReply])
    | visit before browses met inductionHypothesis =>
      exact inductionHypothesis.kept (browse_course enabled browses) met.1 met.2
  rintro visit earlier rfl
  cases run with
  | visit before browses met => exact (renewed before).granted (browse_course enabled browses)

/-- The page was stored for sixty seconds, and after a hundred it is confirmed with some
lifetime. -/
def confirmsAt100 (granted : Int32) : Visit :=
  sampleVisit false [⟨.lookup sampleUrl, some (sampleStored 'A' 60 0).hit⟩,
    ⟨.systemTime, 100 * nanosPerSec⟩, ⟨.lookup sampleUrl, some (sampleStored 'A' 60 0).hit⟩,
    ⟨.exchange (.get sampleUrl (some (sampleEtag 'A'))), sampleResponse .notModified 'A' granted⟩,
    ⟨.systemTime, 100 * nanosPerSec⟩,
    ⟨.touchFresh sampleUrl (100 * nanosPerSec), some (sampleEtag 'A')⟩,
    ⟨.lookup sampleUrl, some (sampleStored 'A' 60 100).hit⟩, ⟨.systemTime, 100 * nanosPerSec⟩]
    'A' 60

/-- Ten seconds later the page is served without asking. -/
def confirmedVisits (granted : Int32) : List Visit :=
  [servesFresh 'A' 60 100 110, confirmsAt100 granted, fetchesFirst 'A' 60]

/-- A confirmation answers the question about the ETag that was sent, as a check. -/
def honest (visit : Visit) : Bool := visit.confirmed.all fun header =>
  visit.sent == some (.get visit.request.url (some header.etag))

/-- A confirmation renews a row for no longer than the server grants, as a check. -/
def renewsWithin (cache : Cache) (entries : Entries) (visit : Visit) : Bool :=
  visit.confirmed.all fun header => visit.receivedAt.all fun received =>
    decide (0 ≤ received) && (entries.lookup visit.request.url).all fun row =>
      decide (row.maxAge ≤ cache.capped header.maxAge)

/-- The check says that the visit is honest. -/
theorem honest_of_check {visit : Visit} (checked : honest visit = true) : Honest visit := by
  intro header confirmed
  simpa [honest, confirmed] using checked

/-- The check says that the visit renews within bounds. -/
theorem renewsWithin_of_check {cache : Cache} {entries : Entries} {visit : Visit}
    (checked : renewsWithin cache entries visit = true) : RenewsWithin cache entries visit := by
  intro header received confirmed at'
  simp only [renewsWithin, confirmed, at', Option.all_some, Bool.and_eq_true,
    decide_eq_true_eq] at checked
  refine ⟨checked.1, ?_⟩
  intro row stored
  simpa [stored] using checked.2

/-- The lifetime is confirmed as it is stored. -/
theorem renewal_granted_sample : ∃ entries visit earlier, Visits sampleContext sampleCache
      (fun entries visit => Honest visit ∧ RenewsWithin sampleCache entries visit)
      (visit :: earlier) entries ∧
    visit.sent = none ∧ (earlier.head?.bind Visit.confirmed).isSome ∧
    Granted sampleCache visit earlier := by
  obtain ⟨entries, enacted⟩ : ∃ entries, enactVisits sampleContext sampleCache
      (fun entries visit => honest visit && renewsWithin sampleCache entries visit)
      (confirmedVisits 60) = some entries := Option.isSome_iff_exists.mp (by decide +kernel)
  have run : Visits sampleContext sampleCache
      (fun entries visit => Honest visit ∧ RenewsWithin sampleCache entries visit)
      (confirmedVisits 60) entries := by
    apply enactVisits_visits _ enacted
    intro entries visit checked
    obtain ⟨asked, within⟩ := Bool.and_eq_true_iff.mp checked
    exact ⟨honest_of_check asked, renewsWithin_of_check within⟩
  exact ⟨entries, _, _, run, by decide, by decide,
    renewal_granted rfl run _ _ rfl⟩

/-- The page must no longer be stored, says the confirmation, and is served all the same. -/
theorem renewal_exceeded : ¬ ∀ visits entries,
    Visits sampleContext sampleCache (fun _ visit => Honest visit) visits entries →
      ∀ visit earlier, visits = visit :: earlier → Granted sampleCache visit earlier := by
  intro every
  obtain ⟨entries, enacted⟩ : ∃ entries, enactVisits sampleContext sampleCache
      (fun _ visit => honest visit) (confirmedVisits (-1)) = some entries :=
    Option.isSome_iff_exists.mp (by decide +kernel)
  have run : Visits sampleContext sampleCache (fun _ visit => Honest visit)
      (confirmedVisits (-1)) entries :=
    enactVisits_visits (fun _ _ => honest_of_check) enacted
  obtain ⟨now, _, within⟩ := every _ _ run _ _ rfl (by decide) (by decide)
  have granted := within (confirmsAt100 (-1)) ⟨.notModified, 0, sampleEtag 'A', -1, 28⟩
    (100 * nanosPerSec) (if_pos ⟨rfl, by decide⟩) (by decide) (by decide)
  exact absurd granted.1 (by decide)

end PacketBrowser.Browse
