import PacketBrowser.Browse.Renderable
import PacketBrowser.Browse.Visits

/-!
# The cache against the newest page

Once a reply has brought a page and it was shown, what is stored should be that page or a
newer one. A page that must not be stored is not written, though, and an older copy stays
where it is. A reload is not answered from that copy, but the next visit is. A page whose
transaction fails is not written either, and the copy that stays may still be fresh.

So the cache does not go back in time where a page that is not written finds no other copy.
-/

namespace PacketBrowser.Browse

open Protocol Foundation Program

/-- A reply has brought a page for the URL, and it was shown. -/
def Visit.renders (url : Text) (visit : Visit) : Prop :=
  visit.request.url = url ∧ visit.brought.isSome ∧ visit.page.failed = false

instance (url : Text) (visit : Visit) : Decidable (visit.renders url) :=
  inferInstanceAs (Decidable (_ ∧ _))

/-- The newest visit that rendered a page of the URL, and those after it. -/
def notOlder (url : Text) : List Visit → List Visit
  | [] => []
  | visit :: earlier =>
    if visit.renders url then [visit] else visit :: notOlder url earlier

/-- A page of the URL brought by a reply that is not older than the newest one rendered. -/
def Newest (url : Text) (visits : List Visit) (etag : Text) (body : Bytes) : Prop :=
  ∃ source ∈ notOlder url visits, source.request.url = url ∧
    ∃ header, source.brought = some (header, body) ∧ header.etag = etag

/-- What a GET shows without a page from the server, or tells the browser to show, is a page
not older than the newest one rendered. -/
def Current (libraries : Libraries) (visit : Visit) (earlier : List Visit) : Prop :=
  visit.request.postBody = none → visit.brought = none →
    (∀ etag, visit.page = .notModified etag →
      ∃ body, Newest visit.request.url earlier etag body) ∧
    ∀ rewritten url etag ttlSecs, visit.page = .browsePage rewritten url etag ttlSecs →
      url = visit.request.url ∧ ∃ body, Newest url earlier etag body ∧
        renderHtml libraries "Invalid UTF-8 in cached response".toList url body = .ok rewritten

/-- A page that can be shown, and must not be stored or is not stored because a statement
fails, finds no other page stored. -/
def LeavesNoOther (libraries : Libraries) (entries : Entries) (visit : Visit) : Prop :=
  ∀ header compressed, visit.brought = some (header, compressed) →
    header.maxAge < 0 ∨ visit.unwritten → Showable libraries visit.request.url compressed →
    ∀ row, entries.lookup visit.request.url = some row →
      row.etag = header.etag ∧ row.brotliBody = compressed

/-- Every row holds a page not older than the newest one rendered. -/
def HoldsNewest (visits : List Visit) (entries : Entries) : Prop :=
  ∀ url row, entries.lookup url = some row → Newest url visits row.etag row.brotliBody

section Proof

variable {ctx : AppContext} {cache : Cache} {visits earlier : List Visit} {visit : Visit}
variable {entries after : Entries} {url etag : Text} {body : Bytes}

/-- The page a visit has just brought. -/
theorem newest_brought {header : Header} (brought : visit.brought = some (header, body)) :
    Newest visit.request.url (visit :: earlier) header.etag body := by
  refine ⟨visit, ?_, rfl, header, brought, rfl⟩
  unfold notOlder
  split <;> exact List.mem_cons_self ..

/-- A visit that renders no page of the URL makes none of its pages old. -/
theorem Newest.later (newest : Newest url earlier etag body) (unrendered : ¬ visit.renders url) :
    Newest url (visit :: earlier) etag body := by
  obtain ⟨source, member, own, brought⟩ := newest
  refine ⟨source, ?_, own, brought⟩
  rw [notOlder, if_neg unrendered]
  exact List.mem_cons_of_mem _ member

/-- A page that is rendered is the only one stored for its URL, if one is. -/
theorem Course.rendered (course : Course ctx cache entries visit after)
    (leaves : LeavesNoOther ctx.libraries entries visit) (renders : visit.renders url)
    {row : CacheRow} (stored : after.lookup url = some row) :
    ∃ header, visit.brought = some (header, row.brotliBody) ∧ row.etag = header.etag := by
  obtain ⟨rfl, some, shown⟩ := renders
  obtain ⟨⟨header, compressed⟩, brought⟩ := Option.isSome_iff_exists.mp some
  obtain ⟨page, ⟨unstored, rfl⟩ | ⟨now, queries, rfl⟩⟩ := course.brings brought
  · have showable : Showable ctx.libraries visit.request.url compressed :=
      showable_of_freshPage (by rw [← page]; exact shown)
    obtain ⟨same, body⟩ := leaves header compressed brought unstored showable row stored
    exact ⟨header, by rw [body]; exact brought, same⟩
  · simp only [Cache.lookup_write, if_true] at stored
    obtain rfl := Option.some.inj stored
    exact ⟨header, brought, rfl⟩

/-- A visit keeps the rows not older than the newest page rendered. -/
theorem HoldsNewest.kept (holds : HoldsNewest earlier entries)
    (course : Course ctx cache entries visit after)
    (leaves : LeavesNoOther ctx.libraries entries visit) :
    HoldsNewest (visit :: earlier) after := by
  intro url row stored
  by_cases renders : visit.renders url
  · obtain ⟨header, brought, same⟩ := course.rendered leaves renders stored
    rw [same, ← renders.1]
    exact newest_brought brought
  · rcases course.row stored with
      ⟨rfl, header, compressed, now, brought, _, rfl⟩ | ⟨old, found, alike, _⟩
    · exact newest_brought brought
    · rw [alike.1, alike.2.1]
      exact (holds url old found).later renders

/-- What is served from rows not older than the newest page is not older either. -/
theorem HoldsNewest.current (holds : HoldsNewest earlier entries)
    (course : Course ctx cache entries visit after) : Current ctx.libraries visit earlier := by
  intro get unbrought
  have source : visit.page.failed = false → visit.page ≠ .redirectToConnect →
      ∃ hit : Hit, Newest visit.request.url earlier hit.etag hit.brotliBody ∧
        (visit.page = .notModified hit.etag ∨ ∃ fetchedAt later, visit.page =
          storedPage ctx.libraries visit.request.url { hit with fetchedAt := fetchedAt } later) := by
    intro shown unredirected
    obtain ⟨hit, found, page⟩ := (course.served get unbrought shown).resolve_left unredirected
    obtain ⟨row, stored, rfl⟩ := Option.map_eq_some_iff.mp found
    exact ⟨row.hit, holds _ row stored, page⟩
  constructor
  · intro etag told
    obtain ⟨hit, newest, page⟩ := source (by rw [told]; rfl) (by simp [told])
    rcases page with page | ⟨fetchedAt, later, page⟩
    · obtain rfl := Page.notModified.inj (told.symm.trans page)
      exact ⟨hit.brotliBody, newest⟩
    · have impossible := told.symm.trans page
      unfold storedPage at impossible
      split at impossible <;> exact absurd impossible (by simp)
  · intro rewritten url etag ttlSecs told
    obtain ⟨hit, newest, page⟩ := source (by rw [told]; rfl) (by simp [told])
    rcases page with page | ⟨fetchedAt, later, page⟩
    · exact absurd (told.symm.trans page) (by simp)
    · have same := told.symm.trans page
      unfold storedPage at same
      split at same
      · exact absurd same (by simp)
      · rename_i shown rendered
        obtain ⟨rfl, rfl, rfl, _⟩ := Page.browsePage.inj same
        exact ⟨rfl, hit.brotliBody, newest, rendered⟩

end Proof

/-- Where a page that is not stored leaves no other copy, nothing older than the newest page
rendered is served from the cache.

By induction on the visits: each row holds a page not older than the newest one rendered for its
URL. Only a reply that is not stored could break this, and it meets no other row. -/
theorem never_older {ctx : AppContext} {cache : Cache} (enabled : ctx.cache = some cache)
    {visits : List Visit} {entries : Entries}
    (run : Visits ctx cache (LeavesNoOther ctx.libraries) visits entries) :
    ∀ visit earlier, visits = visit :: earlier → Current ctx.libraries visit earlier := by
  have holds : ∀ {visits : List Visit} {entries : Entries},
      Visits ctx cache (LeavesNoOther ctx.libraries) visits entries →
      HoldsNewest visits entries := by
    intro visits entries run
    induction run with
    | start => exact fun url row stored => absurd stored (by simp)
    | visit before browses met inductionHypothesis =>
      exact inductionHypothesis.kept (browse_course enabled browses) met
  rintro visit earlier rfl
  cases run with
  | visit before browses met => exact (holds before).current (browse_course enabled browses)

section Samples

/-- A page that is not stored leaves none of its URL behind, as a check. -/
def leavesNoOther (entries : Entries) (visit : Visit) : Bool :=
  visit.brought.all fun page =>
    !(decide (page.1.maxAge < 0) || visit.unwritten) || (entries.lookup visit.request.url).isNone

/-- The check says that no other page is left. -/
theorem leavesNoOther_of_check {libraries : Libraries} {entries : Entries} {visit : Visit}
    (checked : leavesNoOther entries visit = true) : LeavesNoOther libraries entries visit := by
  intro header compressed brought unstored _ row stored
  simp only [leavesNoOther, brought, stored, Option.all_some, Option.isNone_some, Bool.or_false,
    Bool.not_eq_true', Bool.or_eq_false_iff, decide_eq_false_iff_not] at checked
  rcases unstored with negative | unwritten
  · exact absurd negative checked.1
  · exact absurd unwritten (by simp [checked.2])

/-- A page that must not be stored, then one that is stored and served ten seconds after. -/
def replacedVisits : List Visit :=
  [servesFresh 'B' 60 0 10, fetchesAgain 'B' 60 0, fetchesAgain 'A' (-1) 0]

/-- A page is stored, a reload brings one that must not be, and ten seconds after the first
one is served. -/
def outlivedVisits : List Visit :=
  [servesFresh 'A' 60 0 10, fetchesAgain 'B' (-1) 0, fetchesFirst 'A' 60]

end Samples

/-- A reload replaces what is stored, and the new page is served. -/
theorem never_older_sample : ∃ entries visit earlier, Visits sampleContext sampleCache
      (LeavesNoOther sampleContext.libraries) (visit :: earlier) entries ∧
    visit.sent = none ∧ visit.page = .browsePage ['B'] sampleUrl (sampleEtag 'B') 50 ∧
    Current sampleContext.libraries visit earlier := by
  obtain ⟨entries, enacted⟩ : ∃ entries, enactVisits sampleContext sampleCache leavesNoOther
      replacedVisits = some entries := Option.isSome_iff_exists.mp (by decide +kernel)
  have run : Visits sampleContext sampleCache (LeavesNoOther sampleContext.libraries)
      replacedVisits entries :=
    enactVisits_visits (fun _ _ => leavesNoOther_of_check) enacted
  exact ⟨entries, _, _, run, by decide, by decide, never_older rfl run _ _ rfl⟩

/-- The page of the reload must not be stored, and the one before it is served again. -/
theorem older_served : ¬ ∀ visits entries,
    Visits sampleContext sampleCache (fun _ _ => True) visits entries →
      ∀ visit earlier, visits = visit :: earlier →
        Current sampleContext.libraries visit earlier := by
  intro every
  obtain ⟨entries, enacted⟩ : ∃ entries, enactVisits sampleContext sampleCache
      (fun _ _ => true) outlivedVisits = some entries :=
    Option.isSome_iff_exists.mp (by decide +kernel)
  have run : Visits sampleContext sampleCache (fun _ _ => True) outlivedVisits entries :=
    enactVisits_visits (fun _ _ _ => trivial) enacted
  obtain ⟨_, shows⟩ := every _ _ run _ _ rfl rfl rfl
  obtain ⟨_, _, ⟨source, member, _, header, brought, etag⟩, _⟩ := shows _ _ _ _ rfl
  have reload : source = fetchesAgain 'B' (-1) 0 := by
    rw [notOlder, if_pos ⟨rfl, by decide, rfl⟩] at member
    exact List.mem_singleton.mp member
  have bringsB : (fetchesAgain 'B' (-1) 0).brought = some (⟨.ok, 4, sampleEtag 'B', -1, 28⟩, [66]) := by
    decide
  rw [reload, bringsB] at brought
  obtain ⟨rfl, _⟩ := Prod.mk.inj (Option.some.inj brought)
  exact absurd etag (by decide)

end PacketBrowser.Browse
