import PacketBrowser.Browse.Renderable
import PacketBrowser.Browse.Visits
import PacketBrowser.Client.Reassembly
import PacketBrowser.Server.Rounds
import PacketBrowser.Server.Stream

/-!
# From the etag of a page to its confirmation

A page that a round of the server sends is stored with its etag. When the page is asked for
again, the etag travels back on the request line, and the round that reads the request
compares it with the etag of the page it has loaded. If they are equal, the client shows the
page that was stored.

The hash behind the etag, the compressor and the decompressor are parameters.
-/

namespace PacketBrowser.Browse

open Protocol Foundation Program

/-- What was written has arrived, behind noise that begins no frame, and can be opened. -/
def Delivers (written : List Bytes) (reply : Client.Reply) : Prop :=
  ∃ data noise tail, reply = .ok data ∧ ¬ Response.magic <:+: noise ∧
    data <+: noise ++ written.flatten ++ tail ∧ (opened reply).isSome

/-- Whatever was compressed can be decompressed again. -/
def RoundTrips (decompressor : Decompressor) (events : List (Sigma Server.Answer)) : Prop :=
  ∀ data quality answer compressed, ⟨.compress data quality, answer⟩ ∈ events →
    answer.result = some compressed → brotliDecompress decompressor compressed = .ok data

section Fetch

variable {sha256 : Bytes → Bytes} {config : Server.Config}

/-- A visit fetches the page of a round, and stores it: the page may be stored, and the
transaction is committed. -/
structure Fetches (round : Server.Round sha256 config) (url : Text) (visit : Visit) : Prop where
  own : visit.request.url = url
  delivered : ∃ reply, visit.reply = some reply ∧ Delivers (Server.offered round.events) reply
  stored : ∃ page, visit.brought = some page ∧ ¬ page.1.maxAge < 0
  committed : visit.unwritten = false

/-- A visit, though a page is stored, sends a request. -/
structure Revalidates (entries : Entries) (url : Text) (request : Request) (visit : Visit) :
    Prop where
  own : visit.request.url = url
  get : visit.request.postBody = none
  normal : visit.request.nocache = false
  stored : (lookup entries url).isSome
  sent : visit.sent = some request

/-- A round finds the request on its connection, and nothing keeps it from reading on. -/
def Receives (round : Server.Round sha256 config) (request : Request) : Prop :=
  Server.Undisturbed round.deadline round.world.reader ∧
    ∃ rest, round.world.reader.pending = request.encode ++ rest

end Fetch

/-- No other page of the URL is stored. -/
def Keeps (url : Text) (visit : Visit) : Prop :=
  visit.request.url = url → ∀ page, visit.brought = some page → page.1.maxAge < 0

/-- The row of the URL, if there is one, holds this page. -/
def Holds (url etag : Text) (body : Bytes) (entries : Entries) : Prop :=
  ∀ row, entries.lookup url = some row → row.etag = etag ∧ row.brotliBody = body

section Proof

variable {ctx : AppContext} {cache : Cache} {entries after : Entries} {visit : Visit}
variable {url etag : Text} {body : Bytes}

/-- A response that is delivered is opened as what it is. -/
theorem delivers_opened {response : Response} (named : response.Named) {reply : Client.Reply}
    (delivers : Delivers [response.encode] reply) : ∃ headerEnd, opened reply =
      some (response.headerAt headerEnd, Base64.encode response.payload) := by
  obtain ⟨data, noise, tail, rfl, absent, inside, some⟩ := delivers
  rw [List.flatten_singleton] at inside
  obtain ⟨⟨header, base64Bytes⟩, read⟩ := Option.isSome_iff_exists.mp some
  have openedData : Client.openResponse data = .ok (header, base64Bytes) := by
    simp only [opened] at read
    cases known : Client.openResponse data with
    | error message => exact absurd read (by simp [known, Except.toOption])
    | ok found =>
      rw [known] at read
      rw [Option.some.inj read]
  obtain ⟨rfl, rfl⟩ := Client.opened_frame named absent inside openedData
  exact ⟨_, read⟩

/-- A page that is accepted was sent as one. -/
theorem delivers_accepted {response : Response} (named : response.Named) {reply : Client.Reply}
    (delivers : Delivers [response.encode] reply) {header : Header}
    (accepts : acceptedPage reply = some (header, body)) :
    response.status = .ok ∧ header.etag = response.etag ∧ body = response.payload := by
  obtain ⟨headerEnd, read⟩ := delivers_opened named delivers
  simp only [acceptedPage, read] at accepts
  split at accepts
  · rename_i ok
    rw [decodePayload_encode] at accepts
    obtain ⟨rfl, rfl⟩ := Prod.mk.inj (Option.some.inj accepts)
    exact ⟨ok, rfl, rfl⟩
  · exact absurd accepts (by simp)

/-- What says that a page has not changed is read as that. -/
theorem delivers_confirmed {response : Response} (named : response.Named) {reply : Client.Reply}
    (delivers : Delivers [response.encode] reply) (unchanged : response.status = .notModified) :
    ∃ header, confirmation reply = some header ∧ header.etag = response.etag := by
  obtain ⟨headerEnd, read⟩ := delivers_opened named delivers
  refine ⟨response.headerAt headerEnd, ?_, rfl⟩
  simp only [confirmation, read]
  exact if_pos unchanged

/-- A page that is stored is the row of its URL. -/
theorem Course.holds (course : Course ctx cache entries visit after) {header : Header}
    (brought : visit.brought = some (header, body)) (kept : ¬ header.maxAge < 0)
    (committed : visit.unwritten = false) : Holds visit.request.url header.etag body after := by
  intro row stored
  obtain ⟨_, ⟨unstored, _⟩ | ⟨now, queries, rfl⟩⟩ := course.brings brought
  · exact absurd unstored (by simp [kept, committed])
  · simp only [Cache.lookup_write, if_true] at stored
    obtain rfl := Option.some.inj stored
    exact ⟨rfl, rfl⟩

/-- It stays there until another page of the URL is stored. -/
theorem Holds.kept (holds : Holds url etag body entries)
    (course : Course ctx cache entries visit after) (keeps : Keeps url visit) :
    Holds url etag body after := by
  intro row stored
  rcases course.row stored with
    ⟨rfl, header, compressed, now, brought, kept, _⟩ | ⟨old, found, alike, _⟩
  · exact absurd (keeps rfl _ brought) kept
  · rw [alike.1, alike.2.1]
    exact holds old found

/-- A page that was brought is still held as long as the visits behind it keep it. -/
theorem holds_visits (enabled : ctx.cache = some cache) {between earlier : List Visit} {fetched : Visit}
    (run : Visits ctx cache (fun _ _ => True) (between ++ fetched :: earlier) entries)
    (keeps : ∀ visit ∈ between, Keeps fetched.request.url visit) {header : Header}
    (brought : fetched.brought = some (header, body)) (kept : ¬ header.maxAge < 0)
    (committed : fetched.unwritten = false) :
    Holds fetched.request.url header.etag body entries := by
  induction between generalizing entries with
  | nil =>
    cases run with
    | visit before browses met => exact (browse_course enabled browses).holds brought kept committed
  | cons visit between inductionHypothesis =>
    cases run with
    | visit before browses met =>
      have earlier := inductionHypothesis before fun other member =>
        keeps other (List.mem_cons_of_mem _ member)
      exact earlier.kept (browse_course enabled browses) (keeps visit (List.mem_cons_self ..))

/-- A page that a visit has fetched from a round has the etag of the page that was loaded, and
the body that was compressed. -/
theorem fetched_page {sha256 : Bytes → Bytes} {config : Server.Config}
    (digest : ∀ data, (sha256 data).length = 32) {round : Server.Round sha256 config} {html : Text}
    (loaded : Server.loaded round.events = some html) (fetches : Fetches round url visit) :
    ∃ header body, visit.brought = some (header, body) ∧ ¬ header.maxAge < 0 ∧
      header.etag = Server.sanitizedHtmlEtag sha256 html ∧
      ∀ decompressor, RoundTrips decompressor round.events →
        brotliDecompress decompressor body = .ok (Utf8.encode html) := by
  obtain ⟨reply, received, delivers⟩ := fetches.delivered
  obtain ⟨⟨header, body⟩, brought, kept⟩ := fetches.stored
  obtain ⟨_, _, _, response, written, responds⟩ := Server.serveNext_responds digest round.returns loaded
  rw [written] at delivers
  have accepts : acceptedPage reply = some (header, body) := by
    unfold Visit.brought at brought
    split at brought
    · exact absurd brought (by simp)
    · rwa [received, Option.bind_some] at brought
  obtain ⟨ok, etag, rfl⟩ := delivers_accepted responds.named delivers accepts
  refine ⟨header, response.payload, brought, kept, etag.trans (responds.etag (Or.inr ok)), ?_⟩
  intro decompressor roundTrips
  obtain ⟨answer, member, result⟩ := responds.compressed ok
  exact roundTrips _ _ answer _ member result

/-- A round that receives a conditional request with the etag of a page reads just that. -/
theorem receives_requested {sha256 : Bytes → Bytes} {config : Server.Config}
    {round : Server.Round sha256 config} {request : Request} (readable : Server.Readable request)
    (receives : Receives round request) : Server.requested round.events = some request := by
  obtain ⟨calm, rest, sent⟩ := receives
  obtain ⟨later, read, _⟩ := Server.readRequest_next calm readable sent
  exact round.reads read

/-- A stored body that decompresses to the bytes of a page is rendered as that page. -/
theorem storedPage_text {libraries : Libraries} (hit : Hit) {html : Text}
    (output : brotliDecompress libraries.decompressor hit.brotliBody = .ok (Utf8.encode html))
    {rewritten : Text} (rewrites : libraries.rewriteHtml html url = .ok rewritten)
    (now : SystemTime) : storedPage libraries url hit now =
      .browsePage rewritten url hit.etag (hit.remainingSecs now) := by
  have text : bodyText libraries hit.brotliBody = some html := by
    simp [bodyText, output, Except.toOption, Utf8.decode_encode]
  have rendered : renderHtml libraries "Invalid UTF-8 in cached response".toList url hit.brotliBody =
      .ok rewritten := by
    rw [renderHtml, decodeHtml_text text]
    show rewritePage libraries url html = _
    rw [rewritePage, rewrites]
  rw [storedPage, rendered]

end Proof

/-- The etag of a page that was sent and stored is what the server reads when the page is asked
for again. The server answers that the page has not changed exactly if the page it has loaded
now has the same etag, and then the client shows the page that was stored.

The reply that was stored has the etag and the page of the first round, and the visits in
between keep the row. The request that is made of it is readable, so the second round answers
it; the status follows from comparing the two etags. -/
theorem conditional_get_closes {ctx : AppContext} {cache : Cache} (enabled : ctx.cache = some cache)
    {sha256 : Bytes → Bytes} {config : Server.Config} (digest : ∀ data, (sha256 data).length = 32)
    {url html : Text} (solid : ∀ c ∈ url, Text.whitespace c = false)
    (short : Utf8.byteLength (Server.firstLine
      (.get url (some (Server.sanitizedHtmlEtag sha256 html)))) ≤ Server.maxLineLength)
    {first : Server.Round sha256 config} (loaded : Server.loaded first.events = some html)
    {earlier between : List Visit} {fetched : Visit} (fetches : Fetches first url fetched)
    (keeps : ∀ visit ∈ between, Keeps url visit) {entries : Entries}
    (run : Visits ctx cache (fun _ _ => True) (between ++ fetched :: earlier) entries)
    {visit : Visit} {request : Request} (revalidates : Revalidates entries url request visit)
    {after : Entries} (browses : Browses ctx cache entries visit after) :
    request = .get url (some (Server.sanitizedHtmlEtag sha256 html)) ∧
    ∀ second : Server.Round sha256 config, Receives second request →
      Server.requested second.events =
        some (.get url (some (Server.sanitizedHtmlEtag sha256 html))) ∧
      ∀ now, Server.loaded second.events = some now →
        (∃ response : Response, Server.offered second.events = [response.encode] ∧
          (response.status = .notModified ↔
            Server.sanitizedHtmlEtag sha256 now = Server.sanitizedHtmlEtag sha256 html)) ∧
        (Server.sanitizedHtmlEtag sha256 now = Server.sanitizedHtmlEtag sha256 html →
          RoundTrips ctx.libraries.decompressor first.events →
          (∃ reply, visit.reply = some reply ∧ Delivers (Server.offered second.events) reply) →
          ∃ hit fetchedAt later, lookup entries url = some hit ∧
            brotliDecompress ctx.libraries.decompressor hit.brotliBody = .ok (Utf8.encode html) ∧
            visit.page =
              storedPage ctx.libraries url { hit with fetchedAt := fetchedAt } later ∧
            ∀ rewritten, ctx.libraries.rewriteHtml html url = .ok rewritten →
              ∃ ttlSecs, visit.page = .browsePage rewritten url
                (Server.sanitizedHtmlEtag sha256 html) ttlSecs) := by
  obtain ⟨own, get, normal, stored, sent⟩ := revalidates
  obtain ⟨header, body, brought, kept, etag, decompresses⟩ := fetched_page digest loaded fetches
  have holds : Holds url (Server.sanitizedHtmlEtag sha256 html) body entries := by
    rw [← etag, ← fetches.own]
    exact holds_visits enabled run (fetches.own ▸ keeps) brought kept fetches.committed
  obtain ⟨hit, found⟩ := Option.isSome_iff_exists.mp stored
  obtain ⟨tag, rfl⟩ : hit.etag = Server.sanitizedHtmlEtag sha256 html ∧ hit.brotliBody = body := by
    obtain ⟨row, there, rfl⟩ := Option.map_eq_some_iff.mp found
    exact holds row there
  have course := browse_course enabled browses
  subst own
  have asked : request =
      .get visit.request.url (some (Server.sanitizedHtmlEtag sha256 html)) := by
    rw [← tag]
    exact course.asks get normal found sent
  obtain ⟨sixteen, letters⟩ := Server.sanitizedHtmlEtag_shape digest html
  refine ⟨asked, ?_⟩
  intro second receives
  have read := receives_requested
    (asked ▸ Server.readable_conditional solid sixteen letters short) receives
  rw [asked] at read
  refine ⟨read, ?_⟩
  intro now loadedNow
  obtain ⟨_, ifNoneMatch, read', response, written, responds⟩ :=
    Server.serveNext_responds digest second.returns loadedNow
  obtain ⟨rfl, rfl⟩ := Request.get.inj (Option.some.inj (read.symm.trans read'))
  have unchanged : response.status = .notModified ↔
      Server.sanitizedHtmlEtag sha256 now = Server.sanitizedHtmlEtag sha256 html := by
    rw [responds.unchanged, Option.some.injEq]
    exact eq_comm
  refine ⟨⟨response, written, unchanged⟩, ?_⟩
  rintro same roundTrips ⟨reply, received, delivers⟩
  rw [written] at delivers
  obtain ⟨told, confirms, named⟩ := delivers_confirmed responds.named delivers (unchanged.mpr same)
  have current : told.etag = hit.etag := by
    rw [named, responds.etag (Or.inl (unchanged.mpr same)), same, tag]
  obtain ⟨fetchedAt, later, page⟩ := course.revalidated get normal found
    (by rw [Visit.confirmed, received, Option.bind_some, confirms]) current
  have output := decompresses ctx.libraries.decompressor roundTrips
  refine ⟨hit, fetchedAt, later, found, output, page, ?_⟩
  intro rewritten rewrites
  rw [← tag]
  exact ⟨_, page.trans (storedPage_text { hit with fetchedAt := fetchedAt } output rewrites later)⟩

section Samples

/-- The digest of the page with the letter A. Other digests are left blank. -/
def sampleSha256 (data : Bytes) : Bytes :=
  if data = [65] then [85, 154, 234, 208, 130, 100, 213, 121, 93, 57, 9, 113, 140, 221, 5, 171,
    212, 149, 114, 232, 79, 229, 85, 144, 238, 243, 26, 136, 160, 143, 223, 253]
  else List.replicate 32 0

/-- The ETag of the page of one letter. -/
def samplePageEtag : Text :=
  ['V', 'Z', 'r', 'q', '0', 'I', 'J', 'k', '1', 'X', 'l', 'd', 'O', 'Q', 'l', 'x']

/-- A server with its usual limits. -/
def sampleConfig : Server.Config := ⟨[], 10, 5, 3600⟩

/-- A session with a browser, in front of a request. -/
def sampleSession : Server.Session × Option Server.BrowserId := (⟨['K'], true, 0⟩, some 0)

/-- The server's peer sends one request and closes. -/
def sampleWorld (request : Request) : Server.World := ⟨⟨request.encode, [⟨0, .closed⟩], 0⟩, []⟩

/-- A round that loads the page with the letter A. -/
def sampleRound (request : Request) (compressed : List (Sigma Server.Answer)) (response : Response) :
    List (Sigma Server.Answer) :=
  [⟨.readRequest 600000, .ok (some request)⟩, ⟨.now, 0⟩, ⟨.validateUrl sampleUrl, ⟨.ok (), 0⟩⟩,
    ⟨.startProbe sampleUrl, ()⟩, ⟨.fetchPage 0 sampleUrl, ⟨.ok ['A'], 0⟩⟩,
    ⟨.joinProbe, ⟨some 60, 0⟩⟩, ⟨.log ⟨['K'], sampleUrl, .ok, none⟩, ⟨.ok (), 0⟩⟩] ++ compressed ++
  [⟨.write response.encode, ⟨⟨.ok (), response.encode.length⟩, 0⟩⟩, ⟨.now, 0⟩]

/-- The round that sends the page. -/
def sendingRound : List (Sigma Server.Answer) :=
  sampleRound (.get sampleUrl none) [⟨.compress [65] 5, ⟨some [65], 0⟩⟩]
    ⟨.ok, samplePageEtag, 60, [65]⟩

/-- The round that confirms it. -/
def confirmingRound : List (Sigma Server.Answer) :=
  sampleRound (.get sampleUrl (some samplePageEtag)) [] ⟨.notModified, samplePageEtag, 60, []⟩

/-- The row of the page, stored at that second. -/
def samplePageRow (seconds : Nat) : CacheRow :=
  sampleCache.freshRow samplePageEtag [65] 60 (seconds * nanosPerSec)

/-- A visit that shows the page. -/
def samplePageVisit (events : List (Sigma Answer)) : Visit :=
  ⟨⟨sampleUrl, none, false, none⟩, ⟨.readConnectionState, .connected⟩ :: events,
    .browsePage ['A'] sampleUrl samplePageEtag 60⟩

/-- The visit that fetches the page. -/
def fetchingVisit : Visit :=
  samplePageVisit [⟨.lookup sampleUrl, none⟩, ⟨.lookup sampleUrl, none⟩,
    ⟨.exchange (.get sampleUrl none), .ok (Response.encode ⟨.ok, samplePageEtag, 60, [65]⟩)⟩,
    ⟨.systemTime, 0⟩,
    ⟨.write sampleUrl (samplePageRow 0), some ⟨1, [⟨sampleUrl, samplePageRow 0⟩], []⟩⟩]

/-- The visit that asks for it again, after a hundred seconds. -/
def askingVisit : Visit :=
  samplePageVisit [⟨.lookup sampleUrl, some (samplePageRow 0).hit⟩,
    ⟨.systemTime, 100 * nanosPerSec⟩, ⟨.lookup sampleUrl, some (samplePageRow 0).hit⟩,
    ⟨.exchange (.get sampleUrl (some samplePageEtag)),
      .ok (Response.encode ⟨.notModified, samplePageEtag, 60, []⟩)⟩,
    ⟨.systemTime, 100 * nanosPerSec⟩,
    ⟨.touchFresh sampleUrl (100 * nanosPerSec), some samplePageEtag⟩,
    ⟨.lookup sampleUrl, some (samplePageRow 100).hit⟩, ⟨.systemTime, 100 * nanosPerSec⟩]

/-- The digest has the length of one. -/
theorem sampleSha256_length (data : Bytes) : (sampleSha256 data).length = 32 := by
  unfold sampleSha256
  split <;> rfl

/-- The page is decompressed to what was compressed, wherever a page was. -/
def roundTrips (decompressor : Decompressor) (events : List (Sigma Server.Answer)) : Bool :=
  events.all fun event =>
    match event with
    | ⟨.compress data _, answer⟩ => answer.result.all fun compressed =>
      (brotliDecompress decompressor compressed).toOption == some data
    | _ => true

/-- The check says that compression is undone. -/
theorem roundTrips_of_check {decompressor : Decompressor} {events : List (Sigma Server.Answer)}
    (checked : roundTrips decompressor events = true) : RoundTrips decompressor events := by
  intro data quality answer compressed member result
  have passed := List.all_eq_true.mp checked _ member
  simp only [result, Option.all_some, beq_iff_eq] at passed
  cases output : brotliDecompress decompressor compressed with
  | error err => exact absurd passed (by simp [output, Except.toOption])
  | ok found =>
    rw [output] at passed
    rw [Option.some.inj passed]

/-- What arrives just as it was written. -/
theorem delivers_itself {bytes : Bytes} (readable : (opened (.ok bytes)).isSome) :
    Delivers [bytes] (.ok bytes) := by
  refine ⟨bytes, [], [], rfl, by decide, ?_, readable⟩
  rw [List.flatten_singleton, List.nil_append, List.append_nil]

/-- A round of the sample session that can be enacted. -/
theorem sample_round (request : Request) (events : List (Sigma Server.Answer))
    (whole : ((Server.serveNext sampleSha256 sampleConfig sampleSession).enact Server.exec
      (sampleWorld request) events).any (fun left => left.2.2.isEmpty) = true) :
    ∃ round : Server.Round sampleSha256 sampleConfig, round.state = sampleSession ∧
      round.world = sampleWorld request ∧ round.events = events := by
  obtain ⟨result, after, returns⟩ := enact_exists whole
  exact ⟨⟨sampleSession, sampleWorld request, events, result, after, returns⟩, rfl, rfl, rfl⟩

end Samples

/-- A page with one letter, asked for again after a hundred seconds. -/
theorem conditional_get_closes_sample :
    ∃ second : Server.Round sampleSha256 sampleConfig,
      Server.requested second.events = some (.get sampleUrl (some samplePageEtag)) ∧
      (∃ response : Response, Server.offered second.events = [response.encode] ∧
        response.status = .notModified) ∧
      ∃ ttlSecs, askingVisit.page = .browsePage ['A'] sampleUrl samplePageEtag ttlSecs := by
  have etag : Server.sanitizedHtmlEtag sampleSha256 ['A'] = samplePageEtag := by decide
  obtain ⟨first, _, _, sends⟩ :=
    sample_round (.get sampleUrl none) sendingRound (by decide)
  obtain ⟨second, state, world, confirms⟩ :=
    sample_round (.get sampleUrl (some samplePageEtag)) confirmingRound (by decide)
  obtain ⟨after, enacted⟩ : ∃ after, enactVisits sampleContext sampleCache
      (fun entries visit => visit.brought.isSome || (lookup entries sampleUrl).isSome)
      [askingVisit, fetchingVisit] = some after := Option.isSome_iff_exists.mp (by decide +kernel)
  have visits := enactVisits_visits (fun _ _ checked => checked) enacted
  cases visits with
  | @visit _ entries _ _ before browses met =>
    have unbrought : askingVisit.brought.isSome = false := by decide
    have asks : Revalidates entries sampleUrl (.get sampleUrl (some samplePageEtag)) askingVisit :=
      ⟨rfl, rfl, rfl, by simpa [unbrought] using met, by decide⟩
    have loaded : Server.loaded first.events = some ['A'] := by
      rw [sends]
      decide
    have fetches : Fetches first sampleUrl fetchingVisit := by
      refine ⟨rfl, ⟨_, rfl, ?_⟩, ⟨(⟨.ok, 4, samplePageEtag, 60, 28⟩, [65]), by decide,
        by decide⟩, by decide⟩
      rw [sends]
      exact delivers_itself (by decide)
    have receives : Receives second (.get sampleUrl (some samplePageEtag)) := by
      refine ⟨?_, [], ?_⟩
      · rw [Server.Round.deadline, world, state]
        exact ⟨by decide, by decide⟩
      · rw [world]
        decide
    have loadedAgain : Server.loaded second.events = some ['A'] := by
      rw [confirms]
      decide
    have delivered : ∃ reply, askingVisit.reply = some reply ∧
        Delivers (Server.offered second.events) reply := by
      refine ⟨_, rfl, ?_⟩
      rw [confirms]
      exact delivers_itself (by decide)
    obtain ⟨_, closes⟩ := conditional_get_closes rfl sampleSha256_length
      (List.forall_mem_singleton.mpr rfl) (by decide) loaded fetches
      (fun visit member => absurd member List.not_mem_nil) (before.mono fun _ _ _ => trivial)
      asks browses
    obtain ⟨read, answered⟩ := closes second receives
    obtain ⟨⟨response, written, unchanged⟩, served⟩ := answered _ loadedAgain
    obtain ⟨hit, fetchedAt, later, _, _, _, shown⟩ := served rfl
      (roundTrips_of_check (by rw [sends]; decide)) delivered
    rw [etag] at read shown
    exact ⟨second, read, ⟨response, written, unchanged.mpr rfl⟩, shown ['A'] rfl⟩

end PacketBrowser.Browse
