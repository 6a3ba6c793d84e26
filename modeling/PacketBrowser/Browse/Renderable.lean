import PacketBrowser.Browse.Confirmed

/-!
# Storing what can be shown

A page that arrives is stored before it is decompressed, decoded and rewritten. If one of
these steps fails, the request ends in an error page, and so does every later one that the
stored body answers.

In runs in which every page that is stored can be rendered, every row holds a body that
decompresses within the limit to UTF-8 and renders under its URL, and no request that
ends in an error page has stored anything.
-/

namespace PacketBrowser.Browse

open Protocol Foundation Program Setting

section Rendering

variable (libraries : Libraries) (url : Text) (compressed : Bytes)

/-- The text behind a compressed body. -/
def bodyText : Option Text :=
  (brotliDecompress libraries.decompressor compressed).toOption.bind Utf8.decode

/-- A body that can be shown as the page of a URL. -/
def Showable : Prop := ∃ html rewritten, bodyText libraries compressed = some html ∧
  libraries.rewriteHtml html url = .ok rewritten

variable {libraries url compressed}

/-- A body that has a text is decoded to it. -/
theorem decodeHtml_text {html : Text} (text : bodyText libraries compressed = some html)
    (invalidUtf8 : Text) : decodeHtml libraries invalidUtf8 compressed = .ok html := by
  unfold bodyText at text
  unfold decodeHtml
  cases output : brotliDecompress libraries.decompressor compressed with
  | error err => exact absurd text (by simp [output, Except.toOption])
  | ok decompressed =>
    have decoded : Utf8.decode decompressed = some html := by
      simpa [output, Except.toOption] using text
    simp only [decoded]

/-- What can be shown is rendered. -/
theorem Showable.rendered (showable : Showable libraries url compressed) (invalidUtf8 : Text) :
    ∃ rewritten, renderHtml libraries invalidUtf8 url compressed = .ok rewritten := by
  obtain ⟨html, rewritten, text, rewrites⟩ := showable
  refine ⟨rewritten, ?_⟩
  rw [renderHtml, decodeHtml_text text]
  show rewritePage libraries url html = _
  rw [rewritePage, rewrites]

/-- What is rendered could be decompressed, decoded and rewritten. -/
theorem showable_of_rendered {invalidUtf8 rewritten : Text}
    (rendered : renderHtml libraries invalidUtf8 url compressed = .ok rewritten) :
    Showable libraries url compressed := by
  unfold renderHtml at rendered
  cases decoded : decodeHtml libraries invalidUtf8 compressed with
  | error message =>
    rw [decoded] at rendered
    exact absurd rendered (by rintro ⟨⟩)
  | ok html =>
    have rewrites : rewritePage libraries url html = .ok rewritten := by
      rw [decoded] at rendered
      exact rendered
    unfold rewritePage at rewrites
    unfold decodeHtml at decoded
    split at rewrites
    · exact absurd rewrites (by simp)
    · rename_i result rewriting
      split at decoded
      · exact absurd decoded (by simp)
      · rename_i output decompresses
        split at decoded
        · exact absurd decoded (by simp)
        · rename_i text utf8
          obtain rfl := Except.ok.inj decoded
          exact ⟨text, result, by simp [bodyText, decompresses, utf8, Except.toOption], rewriting⟩

/-- A page that is shown can be shown. -/
theorem showable_of_freshPage {cacheMaxTtl : Nat} {header : Header}
    (shown : (freshPage libraries cacheMaxTtl url header compressed).failed = false) :
    Showable libraries url compressed := by
  unfold freshPage at shown
  split at shown
  · exact absurd shown (by simp [Page.failed])
  · rename_i rewritten rendered
    exact showable_of_rendered rendered

/-- A stored body that can be shown decompresses within the limit to UTF-8. -/
theorem Showable.accepted (showable : Showable libraries url compressed) :
    ∃ output html, brotliDecompress libraries.decompressor compressed = .ok output ∧
      output.length ≤ maxDecompressedSize ∧ Utf8.decode output = some html := by
  obtain ⟨html, _, text, _⟩ := showable
  unfold bodyText at text
  cases output : brotliDecompress libraries.decompressor compressed with
  | error err => exact absurd text (by simp [output, Except.toOption])
  | ok decompressed =>
    refine ⟨decompressed, html, rfl, brotliDecompress_bounded output, ?_⟩
    simpa [output, Except.toOption] using text

/-- A stored page that can be shown is no failure. -/
theorem storedPage_shown {hit : Hit} (showable : Showable libraries url hit.brotliBody)
    (now : SystemTime) : (storedPage libraries url hit now).failed = false := by
  obtain ⟨rewritten, rendered⟩ := showable.rendered "Invalid UTF-8 in cached response".toList
  rw [storedPage, rendered]
  rfl

/-- A fresh page that can be shown is no failure. -/
theorem freshPage_shown (showable : Showable libraries url compressed) (cacheMaxTtl : Nat)
    (header : Header) : (freshPage libraries cacheMaxTtl url header compressed).failed = false := by
  obtain ⟨rewritten, rendered⟩ := showable.rendered "Invalid UTF-8 in response".toList
  rw [freshPage, rendered]
  rfl

end Rendering

/-- Every row has a body that decompresses within the limit to UTF-8, and serving it does
not end in an error. -/
def RowsRenderable (libraries : Libraries) (entries : Entries) : Prop :=
  ∀ url row, entries.lookup url = some row →
    (∃ output html, brotliDecompress libraries.decompressor row.brotliBody = .ok output ∧
      output.length ≤ maxDecompressedSize ∧ Utf8.decode output = some html) ∧
    ∀ now, (storedPage libraries url row.hit now).failed = false

/-- A request that ends in an error page has stored nothing. -/
def StoresShown (event : BrowseEvent) (earlier : List BrowseEvent) : Prop :=
  ∀ page, event.op = .respond page → page.failed = true →
    ∀ url row committed, (⟨event.thread, .write url row, committed⟩ : BrowseEvent) ∉ earlier

/-- A page that arrives and may be stored can be shown. -/
def BringsShowable (libraries : Libraries) (event : BrowseEvent) : Prop :=
  ∀ url ifNoneMatch reply header compressed,
    event = ⟨event.thread, .exchange (.get url ifNoneMatch), reply⟩ →
    acceptedPage reply = some (header, compressed) → ¬ header.maxAge < 0 →
    Showable libraries url compressed

/-- Runs in which pages that may be stored can be shown. -/
def renderableSetting (cache : Cache) (libraries : Libraries) : Setting Entries Nat Answer where
  exec := exec cache
  meets _ event := BringsShowable libraries event
  inv now := (∀ url row, now.world.lookup url = some row → Showable libraries url row.brotliBody) ∧
    Throughout StoresShown now.history

section Proof

variable {cache : Cache} {libraries : Libraries} {thread : Nat}

/-- A step keeps the invariant if it writes what can be shown, and answers with an error
only where nothing was written. -/
theorem renderable_kept {before after : Moment} {event : BrowseEvent}
    (moves : (renderableSetting cache libraries).Moves before event after)
    (writes : ∀ url row, event.op = .write url row → Showable libraries url row.brotliBody)
    (shows : StoresShown event before.history) : (renderableSetting cache libraries).inv after := by
  obtain ⟨world, history⟩ := after
  obtain ⟨executed, grown⟩ := moves.occurs
  obtain rfl : history = event :: before.history := grown
  obtain ⟨_, rfl⟩ := (exec_iff cache).mp executed
  obtain ⟨rows, throughout⟩ := moves.inv
  refine ⟨?_, shows, throughout⟩
  intro url row stored
  rcases row_after stored with ⟨queries, written⟩ | ⟨old, found, ⟨_, body, _⟩, _⟩
  · exact writes url row (congrArg Sigma.fst written)
  · rw [body]
    exact rows url old found

/-- The handler has stored nothing. -/
def Unwritten (thread : Nat) (now : Moment) : Prop :=
  ∀ url row committed, (⟨thread, .write url row, committed⟩ : BrowseEvent) ∉ now.history

/-- If the page is an error, the handler has stored nothing. -/
def Shown (thread : Nat) (page : Page) (now : Moment) : Prop :=
  page.failed = true → Unwritten thread now

/-- Another request writes nothing for this one. -/
theorem unwritten_stable : (renderableSetting cache libraries).Stable thread (Unwritten thread) := by
  rintro before after unwritten ⟨event, different, moves, _⟩ url row committed member
  rw [moves.occurs.2] at member
  rcases List.mem_cons.mp member with same | old
  · exact different (congrArg Event.thread same.symm)
  · exact unwritten url row committed old

/-- Another request does not change what this one has shown. -/
theorem shown_stable (page : Page) :
    (renderableSetting cache libraries).Stable thread (Shown thread page) :=
  unwritten_stable.imp

/-- Operations that neither store nor answer. -/
def Op.storeless : Op → Prop
  | .write _ _ => False
  | .respond _ => False
  | _ => True

/-- An operation that stores nothing new. -/
theorem plain_storeless (op : Op) (plain : op.plain) : op.storeless := by
  cases op with
  | write url row => exact plain.elim
  | respond page => exact plain.elim
  | _ => trivial

/-- A step that stores nothing keeps the rows as they are. -/
theorem storeless_step {before after : Moment} {op : Op} {answer : Answer op}
    (storeless : op.storeless) (unwritten : Unwritten thread before)
    (moves : (renderableSetting cache libraries).Moves before ⟨thread, op, answer⟩ after) :
    (renderableSetting cache libraries).inv after ∧ Unwritten thread after := by
  constructor
  · apply renderable_kept moves
    · rintro url row rfl
      exact storeless.elim
    · rintro page rfl
      exact storeless.elim
  · intro url row committed member
    rw [moves.occurs.2] at member
    rcases List.mem_cons.mp member with same | old
    · cases same
      exact storeless.elim
    · exact unwritten url row committed old

/-- A part that stores nothing leaves nothing written. -/
theorem unwritten_triple {α : Type} {program : Routine α} (only : program.Only Op.storeless) :
    (renderableSetting cache libraries).Triple thread (Unwritten thread) program
      fun _ => Unwritten thread :=
  triple_only unwritten_stable only fun _ storeless _ _ _ unwritten moves =>
    storeless_step storeless unwritten moves

/-- A request that has written nothing may show any page. -/
theorem unwritten_shown {program : Routine Page} (only : program.Only Op.storeless) :
    (renderableSetting cache libraries).Triple thread (Unwritten thread) program (Shown thread) :=
  (unwritten_triple only).consequence (fun _ => id) fun _ _ unwritten _ => unwritten

/-- What the exchange of a GET brings can be shown, if it may be stored. -/
def Brought (libraries : Libraries) (request : Request) (reply : Client.Reply) : Prop :=
  ∀ url ifNoneMatch header compressed, request = .get url ifNoneMatch →
    acceptedPage reply = some (header, compressed) → ¬ header.maxAge < 0 →
    Showable libraries url compressed

/-- The exchange is where a request is brought a page. -/
theorem exchange_brought (request : Request) :
    (renderableSetting cache libraries).Triple thread (Unwritten thread) (ask (.exchange request))
      fun reply now => Unwritten thread now ∧ Brought libraries request reply := by
  apply triple_ask unwritten_stable fun reply => unwritten_stable.and (stable_const _)
  intro now reply later unwritten moves
  have storeless : (Op.exchange request).storeless := trivial
  obtain ⟨kept, unwrittenLater⟩ := storeless_step storeless unwritten moves
  refine ⟨kept, unwrittenLater, ?_⟩
  rintro url ifNoneMatch header compressed rfl accepts lasting
  exact moves.met url ifNoneMatch reply header compressed rfl accepts lasting

/-- A page that can be shown is stored. -/
theorem insertNow_kept (writer : Cache) (url : Text) (header : Header) {compressed : Bytes}
    (showable : Showable libraries url compressed) :
    (renderableSetting cache libraries).Triple thread (fun _ => True)
      (writer.insertNow url header compressed) fun _ _ => True := by
  unfold Cache.insertNow
  split
  · exact triple_done (stable_const _) fun _ => id
  · apply triple_bind fun _ _ => True
    · apply triple_ask (stable_const _) fun _ => stable_const _
      intro now answer later _ moves
      exact ⟨renderable_kept moves (by simp) (by simp [StoresShown]), trivial⟩
    · intro clock
      apply triple_bind fun _ _ => True
      · apply triple_ask (stable_const _) fun _ => stable_const _
        intro now answer later _ moves
        refine ⟨renderable_kept moves ?_ (by simp [StoresShown]), trivial⟩
        rintro other row same
        obtain ⟨rfl, rfl⟩ := Op.write.inj same
        exact showable
      · exact fun _ => triple_done (stable_const _) fun _ => id

variable {ctx : AppContext} {url : Text}

/-- A page that is not to be kept is not stored. -/
theorem storePage_unwritten {cacheForWrite : Option Cache} {header : Header} (compressed : Bytes)
    (dropped : cacheForWrite = none ∨ header.maxAge < 0) :
    (storePage url cacheForWrite header compressed).Only Op.storeless := by
  unfold storePage
  split
  · rename_i writer
    rw [Cache.insertNow, if_pos (dropped.resolve_left (by simp))]
    trivial
  · trivial

/-- Whatever the reply, what is stored was shown. -/
theorem renderResult_shown {request : Request} {cacheForWrite : Option Cache}
    (own : cacheForWrite.isSome → ∃ ifNoneMatch, request = .get url ifNoneMatch)
    (cachedEtag : Option Text) {reply : Client.Reply}
    (brought : Brought ctx.libraries request reply) :
    (renderableSetting cache ctx.libraries).Triple thread (Unwritten thread)
      (renderResult ctx url cacheForWrite cachedEtag reply) (Shown thread) := by
  cases accepts : acceptedPage reply with
  | none =>
    apply unwritten_shown
    by_cases told : ∃ header, confirmation reply = some header ∧ cacheForWrite.isSome ∧
        cachedEtag = some header.etag
    · obtain ⟨header, confirms, writable, rfl⟩ := told
      rw [renderResult_confirmed confirms writable]
      exact (serveConfirmed_plain ctx url).mono plain_storeless
    · obtain ⟨page, _, same⟩ := renderResult_other accepts fun header confirms both =>
        told ⟨header, confirms, both⟩
      rw [same]
      trivial
  | some page =>
    obtain ⟨header, compressed⟩ := page
    rw [renderResult_accepted cacheForWrite cachedEtag accepts]
    by_cases dropped : cacheForWrite = none ∨ header.maxAge < 0
    · apply unwritten_shown
      apply only_bind _ (storePage_unwritten compressed dropped)
      intro _
      trivial
    · obtain ⟨present, lasting⟩ := not_or.mp dropped
      obtain ⟨writer, rfl⟩ := Option.ne_none_iff_exists'.mp present
      obtain ⟨ifNoneMatch, rfl⟩ := own rfl
      have showable := brought url ifNoneMatch header compressed rfl accepts lasting
      apply Triple.consequence _ (fun _ _ => trivial) fun _ _ => id
      apply triple_bind _ (insertNow_kept writer url header showable)
      intro _
      apply triple_done (shown_stable _)
      intro now _ failed
      rw [freshPage_shown showable] at failed
      exact absurd failed (by simp)

/-- A request over the air shows what it stores. -/
theorem dispatchAx25_shown {request : Request} {cacheForWrite : Option Cache}
    (own : cacheForWrite.isSome → ∃ ifNoneMatch, request = .get url ifNoneMatch) :
    (renderableSetting cache ctx.libraries).Triple thread (Unwritten thread)
      (dispatchAx25 ctx url request cacheForWrite) (Shown thread) := by
  apply triple_bind _ (exchange_brought request)
  rintro reply now ⟨unwritten, brought⟩
  exact renderResult_shown own _ brought now unwritten

/-- A page that is browsed is shown if it is stored. -/
theorem browseGet_shown (nocache : Bool) (browserIfNoneMatch : Option Text) :
    (renderableSetting cache ctx.libraries).Triple thread (Unwritten thread)
      (browseGet ctx url nocache browserIfNoneMatch) (Shown thread) := by
  apply triple_bind _ (unwritten_triple ((serveFresh_plain ctx url _ _).mono plain_storeless))
  intro fresh
  cases fresh with
  | some page => exact triple_done (shown_stable page) fun _ unwritten _ => unwritten
  | none =>
    apply triple_bind _ (unwritten_triple ((lookupEtag_plain url _).mono plain_storeless))
    intro cachedEtag
    exact dispatchAx25_shown fun _ => ⟨cachedEtag, rfl⟩

/-- Every request shows what it stores. -/
theorem page_shown (entry : Entry) :
    (renderableSetting cache ctx.libraries).Triple thread (Unwritten thread) (entry.page ctx)
      (Shown thread) := by
  cases entry with
  | browse request =>
    have connected : (ask .readConnectionState).Only Op.storeless := only_ask _ trivial
    apply triple_bind _ (unwritten_triple connected)
    intro state
    split
    · exact triple_done (shown_stable _) fun _ unwritten _ => unwritten
    · split
      · exact dispatchAx25_shown fun writable => absurd writable (by simp)
      · exact browseGet_shown _ _
  | cacheDelete url =>
    apply unwritten_shown
    show (apiCacheDelete ctx url).Only Op.storeless
    unfold apiCacheDelete
    split
    · exact only_bind _ (only_ask _ trivial) fun _ => trivial
    · trivial
  | cacheClear =>
    apply unwritten_shown
    show (apiCacheClear ctx).Only Op.storeless
    unfold apiCacheClear
    split
    · exact only_bind _ (only_ask _ trivial) fun _ => trivial
    · trivial

/-- Every request keeps the invariant to its end. -/
theorem routine_renders (entry : Entry) :
    (renderableSetting cache ctx.libraries).Triple thread (Unwritten thread) (entry.routine ctx)
      fun _ _ => True := by
  apply triple_bind _ (page_shown entry)
  intro page
  apply triple_ask (shown_stable page) fun _ => stable_const _
  intro now answer later shown moves
  refine ⟨renderable_kept moves (by simp) ?_, trivial⟩
  intro answered same failed
  obtain rfl := Op.respond.inj same
  exact shown failed

end Proof

/-- Where every page that may be stored can be shown, every row can be served, and nothing
is stored by a request that ends in an error page.

That every row can be shown is an invariant. Only insertions could break it, and what is
inserted came with a reply that can be shown. -/
theorem rows_renderable (cache : Cache) (ctx : AppContext) (entries : Nat → Entry)
    {pool : Pool Entries Nat Answer}
    (reaches : Reaches (exec cache) (fun _ event => BringsShowable ctx.libraries event)
      (handlers ctx entries) pool) :
    RowsRenderable ctx.libraries pool.now.world ∧ Throughout StoresShown pool.now.history := by
  let setting := renderableSetting cache ctx.libraries
  have safe : ∀ thread, setting.Safe thread ((handlers ctx entries).threads thread)
      (fun _ _ => True) ⟨∅, []⟩ := by
    intro thread
    apply routine_renders (entries thread)
    exact fun url row committed member => absurd member (by simp)
  have start : setting.inv ⟨∅, []⟩ := ⟨fun url row stored => absurd stored (by simp), trivial⟩
  obtain ⟨rows, throughout⟩ := (sound (S := setting) reaches start safe).1
  refine ⟨?_, throughout⟩
  intro url row stored
  have showable := rows url row stored
  exact ⟨showable.accepted, storedPage_shown showable⟩

/-- Nothing but the first page is brought. -/
def bringsFirst : BrowseEvent → Bool
  | ⟨_, .exchange request, reply⟩ =>
    request == .get sampleUrl none && reply == sampleReply .ok 'a' [65]
  | _ => true

/-- A page that can be shown arrives and is stored. -/
theorem rows_renderable_sample : ∃ pool, Reaches (exec sampleCache)
      (fun _ event => BringsShowable sampleContext.libraries event)
      (handlers sampleContext sampleEntries) pool ∧
    pool.now.history = storesFirst.reverse ∧
    RowsRenderable sampleContext.libraries pool.now.world ∧
    Throughout StoresShown pool.now.history := by
  obtain ⟨pool, reaches, history⟩ := handlers_replay sampleContext sampleCache
    (fun _ event => bringsFirst event) sampleEntries storesFirst (by decide)
  have brings : Reaches (exec sampleCache)
      (fun _ event => BringsShowable sampleContext.libraries event)
      (handlers sampleContext sampleEntries) pool := by
    apply reaches.mono
    rintro now event checked url ifNoneMatch reply header compressed same accepts _
    rw [same] at checked
    simp only [bringsFirst, Bool.and_eq_true, beq_iff_eq] at checked
    obtain ⟨requested, rfl⟩ := checked
    obtain ⟨rfl, _⟩ := Request.get.inj requested
    have page : acceptedPage (sampleReply .ok 'a' [65]) =
        some (⟨.ok, 4, sampleEtag 'a', 0, 27⟩, [65]) := by decide
    obtain ⟨_, rfl⟩ := Prod.mk.inj (Option.some.inj (page.symm.trans accepts))
    exact ⟨['A'], ['A'], by decide, rfl⟩
  exact ⟨pool, brings, history, rows_renderable sampleCache sampleContext sampleEntries brings⟩

/-- The same client, with a decoder that rejects the body of a single zero. -/
def rejectingContext : AppContext := { sampleContext with
  libraries := ⟨fun data => if data = [0] then [.error ['z']] else [.ok data],
    fun html _ => .ok html⟩ }

/-- The row of a body that is not decompressed. -/
def rejectedRow : CacheRow := sampleCache.freshRow (sampleEtag 'a') [0] 60 0

/-- The message about such a body. -/
def rejectedPage : Page :=
  .errorPage ("Decompression failed: ".toList ++ (CompressionError.decompressFailed ['z']).display)

/-- A body that is rejected is stored all the same, and a later request is answered with
the same error from the cache. -/
def storesRejected : List BrowseEvent :=
  [⟨0, .readConnectionState, .connected⟩, ⟨0, .lookup sampleUrl, none⟩,
    ⟨0, .lookup sampleUrl, none⟩,
    ⟨0, .exchange (.get sampleUrl none), .ok (Response.encode ⟨.ok, sampleEtag 'a', 60, [0]⟩)⟩,
    ⟨0, .systemTime, 0⟩,
    ⟨0, .write sampleUrl rejectedRow, some ⟨1, [⟨sampleUrl, rejectedRow⟩], []⟩⟩]

/-- The second request finds the row fresh and shows the message again. -/
def replaysRejected : List BrowseEvent :=
  [⟨1, .readConnectionState, .connected⟩, ⟨1, .lookup sampleUrl, some rejectedRow.hit⟩,
    ⟨1, .systemTime, nanosPerSec⟩, ⟨1, .systemTime, nanosPerSec⟩,
    ⟨1, .touchLastUsed sampleUrl nanosPerSec, ()⟩, ⟨1, .respond rejectedPage, ()⟩]

/-- The body is stored though it cannot be shown, and is found again. -/
theorem rejected_stored : ∃ pool : Pool Entries Nat Answer,
    Reaches (exec sampleCache) (fun _ _ => True) (handlers rejectingContext sampleEntries) pool ∧
    pool.now.history = (storesRejected ++ ⟨0, .respond rejectedPage, ()⟩ :: replaysRejected).reverse ∧
    ¬ RowsRenderable rejectingContext.libraries pool.now.world ∧
    ¬ Throughout StoresShown pool.now.history := by
  obtain ⟨pool, reaches, history, stored⟩ := handlers_replay_to rejectingContext sampleCache
    sampleEntries (storesRejected ++ ⟨0, .respond rejectedPage, ()⟩ :: replaysRejected)
    (fun now => (now.world.lookup sampleUrl).map CacheRow.brotliBody == some [0]) (by decide +kernel)
  refine ⟨pool, reaches, history, ?_, ?_⟩
  · intro every
    obtain ⟨row, found, body⟩ := Option.map_eq_some_iff.mp (beq_iff_eq.mp stored)
    obtain ⟨output, html, accepted, _⟩ := (every sampleUrl row found).1
    rw [body] at accepted
    exact absurd accepted (by simp [brotliDecompress, rejectingContext, collectOutput])
  · intro every
    rw [history] at every
    exact throughout_performed every rejectedPage rfl rfl sampleUrl rejectedRow
      (some ⟨1, [⟨sampleUrl, rejectedRow⟩], []⟩) (by simp [storesRejected])

end PacketBrowser.Browse
