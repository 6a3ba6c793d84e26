import Mathlib.Algebra.GroupWithZero.Nat
import PacketBrowser.Browse.Reload
import PacketBrowser.Browse.Renewal
import PacketBrowser.Foundation.Decimal
import PacketBrowser.Foundation.Fields

/-!
# The page of cached pages

The cache page lists the rows used last, at most two hundred of them, and each row carries
a button that deletes it. The button is a form with the URL in a hidden field. It works by
the URL alone, at any later time, so it must be read back from the page as it was stored.

The way there and back goes through markup, through what a browser does to the value of a
field, and through the body of a form. Only the line ends and the null character can be
lost on it.
-/

namespace PacketBrowser.Browse

open Protocol Foundation Html Program

section Listing

/-- A row as it is listed. -/
structure CacheEntry where
  url : Text
  etag : Text
  fetchedAt : Nat
  lastUsed : Nat
  size : Nat
  maxAge : Nat
  deriving DecidableEq, Repr

/-- A row as the list of the cache shows it. -/
def cacheEntry (row : Row) : CacheEntry where
  url := row.1
  etag := row.2.etag
  fetchedAt := row.2.fetchedAt
  lastUsed := row.2.lastUsed
  size := row.2.size
  maxAge := row.2.maxAge

/-- The most rows that are listed. -/
def listLimit : Nat := 200

/-- What `SELECT .. FROM entries ORDER BY last_used DESC LIMIT 200` may list. -/
def Recent (entries : Entries) (listing : List Row) : Prop :=
  ∃ sorted : List Row, sorted.Perm entries.entries ∧
    (sorted.Pairwise fun one two => two.2.lastUsed ≤ one.2.lastUsed) ∧
    listing = sorted.take listLimit

/-- The seconds for which a row stays fresh. None if the clock is behind the fetch. -/
def ttlRemaining (now : SystemTime) (entry : CacheEntry) : Int :=
  let age := now - entry.fetchedAt * nanosPerSec
  if 0 ≤ age then max (entry.maxAge * nanosPerSec - age) 0 / nanosPerSec else 0

end Listing

section Page

/-- A row of the page, with its times written out. -/
structure CachePageRow where
  url : Text
  sizeBytes : Nat
  fetchedAtIso : Text
  lastUsedIso : Text
  ttlRemainingSecs : Int
  etag : Text
  deriving DecidableEq, Repr

/-- The beginning of the form that deletes a row, up to the URL. -/
def deleteOpening : Text :=
  "<form method=\"POST\" action=\"/api/cache/delete\" style=\"margin:0\">\n".toList ++
    "                        <input type=\"hidden\" name=\"url\" value=\"".toList

/-- What stands in front of the URL of a row. -/
def cellOpening : Text :=
  "<tr>\n                <td style=\"max-width:40em;overflow:hidden;text-overflow:ellipsis\">".toList

/-- What stands between two cells. -/
def nextCell : Text := "</td>\n                <td>".toList

/-- What stands between the remaining lifetime and the form. -/
def lastCell : Text := "s</td>\n                <td>\n                    ".toList

/-- What stands behind the URL in the form of a row. -/
def rowClosing : Text :=
  "\">\n                        <button class=\"danger\" type=\"submit\">Delete</button>\n".toList ++
    "                    </form>\n                </td>\n            </tr>".toList

/-- A row in front of its form. -/
def rowCells (row : CachePageRow) : Text :=
  cellOpening ++ h row.url ++ nextCell ++ Decimal.printNat row.sizeBytes ++ nextCell ++
    h row.fetchedAtIso ++ nextCell ++ h row.lastUsedIso ++ nextCell ++
    Decimal.printInt row.ttlRemainingSecs ++ lastCell

/-- A row of the page, with the form that deletes it. -/
def cachePageRow (row : CachePageRow) : Text :=
  rowCells row ++ (deleteOpening ++ h row.url ++ rowClosing)

/-- What the page says about its rows. -/
def cacheUse (count totalBytes capBytes : Nat) : Text :=
  "<p>".toList ++ Decimal.printNat count ++ " entries — ".toList ++
    Decimal.printNat totalBytes ++ " / ".toList ++ Decimal.printNat capBytes ++
    " bytes used.</p>".toList

/-- The form that deletes all rows. -/
def clearForm : Text :=
  "<form method=\"POST\" action=\"/api/cache/clear\" style=\"margin-bottom:1em\">".toList ++
    "<button class=\"danger\" type=\"submit\">Clear all</button></form>".toList

/-- The table up to its first row. -/
def tableOpening : Text :=
  "<table style=\"width:100%;border-collapse:collapse\">".toList ++
    "<thead><tr><th style=\"text-align:left\">URL</th><th>Size</th><th>Fetched</th>".toList ++
    "<th>Last used</th><th>TTL left</th><th></th></tr></thead><tbody>".toList

/-- What stands behind the last row. -/
def tableClosing : Text := "</tbody></table>".toList

/-- The page below its heading: how full the cache is, the form that clears it, and the rows. -/
def cachePageBody (rows : List CachePageRow) (totalBytes capBytes : Nat) : Text :=
  cacheUse rows.length totalBytes capBytes ++ clearForm ++ tableOpening ++
    (rows.flatMap cachePageRow ++ tableClosing)

/-- What stands in front of the styles. -/
def pageOpening : Text :=
  "<!DOCTYPE html>\n<html lang=\"en\"><head><meta charset=\"utf-8\">".toList ++
    "<title>Cache</title><style>".toList

/-- What stands between the styles and the body. -/
def styleClosing : Text :=
  "</style></head>\n<body><h1>Cache</h1><p><a href=\"/browse\">Back to browse</a></p>".toList

/-- What stands behind the body. -/
def pageClosing : Text := "</body></html>".toList

/-- The page, with the style sheet it contains. -/
def cachePage (css : Text) (rows : List CachePageRow) (totalBytes capBytes : Nat) : Text :=
  pageOpening ++ css ++ styleClosing ++ (cachePageBody rows totalBytes capBytes ++ pageClosing)

/-- The page of a listing. How a time is written is left open. -/
def cachePageHandler (css : Text) (iso : Nat → Text) (cache : Option Cache) (now : SystemTime)
    (listed : List CacheEntry) : Text :=
  match cache with
  | some cache => cachePage css
      (listed.map fun entry => ⟨entry.url, entry.size, iso entry.fetchedAt, iso entry.lastUsed,
        ttlRemaining now entry, entry.etag⟩)
      (listed.map CacheEntry.size).sum cache.capBytes.toNat
  | none => cachePage css [] 0 0

end Page

section Buttons

/-- The URL in the body of a request to delete a row. -/
def cacheDeleteRequest (body : Text) : Option Text :=
  (parameter "url".toList (Query.parse body)).join

/-- The request such a body makes. Without a URL there is none. -/
def deleteRequest (body : Text) : Option Entry := (cacheDeleteRequest body).map .cacheDelete

/-- The body a browser sends when the button of a form is pressed. -/
def pressed (references : References) (source : Text) : Text :=
  Query.field "url".toList (lineEnds (attributeValue references source))

end Buttons

section Reading

/-- Escaped text opens no element. -/
theorem unopened_h (text : Text) : '<' ∉ h text := by
  intro member
  obtain ⟨c, _, inside⟩ := List.mem_flatMap.mp member
  rcases escapeChar_escapes c with escape | ⟨_, own⟩
  · have clean : ∀ escape ∈ escapes, '<' ∉ escape.2 := by decide
    exact clean _ escape inside
  · rw [own, List.mem_singleton] at inside
    subst inside
    exact absurd own (by decide)

/-- A printed number opens no element. -/
theorem unopened_printNat (value : Nat) : '<' ∉ Decimal.printNat value := by
  intro member
  exact absurd (Decimal.print_digit value '<' member) (by decide)

/-- A printed number with its sign opens no element. -/
theorem unopened_printInt (value : Int) : '<' ∉ Decimal.printInt value := by
  unfold Decimal.printInt
  split
  · exact List.not_mem_cons_of_ne_of_not_mem (by decide) (unopened_printNat _)
  · exact unopened_printNat _

/-- A piece in which no form begins is not taken for the form of a row. -/
theorem aside_delete {piece : Text} (separate : apart '<' 'f' piece = true) :
    aside deleteOpening piece = true :=
  (aside_apart separate : aside ('<' :: 'f' :: deleteOpening.drop 2) piece = true)

/-- Nothing in front of the form of a row looks like one. -/
theorem rowCells_aside (row : CachePageRow) : aside deleteOpening (rowCells row) = true := by
  have text : ∀ {piece : Text}, '<' ∉ piece → aside deleteOpening piece = true := aside_text
  have next : aside deleteOpening nextCell = true := aside_delete (by decide)
  have first : aside deleteOpening cellOpening = true := aside_delete (by decide)
  have last : aside deleteOpening lastCell = true := aside_delete (by decide)
  have cells := aside_append (aside_append first (text (unopened_h row.url))) next
  have sizes := aside_append (aside_append cells (text (unopened_printNat row.sizeBytes))) next
  have fetches := aside_append (aside_append sizes (text (unopened_h row.fetchedAtIso))) next
  have uses := aside_append (aside_append fetches (text (unopened_h row.lastUsedIso))) next
  exact aside_append (aside_append uses (text (unopened_printInt row.ttlRemainingSecs))) last

/-- A row has one form, and its field is the URL escaped. -/
theorem fields_row (row : CachePageRow) (rest : Text) :
    fields deleteOpening (cachePageRow row ++ rest) = h row.url :: fields deleteOpening rest := by
  have closes : aside deleteOpening rowClosing = true := aside_delete (by decide)
  have unbordered : aside deleteOpening deleteOpening.tail = true :=
    aside_delete (by decide)
  have read : fields deleteOpening (deleteOpening ++ h row.url ++ (rowClosing ++ rest)) =
      h row.url :: fields deleteOpening (rowClosing ++ rest) :=
    fields_field unbordered (unquoted_h row.url) (unopened_h row.url) rfl
  rw [cachePageRow, List.append_assoc, fields_aside (rowCells_aside row), List.append_assoc, read,
    fields_aside closes]

/-- The forms found in the rows are those of the rows, in their order. -/
theorem fields_rows (rows : List CachePageRow) (rest : Text) :
    fields deleteOpening (rows.flatMap cachePageRow ++ rest) =
      rows.map (fun row => h row.url) ++ fields deleteOpening rest := by
  induction rows with
  | nil => rfl
  | cons row rows inductionHypothesis =>
    rw [List.flatMap_cons, List.append_assoc, fields_row, inductionHypothesis]
    rfl

/-- How full the cache is contains no form of a row. -/
theorem cacheUse_aside (count totalBytes capBytes : Nat) :
    aside deleteOpening (cacheUse count totalBytes capBytes) = true := by
  have number : ∀ value, aside deleteOpening (Decimal.printNat value) = true :=
    fun value => aside_text (unopened_printNat value)
  have first : aside deleteOpening "<p>".toList = true := aside_delete (by decide)
  have second : aside deleteOpening " entries — ".toList = true := aside_delete (by decide)
  have third : aside deleteOpening " / ".toList = true := aside_delete (by decide)
  have last : aside deleteOpening " bytes used.</p>".toList = true :=
    aside_delete (by decide)
  have counted := aside_append (aside_append first (number count)) second
  have used := aside_append (aside_append counted (number totalBytes)) third
  exact aside_append (aside_append used (number capBytes)) last

/-- The forms of a page are those of its rows. -/
theorem fields_page {css : Text} (plain : '<' ∉ css) (rows : List CachePageRow)
    (totalBytes capBytes : Nat) :
    fields deleteOpening (cachePage css rows totalBytes capBytes) =
      rows.map fun row => h row.url := by
  have before : aside deleteOpening pageOpening = true := aside_delete (by decide)
  have style : aside deleteOpening css = true := aside_text plain
  have heading : aside deleteOpening styleClosing = true := aside_delete (by decide)
  have clear : aside deleteOpening clearForm = true := by decide
  have table : aside deleteOpening tableOpening = true := aside_delete (by decide +kernel)
  have foot : aside deleteOpening (tableClosing ++ pageClosing) = true :=
    aside_delete (by decide)
  have head := aside_append (aside_append before style) heading
  have body := aside_append (aside_append
    (cacheUse_aside rows.length totalBytes capBytes) clear) table
  have none : fields deleteOpening (tableClosing ++ pageClosing ++ []) = [] :=
    fields_aside foot []
  rw [List.append_nil] at none
  rw [cachePage, fields_aside head, cachePageBody, List.append_assoc, fields_aside body,
    List.append_assoc, fields_rows, none, List.append_nil]

end Reading

section Deleting

/-- The body a browser sends names the URL as it has been posted. -/
theorem deleteRequest_pressed (references : References) (url : Text) :
    deleteRequest (pressed references (h url)) = some (.cacheDelete (posted url)) := by
  have value : attributeValue references (h url) = (newlines false url).map visible := by
    have whole := value_h references (fun _ => (valueAfter_nil references _).trans
      (valueAfter_nil references false).symm) url
    rwa [List.append_nil, valueAfter_nil, List.append_nil] at whole
  have read := ofQuery_submitted (posted url)
  have found : parameter "url".toList (Query.parse (Query.field "url".toList (posted url))) =
      some (some (posted url)) := by
    obtain ⟨address, found, rest⟩ := Option.bind_eq_some_iff.mp read
    obtain ⟨_, _, same⟩ := Option.bind_eq_some_iff.mp rest
    cases same
    exact found
  rw [deleteRequest, cacheDeleteRequest, pressed, value]
  exact congrArg (Option.map Entry.cacheDelete) (congrArg Option.join found)

/-- The request makes one statement, which succeeds or fails. -/
theorem returns_cacheDelete {ctx : AppContext} {cache : Cache} (enabled : ctx.cache.isSome)
    {url : Text} {entries after : Entries} {page : Page} {events : List (Sigma Answer)} :
    Returns (logged (exec cache)) ((Entry.cacheDelete url).page ctx) (entries, []) page
        (after, events) ↔
      page = .redirectToCache ∧ ∃ executed, events = [⟨.delete url, executed⟩] ∧
        after = if executed then delete entries url else entries := by
  simp only [Entry.page, apiCacheDelete, enabled, if_true]
  constructor
  · intro returns
    obtain ⟨executed, ⟨later, log⟩, asked, done⟩ := returns_bind.mp returns
    obtain ⟨_, rfl, rfl⟩ := asked_returns asked
    obtain ⟨rfl, same⟩ := returns_done.mp done
    obtain ⟨rfl, rfl⟩ := Prod.mk.inj same
    exact ⟨rfl, executed, rfl, rfl⟩
  · rintro ⟨rfl, executed, rfl, rfl⟩
    have performed : exec cache (.delete url) executed entries =
        some (if executed then delete entries url else entries) := (exec_iff cache).mpr ⟨rfl, rfl⟩
    exact returns_bind.mpr ⟨executed, _, returns_logged_ask.mpr ⟨performed, rfl⟩, .done _ _⟩

/-- A deletion has failed. -/
def Undeleted (events : List (Sigma Answer)) : Prop :=
  ∃ url, (⟨.delete url, false⟩ : Sigma Answer) ∈ events

/-- Whatever the table is by then, the request deletes the row of the URL and no other, unless
the statement fails; then it deletes none. -/
def DeletesOnly (ctx : AppContext) (cache : Cache) (url : Text) (request : Entry) : Prop :=
  ∀ entries page after events,
    Returns (logged (exec cache)) (request.page ctx) (entries, []) page (after, events) →
      (Undeleted events → after = entries) ∧
      (¬ Undeleted events →
        ∀ other, after.lookup other = if other = url then none else entries.lookup other)

/-- A button works exactly if the browser sends the URL as it is stored. -/
theorem deletesOnly_iff {ctx : AppContext} {cache : Cache} (enabled : ctx.cache.isSome)
    (row : Row) : DeletesOnly ctx cache row.1 (.cacheDelete (posted row.1)) ↔
      '\x00' ∉ row.1 ∧ lineEnds row.1 = row.1 := by
  rw [← posted_eq_iff]
  constructor
  · intro deletes
    have gone := (deletes (AList.insert row.1 row.2 ∅) _ _ _
      ((returns_cacheDelete enabled).mpr ⟨rfl, true, rfl, rfl⟩)).2 (by simp [Undeleted]) row.1
    rw [if_pos rfl, lookup_delete, if_pos rfl] at gone
    by_contra different
    rw [if_neg (Ne.symm different), AList.lookup_insert] at gone
    exact absurd gone (by simp)
  · intro same entries page after events returns
    obtain ⟨_, executed, rfl, rfl⟩ := (returns_cacheDelete enabled).mp returns
    rw [same]
    cases executed with
    | false => exact ⟨fun _ => rfl, fun all => absurd ⟨_, List.mem_singleton.mpr rfl⟩ all⟩
    | true =>
      refine ⟨?_, fun _ other => lookup_delete entries row.1 other⟩
      rintro ⟨url, member⟩
      exact absurd member (by simp)

/-- A row that is not listed was used no later than each of two hundred that are. -/
theorem Recent.unlisted {entries : Entries} {listing : List Row} (recent : Recent entries listing)
    {url : Text} {row : CacheRow} (stored : entries.lookup url = some row)
    (absent : (⟨url, row⟩ : Row) ∉ listing) :
    listing.length = listLimit ∧ ∀ shown ∈ listing, row.lastUsed ≤ shown.2.lastUsed := by
  obtain ⟨sorted, perm, order, rfl⟩ := recent
  have inside : (⟨url, row⟩ : Row) ∈ sorted := perm.mem_iff.mpr (AList.mem_lookup_iff.mp stored)
  rw [← List.take_append_drop listLimit sorted] at inside order
  have dropped := (List.mem_append.mp inside).resolve_left absent
  have longer := List.length_pos_of_mem dropped
  rw [List.length_drop] at longer
  refine ⟨by rw [List.length_take]; omega, fun shown listed => ?_⟩
  exact (List.pairwise_append.mp order).2.2 shown listed _ dropped

/-- A row that is listed is stored. -/
theorem Recent.stored {entries : Entries} {listing : List Row} (recent : Recent entries listing)
    {row : Row} (listed : row ∈ listing) : entries.lookup row.1 = some row.2 := by
  obtain ⟨sorted, perm, _, rfl⟩ := recent
  exact AList.mem_lookup_iff.mpr (perm.mem_iff.mp (List.mem_of_mem_take listed))

/-- A row stays fresh for the seconds that the page shows. -/
theorem ttlRemaining_fresh {row : Row} {now later : Int} (after : now ≤ later)
    (within : later - now < ttlRemaining now (cacheEntry row) * nanosPerSec) :
    row.2.hit.isFresh later = true := by
  refine (Hit.isFresh_iff _ _).mpr ?_
  simp only [CacheRow.hit]
  by_cases fetched : (row.2.fetchedAt : Int) * nanosPerSec ≤ now
  · let left : Int := row.2.maxAge * nanosPerSec - (now - row.2.fetchedAt * nanosPerSec)
    have shown : ttlRemaining now (cacheEntry row) = max left 0 / nanosPerSec :=
      if_pos (Int.sub_nonneg.mpr fetched)
    have rounded : max left 0 / nanosPerSec * nanosPerSec ≤ max left 0 :=
      Int.ediv_mul_le _ (by decide)
    rw [shown] at within
    omega
  · have shown : ttlRemaining now (cacheEntry row) = 0 :=
      if_neg fun past => fetched (Int.sub_nonneg.mp past)
    rw [shown] at within
    omega

/-- The page has one button for each row listed, which are the rows used last. Pressed at any
later time, a button deletes its row and no other, exactly if the URL has no null character
and only the line ends of a form. A row is fresh for the time the page says it has left.

The forms in the markup are found again one for each row, with nothing between them. What is
posted has the line ends of a form and no null character, and a row is deleted by the URL that
arrives. -/
theorem cache_page_deletes (references : References) {css : Text} (plain : '<' ∉ css)
    (iso : Nat → Text) {ctx : AppContext} {cache : Cache} (enabled : ctx.cache = some cache)
    (now : Int) {entries : Entries} {listing : List Row}
    (recent : Recent entries listing) :
    (fields deleteOpening
        (cachePageHandler css iso ctx.cache now (listing.map cacheEntry))).map
      (fun source => deleteRequest (pressed references source)) =
        listing.map (fun row => some (.cacheDelete (posted row.1))) ∧
    (∀ row ∈ listing, entries.lookup row.1 = some row.2 ∧
      (DeletesOnly ctx cache row.1 (.cacheDelete (posted row.1)) ↔
        '\x00' ∉ row.1 ∧ lineEnds row.1 = row.1) ∧
      ∀ later : Int, now ≤ later →
        later - now < ttlRemaining now (cacheEntry row) * nanosPerSec →
          row.2.hit.isFresh later = true) ∧
    ∀ url row, entries.lookup url = some row → (⟨url, row⟩ : Row) ∉ listing →
      listing.length = listLimit ∧ ∀ shown ∈ listing, row.lastUsed ≤ shown.2.lastUsed := by
  have some : ctx.cache.isSome := by rw [enabled]; rfl
  refine ⟨?_, fun row listed => ⟨recent.stored listed, deletesOnly_iff some row,
    fun later => ttlRemaining_fresh⟩, fun url row stored absent => recent.unlisted stored absent⟩
  rw [enabled, cachePageHandler, fields_page plain, List.map_map, List.map_map, List.map_map]
  exact List.map_congr_left fun row _ => deleteRequest_pressed references row.1

/-- A page has been stored under an address with a line feed in it. -/
def brokenUrl : Text := "http://a.com/\n".toList

/-- A URL with a carriage return of its own is not deleted by its button. -/
theorem cache_page_deletes_sample :
    (fields deleteOpening (cachePageHandler [] (fun _ => []) sampleContext.cache 0
        [cacheEntry ⟨brokenUrl, sampleStored 'A' 60 0⟩])).map
      (fun source => deleteRequest (pressed onlyEscapes source)) =
        [some (.cacheDelete (posted brokenUrl))] ∧
    ¬ DeletesOnly sampleContext sampleCache brokenUrl (.cacheDelete (posted brokenUrl)) := by
  let row : Row := ⟨brokenUrl, sampleStored 'A' 60 0⟩
  have recent : Recent (AList.insert row.1 row.2 ∅) [row] :=
    ⟨[row], List.Perm.refl _, List.pairwise_singleton _ _, rfl⟩
  obtain ⟨buttons, rows, _⟩ := cache_page_deletes onlyEscapes List.not_mem_nil (fun _ => [])
    (rfl : sampleContext.cache = some sampleCache) 0 recent
  refine ⟨buttons, fun deletes => ?_⟩
  obtain ⟨_, ends⟩ := (rows row List.mem_cons_self).2.1.mp deletes
  exact absurd ends (by decide)

end Deleting

end PacketBrowser.Browse
