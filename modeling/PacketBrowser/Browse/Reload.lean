import PacketBrowser.Browse.Rewrite
import PacketBrowser.Browse.Visits

/-!
# What the page shown asks for again

The header of a page contains the address of the page twice: in a link that reloads it, and
in a field that can be submitted. Both places escape what has a meaning in markup. The field
is submitted as a component of a query, but the link contains the address in the middle of
a query as it stands.

The link therefore leads to the same page exactly if nothing in its address has a meaning in
a query, and nothing in it is dropped from addresses. Links in the page itself are not
written in this way.
-/

namespace PacketBrowser.Browse

open Protocol Foundation Html Program

section Header

/-- What a character of the URL is written as in the page. -/
def escapeChar (c : Char) : Text :=
  if c = '&' then "&amp;".toList
  else if c = '<' then "&lt;".toList
  else if c = '>' then "&gt;".toList
  else if c = '"' then "&quot;".toList
  else if c = '\'' then "&#39;".toList
  else [c]

/-- The text escaped for markup. -/
def h (s : Text) : Text := s.flatMap escapeChar

/-- What stands in front of the address of the reload link. -/
def linkOpening : Text := "<a href=\"".toList

/-- What stands in front of the URL in the address field. -/
def fieldOpening : Text := "<input type=\"text\" name=\"url\" value=\"".toList

/-- The link of a page that reloads it. -/
def reloadLink (url : Text) : Text :=
  linkOpening ++ ("/browse?url=".toList ++ h url ++ "&amp;nocache=1".toList) ++
    "\" title=\"Bypass cache and refetch\">Reload</a>".toList

/-- The field of a page that shows its address. -/
def addressField (url : Text) : Text :=
  fieldOpening ++ h url ++
    ("\" placeholder=\"Enter a URL, e.g. https://example.com\"".toList ++
      " autocomplete=\"off\" autofocus>".toList)

/-- The request that following the link makes. -/
def reloadRequest (references : References) (url : Text) : Option BrowseParams := do
  let source ← quoted linkOpening (reloadLink url)
  let query ← requested browsePath (attributeValue references source)
  BrowseParams.ofQuery query

/-- The request that submitting the field unchanged makes. -/
def fieldRequest (references : References) (url : Text) : Option BrowseParams := do
  let source ← quoted fieldOpening (addressField url)
  BrowseParams.ofQuery (submitted "url".toList (attributeValue references source))

/-- Both ask for the page again, the link without the cache. -/
structure Reloads (references : References) (url : Text) : Prop where
  link : reloadRequest references url = some ⟨some url, some "1".toList⟩
  field : fieldRequest references url = some ⟨some url, none⟩

/-- Nothing in the address has a meaning in a query or is dropped from addresses. -/
structure Reloadable (url : Text) : Prop where
  undivided : '&' ∉ url
  uncut : '#' ∉ url
  whole : ∀ c ∈ url, broken c = false ∧ c ≠ '\x00'
  intact : Query.Intact url

/-- Some visit ends with a page for the address. -/
def Rendered (ctx : AppContext) (cache : Cache) (url : Text) : Prop :=
  ∃ visit earlier after rewritten etag ttlSecs,
    Visits ctx cache (fun _ _ => True) (visit :: earlier) after ∧ visit.request.url = url ∧
      visit.page = .browsePage rewritten url etag ttlSecs

end Header

section Escaping

variable (references : References)

/-- A character is written as its escape, or as itself if it is no ampersand. -/
theorem escapeChar_escapes (c : Char) :
    (c, escapeChar c) ∈ escapes ∨ (c ≠ '&' ∧ escapeChar c = [c]) := by
  unfold escapeChar
  split
  · rename_i same
    subst same
    exact Or.inl (by decide)
  · rename_i other
    repeat' split
    all_goals first
      | exact Or.inr ⟨other, rfl⟩
      | rename_i same
        subst same
        exact Or.inl (by decide)

/-- Nothing that is escaped closes the attribute it stands in. -/
theorem unquoted_h (url : Text) : '"' ∉ h url := by
  intro member
  obtain ⟨c, _, inside⟩ := List.mem_flatMap.mp member
  rcases escapeChar_escapes c with escape | ⟨_, own⟩
  · have clean : ∀ escape ∈ escapes, '"' ∉ escape.2 := by decide
    exact clean _ escape inside
  · rw [own, List.mem_singleton] at inside
    subst inside
    exact absurd own (by decide)

/-- The value of an address escaped, with something behind it. -/
theorem value_h {rest : Text}
    (ahead : ∀ after, valueAfter references after rest = valueAfter references false rest)
    (url : Text) : valueAfter references false (h url ++ rest) =
      (newlines false url).map visible ++ valueAfter references false rest :=
  value_escaped references escapeChar_escapes ahead false url

end Escaping

section Link

variable (references : References)

/-- What is left of an address in another one. -/
def carried (url : Text) : Text := tidy (fun c => !broken c) url

/-- What stands behind the name of the parameter. -/
def tail (url : Text) : Text := (carried url ++ "&nocache=1".toList).takeWhile (· != '#')

/-- What the browser reads the address of the reload link as. -/
theorem reload_value (url : Text) :
    attributeValue references ("/browse?url=".toList ++ h url ++ "&amp;nocache=1".toList) =
      "/browse?url=".toList ++ ((newlines false url).map visible ++ "&nocache=1".toList) := by
  have last : ∀ after, valueAfter references after "&amp;nocache=1".toList =
      "&nocache=1".toList := by
    intro after
    have read := value_reference references (by decide : ('&', "&amp;".toList) ∈ escapes) after
      "nocache=1".toList
    have own : attributeValue references "nocache=1".toList = "nocache=1".toList :=
      attributeValue_self references (settled_all (by decide))
    exact read.trans (congrArg ('&' :: ·) own)
  unfold attributeValue
  rw [List.append_assoc, value_text references (settled_all (by decide)), value_h references, last]
  intro after
  rw [last, last]

/-- What the browser asks for when the link is followed. -/
theorem reload_address (url : Text) :
    address ("/browse?url=".toList ++ ((newlines false url).map visible ++ "&nocache=1".toList)) =
      browsePath ++ '?' :: ("url=".toList ++ (carried url ++ "&nocache=1".toList)) := by
  have first : ("/browse?url=".toList).filter (fun c => !broken c) = "/browse?url=".toList := by
    decide
  have last : ("&nocache=1".toList).filter (fun c => !broken c) = "&nocache=1".toList := by decide
  have middle : ((newlines false url).map visible).filter (fun c => !broken c) = carried url :=
    tidy_newlines (by decide) (by decide) false url
  rw [address_eq, List.filter_append, List.filter_append, first, last, middle]
  · rfl
  · intro c found
    obtain rfl : c = '/' := by simpa using found.symm
    decide
  · intro c found
    rw [← List.append_assoc, List.getLast?_append] at found
    obtain rfl : '1' = c := Option.some.inj found
    decide

/-- The link asks with everything up to the fragment. -/
theorem reloadRequest_eq (url : Text) : reloadRequest references url =
    BrowseParams.ofQuery (Query.encodeQuery ("url=".toList ++ tail url)) := by
  have unquoted : '"' ∉ "/browse?url=".toList ++ h url ++ "&amp;nocache=1".toList := by
    simp only [List.mem_append, not_or]
    exact ⟨⟨by decide, unquoted_h url⟩, by decide⟩
  have source : quoted linkOpening (reloadLink url) =
      some ("/browse?url=".toList ++ h url ++ "&amp;nocache=1".toList) :=
    quoted_eq linkOpening unquoted rfl
  have query := requested_eq (reload_address url)
  have cut : ("url=".toList ++ (carried url ++ "&nocache=1".toList)).takeWhile (· != '#') =
      "url=".toList ++ tail url :=
    List.takeWhile_append_of_pos (List.all_eq_true.mp (by decide))
  rw [← reload_value references, cut] at query
  unfold reloadRequest
  rw [source, Option.bind_eq_bind, Option.bind_some, query]
  rfl

/-- What the link asks for, if it asks for a page at all. -/
theorem reloadRequest_url {url : Text} {params : BrowseParams}
    (request : reloadRequest references url = some params) :
    params.url = some (Query.decode ((tail url).takeWhile (· != '&'))) := by
  have name : Query.decode "url".toList = "url".toList := by decide
  obtain ⟨pairs, first⟩ : ∃ pairs, Query.parse (Query.encodeQuery ("url=".toList ++ tail url)) =
      (Query.decode "url".toList, Query.decode ((tail url).takeWhile (· != '&'))) :: pairs :=
    Query.parse_first (by decide : '=' ∉ "url".toList) (by decide) (tail url)
  rw [name] at first
  rw [reloadRequest_eq, BrowseParams.ofQuery, first] at request
  obtain ⟨found, read, rest⟩ := Option.bind_eq_some_iff.mp request
  obtain ⟨nocache, _, result⟩ := Option.bind_eq_some_iff.mp rest
  obtain rfl := Option.some.inj result
  exact parameter_first read

/-- An address without separators is asked for. -/
theorem reloadRequest_whole {url : Text} (undivided : '&' ∉ carried url)
    (uncut : '#' ∉ carried url) :
    reloadRequest references url =
      some ⟨some (Query.decode (carried url)), some "1".toList⟩ := by
  have all : tail url = carried url ++ '&' :: "nocache=1".toList := by
    apply List.takeWhile_eq_self_iff.mpr
    intro c inside
    rw [bne_iff_ne]
    rintro rfl
    rcases List.mem_append.mp inside with front | back
    · exact uncut front
    · exact absurd back (by decide)
  have first : Query.parse (Query.encodeQuery ("url=".toList ++ tail url)) =
      (Query.decode "url".toList, Query.decode (carried url)) ::
        Query.parse (Query.encodeQuery "nocache=1".toList) := by
    rw [all]
    exact Query.parse_fields (by decide : '=' ∉ "url".toList) (by decide) undivided
      "nocache=1".toList
  have second : Query.parse (Query.encodeQuery "nocache=1".toList) =
      [("nocache".toList, "1".toList)] := by decide
  have name : Query.decode "url".toList = "url".toList := by decide
  rw [reloadRequest_eq, BrowseParams.ofQuery, first, second, name]
  rfl

end Link

section Field

variable (references : References)

/-- The field submits its value without line ends. -/
theorem fieldRequest_eq (url : Text) : fieldRequest references url =
    some ⟨some (tidy (fun c => c != '\n' && c != '\r') url), none⟩ := by
  have source : quoted fieldOpening (addressField url) = some (h url) :=
    quoted_eq fieldOpening (unquoted_h url) rfl
  have value : attributeValue references (h url) = (newlines false url).map visible := by
    have nothing : ∀ after, valueAfter references after [] = valueAfter references false [] :=
      fun after => rfl
    have whole := value_h references nothing url
    rwa [List.append_nil, valueAfter_nil, List.append_nil] at whole
  unfold fieldRequest
  rw [source, Option.bind_eq_bind, Option.bind_some, value, submitted, line,
    tidy_newlines (by decide) (by decide)]
  exact ofQuery_submitted _

end Field

section Reloading

variable {references : References} {url : Text}

/-- A character that does not end the parameter. -/
def inner (c : Char) : Bool := c != '&' && c != '#'

/-- The parameter ends at the first separator. -/
theorem tail_inner (url : Text) :
    (tail url).takeWhile (· != '&') = (carried url).takeWhile inner := by
  have stops : ∀ front : Text,
      (front ++ "&nocache=1".toList).takeWhile inner = front.takeWhile inner := by
    intro front
    induction front with
    | nil => rfl
    | cons c rest inductionHypothesis =>
      rw [List.cons_append, List.takeWhile_cons, List.takeWhile_cons, inductionHypothesis]
  have both : ∀ text : Text,
      (text.takeWhile (· != '#')).takeWhile (· != '&') = text.takeWhile inner := by
    intro text
    have same : (fun c => decide ((c != '&') = true ∧ (c != '#') = true)) = inner := by
      funext c
      rw [Bool.decide_and, Bool.decide_coe, Bool.decide_coe]
      rfl
    rw [List.takeWhile_takeWhile, same]
  rw [tail, both, stops]

/-- A parameter with all ASCII characters of a text is the whole text. -/
theorem takeWhile_inner {text : Text}
    (same : Query.asciiCount (text.takeWhile inner) = Query.asciiCount text) :
    text.takeWhile inner = text := by
  have sum : Query.asciiCount (text.takeWhile inner ++ text.dropWhile inner) =
      Query.asciiCount (text.takeWhile inner) + Query.asciiCount (text.dropWhile inner) :=
    List.countP_append
  have whole := List.takeWhile_append_dropWhile (p := inner) (l := text)
  rw [whole] at sum
  cases behind : text.dropWhile inner with
  | nil => rwa [behind, List.append_nil] at whole
  | cons c rest =>
    -- the separator is an ASCII character
    have stops : inner c = false := by
      have stops := List.head?_dropWhile_not inner text
      simpa [behind] using stops
    have low : c.toNat < 0x80 := by
      simp only [inner, Bool.and_eq_false_iff, bne_eq_false_iff_eq] at stops
      rcases stops with rfl | rfl <;> decide
    rw [behind, Query.asciiCount_cons, if_pos low] at sum
    omega

/-- A link that asks for the same address carries the whole of it. -/
theorem reloadable_of_decode
    (same : Query.decode ((tail url).takeWhile (· != '&')) = url) : Reloadable url := by
  rw [tail_inner] at same
  have ascii : ∀ c, (!broken c) = false → c.toNat < 0x80 := by
    intro c dropped
    simp only [broken, Bool.not_eq_false', Bool.or_eq_true, beq_iff_eq] at dropped
    rcases dropped with (rfl | rfl) | rfl <;> decide
  obtain ⟨least, exactly⟩ := asciiCount_tidy ascii url
  -- nothing is lost on the way, since every loss costs ASCII characters
  have decoded := Query.asciiCount_decode ((carried url).takeWhile inner)
  have first : Query.asciiCount ((carried url).takeWhile inner) ≤ Query.asciiCount (carried url) :=
    (List.takeWhile_sublist inner).countP_le
  have second : Query.asciiCount (carried url) ≤ Query.asciiCount url := least
  rw [same] at decoded
  have kept : carried url = url := exactly (by
    show Query.asciiCount (carried url) = _
    omega)
  have inside : (carried url).takeWhile inner = carried url := takeWhile_inner (by omega)
  rw [inside, kept] at same
  rw [kept] at inside
  have each := (tidy_eq_iff _ url).mp kept
  have separators := List.takeWhile_eq_self_iff.mp inside
  constructor
  · exact fun member => absurd (separators _ member) (by decide)
  · exact fun member => absurd (separators _ member) (by decide)
  · exact fun c member => ⟨by simpa using (each c member).1, (each c member).2⟩
  · exact (Query.decode_eq_iff url).mp same

/-- A URL that survives the page is the one that is asked for again. -/
theorem reloads_of_reloadable (reloadable : Reloadable url) : Reloads references url := by
  have whole : carried url = url := by
    apply (tidy_eq_iff _ url).mpr
    intro c inside
    exact ⟨by simp [(reloadable.whole c inside).1], (reloadable.whole c inside).2⟩
  have line : tidy (fun c => c != '\n' && c != '\r') url = url := by
    apply (tidy_eq_iff _ url).mpr
    intro c inside
    obtain ⟨unbroken, null⟩ := reloadable.whole c inside
    simp only [broken, Bool.or_eq_false_iff, beq_eq_false_iff_ne] at unbroken
    exact ⟨by simp [unbroken.1.2, unbroken.2], null⟩
  constructor
  · rw [reloadRequest_whole references, whole, (Query.decode_eq_iff url).mpr reloadable.intact]
    · rw [whole]
      exact reloadable.undivided
    · rw [whole]
      exact reloadable.uncut
  · rw [fieldRequest_eq, line]

/-- The page shown is asked for again exactly if its address is reloadable.

The link carries the address up to what a request would cut off, and decoding this gives the
address back exactly if it is reloadable. -/
theorem reloads_iff (references : References) (url : Text) :
    Reloads references url ↔ Reloadable url := by
  constructor
  · intro reloads
    have url := reloadRequest_url references reloads.link
    exact reloadable_of_decode (Option.some.inj url).symm
  · exact reloads_of_reloadable

/-- An address with two parameters. -/
def dividedUrl : Text := "http://a.com/?x=1&y=2".toList

/-- Its page is fetched. -/
def dividedVisit : Visit where
  request := ⟨dividedUrl, none, false, none⟩
  events := [⟨.readConnectionState, .connected⟩, ⟨.lookup dividedUrl, none⟩,
    ⟨.lookup dividedUrl, none⟩, ⟨.exchange (.get dividedUrl none), sampleResponse .ok 'A' 60⟩,
    ⟨.systemTime, 0⟩, ⟨.write dividedUrl (sampleStored 'A' 60 0),
      some ⟨1, [⟨dividedUrl, sampleStored 'A' 60 0⟩], []⟩⟩]
  page := .browsePage ['A'] dividedUrl (sampleEtag 'A') 60

/-- The page of such an address is shown, and its link asks for another one. -/
theorem reload_divides : Rendered sampleContext sampleCache dividedUrl ∧
    ¬ Reloads onlyEscapes dividedUrl := by
  constructor
  · obtain ⟨after, enacted⟩ : ∃ after, enactVisits sampleContext sampleCache (fun _ _ => true)
        [dividedVisit] = some after := Option.isSome_iff_exists.mp (by decide)
    exact ⟨dividedVisit, [], after, ['A'], sampleEtag 'A', 60,
      enactVisits_visits (fun _ _ _ => trivial) enacted, rfl, rfl⟩
  · intro reloads
    have url := reloadRequest_url onlyEscapes reloads.link
    have reloadable := reloadable_of_decode (Option.some.inj url).symm
    exact reloadable.undivided (by decide)

end Reloading

end PacketBrowser.Browse
