import PacketBrowser.Foundation.Html
import PacketBrowser.Protocol.Message

/-!
# Where the links of a page lead

The links of a page are rewritten so that they ask the client for their targets. The
rewriter is handed the source of an attribute as it stands in the page, references and all,
trims it, resolves it against the address of the page and submits the result as a component
of a query. A browser resolves the references first.

Following the rewritten link undoes everything the rewriter has done, so the target of a
link is kept exactly if its source and its value resolve to the same address. This fails
where a reference belongs to the address, as in every query of several parameters.

The resolution against an address is a parameter. So is what removing an attribute takes from
an element that has several of the name, which the documentation of the rewriter leaves open.
-/

namespace PacketBrowser.Browse

open Protocol Foundation Html

section Requests

/-- The parameters of a browse request. -/
structure BrowseParams where
  url : Option Text
  nocache : Option Text
  deriving DecidableEq, Repr

/-- The value of a name. A name may not appear twice. -/
def parameter (name : Text) (pairs : List (Text × Text)) : Option (Option Text) :=
  match pairs.filter fun pair => pair.1 = name with
  | [] => some none
  | [pair] => some (some pair.2)
  | _ => none

/-- The parameters in a query string. -/
def BrowseParams.ofQuery (query : Text) : Option BrowseParams := do
  let url ← parameter "url".toList (Query.parse query)
  let nocache ← parameter "nocache".toList (Query.parse query)
  return ⟨url, nocache⟩

/-- The path under which pages are browsed. -/
def browsePath : Text := "/browse".toList

/-- A parameter that is there once has its value. -/
theorem parameter_first {name value : Text} {pairs : List (Text × Text)} {found : Option Text}
    (read : parameter name ((name, value) :: pairs) = some found) : found = some value := by
  unfold parameter at read
  rw [List.filter_cons_of_pos (by simp)] at read
  cases others : pairs.filter fun pair => pair.1 = name with
  | nil =>
    rw [others] at read
    exact (Option.some.inj read).symm
  | cons pair rest =>
    rw [others] at read
    exact absurd read (by simp)

/-- A query that names nothing but the address. -/
theorem ofQuery_url {query url : Text} (pairs : Query.parse query = [("url".toList, url)]) :
    BrowseParams.ofQuery query = some ⟨some url, none⟩ := by
  have first : parameter "url".toList [("url".toList, url)] = some (some url) := rfl
  have second : parameter "nocache".toList [("url".toList, url)] = some none := rfl
  unfold BrowseParams.ofQuery
  rw [pairs, first, second]
  rfl

/-- What a form writes contains no separator. -/
theorem separators_encode (text : Text) {separator : Char}
    (taken : Query.unreserved separator = false) (plus : separator ≠ '+') (sign : separator ≠ '%') :
    separator ∉ Query.encode text := by
  intro member
  rcases Query.mem_encode member with free | same | same
  · exact absurd free (by simp [taken])
  · exact plus same
  · exact sign same

/-- What a form writes for an address is read back from a link. -/
theorem ofQuery_field (url : Text) :
    BrowseParams.ofQuery (Query.encodeQuery (Query.field "url".toList url)) =
      some ⟨some url, none⟩ := by
  apply ofQuery_url
  rw [Query.field, Query.parse_field, Query.decode_encode, Query.decode_encode]
  · exact separators_encode _ (by decide) (by decide) (by decide)
  · exact separators_encode _ (by decide) (by decide) (by decide)
  · exact separators_encode _ (by decide) (by decide) (by decide)

/-- The same from a form. -/
theorem ofQuery_submitted (url : Text) :
    BrowseParams.ofQuery (Query.field "url".toList url) = some ⟨some url, none⟩ := by
  have apart : '=' ∉ Query.encode "url".toList :=
    separators_encode _ (by decide) (by decide) (by decide)
  have alone : '&' ∉ Query.field "url".toList url := by
    simp only [Query.field, List.mem_append, List.mem_cons, not_or]
    refine ⟨?_, by decide, ?_⟩
    · exact separators_encode _ (by decide) (by decide) (by decide)
    · exact separators_encode _ (by decide) (by decide) (by decide)
  apply ofQuery_url
  rw [Query.parse_single (by simp [Query.field]) alone, Query.field, Query.pair_field apart,
    Query.decode_encode, Query.decode_encode]

end Requests

section Attributes

/-- The attributes of an element, with their sources. -/
abbrev Attributes := List (Text × Text)

/-- The values of all attributes of a name. -/
def values (attributes : Attributes) (name : Text) : List Text :=
  (attributes.filter fun entry => entry.1 = name).map Prod.snd

/-- Of several attributes of a name the first one counts, as for a browser. -/
def getAttribute (attributes : Attributes) (name : Text) : Option Text :=
  (attributes.find? fun entry => entry.1 = name).map Prod.snd

/-- Change the value of a name, or add it. -/
def setAttribute (name value : Text) : Attributes → Attributes
  | [] => [(name, value)]
  | entry :: rest =>
    if entry.1 = name then (name, value) :: rest
    else entry :: setAttribute name value rest

/-- What removing an attribute takes from an element with several of the name. -/
inductive Removal where
  | every
  | first
  deriving DecidableEq

/-- Remove the attribute of a name. -/
def removeAttribute (removal : Removal) (attributes : Attributes) (name : Text) : Attributes :=
  match removal with
  | .every => attributes.filter fun entry => entry.1 ≠ name
  | .first => attributes.eraseP fun entry => entry.1 = name

/-- The values that are left of a name when it is removed once. -/
def Removal.rest : Removal → List Text → List Text
  | .every, _ => []
  | .first, values => values.tail

/-- An attribute that has been set, as it is written between double quotes. -/
def written (value : Text) : Text :=
  value.flatMap fun c => if c = '"' then "&quot;".toList else [c]

/-- An attribute that is set has that value. -/
theorem getAttribute_set (attributes : Attributes) (name value : Text) :
    getAttribute (setAttribute name value attributes) name = some value := by
  induction attributes with
  | nil => simp [getAttribute, setAttribute]
  | cons entry rest inductionHypothesis =>
    unfold setAttribute
    split
    · simp [getAttribute]
    · rename_i other
      have skipped : getAttribute (entry :: setAttribute name value rest) name =
          getAttribute (setAttribute name value rest) name := by
        simp [getAttribute, other]
      rw [skipped, inductionHypothesis]

/-- The first attribute of a name is the one that counts. -/
theorem getAttribute_cons (entry : Text × Text) (rest : Attributes) (name : Text) :
    getAttribute (entry :: rest) name =
      if entry.1 = name then some entry.2 else getAttribute rest name := by
  unfold getAttribute
  by_cases here : entry.1 = name
  · simp [here]
  · simp [here]

/-- Setting an attribute leaves the others. -/
theorem getAttribute_set_other {name other : Text} (different : other ≠ name)
    (attributes : Attributes) (value : Text) :
    getAttribute (setAttribute other value attributes) name = getAttribute attributes name := by
  induction attributes with
  | nil => simp [setAttribute, getAttribute, different]
  | cons entry rest inductionHypothesis =>
    unfold setAttribute
    split
    · rename_i same
      rw [getAttribute_cons, getAttribute_cons, if_neg different, same, if_neg different]
    · rw [getAttribute_cons, getAttribute_cons, inductionHypothesis]

/-- The first value is the one that counts. -/
theorem getAttribute_head (attributes : Attributes) (name : Text) :
    getAttribute attributes name = (values attributes name).head? := by
  induction attributes with
  | nil => rfl
  | cons entry rest inductionHypothesis =>
    rw [getAttribute_cons, inductionHypothesis]
    by_cases here : entry.1 = name <;> simp [values, here]

/-- Setting one name leaves the values of the others. -/
theorem values_set_other {name other : Text} (different : other ≠ name)
    (attributes : Attributes) (value : Text) :
    values (setAttribute other value attributes) name = values attributes name := by
  induction attributes with
  | nil => simp [setAttribute, values, different]
  | cons entry rest inductionHypothesis =>
    unfold setAttribute
    split
    · rename_i same
      simp [values, same, different]
    · by_cases here : entry.1 = name
      · simpa [values, here] using inductionHypothesis
      · simpa [values, here] using inductionHypothesis

/-- Removing one name takes from its values, and leaves those of the others. -/
theorem values_remove (removal : Removal) (attributes : Attributes) (name field : Text) :
    values (removeAttribute removal attributes name) field =
      if name = field then removal.rest (values attributes field) else values attributes field := by
  cases removal with
  | every =>
    unfold removeAttribute values
    rw [List.filter_filter]
    split
    · rename_i same
      subst same
      simp [Removal.rest]
    · rename_i other
      congr 2
      funext entry
      by_cases here : entry.1 = field
      · simp [here, Ne.symm other]
      · simp [here]
  | first =>
    unfold removeAttribute
    induction attributes with
    | nil => simp [values, Removal.rest]
    | cons entry rest inductionHypothesis =>
      by_cases here : entry.1 = name
      · subst here
        by_cases same : entry.1 = field
        · simp [values, same, Removal.rest]
        · simp [values, same]
      · have behind : List.eraseP (fun entry => decide (entry.1 = name)) (entry :: rest) =
            entry :: List.eraseP (fun entry => decide (entry.1 = name)) rest :=
          List.eraseP_cons_of_neg (by simpa using here)
        rw [behind]
        by_cases same : entry.1 = field
        · have other : name ≠ field := fun equal => here (same.trans equal.symm)
          simpa [values, same, other] using inductionHypothesis
        · simpa [values, same] using inductionHypothesis

/-- An attribute is absent if no entry has its name. -/
theorem getAttribute_none {attributes : Attributes} {name : Text} :
    getAttribute attributes name = none ↔ name ∉ attributes.map Prod.fst := by
  induction attributes with
  | nil => simp [getAttribute]
  | cons entry rest inductionHypothesis =>
    rw [getAttribute_cons, List.map_cons, List.mem_cons, not_or, ← inductionHypothesis]
    by_cases here : entry.1 = name
    · simp [here]
    · simp [here, Ne.symm here]

end Attributes

section Rewriting

/-- What a link may not begin with. -/
def refused : List Text :=
  ["javascript:".toList, "data:".toList, "mailto:".toList, "tel:".toList]

/-- Where a link or a form leads from now on. None drops it. -/
def buildProxyUrl (join : Text → Option Text) (url : Text) : Option Text :=
  let trimmed := Text.trim url
  if trimmed = [] ∨ ∃ scheme ∈ refused, scheme.isPrefixOf trimmed then none
  else if trimmed.head? = some '#' then some trimmed
  else (join trimmed).map fun resolved =>
    browsePath ++ '?' :: Query.field "url".toList resolved

/-- The handler of links. -/
def rewriteAnchor (join : Text → Option Text) (attributes : Attributes) : Attributes :=
  match getAttribute attributes "href".toList with
  | none => attributes
  | some href => setAttribute "href".toList ((buildProxyUrl join href).getD ['#']) attributes

/-- Attributes that hold addresses. -/
def addressed : List Text :=
  ["src".toList, "href".toList, "action".toList, "formaction".toList, "background".toList,
    "poster".toList]

/-- The value is the address of a script. -/
def scripted (value : Text) : Bool :=
  "javascript:".toList.isPrefixOf (Text.toAsciiLowercase (value.dropWhile Text.whitespace))

/-- The handler of all elements, for one attribute. -/
def scrubAttribute (removal : Removal) (attributes : Attributes) (name : Text) : Attributes :=
  if "on".toList.isPrefixOf name then removeAttribute removal attributes name
  else if name ∈ addressed ∧ (getAttribute attributes name).any scripted then
    removeAttribute removal attributes name
  else attributes

/-- The handler goes through the names that the element has at first. -/
def scrub (removal : Removal) (attributes : Attributes) : Attributes :=
  (attributes.map Prod.fst).foldl (scrubAttribute removal) attributes

/-- The handlers that apply to a link. -/
def rewriteLink (removal : Removal) (join : Text → Option Text) (attributes : Attributes) :
    Attributes :=
  scrub removal (rewriteAnchor join attributes)

/-- The request that following a rewritten link makes. -/
def followed (references : References) (attributes : Attributes) : Option BrowseParams := do
  let href ← getAttribute attributes "href".toList
  let query ← requested browsePath (attributeValue references (written href))
  BrowseParams.ofQuery query

end Rewriting

section Targets

variable (references : References) (removal : Removal) (join : Text → Option Text)

/-- A value that is not empty, not a fragment and not refused. -/
structure Ordinary (value : Text) : Prop where
  nonempty : value ≠ []
  other : value.head? ≠ some '#'
  web : ∀ scheme ∈ refused, ¬ scheme <+: value

/-- A link with a target asks for its target. -/
def KeepsTarget (attributes : Attributes) : Prop :=
  ∀ source target, getAttribute attributes "href".toList = some source →
    Ordinary (attributeValue references source) →
    join (Text.trim (attributeValue references source)) = some target →
    ∃ params, followed references (rewriteLink removal join attributes) = some params ∧
      params.url = some target

/-- A link with a target has the same target without its references resolved. -/
def ReadsAlike (attributes : Attributes) : Prop :=
  ∀ source target, getAttribute attributes "href".toList = some source →
    Ordinary (attributeValue references source) →
    join (Text.trim (attributeValue references source)) = some target →
    Ordinary (Text.trim source) ∧ join (Text.trim source) = some target

variable {references removal join}

/-- A link without a meaning in markup is written as it is. -/
theorem written_self {value : Text} (neutral : ∀ c ∈ value, Neutral c) : written value = value := by
  induction value with
  | nil => rfl
  | cons c rest inductionHypothesis =>
    have first : written (c :: rest) =
        (if c = '"' then "&quot;".toList else [c]) ++ written rest := rfl
    rw [first, if_neg (neutral c List.mem_cons_self).unquoted,
      inductionHypothesis fun d inside => neutral d (List.mem_cons_of_mem c inside)]
    rfl

/-- What the scrubbing leaves of an attribute. -/
def scrubbed (name value : Text) : Bool :=
  !("on".toList.isPrefixOf name || (decide (name ∈ addressed) && scripted value))

/-- What a look at a name leaves of its values, if the first one has to be kept or not. -/
def Removal.look (removal : Removal) (kept : Text → Bool) : List Text → List Text
  | [] => []
  | value :: later => if kept value then value :: later else removal.rest (value :: later)

/-- The value that is read after as many looks at a name as it has values. -/
def Removal.left (removal : Removal) (kept : Text → Bool) (values : List Text) : Option Text :=
  match removal with
  | .every => values.head?.filter kept
  | .first => values.find? kept

/-- A first value that is kept is left. -/
theorem left_head {kept : Text → Bool} {values : List Text} {value : Text}
    (head : values.head? = some value) (keeps : kept value = true) :
    removal.left kept values = some value := by
  obtain ⟨later, rfl⟩ := List.head?_eq_some_iff.mp head
  cases removal <;> simp [Removal.left, keeps]

/-- A value that is left is kept. -/
theorem kept_left {kept : Text → Bool} {values : List Text} {value : Text}
    (left : removal.left kept values = some value) : kept value = true := by
  cases removal with
  | every => exact (Option.filter_eq_some_iff.mp left).2
  | first => exact List.find?_some left

/-- Where a value is left there was a first one. -/
theorem left_some {kept : Text → Bool} {values : List Text} {value : Text}
    (left : removal.left kept values = some value) : ∃ first, values.head? = some first := by
  cases values with
  | nil => cases removal <;> cases left
  | cons first later => exact ⟨first, rfl⟩

/-- Each look finds the next value, or the one that stays. -/
theorem look_left (kept : Text → Bool) (values : List Text) :
    ((removal.look kept)^[values.length] values).head? = removal.left kept values := by
  induction values with
  | nil => cases removal <;> rfl
  | cons value later inductionHypothesis =>
    by_cases keeps : kept value = true
    · have fixed : removal.look kept (value :: later) = value :: later := if_pos keeps
      rw [Function.iterate_fixed fixed, left_head rfl keeps]
      rfl
    · rw [List.length_cons, Function.iterate_succ_apply]
      have taken : removal.look kept (value :: later) = removal.rest (value :: later) :=
        if_neg keeps
      rw [taken]
      cases removal with
      | every =>
        have empty : Removal.every.look kept [] = [] := rfl
        simp [Removal.rest, Removal.left, Function.iterate_fixed empty, Option.filter_some, keeps]
      | first => simpa [Removal.rest, Removal.left, keeps] using inductionHypothesis

/-- One step of the scrubbing looks at one attribute. -/
theorem values_scrubAttribute (attributes : Attributes) (name field : Text) :
    values (scrubAttribute removal attributes name) field =
      if name = field then removal.look (scrubbed field) (values attributes field)
      else values attributes field := by
  unfold scrubAttribute
  by_cases same : name = field
  · subst same
    rw [if_pos rfl, getAttribute_head]
    cases found : values attributes name with
    | nil =>
      have nothing : removal.rest [] = [] := by cases removal <;> rfl
      split
      · rw [values_remove, if_pos rfl, found, nothing]
        rfl
      · rw [if_neg (by simp), found]
        rfl
    | cons value later =>
      have whole : removal.look (scrubbed name) (value :: later) =
          if "on".toList.isPrefixOf name = true then removal.rest (value :: later)
          else if name ∈ addressed ∧ scripted value = true then removal.rest (value :: later)
          else value :: later := by
        unfold Removal.look scrubbed
        by_cases handler : "on".toList.isPrefixOf name = true
        · simp only [handler, Bool.true_or, Bool.not_true, Bool.false_eq_true, if_false, if_true]
        · by_cases script : name ∈ addressed ∧ scripted value = true
          · simp only [handler, script.1, script.2, decide_true, Bool.and_self, Bool.or_true,
              Bool.not_true, Bool.false_eq_true, if_false, and_self, if_true]
          · have other : (decide (name ∈ addressed) && scripted value) = false := by
              apply Bool.eq_false_iff.mpr
              rwa [ne_eq, Bool.and_eq_true, decide_eq_true_eq]
            simp only [handler, other, Bool.or_false, Bool.not_false, if_true, if_neg script,
              Bool.false_eq_true, if_false]
      rw [whole, List.head?_cons, Option.any_some]
      split_ifs
      · rw [values_remove, if_pos rfl, found]
      · rw [values_remove, if_pos rfl, found]
      · exact found
  · rw [if_neg same]
    split_ifs
    · rw [values_remove, if_neg same]
    · rw [values_remove, if_neg same]
    · rfl

/-- The scrubbing looks at a name as often as it occurs. -/
theorem values_scrub (attributes : Attributes) (field : Text) :
    values (scrub removal attributes) field =
      (removal.look (scrubbed field))^[(values attributes field).length]
        (values attributes field) := by
  have each : ∀ (names : List Text) (attributes : Attributes),
      values (names.foldl (scrubAttribute removal) attributes) field =
        (removal.look (scrubbed field))^[names.count field] (values attributes field) := by
    intro names
    induction names with
    | nil => exact fun attributes => rfl
    | cons name names inductionHypothesis =>
      intro attributes
      rw [List.foldl_cons, inductionHypothesis, values_scrubAttribute]
      by_cases same : name = field
      · subst same
        rw [if_pos rfl, List.count_cons_self, Function.iterate_succ_apply]
      · rw [if_neg same, List.count_cons_of_ne same]
  have often : (attributes.map Prod.fst).count field = (values attributes field).length := by
    unfold values
    rw [List.length_map, List.count, List.countP_map, ← List.countP_eq_length_filter]
    apply List.countP_congr
    intro entry _
    exact beq_iff_eq.trans decide_eq_true_iff.symm
  unfold scrub
  rw [each, often]

/-- The scrubbing leaves the value that it need not remove, if there is one. -/
theorem getAttribute_scrub (attributes : Attributes) (field : Text) :
    getAttribute (scrub removal attributes) field =
      removal.left (scrubbed field) (values attributes field) := by
  rw [getAttribute_head, values_scrub, look_left]

/-- What does not begin with the letter of the scheme is no script. -/
theorem scripted_cons {c : Char} (seen : Text.whitespace c = false) (other : c.toLower ≠ 'j')
    (rest : Text) : scripted (c :: rest) = false := by
  unfold scripted
  rw [List.dropWhile_cons_of_neg (by simp [seen])]
  simp [Text.toAsciiLowercase, List.isPrefixOf, Ne.symm other]

/-- A link that is ordinary once trimmed is resolved. -/
theorem buildProxyUrl_ordinary (join : Text → Option Text) {url : Text}
    (ordinary : Ordinary (Text.trim url)) :
    buildProxyUrl join url = (join (Text.trim url)).map fun resolved =>
      browsePath ++ '?' :: Query.field "url".toList resolved := by
  have accepted : ¬ (Text.trim url = [] ∨
      ∃ scheme ∈ refused, scheme.isPrefixOf (Text.trim url) = true) := by
    rintro (nothing | ⟨scheme, member, found⟩)
    · exact ordinary.nonempty nothing
    · exact ordinary.web scheme member (List.isPrefixOf_iff_prefix.mp found)
  rw [buildProxyUrl, if_neg accepted, if_neg ordinary.other]

/-- Any other is dropped, or is the fragment it was. -/
theorem buildProxyUrl_other (join : Text → Option Text) {url : Text}
    (other : ¬ Ordinary (Text.trim url)) :
    ∃ rest, (buildProxyUrl join url).getD ['#'] = '#' :: rest := by
  unfold buildProxyUrl
  dsimp only
  split
  · exact ⟨[], rfl⟩
  · rename_i accepted
    split
    · rename_i fragment
      obtain ⟨rest, same⟩ := List.head?_eq_some_iff.mp fragment
      exact ⟨rest, same⟩
    · rename_i whole
      have ordinary : Ordinary (Text.trim url) := by
        constructor
        · exact fun nothing => accepted (Or.inl nothing)
        · exact whole
        · intro scheme member found
          exact accepted (Or.inr ⟨scheme, member, List.isPrefixOf_iff_prefix.mpr found⟩)
      exact absurd ordinary other

/-- Nothing has a meaning in markup where a rewritten link leads. -/
theorem neutral_proxied (resolved : Text) :
    ∀ c ∈ browsePath ++ '?' :: Query.field "url".toList resolved, Neutral c := by
  have path : ∀ c ∈ browsePath, (Query.unreserved c || c == '/') = true :=
    List.all_eq_true.mp (by decide)
  intro c member
  simp only [Query.field, List.mem_append, List.mem_cons] at member
  rcases member with inside | rfl | name | rfl | value
  · rcases Bool.or_eq_true_iff.mp (path c inside) with free | slash
    · exact neutral_unreserved free
    · obtain rfl := beq_iff_eq.mp slash
      exact ⟨by decide, by decide, by decide, by decide, by decide⟩
  · exact ⟨by decide, by decide, by decide, by decide, by decide⟩
  · exact neutral_encode name
  · exact ⟨by decide, by decide, by decide, by decide, by decide⟩
  · exact neutral_encode value

/-- A rewritten link is read as it was set. -/
theorem attributeValue_proxied (references : References) (resolved : Text) :
    attributeValue references
        (written (browsePath ++ '?' :: Query.field "url".toList resolved)) =
      browsePath ++ '?' :: Query.field "url".toList resolved := by
  have neutral := neutral_proxied resolved
  rw [written_self neutral]
  exact attributeValue_self references fun c inside => (neutral c inside).settled

/-- A fragment that was set is read as a fragment. -/
theorem attributeValue_fragment (references : References) (rest : Text) :
    attributeValue references (written ('#' :: rest)) =
      '#' :: attributeValue references (written rest) :=
  value_settled references (by decide) false (written rest)

/-- Following a rewritten link asks for what the link has been resolved to. -/
theorem followed_link {attributes : Attributes} (resolved : Text)
    (has : getAttribute attributes "href".toList =
      some (browsePath ++ '?' :: Query.field "url".toList resolved)) :
    followed references attributes = some ⟨some resolved, none⟩ := by
  have neutral := neutral_proxied resolved
  have uncut : (Query.field "url".toList resolved).takeWhile (· != '#') =
      Query.field "url".toList resolved := by
    apply List.takeWhile_eq_self_iff.mpr
    intro c inside
    have behind := List.mem_append_right browsePath (List.mem_cons_of_mem '?' inside)
    exact bne_iff_ne.mpr (neutral c behind).inside
  unfold followed
  rw [has, Option.bind_eq_bind, Option.bind_some, attributeValue_proxied,
    requested_eq (address_self neutral), uncut]
  exact ofQuery_field resolved

/-- Following a fragment asks for nothing. -/
theorem followed_fragment {attributes : Attributes} (rest : Text)
    (has : getAttribute attributes "href".toList = some ('#' :: rest)) :
    followed references attributes = none := by
  have nothing : requested browsePath ('#' :: attributeValue references (written rest)) = none :=
    requested_other (by decide) (by decide) (by decide) _
  unfold followed
  rw [has, Option.bind_eq_bind, Option.bind_some, attributeValue_fragment, nothing]
  rfl

section Links

variable {attributes : Attributes} {source : Text}

/-- The handlers leave the link as the first of them has set it. -/
theorem getAttribute_rewriteLink (has : getAttribute attributes "href".toList = some source)
    {href : Text} (rewritten : (buildProxyUrl join source).getD ['#'] = href)
    (harmless : scripted href = false) :
    getAttribute (rewriteLink removal join attributes) "href".toList = some href := by
  have kept : scrubbed "href".toList href = true := by
    simp only [scrubbed, harmless]
    decide
  have set : getAttribute (rewriteAnchor join attributes) "href".toList = some href := by
    rw [rewriteAnchor, has, ← rewritten]
    exact getAttribute_set attributes _ _
  rw [rewriteLink, getAttribute_scrub]
  exact left_head (getAttribute_head _ _ ▸ set) kept

/-- The request for an ordinary link is for the target of its source. -/
theorem followed_ordinary (has : getAttribute attributes "href".toList = some source)
    (ordinary : Ordinary (Text.trim source)) :
    followed references (rewriteLink removal join attributes) =
      (join (Text.trim source)).map fun resolved => ⟨some resolved, none⟩ := by
  have rewritten := buildProxyUrl_ordinary join ordinary
  cases resolved : join (Text.trim source) with
  | none =>
    rw [resolved] at rewritten
    apply followed_fragment []
    exact getAttribute_rewriteLink has (by rw [rewritten]; rfl) (by decide)
  | some target =>
    rw [resolved] at rewritten
    apply followed_link target
    apply getAttribute_rewriteLink has (by rw [rewritten]; rfl)
    exact scripted_cons (by decide) (by decide) _

/-- Any other link makes no request. -/
theorem followed_other (has : getAttribute attributes "href".toList = some source)
    (other : ¬ Ordinary (Text.trim source)) :
    followed references (rewriteLink removal join attributes) = none := by
  obtain ⟨rest, rewritten⟩ := buildProxyUrl_other join other
  apply followed_fragment rest
  exact getAttribute_rewriteLink has rewritten (scripted_cons (by decide) (by decide) rest)

end Links

/-- A link is kept exactly if its references do not matter for its target. This is about links
that stay in the page: one within an element that `rewrite_html` removes goes with it.

A link that is rewritten asks for its own text as a browser reads it, which is the address it
stands for exactly if the references do not matter. -/
theorem links_kept_iff (references : References) (removal : Removal)
    (join : Text → Option Text) (attributes : Attributes) :
    KeepsTarget references removal join attributes ↔ ReadsAlike references join attributes := by
  constructor
  · intro keeps source target has ordinary resolves
    obtain ⟨params, request, url⟩ := keeps source target has ordinary resolves
    by_cases trimmed : Ordinary (Text.trim source)
    · rw [followed_ordinary has trimmed] at request
      obtain ⟨resolved, own, rfl⟩ := Option.map_eq_some_iff.mp request
      obtain rfl := Option.some.inj url
      exact ⟨trimmed, own⟩
    · rw [followed_other has trimmed] at request
      exact absurd request (by simp)
  · intro alike source target has ordinary resolves
    obtain ⟨trimmed, own⟩ := alike source target has ordinary resolves
    refine ⟨⟨some target, none⟩, ?_, rfl⟩
    rw [followed_ordinary has trimmed, own]
    rfl

/-- A base address without a path, and links that begin with a slash. -/
def joinSite (url : Text) : Option Text :=
  if url.head? = some '/' then some ("https://example.com".toList ++ url) else none

/-- A link with two parameters, as a page is written. -/
def twoParameters : Attributes := [("href".toList, "/p?a=1&amp;b=2".toList)]

/-- The second parameter is asked for under another name. -/
theorem link_lost : ¬ ∃ removal, KeepsTarget onlyEscapes removal joinSite twoParameters := by
  rintro ⟨removal, keeps⟩
  have read : attributeValue onlyEscapes "/p?a=1&amp;b=2".toList = "/p?a=1&b=2".toList := by decide
  have ordinary : Ordinary "/p?a=1&b=2".toList := ⟨by decide, by decide, by decide⟩
  obtain ⟨params, request, url⟩ := keeps _ "https://example.com/p?a=1&b=2".toList rfl
    (read ▸ ordinary) (by rw [read]; decide)
  have trimmed : Ordinary (Text.trim "/p?a=1&amp;b=2".toList) := ⟨by decide, by decide, by decide⟩
  rw [followed_ordinary rfl trimmed] at request
  obtain ⟨resolved, own, rfl⟩ := Option.map_eq_some_iff.mp request
  obtain rfl := Option.some.inj url
  exact absurd own (by decide)

end Targets

end PacketBrowser.Browse
