import PacketBrowser.Browse.Rewrite

/-!
# What is left of a page

A page is a tree of elements. Five handlers look at each element, one after the other: two
rewrite the targets of links and forms, two remove elements, and the last one removes
attributes of scripts. They see the sources of attributes as they stand in the page, and a
browser decodes references and leaves characters out before it reads an address.

A sanitized page has no element that loads or runs anything, no attribute with a script in
it, and no target outside of the client. The handlers see to it up to what they do not look
at: areas and the targets of buttons, the several words of a relation, and addresses whose
scheme is disguised. On all other pages they are sound.

What removing an attribute takes from an element with several of the name is a parameter. If
it takes only the first, the next value comes to light, and the handler looks at that one too.
-/

namespace PacketBrowser.Browse

open Protocol Foundation Html

section Handlers

/-- A text, or an element with its attributes and what is inside it. -/
inductive Node
  | text (content : Text)
  | element (name : Text) (attributes : Attributes) (children : List Node)

/-- A start tag while the handlers look at it. -/
structure Element where
  name : Text
  attributes : Attributes
  /-- The attributes that have been set. -/
  fresh : List Text
  removed : Bool

/-- Set an attribute of the element, which is then the rewriter's own. -/
def Element.set (element : Element) (name value : Text) : Element :=
  { element with
    attributes := setAttribute name value element.attributes
    fresh := name :: element.fresh }

/-- Remove the element. -/
def Element.remove (element : Element) : Element := { element with removed := true }

/-- The handler `a[href]`. -/
def anchorHandler (join : Text → Option Text) (element : Element) : Element :=
  if element.name = "a".toList then
    { element with
      attributes := rewriteAnchor join element.attributes
      fresh := "href".toList :: element.fresh }
  else element

/-- A form that leads to an address, by `POST` unless it says otherwise. -/
def Element.lead (element : Element) (url : Text) : Element :=
  let led := element.set "action".toList url
  if getAttribute led.attributes "method".toList = none then
    led.set "method".toList "POST".toList
  else led

/-- The handler `form[action]`. -/
def formHandler (join : Text → Option Text) (element : Element) : Element :=
  if element.name = "form".toList then
    match getAttribute element.attributes "action".toList with
    | none => element
    | some action =>
      match buildProxyUrl join action with
      | none => element.remove
      | some url => element.lead url
  else element

/-- Elements that are removed whatever their attributes are. -/
def dropped : List Text :=
  ["script".toList, "iframe".toList, "frame".toList, "frameset".toList, "object".toList,
    "embed".toList, "applet".toList, "noscript".toList, "base".toList]

/-- The kind of a link that is a stylesheet. -/
def stylesheet : Text := "stylesheet".toList

/-- The selector `[rel=stylesheet]`, with or without regard to the case of letters. -/
def selectsSheet (ignoringCase : Bool) (attributes : Attributes) : Bool :=
  (getAttribute attributes "rel".toList).any fun rel =>
    (if ignoringCase then Text.toAsciiLowercase rel else rel) == stylesheet

/-- The handler of elements that load or run something. -/
def dropHandler (ignoringCase : Bool) (element : Element) : Element :=
  if element.name ∈ dropped ∨
      (element.name = "link".toList ∧ selectsSheet ignoringCase element.attributes = true) then
    element.remove
  else element

/-- The attribute makes the element load another page or replace the policy of the page. -/
def instructs (attributes : Attributes) : Bool :=
  (getAttribute attributes "http-equiv".toList).any fun eq =>
    Text.toAsciiLowercase eq == "refresh".toList ||
      Text.toAsciiLowercase eq == "content-security-policy".toList

/-- The handler `meta[http-equiv]`. -/
def metaHandler (element : Element) : Element :=
  if element.name = "meta".toList ∧ instructs element.attributes = true then element.remove
  else element

/-- The handler `*`. -/
def scrubHandler (removal : Removal) (element : Element) : Element :=
  { element with attributes := scrub removal element.attributes }

/-- All handlers, in their order. -/
def handle (removal : Removal) (join : Text → Option Text) (ignoringCase : Bool)
    (element : Element) : Element :=
  scrubHandler removal (metaHandler (dropHandler ignoringCase (formHandler join
    (anchorHandler join element))))

/-- The sources with which the tag is written. -/
def Element.sources (element : Element) : Attributes :=
  element.attributes.map fun (name, value) =>
    (name, if name ∈ element.fresh then written value else value)

section Rewriting

variable (removal : Removal) (join : Text → Option Text) (ignoringCase : Bool)

mutual

/-- A node as it is written, or nothing where it is removed. -/
def rewriteNode : Node → List Node
  | .text content => [.text content]
  | .element name attributes children =>
    let element := handle removal join ignoringCase ⟨name, attributes, [], false⟩
    if element.removed then []
    else [.element name element.sources (rewriteHtml children)]

/-- The page, its links resolved against an address. -/
def rewriteHtml : List Node → List Node
  | [] => []
  | node :: nodes => rewriteNode node ++ rewriteHtml nodes

end

end Rewriting

end Handlers

section Reading

variable (references : References)

/-- The address a browser reads from a source. -/
def addressOf (source : Text) : Text := address (attributeValue references source)

/-- The address is that of a script. -/
def Scripting (source : Text) : Prop :=
  "javascript:".toList <+: Text.toAsciiLowercase (addressOf references source)

/-- The address is a fragment, or a page to be browsed through the client. -/
def Inside (source : Text) : Prop :=
  (addressOf references source).head? = some '#' ∨
    "/browse?url=".toList <+: addressOf references source

/-- White space between the words of a relation. -/
def separates (c : Char) : Bool :=
  c == ' ' || c == '\t' || c == '\n' || c == '\r' || c.toNat == 12

/-- The relation has the word that makes a link load a style sheet. -/
def Sheet (attributes : Attributes) : Prop :=
  ∃ rel, getAttribute attributes "rel".toList = some rel ∧
    stylesheet ∈ (Text.toAsciiLowercase (attributeValue references rel)).splitOnP separates

/-- The attribute is the target of a link or a form that the handlers rewrite. -/
def Rewritten (name field : Text) : Prop :=
  name = "a".toList ∧ field = "href".toList ∨ name = "form".toList ∧ field = "action".toList

/-- The attribute is the target of an area or of a button. -/
def Overlooked (name field : Text) : Prop :=
  name = "area".toList ∧ field = "href".toList ∨ field = "formaction".toList

/-- An element that neither loads nor runs anything, and leads nowhere else. -/
structure SafeElement (name : Text) (attributes : Attributes) : Prop where
  passive : name ∉ dropped ∧ ¬ (name = "link".toList ∧ Sheet references attributes)
  mute : ∀ entry ∈ attributes, ¬ "on".toList <+: entry.1
  unscripted : ∀ field ∈ addressed, ∀ source,
    getAttribute attributes field = some source → ¬ Scripting references source
  inside : ∀ field, Rewritten name field ∨ Overlooked name field → ∀ source,
    getAttribute attributes field = some source → Inside references source

/-- The value of an address in which the handler sees no script: the first value, if each is
removed with it, or else the first such value. -/
def unseen (removal : Removal) (attributes : Attributes) (field : Text) : Option Text :=
  removal.left (fun value => !scripted value) (values attributes field)

/-- An element in whose source nothing is disguised, and no target is overlooked: a link that
loads a style sheet, an address in which a browser sees a script and the handler does not, and
the target of an area or a button that leads out of the client. -/
structure Undisguised (removal : Removal) (name : Text) (attributes : Attributes) : Prop where
  sheet : name = "link".toList → ¬ Sheet references attributes
  script : ∀ field ∈ addressed, ¬ Rewritten name field → ∀ source,
    unseen removal attributes field = some source → ¬ Scripting references source
  target : ∀ field, Overlooked name field → ∀ source,
    unseen removal attributes field = some source → Inside references source

mutual

/-- Every element of a node has a property, except for some with all that they contain. -/
def Node.Each (except holds : Text → Attributes → Prop) : Node → Prop
  | .text _ => True
  | .element name attributes children =>
    except name attributes ∨ holds name attributes ∧ Each except holds children

/-- The same for all nodes of a page. -/
def Each (except holds : Text → Attributes → Prop) : List Node → Prop
  | [] => True
  | node :: nodes => node.Each except holds ∧ Each except holds nodes

end

/-- The element is one of those that are removed. -/
def Removable (join : Text → Option Text) (ignoringCase : Bool) (name : Text)
    (attributes : Attributes) : Prop :=
  (name = "form".toList ∧ ∃ action, getAttribute attributes "action".toList = some action ∧
    buildProxyUrl join action = none) ∨
  name ∈ dropped ∨ (name = "link".toList ∧ selectsSheet ignoringCase attributes = true) ∨
  (name = "meta".toList ∧ instructs attributes = true)

/-- No element is unsafe. -/
def Sanitized (page : List Node) : Prop := Each (fun _ _ => False) (SafeElement references) page

/-- No element that the handlers leave in the page is disguised. -/
def Overt (removal : Removal) (join : Text → Option Text) (ignoringCase : Bool)
    (page : List Node) : Prop :=
  Each (Removable join ignoringCase) (Undisguised references removal) page

end Reading

section Elements

variable (references : References) {removal : Removal} {join : Text → Option Text}
variable {ignoringCase : Bool} {name : Text} {attributes : Attributes}

/-- What a link or a form is given as its target is a fragment or a page of the client. -/
def Proxied (value : Text) : Prop :=
  (∃ rest, value = '#' :: rest) ∨
    ∃ resolved, value = browsePath ++ '?' :: Query.field "url".toList resolved

/-- What is built is an address of the proxy. -/
theorem buildProxyUrl_proxied {url value : Text} (built : buildProxyUrl join url = some value) :
    Proxied value := by
  unfold buildProxyUrl at built
  dsimp only at built
  split at built
  · exact absurd built (by simp)
  · split at built
    · rename_i fragment
      obtain rfl := Option.some.inj built
      obtain ⟨rest, same⟩ := List.head?_eq_some_iff.mp fragment
      exact .inl ⟨rest, same⟩
    · obtain ⟨resolved, _, rfl⟩ := Option.map_eq_some_iff.mp built
      exact .inr ⟨resolved, rfl⟩

/-- Such a target leads to the client however references are decoded. -/
theorem Proxied.inside {value : Text} (proxied : Proxied value) :
    Inside references (written value) := by
  unfold Inside addressOf
  rcases proxied with ⟨rest, rfl⟩ | ⟨resolved, rfl⟩
  · rw [attributeValue_fragment]
    obtain ⟨tail, same⟩ := address_cons (c := '#') (by decide) (by decide)
      (attributeValue references (written rest))
    exact .inl (by rw [same]; rfl)
  · rw [attributeValue_proxied, address_self (neutral_proxied resolved)]
    have field : Query.encode "url".toList = "url".toList := by decide
    refine .inr ⟨Query.encode resolved, ?_⟩
    rw [Query.field, field]
    rfl

/-- An address of the proxy is that of no script. -/
theorem Proxied.unscripted {value : Text} (proxied : Proxied value) : scripted value = false := by
  rcases proxied with ⟨rest, rfl⟩ | ⟨resolved, rfl⟩
  · exact scripted_cons (by decide) (by decide) rest
  · exact scripted_cons (by decide) (by decide) _

/-- No address within the client is that of a script. -/
theorem Inside.unscripted {source : Text} (inside : Inside references source) :
    ¬ Scripting references source := by
  rintro ⟨rest, script⟩
  unfold Inside at inside
  have first : (Text.toAsciiLowercase (addressOf references source)).head? = some 'j' := by
    rw [← script]
    rfl
  rw [Text.toAsciiLowercase, List.head?_map] at first
  obtain ⟨c, head, same⟩ := Option.map_eq_some_iff.mp first
  rcases inside with fragment | ⟨rest, path⟩
  · rw [fragment] at head
    obtain rfl := Option.some.inj head
    exact absurd same (by decide)
  · rw [← path] at head
    obtain rfl := Option.some.inj head
    exact absurd same (by decide)

/-- The tag as it is once the targets are rewritten. -/
def rewritten (join : Text → Option Text) (name : Text) (attributes : Attributes) : Element :=
  formHandler join (anchorHandler join ⟨name, attributes, [], false⟩)

/-- The other handlers remove attributes or the element. -/
theorem handle_rewritten (removal : Removal) (join : Text → Option Text) (ignoringCase : Bool)
    (name : Text) (attributes : Attributes) :
    (handle removal join ignoringCase ⟨name, attributes, [], false⟩).attributes =
        scrub removal (rewritten join name attributes).attributes ∧
      (handle removal join ignoringCase ⟨name, attributes, [], false⟩).fresh =
        (rewritten join name attributes).fresh := by
  unfold handle scrubHandler metaHandler dropHandler Element.remove rewritten
  constructor
  · dsimp only
    split_ifs <;> rfl
  · dsimp only
    split_ifs <;> rfl

/-- What the first two handlers do with an element. -/
theorem rewritten_cases (join : Text → Option Text) (name : Text) (attributes : Attributes) :
    (name = "a".toList ∧ rewritten join name attributes =
        ⟨name, rewriteAnchor join attributes, ["href".toList], false⟩) ∨
      (name = "form".toList ∧
        ∃ action url, getAttribute attributes "action".toList = some action ∧
          buildProxyUrl join action = some url ∧
          rewritten join name attributes = Element.lead ⟨name, attributes, [], false⟩ url) ∨
      (name = "form".toList ∧
        ∃ action, getAttribute attributes "action".toList = some action ∧
          buildProxyUrl join action = none ∧
          rewritten join name attributes = ⟨name, attributes, [], true⟩) ∨
      (name ≠ "a".toList ∧
        (name = "form".toList → getAttribute attributes "action".toList = none) ∧
        rewritten join name attributes = ⟨name, attributes, [], false⟩) := by
  by_cases anchor : name = "a".toList
  · left
    have other : "a".toList ≠ "form".toList := by decide
    subst anchor
    have first : anchorHandler join ⟨"a".toList, attributes, [], false⟩ =
        ⟨"a".toList, rewriteAnchor join attributes, ["href".toList], false⟩ := if_pos rfl
    unfold rewritten formHandler
    rw [first, if_neg other]
    exact ⟨rfl, rfl⟩
  · right
    have first : anchorHandler join ⟨name, attributes, [], false⟩ =
        ⟨name, attributes, [], false⟩ := if_neg anchor
    unfold rewritten
    rw [first]
    by_cases form : name = "form".toList
    · unfold formHandler
      rw [if_pos form]
      cases target : getAttribute attributes "action".toList with
      | none => exact .inr (.inr ⟨anchor, fun _ => rfl, rfl⟩)
      | some action =>
        cases built : buildProxyUrl join action with
        | none => exact .inr (.inl ⟨form, action, rfl, built, by simp only [built]; rfl⟩)
        | some url => exact .inl ⟨form, action, url, rfl, built, by simp only [built]⟩
    · exact .inr (.inr ⟨anchor, fun same => absurd same form, if_neg form⟩)

/-- The targets of a form are its own attributes. -/
theorem lead_attributes (element : Element) (url field : Text) :
    (field ≠ "action".toList → field ≠ "method".toList →
      values (element.lead url).attributes field = values element.attributes field ∧
        (field ∈ (element.lead url).fresh → field ∈ element.fresh)) ∧
      getAttribute (element.lead url).attributes "action".toList = some url ∧
      "action".toList ∈ (element.lead url).fresh ∧ (element.lead url).name = element.name := by
  have apart : "method".toList ≠ "action".toList := by decide
  unfold Element.lead Element.set
  dsimp only
  split_ifs
  · refine ⟨fun action method => ⟨?_, fun member => ?_⟩, ?_, by simp, rfl⟩
    · rw [values_set_other method.symm, values_set_other action.symm]
    · rcases List.mem_cons.mp member with same | later
      · exact absurd same method
      · exact (List.mem_cons.mp later).resolve_left action
    · rw [getAttribute_set_other apart, getAttribute_set]
  · refine ⟨fun action method => ⟨?_, fun member => ?_⟩, ?_, by simp, rfl⟩
    · rw [values_set_other action.symm]
    · exact (List.mem_cons.mp member).resolve_left action
    · rw [getAttribute_set]

/-- Attributes that are no targets stay as they were. -/
theorem rewritten_other (join : Text → Option Text) (attributes : Attributes) {field : Text}
    (other : ¬ Rewritten name field) (unset : field ≠ "method".toList) :
    values (rewritten join name attributes).attributes field = values attributes field ∧
      field ∉ (rewritten join name attributes).fresh := by
  rcases rewritten_cases join name attributes with ⟨anchor, same⟩ |
    ⟨form, _, url, _, _, same⟩ | ⟨_, _, _, _, same⟩ | ⟨_, _, same⟩
  · have href : field ≠ "href".toList := fun leads => other (.inl ⟨anchor, leads⟩)
    rw [same]
    constructor
    · unfold rewriteAnchor
      split
      · rfl
      · exact values_set_other href.symm _ _
    · exact fun member => href (List.mem_singleton.mp member)
  · have action : field ≠ "action".toList := fun leads => other (.inr ⟨form, leads⟩)
    obtain ⟨kept, old⟩ := (lead_attributes ⟨name, attributes, [], false⟩ url field).1 action unset
    rw [same]
    exact ⟨kept, fun member => List.not_mem_nil (old member)⟩
  · rw [same]
    exact ⟨rfl, List.not_mem_nil⟩
  · rw [same]
    exact ⟨rfl, List.not_mem_nil⟩

/-- Every target that is kept is rewritten. -/
theorem rewritten_target {field value : Text} (target : Rewritten name field)
    (kept : (rewritten join name attributes).removed = false)
    (has : getAttribute (rewritten join name attributes).attributes field = some value) :
    Proxied value ∧ field ∈ (rewritten join name attributes).fresh := by
  have apart : "a".toList ≠ "form".toList := by decide
  rcases rewritten_cases join name attributes with ⟨anchor, same⟩ |
    ⟨form, _, url, _, built, same⟩ | ⟨_, _, _, _, same⟩ | ⟨other, absent, same⟩
  · rcases target with ⟨_, rfl⟩ | ⟨form, _⟩
    · rw [same] at has ⊢
      refine ⟨?_, List.mem_cons_self⟩
      dsimp only at has
      unfold rewriteAnchor at has
      split at has
      · rename_i absent
        rw [absent] at has
        exact absurd has (by simp)
      · rename_i href _
        rw [getAttribute_set] at has
        obtain rfl := Option.some.inj has
        cases built : buildProxyUrl join href with
        | none => exact .inl ⟨[], rfl⟩
        | some value => exact buildProxyUrl_proxied built
    · exact absurd (anchor.symm.trans form) apart
  · rcases target with ⟨anchor, _⟩ | ⟨_, rfl⟩
    · exact absurd (anchor.symm.trans form) apart
    · obtain ⟨_, set, fresh, _⟩ := lead_attributes ⟨name, attributes, [], false⟩ url []
      rw [same] at has ⊢
      rw [set] at has
      obtain rfl := Option.some.inj has
      exact ⟨buildProxyUrl_proxied built, fresh⟩
  · rw [same] at kept
    exact absurd kept (by simp)
  · rcases target with ⟨anchor, _⟩ | ⟨form, rfl⟩
    · exact absurd anchor other
    · rw [same] at has
      rw [absent form] at has
      exact absurd has (by simp)

/-- An element keeps its name. -/
theorem rewritten_name (join : Text → Option Text) (name : Text) (attributes : Attributes) :
    (rewritten join name attributes).name = name := by
  rcases rewritten_cases join name attributes with ⟨_, same⟩ | ⟨_, _, url, _, _, same⟩ |
    ⟨_, _, _, _, same⟩ | ⟨_, _, same⟩
  · rw [same]
  · rw [same]
    exact (lead_attributes _ url []).2.2.2
  · rw [same]
  · rw [same]

/-- The second handler removes the forms without a target in the client. -/
theorem rewritten_removed (join : Text → Option Text) (name : Text) (attributes : Attributes) :
    (rewritten join name attributes).removed = true ↔ name = "form".toList ∧
      ∃ action, getAttribute attributes "action".toList = some action ∧
        buildProxyUrl join action = none := by
  rcases rewritten_cases join name attributes with ⟨anchor, same⟩ |
    ⟨form, action, url, has, built, same⟩ | ⟨form, action, has, built, same⟩ |
    ⟨_, absent, same⟩
  · rw [same]
    constructor
    · intro removed
      exact absurd removed (by simp)
    · rintro ⟨form, _⟩
      exact absurd (anchor.symm.trans form) (by decide)
  · have kept : (Element.lead ⟨name, attributes, [], false⟩ url).removed = false := by
      unfold Element.lead Element.set
      dsimp only
      split_ifs <;> rfl
    rw [same, kept]
    constructor
    · intro removed
      exact absurd removed (by simp)
    · rintro ⟨_, other, own, unbuilt⟩
      rw [has] at own
      obtain rfl := Option.some.inj own
      rw [built] at unbuilt
      exact absurd unbuilt (by simp)
  · rw [same]
    exact ⟨fun _ => ⟨form, action, has, built⟩, fun _ => rfl⟩
  · rw [same]
    constructor
    · intro removed
      exact absurd removed (by simp)
    · rintro ⟨form, action, has, _⟩
      rw [absent form] at has
      exact absurd has (by simp)

/-- The third handler looks at the name and the relation. -/
theorem dropHandler_cases (ignoringCase : Bool) (element : Element) :
    ((dropHandler ignoringCase element).removed = true ↔
        element.removed = true ∨ element.name ∈ dropped ∨
          (element.name = "link".toList ∧ selectsSheet ignoringCase element.attributes = true)) ∧
      (dropHandler ignoringCase element).name = element.name ∧
      (dropHandler ignoringCase element).attributes = element.attributes := by
  unfold dropHandler
  split
  · rename_i found
    exact ⟨⟨fun _ => .inr found, fun _ => rfl⟩, rfl, rfl⟩
  · rename_i other
    exact ⟨⟨.inl, fun removed => removed.resolve_right other⟩, rfl, rfl⟩

/-- The fourth handler looks at the name and the instruction. -/
theorem metaHandler_removed (element : Element) :
    (metaHandler element).removed = true ↔
      element.removed = true ∨ (element.name = "meta".toList ∧
        instructs element.attributes = true) := by
  unfold metaHandler
  split
  · rename_i found
    exact ⟨fun _ => .inr found, fun _ => rfl⟩
  · rename_i other
    exact ⟨.inl, fun removed => removed.resolve_right other⟩

/-- An element is removed exactly if it is one of those that are. -/
theorem handle_removed (removal : Removal) (join : Text → Option Text) (ignoringCase : Bool)
    (name : Text) (attributes : Attributes) :
    (handle removal join ignoringCase ⟨name, attributes, [], false⟩).removed = true ↔
      Removable join ignoringCase name attributes := by
  have plain : ∀ field, field ≠ "href".toList → field ≠ "action".toList →
      ¬ Rewritten name field := by
    rintro field href action (⟨_, same⟩ | ⟨_, same⟩)
    · exact href same
    · exact action same
  have rel := (rewritten_other join attributes
    (plain "rel".toList (by decide) (by decide)) (by decide)).1
  have equiv := (rewritten_other join attributes
    (plain "http-equiv".toList (by decide) (by decide)) (by decide)).1
  have sheet : selectsSheet ignoringCase (rewritten join name attributes).attributes =
      selectsSheet ignoringCase attributes := by
    unfold selectsSheet
    rw [getAttribute_head, rel, ← getAttribute_head]
  have instruction : instructs (rewritten join name attributes).attributes =
      instructs attributes := by
    unfold instructs
    rw [getAttribute_head, equiv, ← getAttribute_head]
  obtain ⟨removed, same, own⟩ := dropHandler_cases ignoringCase (rewritten join name attributes)
  have whole : (handle removal join ignoringCase ⟨name, attributes, [], false⟩).removed =
      (metaHandler (dropHandler ignoringCase (rewritten join name attributes))).removed := rfl
  rw [whole, metaHandler_removed, removed, same, own, rewritten_name, sheet, instruction,
    rewritten_removed, Removable, or_assoc, or_assoc]

/-- An element that is kept is kept by each handler. -/
theorem kept_passive (kept : ¬ Removable join ignoringCase name attributes) :
    (rewritten join name attributes).removed = false ∧ name ∉ dropped := by
  constructor
  · exact Bool.eq_false_iff.mpr fun removed =>
      kept (.inl ((rewritten_removed join name attributes).mp removed))
  · exact fun listed => kept (.inr (.inl listed))

/-- What is written of an attribute. -/
theorem getAttribute_sources (element : Element) (field : Text) :
    getAttribute element.sources field = (getAttribute element.attributes field).map fun value =>
      if field ∈ element.fresh then written value else value := by
  obtain ⟨_, attributes, fresh, _⟩ := element
  unfold Element.sources
  dsimp only
  induction attributes with
  | nil => rfl
  | cons entry rest inductionHypothesis =>
    rw [List.map_cons, getAttribute_cons, getAttribute_cons, inductionHypothesis]
    by_cases here : entry.1 = field
    · rw [if_pos here, if_pos here, here]
      rfl
    · rw [if_neg here, if_neg here]

section Kept

/-- An attribute for an address is left exactly if the handler sees no script in it. -/
theorem scrubbed_addressed {field : Text} (listed : field ∈ addressed) (value : Text) :
    scrubbed field value = !scripted value := by
  have each : ∀ field ∈ addressed, "on".toList.isPrefixOf field = false := by decide
  rw [scrubbed, each field listed, decide_eq_true listed, Bool.true_and, Bool.false_or]

/-- What is written of an attribute that is no target. -/
theorem written_other {field : Text} (other : ¬ Rewritten name field)
    (unset : field ≠ "method".toList) :
    getAttribute (handle removal join ignoringCase ⟨name, attributes, [], false⟩).sources field =
      removal.left (scrubbed field) (values attributes field) := by
  obtain ⟨same, fresh⟩ := handle_rewritten removal join ignoringCase name attributes
  obtain ⟨own, old⟩ := rewritten_other join attributes other unset
  rw [getAttribute_sources, same, fresh, getAttribute_scrub, own]
  simp [old]

/-- What is written of a target. -/
theorem written_target {field source : Text} (target : Rewritten name field)
    (kept : ¬ Removable join ignoringCase name attributes)
    (has : getAttribute (handle removal join ignoringCase ⟨name, attributes, [], false⟩).sources field =
      some source) : Inside references source := by
  obtain ⟨same, fresh⟩ := handle_rewritten removal join ignoringCase name attributes
  rw [getAttribute_sources, same, fresh, getAttribute_scrub] at has
  obtain ⟨value, found, rfl⟩ := Option.map_eq_some_iff.mp has
  obtain ⟨first, head⟩ := left_some found
  obtain ⟨proxied, set⟩ := rewritten_target target (kept_passive kept).1
    ((getAttribute_head _ _).trans head)
  have addresses : field ∈ addressed := by
    rcases target with ⟨_, rfl⟩ | ⟨_, rfl⟩ <;> decide
  have keeps : scrubbed field first = true := by
    rw [scrubbed_addressed addresses, proxied.unscripted]
    rfl
  obtain rfl := Option.some.inj (found.symm.trans (left_head head keeps))
  rw [if_pos set]
  exact proxied.inside references

/-- The relation of a link is not touched. -/
theorem sheet_handle : Sheet references
      (handle removal join ignoringCase ⟨name, attributes, [], false⟩).sources ↔
    Sheet references attributes := by
  have rel : ¬ Rewritten name "rel".toList := by
    rintro (⟨_, same⟩ | ⟨_, same⟩)
    · exact absurd same (by decide)
    · exact absurd same (by decide)
  have keeps : ∀ value, scrubbed "rel".toList value = true := by
    intro value
    have other : decide ("rel".toList ∈ addressed) = false := by decide
    rw [scrubbed, other]
    rfl
  have same : getAttribute (handle removal join ignoringCase ⟨name, attributes, [], false⟩).sources
      "rel".toList = getAttribute attributes "rel".toList := by
    rw [written_other rel (by decide), getAttribute_head]
    cases values attributes "rel".toList with
    | nil => cases removal <;> rfl
    | cons value later => exact left_head rfl (keeps value)
  unfold Sheet
  rw [same]

/-- The method of a form is no address. -/
theorem addressed_unset {field : Text} (listed : field ∈ addressed) :
    field ≠ "method".toList := by
  rintro rfl
  exact absurd listed (by decide)

/-- What is overlooked is an address that is not rewritten. -/
theorem Overlooked.plain {field : Text} (overlooked : Overlooked name field) :
    ¬ Rewritten name field ∧ field ∈ addressed := by
  rcases overlooked with ⟨rfl, rfl⟩ | rfl
  · constructor
    · rintro (⟨same, _⟩ | ⟨_, same⟩)
      · exact absurd same (by decide)
      · exact absurd same (by decide)
    · decide
  · constructor
    · rintro (⟨_, same⟩ | ⟨_, same⟩)
      · exact absurd same (by decide)
      · exact absurd same (by decide)
    · decide

/-- No attribute of a handler is left. -/
theorem handle_mute (entry : Text × Text)
    (member : entry ∈ (handle removal join ignoringCase ⟨name, attributes, [], false⟩).sources) :
    ¬ "on".toList <+: entry.1 := by
  intro handler
  obtain ⟨same, _⟩ := handle_rewritten removal join ignoringCase name attributes
  have left : ∀ value, scrubbed entry.1 value = false := by
    intro value
    rw [scrubbed, List.isPrefixOf_iff_prefix.mpr handler, Bool.true_or]
    rfl
  have none : getAttribute (handle removal join ignoringCase ⟨name, attributes, [], false⟩).sources
      entry.1 = none := by
    rw [getAttribute_sources, same, getAttribute_scrub, Option.map_eq_none_iff]
    by_contra some
    obtain ⟨value, found⟩ := Option.ne_none_iff_exists'.mp some
    exact absurd (kept_left found) (by simp [left])
  exact getAttribute_none.mp none (List.mem_map_of_mem member)

/-- An element that is kept is safe exactly if nothing was disguised in it. -/
theorem safe_iff (kept : ¬ Removable join ignoringCase name attributes) :
    SafeElement references name (handle removal join ignoringCase ⟨name, attributes, [], false⟩).sources ↔
      Undisguised references removal name attributes := by
  have written : ∀ field ∈ addressed, ¬ Rewritten name field →
      getAttribute (handle removal join ignoringCase ⟨name, attributes, [], false⟩).sources field =
        unseen removal attributes field := by
    intro field listed other
    rw [written_other other (addressed_unset listed), unseen]
    exact congrArg (removal.left · _) (funext (scrubbed_addressed listed))
  constructor
  · intro safe
    constructor
    · exact fun link sheet => safe.passive.2 ⟨link, (sheet_handle references).mpr sheet⟩
    · intro field listed other source left
      exact safe.unscripted field listed source ((written field listed other).trans left)
    · intro field overlooked source left
      obtain ⟨other, listed⟩ := overlooked.plain
      exact safe.inside field (.inr overlooked) source ((written field listed other).trans left)
  · intro overt
    constructor
    · exact ⟨(kept_passive kept).2,
        fun link => overt.sheet link.1 ((sheet_handle references).mp link.2)⟩
    · exact handle_mute
    · intro field listed source has
      by_cases target : Rewritten name field
      · exact (written_target references target kept has).unscripted
      · exact overt.script field listed target source ((written field listed target).symm.trans has)
    · rintro field (target | overlooked) source has
      · exact written_target references target kept has
      · obtain ⟨other, listed⟩ := overlooked.plain
        exact overt.target field overlooked source ((written field listed other).symm.trans has)

end Kept

end Elements

section Trees

variable {removal : Removal} {join : Text → Option Text} {ignoringCase : Bool}
variable {before after : Text → Attributes → Prop}

/-- What holds of each node of two lists holds of each of both. -/
theorem each_append {except : Text → Attributes → Prop} (left right : List Node) :
    Each except after (left ++ right) ↔ Each except after left ∧ Each except after right := by
  induction left with
  | nil => simp [Each]
  | cons node nodes inductionHypothesis => simp [Each, inductionHypothesis, and_assoc]

/-- The elements of a rewritten page have a property exactly if the elements of the page that
are not removed have the property that makes it so. -/
theorem each_rewriteHtml
    (step : ∀ name attributes, ¬ Removable join ignoringCase name attributes →
      (after name (handle removal join ignoringCase ⟨name, attributes, [], false⟩).sources ↔
        before name attributes)) : ∀ page : List Node,
    Each (fun _ _ => False) after (rewriteHtml removal join ignoringCase page) ↔
      Each (Removable join ignoringCase) before page
  | [] => Iff.rfl
  | .text content :: nodes => by
    rw [rewriteHtml, each_append, each_rewriteHtml step nodes]
    simp [rewriteNode, Each, Node.Each]
  | .element name attributes children :: nodes => by
    have inner := each_rewriteHtml step children
    have removed := handle_removed removal join ignoringCase name attributes
    rw [rewriteHtml, each_append, each_rewriteHtml step nodes]
    by_cases gone : Removable join ignoringCase name attributes
    · simp [rewriteNode, removed.mpr gone, gone, Each, Node.Each]
    · have kept := Bool.eq_false_iff.mpr fun found => gone (removed.mp found)
      simp [rewriteNode, kept, gone, Each, Node.Each, inner, step name attributes gone]

end Trees

/-- A page is sanitized exactly if nothing is disguised in what is left of it. Each element that
is kept is safe exactly if nothing is disguised in its source, and the tree is rewritten element
by element. -/
theorem sanitized_iff (references : References) (removal : Removal) (join : Text → Option Text)
    (ignoringCase : Bool) (page : List Node) :
    Sanitized references (rewriteHtml removal join ignoringCase page) ↔
      Overt references removal join ignoringCase page :=
  each_rewriteHtml (fun _ _ kept => safe_iff references kept) page

/-- An image map with an area whose address is that of a script, with a tab in it. -/
def mapPage : List Node :=
  [.element "map".toList []
    [.element "area".toList [("href".toList, "java\tscript:alert(1)".toList)] []]]

/-- The area is left as it is, whichever attributes are removed with one. -/
theorem map_unsanitized : ¬ ∃ removal, ∀ (references : References) (join : Text → Option Text)
    (ignoringCase : Bool) (page : List Node),
    Sanitized references (rewriteHtml removal join ignoringCase page) := by
  rintro ⟨removal, every⟩
  have script : Scripting onlyEscapes "java\tscript:alert(1)".toList := by
    have read : addressOf onlyEscapes "java\tscript:alert(1)".toList =
        "javascript:alert(1)".toList := by decide
    unfold Scripting
    rw [read]
    decide
  have overt : Overt onlyEscapes removal joinSite false mapPage :=
    (each_rewriteHtml (fun _ _ kept => safe_iff onlyEscapes kept) mapPage).mp
      (every onlyEscapes joinSite false mapPage)
  have plain : ∀ name attributes,
      name ∉ "form".toList :: "link".toList :: "meta".toList :: dropped →
        ¬ Removable joinSite false name attributes := by
    intro name attributes other
    simp only [List.mem_cons, not_or] at other
    obtain ⟨form, link, instruction, element⟩ := other
    rintro (⟨same, _⟩ | listed | ⟨same, _⟩ | ⟨same, _⟩)
    · exact form same
    · exact element listed
    · exact link same
    · exact instruction same
  obtain ⟨map | ⟨_, area | ⟨overt, _⟩, _⟩, _⟩ := overt
  · exact plain "map".toList [] (by decide) map
  · exact plain "area".toList _ (by decide) area
  · have left : unseen removal [("href".toList, "java\tscript:alert(1)".toList)] "href".toList =
        some "java\tscript:alert(1)".toList := by
      cases removal <;> decide
    refine overt.script "href".toList (by decide) (fun target => ?_) _ left script
    rcases target with ⟨same, _⟩ | ⟨same, _⟩
    · exact absurd same (by decide)
    · exact absurd same (by decide)

end PacketBrowser.Browse
