import PacketBrowser.Foundation.Forest
import PacketBrowser.Foundation.Script
import PacketBrowser.Foundation.Search
import PacketBrowser.Server.Operations

/-!
# What the browser hands out of a page

Once a page is loaded, a script in the browser takes its stylesheets in, removes what loads
or runs something, puts captions in the place of pictures, takes handlers off, and hands out
the markup of what is left; where this is too much, styles go as well. The script goes through
lists of elements that were selected before, and edits the page at each of them. While it
waits for a stylesheet, the scripts of the page may do to the page what they like. Between two
edits they are taken to do nothing (`RunsAlone`), which a page can break: the browser calls it
back there if it has elements of kinds of its own, or frames that notice when they go.

What it hands out belongs to a page without such elements and handlers, and with everything
else that the page had when the last stylesheet was awaited, in its order: classes, identities,
styles and all other attributes where the markup fits, and all but these where it does not. An
answer that is a page is never taken for an error.
-/

namespace PacketBrowser.Server

open Protocol Foundation

section Elements

/-- What a page holds besides elements. -/
inductive Leaf where
  | text (content : Text)
  | comment (content : Text)
  deriving DecidableEq

/-- The tag of an element. No two of its attributes have the same name. -/
structure Tag where
  name : Text
  attributes : List (Text × Text)
  distinct : (attributes.map Prod.fst).Nodup
  deriving DecidableEq

/-- Nodes that stand one behind the other, each element with its children. -/
abbrev Nodes := Forest Leaf Tag

/-- The tag with the attributes whose names are left. -/
def Tag.restrict (tag : Tag) (left : Text → Bool) : Tag where
  name := tag.name
  attributes := tag.attributes.filter fun field => left field.1
  distinct := tag.distinct.sublist (List.filter_sublist.map Prod.fst)

/-- An attribute is removed by its name, in which the case of letters does not count. -/
def Tag.removeAttribute (tag : Tag) (name : Text) : Tag :=
  tag.restrict (· != Text.toAsciiLowercase name)

/-- The value of an attribute, which is empty where there is none. -/
def Tag.value (tag : Tag) (name : Text) : Text := (tag.attributes.lookup name).getD []

/-- The element has this name. -/
def named (name : String) (tag : Tag) : Bool := tag.name == name.toList

/-- A page. No two of its elements are the same. -/
structure Document where
  nodes : Nodes
  distinct : nodes.ids.Nodup

/-- The elements that are selected, in their order. -/
def Document.querySelectorAll (document : Document) (selects : Tag → Bool) : List Nat :=
  document.nodes.select selects

/-- The root of the page, its first element. -/
def Document.documentElement (document : Document) : Option (Nat × Tag × Nodes) :=
  document.nodes.first

/-- The first head in the root, if the root is of the language of web pages. -/
def Document.head (document : Document) : Option Nat :=
  document.documentElement.bind fun (_, tag, children) =>
    if named "html" tag then children.sibling (named "head") else none

/-- The page with one element changed. No element becomes the same as another one. -/
def Document.editAt (change : Tag → Change Leaf Tag) (document : Document) (id : Nat) :
    Document where
  nodes := document.nodes.editAt id change
  distinct := document.distinct.sublist (document.nodes.ids_editAt change id)

/-- An element that is gone is removed from where it has gone. -/
def Document.remove : Document → Nat → Document := Document.editAt fun _ => .become []

/-- The children of an element whose text is set. -/
def textContent (content : Text) : Nodes :=
  if content = [] then .nil else .leaf (.text content) .nil

/-- The tag of a new element with rules. -/
def styleTag : Tag := ⟨"style".toList, [], List.nodup_nil⟩

/-- A new element with rules. -/
def Document.style (document : Document) (css : Text) : Nodes :=
  .node document.nodes.fresh styleTag (textContent css) .nil

/-- A text brings no elements. -/
theorem ids_textContent (content : Text) : (textContent content).ids = [] := by
  rw [textContent]
  split <;> rfl

/-- The page with rules at the end of its head. -/
def Document.appendTo (document : Document) (head : Nat) (css : Text) : Document where
  nodes := document.nodes.appendAt head (document.style css)
  distinct := by
    have single : (document.style css).ids = [document.nodes.fresh] := by
      rw [Document.style, Forest.ids, ids_textContent]
      rfl
    apply Forest.nodup_appendAt _ _ head document.distinct
    rw [single]
    exact document.distinct.append (List.nodup_singleton _)
      (List.disjoint_singleton.mpr document.nodes.fresh_unused)

end Elements

section Script

/-- Why the script stops. -/
inductive ScriptError where
  | headMissing
  | rootMissing
  /-- A text cannot take the place of the root. -/
  | rootReplaced
  deriving DecidableEq

/-- What the script uses of the browser. Markup of an element begins with its tag. -/
structure Engine where
  /-- The address that the source of a picture stands for. -/
  resolve : Text → Text
  outerHtml : Tag → Nodes → Text
  opened : ∀ tag children, (outerHtml tag children).head? = some '<'
  message : ScriptError → Text

/-- The length of markup beyond which the page falls back, in units of UTF-16. -/
def maxSize : Nat := 32768

/-- The rules of the script. -/
def fallbackCss : Text := (
  "body\x7bfont-family:sans-serif;max-width:40em;margin:0 auto;padding:1em;line-height:1.5\x7d" ++
  "a\x7bcolor:#06c\x7dh1,h2,h3\x7bmargin:1em 0 .5em\x7dtable\x7bborder-collapse:collapse\x7d" ++
  "td,th\x7bborder:1px solid #ccc;padding:.3em\x7dimg\x7bdisplay:none\x7d").toList

/-- The names of elements that load or run something, in the order in which they are removed. -/
def heavySelectors : List String :=
  ["script", "iframe", "video", "audio", "canvas", "svg", "object", "embed", "noscript", "template"]

/-- The length of an address in a stylesheet that begins here and is closed. -/
def urlLength (css : Text) : Option Nat :=
  (Text.stripPrefix "url(".toList css).bind fun behind =>
    if ')' ∈ behind then some (behind.idxOf ')' + 5) else none

/-- Addresses are cut out of a stylesheet, from left to right. -/
def dropUrls : Nat → Text → Text
  | _, [] => []
  | skip + 1, _ :: css => dropUrls skip css
  | 0, c :: css =>
    match urlLength (c :: css) with
    | some length => dropUrls (length - 1) css
    | none => c :: dropUrls 0 css

/-- What is left may be an address again. -/
example : dropUrls 0 "a ururl(x)l(y) url(z".toList = "a url(y) url(z".toList := by decide

/-- The links that are stylesheets. -/
def isSheet (tag : Tag) : Bool :=
  named "link" tag && Text.toAsciiLowercase (tag.value "rel".toList) == "stylesheet".toList

/-- How the wait for each stylesheet ends: what the page has become meanwhile, and the text
of the sheet where it could be fetched. -/
abbrev Meanwhile := Nat → Document → Document × Option Text

/-- The loop over the links that were selected. A sheet that could be fetched takes the place of
its link, with the addresses cut out of it; any other link stays. -/
def takeSheets (meanwhile : Meanwhile) : List Nat → Nat → List Text → Document →
    Document × List Text
  | [], _, cssTexts, document => (document, cssTexts)
  | link :: stylesheets, count, cssTexts, document =>
    match meanwhile count document with
    | (document, some css) =>
      takeSheets meanwhile stylesheets (count + 1) (cssTexts ++ [dropUrls 0 css])
        (document.remove link)
    | (document, none) => takeSheets meanwhile stylesheets (count + 1) cssTexts document

/-- Rules go to the head, if there is one. -/
def appendStyle (document : Document) (css : Text) : Except ScriptError Document :=
  match document.head with
  | some head => .ok (document.appendTo head css)
  | none => .error .headMissing

/-- The stylesheets go to the head as one, if there are any. -/
def addSheets (document : Document) (cssTexts : List Text) : Except ScriptError Document :=
  if cssTexts = [] then .ok document else appendStyle document (['\n'].intercalate cssTexts)

/-- The loop that removes all elements of a kind. -/
def removeAll (document : Document) (selects : Tag → Bool) : Document :=
  (document.querySelectorAll selects).foldl Document.remove document

/-- The loop over the kinds of elements that load or run something. -/
def removeHeavy (document : Document) : Document :=
  heavySelectors.foldl (fun document selector => removeAll document (named selector)) document

/-- What stands for a picture. -/
def caption (resolve : Text → Text) (img : Tag) : Text :=
  let src := match img.attributes.lookup "src".toList with
    | some src => resolve src
    | none => []
  let texts := [img.value "alt".toList, ((src.splitOn '/').getLast?).getD [], "image".toList]
  "[image: ".toList ++ (texts.find? (· ≠ [])).getD [] ++ "]".toList

/-- The loop that puts captions in the place of pictures. -/
def replaceImages (resolve : Text → Text) (document : Document) : Except ScriptError Document :=
  if document.documentElement.any fun (_, tag, _) => named "img" tag then .error .rootReplaced
  else .ok ((document.querySelectorAll (named "img")).foldl
    (Document.editAt fun img => .become [.text (caption resolve img)]) document)

/-- The name of an attribute that runs something on an event. -/
def handler (name : Text) : Bool := "on".toList.isPrefixOf name

/-- Handlers are removed by the names that the attributes had before. -/
def Tag.removeHandlers (tag : Tag) : Tag :=
  (tag.attributes.map Prod.fst).foldl
    (fun tag name => if handler name then tag.removeAttribute name else tag) tag

/-- The loop that takes handlers off all elements. -/
def removeHandlers (document : Document) : Document :=
  (document.querySelectorAll fun _ => true).foldl
    (Document.editAt fun tag => .keep tag.removeHandlers) document

/-- The names of the attributes by which rules find an element, and of its own rules. -/
def styling : List Text := ["class".toList, "id".toList, "style".toList]

/-- The loop that takes these attributes off all elements. -/
def removeStyling (document : Document) : Document :=
  (document.querySelectorAll fun _ => true).foldl
    (Document.editAt fun tag => .keep (styling.foldl Tag.removeAttribute tag)) document

/-- The markup of a page is that of its root. -/
def outerHtml (engine : Engine) (document : Document) : Except ScriptError Text :=
  match document.documentElement with
  | some (_, tag, children) => .ok (engine.outerHtml tag children)
  | none => .error .rootMissing

/-- The page with rules of its own instead of its styles. -/
def fallBack (document : Document) : Except ScriptError Document :=
  appendStyle (removeStyling (removeAll document (named "style"))) fallbackCss

/-- The page behind the last wait, and the stylesheets that were taken in. -/
def settle (meanwhile : Meanwhile) (document : Document) : Document × List Text :=
  takeSheets meanwhile (document.querySelectorAll isSheet) 0 [] document

/-- The script, from where nothing is awaited any more: the page that is left, and its
markup. -/
def scrubSettled (engine : Engine) (document : Document) (cssTexts : List Text) :
    Except ScriptError (Document × Text) := do
  let document ← addSheets document cssTexts
  let document ← replaceImages engine.resolve (removeHeavy document)
  let document := removeHandlers document
  let html ← outerHtml engine document
  if maxSize < (Script.utf16 html).length then do
    let document ← fallBack document
    let html ← outerHtml engine document
    return (document, html)
  else return (document, html)

/-- The script, from its first step to its last one. -/
def scrub (engine : Engine) (meanwhile : Meanwhile) (document : Document) :
    Except ScriptError (Document × Text) :=
  let (document, cssTexts) := settle meanwhile document
  scrubSettled engine document cssTexts

end Script

section Fetching

/-- An error of the driver, as it is shown and as it is dumped. -/
structure Fault where
  display : Text
  debug : Text

/-- The error says that the browser has lost the session. -/
def Fault.crash (fault : Fault) : Bool :=
  Search.occurs "session deleted".toList fault.display ||
    Search.occurs "invalid session id".toList fault.display

/-- What the script puts in front of its errors. -/
def scrubErrorMark : Text := "__SCRUB_ERROR__".toList

/-- After a crash there is no client. -/
def requireClient (client : Bool) : Except BrowserError Unit :=
  if client then .ok () else .error .browserCrashed

/-- The page is loaded, or the browser has crashed, or the page could not be loaded. -/
def navigate : Except Fault Unit → Except BrowserError Unit
  | .ok () => .ok ()
  | .error fault =>
    if fault.crash then .error .browserCrashed
    else .error (.navigationFailed (if fault.display = [] then fault.debug else fault.display))

/-- The value that the driver brings back is a text or something else. -/
def extract : Except Fault (Option Text) → Except BrowserError Text
  | .error fault =>
    if fault.crash then .error .browserCrashed else .error (.extractionFailed fault.display)
  | .ok none => .error (.extractionFailed "No HTML returned".toList)
  | .ok (some html) =>
    match Text.stripPrefix scrubErrorMark html with
    | some rest => .error (.extractionFailed rest)
    | none => .ok html

/-- A page is loaded, if there is still a client to do it, and the script is run in it. -/
def fetchPage (client : Bool) (visited : Except Fault Unit)
    (executed : Except Fault (Option Text)) : Except BrowserError Text := do
  requireClient client
  navigate visited
  extract executed

end Fetching

section Tags

variable (tag : Tag)

end Tags

section Passes

variable (resolve : Text → Text)

/-- An element that loads or runs something. -/
def heavy (tag : Tag) : Bool := heavySelectors.any fun selector => named selector tag

/-- What the script makes of an element. -/
def cleanse (tag : Tag) : Change Leaf Tag :=
  if heavy tag then .become []
  else if named "img" tag then .become [.text (caption resolve tag)]
  else .keep tag.removeHandlers

/-- What the script makes of an element if the markup is too long. -/
def trim (tag : Tag) : Change Leaf Tag :=
  if named "style" tag then .become [] else .keep (styling.foldl Tag.removeAttribute tag)

/-- Edits one after the other, on the nodes. -/
theorem edits_nodes (change : Tag → Change Leaf Tag) (document : Document) (nodes : List Nat) :
    (nodes.foldl (Document.editAt change) document).nodes =
      document.nodes.editEach change nodes := by
  induction nodes generalizing document with
  | nil => rfl
  | cons id nodes inductionHypothesis => exact inductionHypothesis (document.editAt change id)

/-- A loop over selected elements is one pass. -/
theorem each_nodes (change : Tag → Change Leaf Tag) (document : Document) (selects : Tag → Bool) :
    ((document.querySelectorAll selects).foldl (Document.editAt change) document).nodes =
      document.nodes.sweep (Change.only selects change) :=
  (edits_nodes change document _).trans (Forest.editEach_select selects document.distinct)

/-- Removing all elements of a kind is one pass. -/
theorem removeAll_nodes (document : Document) (selects : Tag → Bool) :
    (removeAll document selects).nodes =
      document.nodes.sweep (Change.only selects fun _ => .become []) :=
  each_nodes (fun _ => .become []) document selects

/-- Removing elements of one kind after the other removes those of any of the kinds. -/
theorem removeEach_nodes (selectors : List String) (document : Document) :
    (selectors.foldl (fun document selector => removeAll document (named selector)) document).nodes =
      document.nodes.sweep (Change.only
        (fun tag => selectors.any fun selector => named selector tag) fun _ => .become []) := by
  induction selectors generalizing document with
  | nil => exact Forest.sweep_keep.symm
  | cons selector selectors inductionHypothesis =>
    rw [List.foldl_cons, inductionHypothesis, removeAll_nodes, Forest.sweep_sweep]
    apply Forest.sweep_congr
    intro tag
    cases one : named selector tag <;> simp [Change.only, Change.andThen, one]

/-- Removing what loads or runs something is one pass, although each kind has its own loop. -/
theorem removeHeavy_nodes (document : Document) : (removeHeavy document).nodes =
    document.nodes.sweep (Change.only heavy fun _ => .become []) :=
  removeEach_nodes heavySelectors document

/-- Putting captions in the place of pictures is one pass. -/
theorem replaceImages_nodes {document replaced : Document}
    (ran : replaceImages resolve document = .ok replaced) :
    replaced.nodes = document.nodes.sweep
      (Change.only (named "img") fun img => .become [.text (caption resolve img)]) := by
  rw [replaceImages] at ran
  split at ran
  · exact absurd ran (by simp)
  · rw [← Except.ok.inj ran]
    exact each_nodes _ document _

/-- Taking handlers off is one pass. -/
theorem removeHandlers_nodes (document : Document) :
    (removeHandlers document).nodes = document.nodes.sweep fun tag => .keep tag.removeHandlers :=
  each_nodes _ document _

/-- Taking styling off is one pass. -/
theorem removeStyling_nodes (document : Document) : (removeStyling document).nodes =
    document.nodes.sweep fun tag => .keep (styling.foldl Tag.removeAttribute tag) :=
  each_nodes _ document _

/-- The three loops are one pass. -/
theorem cleansed {document replaced : Document}
    (ran : replaceImages resolve (removeHeavy document) = .ok replaced) :
    (removeHandlers replaced).nodes = document.nodes.sweep (cleanse resolve) := by
  rw [removeHandlers_nodes, replaceImages_nodes resolve ran, removeHeavy_nodes,
    Forest.sweep_sweep, Forest.sweep_sweep]
  apply Forest.sweep_congr
  intro tag
  rw [cleanse, Change.only]
  cases heavy tag with
  | true => rfl
  | false =>
    rw [if_neg Bool.false_ne_true, if_neg Bool.false_ne_true, Change.andThen, Change.only]
    cases named "img" tag <;> rfl

/-- The two loops of falling back are one pass. -/
theorem trimmed (document : Document) :
    (removeStyling (removeAll document (named "style"))).nodes = document.nodes.sweep trim := by
  rw [removeStyling_nodes, removeAll_nodes, Forest.sweep_sweep]
  apply Forest.sweep_congr
  intro tag
  rw [trim, Change.only]
  cases named "style" tag <;> rfl

end Passes

section Results

variable {engine : Engine} {document after : Document} {html css : Text}

/-- Nothing loads or runs anything, no picture is left, and no handler whose name is written
in small letters, as the parser writes all names. -/
structure Clean (tag : Tag) : Prop where
  light : heavy tag = false
  noImage : named "img" tag = false
  quiet : ∀ field ∈ tag.attributes, handler field.1 = true →
    Text.toAsciiLowercase field.1 ≠ field.1

/-- The element has nothing to do with the look of the page. -/
structure Plain (tag : Tag) : Prop where
  noStyle : named "style" tag = false
  unstyled : ∀ field ∈ tag.attributes, field.1 ∉ styling

/-- The attributes that are never removed. -/
def lasting (name : Text) : Bool := !handler name && !styling.contains name

/-- A page without what is removed from it at most, and with captions for its pictures. -/
def outline (resolve : Text → Text) (tag : Tag) : Change Leaf Tag :=
  if heavy tag || named "style" tag then .become []
  else if named "img" tag then .become [.text (caption resolve tag)]
  else .keep (tag.restrict lasting)

/-- It stays clean without some of its attributes. -/
theorem Clean.restrict {tag : Tag} (clean : Clean tag) (left : Text → Bool) :
    Clean (tag.restrict left) :=
  ⟨clean.light, clean.noImage,
    fun field member => clean.quiet field (List.mem_of_mem_filter member)⟩

/-- What the script makes of a page. -/
structure Scrubbed (resolve : Text → Text) (before after : Document) : Prop where
  clean : after.nodes.All Clean
  whole : after.nodes.sweep (outline resolve) = before.nodes.sweep (outline resolve)

/-- The styles of the page have been replaced by the ones of the script, and nothing but styles
has gone. -/
def FellBack (cleansed after : Document) : Prop :=
  ∃ (bare : Document) (head : Nat), bare.nodes = cleansed.nodes.sweep trim ∧
    bare.nodes.All Plain ∧ bare.head = some head ∧ after = bare.appendTo head fallbackCss

/-- What is handed out of a page that has got its stylesheets. The script does to each element
what `cleanse` says and to the page nothing else; only where the markup of this is too long,
the page falls back. -/
inductive HandedOut (engine : Engine) (styled : Document) : Document → Prop where
  | short {cleansed : Document} {markup : Text}
      (swept : cleansed.nodes = styled.nodes.sweep (cleanse engine.resolve))
      (written : outerHtml engine cleansed = .ok markup)
      (fits : (Script.utf16 markup).length ≤ maxSize) : HandedOut engine styled cleansed
  | long {cleansed after : Document} {markup : Text}
      (swept : cleansed.nodes = styled.nodes.sweep (cleanse engine.resolve))
      (written : outerHtml engine cleansed = .ok markup)
      (exceeds : maxSize < (Script.utf16 markup).length)
      (fell : FellBack cleansed after) : HandedOut engine styled after

end Results

section Pages

variable (engine : Engine) (meanwhile : Meanwhile) (document : Document)

/-- The markup is that of a page that was handed out of another one, which has got the texts of
its stylesheets. Whichever way it was handed out, it keeps to the outline of that page. -/
def Shows (before : Document) (cssTexts : List Text) (html : Text) : Prop :=
  ∃ styled after : Document, addSheets before cssTexts = .ok styled ∧
    HandedOut engine styled after ∧ Scrubbed engine.resolve before after ∧
    outerHtml engine after = .ok html

/-- Nothing happens to the page while its stylesheet is fetched. -/
def undisturbed : Meanwhile := fun _ document => (document, some "p\x7btop:url(x)1\x7d".toList)

end Pages

end PacketBrowser.Server
