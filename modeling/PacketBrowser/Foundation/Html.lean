import PacketBrowser.Foundation.Query
import PacketBrowser.Foundation.Text

/-!
# What a browser makes of an attribute

The source of an attribute is read in three steps: line ends become line feeds, the null
character is replaced, and references are resolved. The value of a link is then an address,
which is cleaned and cut at its fragment, and the value of a text field is submitted with
the field's name.

The named references of markup are many, so the resolution is a parameter. What is used of
it is that it leaves everything in front of an ampersand and reads the five references that
escape the characters with a meaning.
-/

namespace Foundation.Html

section Attributes

/-- References that stand for the characters with a meaning in markup. -/
def escapes : List (Char × List Char) :=
  [('&', "&amp;".toList), ('<', "&lt;".toList), ('>', "&gt;".toList), ('"', "&quot;".toList),
    ('\'', "&#39;".toList)]

/-- The resolution of references in an attribute. -/
structure References where
  resolve : List Char → List Char
  nil : resolve [] = []
  plain : ∀ c rest, c ≠ '&' → resolve (c :: rest) = c :: resolve rest
  reference : ∀ c word rest, (c, word) ∈ escapes → resolve (word ++ rest) = c :: resolve rest

/-- The line ends of a text as line feeds. A line feed behind a carriage return belongs
to it. -/
def newlines : Bool → List Char → List Char
  | _, [] => []
  | after, c :: rest =>
    if c = '\r' then '\n' :: newlines true rest
    else if c = '\n' ∧ after = true then newlines false rest
    else c :: newlines false rest

/-- The null character is replaced. -/
def visible (c : Char) : Char := if c = '\x00' then '\uFFFD' else c

/-- The value of a piece of an attribute, of which it is known whether it stands behind a
carriage return. -/
def valueAfter (references : References) (after : Bool) (source : List Char) : List Char :=
  references.resolve ((newlines after source).map visible)

/-- The value of an attribute. -/
def attributeValue (references : References) (source : List Char) : List Char :=
  valueAfter references false source

/-- Only the five references. -/
def onlyEscapesAfter : Nat → List Char → List Char
  | _, [] => []
  | skip + 1, _ :: rest => onlyEscapesAfter skip rest
  | 0, c :: rest =>
    match escapes.find? fun escape => escape.2.isPrefixOf (c :: rest) with
    | some (meant, word) => meant :: onlyEscapesAfter (word.length - 1) rest
    | none => c :: onlyEscapesAfter 0 rest

/-- The references that are resolved are those that escaping writes, and nothing else is one. -/
def onlyEscapes : References where
  resolve := onlyEscapesAfter 0
  nil := rfl
  plain := by
    intro c rest other
    have nothing : (escapes.find? fun escape => escape.2.isPrefixOf (c :: rest)) = none := by
      apply List.find?_eq_none.mpr
      intro escape member
      have ampersand : ∀ escape ∈ escapes, escape.2.head? = some '&' := by decide
      obtain ⟨tail, word⟩ := List.head?_eq_some_iff.mp (ampersand escape member)
      rw [word]
      simp [List.isPrefixOf, Ne.symm other]
    rw [onlyEscapesAfter, nothing]
  reference := by
    intro c word rest member
    simp only [escapes, List.mem_cons, List.not_mem_nil, or_false, Prod.mk.injEq] at member
    rcases member with ⟨rfl, rfl⟩ | ⟨rfl, rfl⟩ | ⟨rfl, rfl⟩ | ⟨rfl, rfl⟩ | ⟨rfl, rfl⟩ <;> rfl

/-- The source of an attribute that is written between double quotes behind an opening. -/
def quoted (opening markup : List Char) : Option (List Char) :=
  (Text.stripPrefix opening markup).map fun behind => behind.takeWhile (· != '"')

end Attributes

section Links

/-- Characters that do not count at the ends of an address. -/
def blank (c : Char) : Bool := c.toNat ≤ 0x20

/-- Characters that do not count in an address. -/
def broken (c : Char) : Bool := c == '\t' || c == '\n' || c == '\r'

/-- An address without the characters that do not count. -/
def address (value : List Char) : List Char :=
  ((value.dropWhile blank).rdropWhile blank).filter fun c => !broken c

/-- The query with which following a link asks for a path. Other links do not ask for it. -/
def requested (path value : List Char) : Option (List Char) :=
  (Text.stripPrefix (path ++ ['?']) (address value)).map fun query =>
    Query.encodeQuery (query.takeWhile (· != '#'))

/-- The value of a text field, which has one line. -/
def line (value : List Char) : List Char := value.filter fun c => c != '\n' && c != '\r'

/-- The query with which a form asks that has one text field. -/
def submitted (name value : List Char) : List Char := Query.field name (line value)

end Links

section Values

variable (references : References)

/-- The character stands for itself wherever it is. -/
def Settled (c : Char) : Prop := c ≠ '&' ∧ c ≠ '\r' ∧ c ≠ '\n' ∧ c ≠ '\x00'

instance (c : Char) : Decidable (Settled c) :=
  inferInstanceAs (Decidable (c ≠ '&' ∧ c ≠ '\r' ∧ c ≠ '\n' ∧ c ≠ '\x00'))

/-- A test on all characters says that all of them are settled. -/
theorem settled_all {text : List Char} (all : (text.all fun c => decide (Settled c)) = true) :
    ∀ c ∈ text, Settled c :=
  fun c inside => of_decide_eq_true (List.all_eq_true.mp all c inside)

/-- The attribute ends at the quote that closes it. -/
theorem quoted_eq (opening : List Char) {source closing : List Char} (unquoted : '"' ∉ source)
    (closes : closing.head? = some '"') :
    quoted opening (opening ++ source ++ closing) = some source := by
  have keeps : ∀ c ∈ source, (c != '"') = true := by
    intro c inside
    exact bne_iff_ne.mpr fun same => unquoted (same ▸ inside)
  obtain ⟨rest, rfl⟩ := List.head?_eq_some_iff.mp closes
  rw [quoted, List.append_assoc, Text.stripPrefix_append, Option.map_some,
    List.takeWhile_append_of_pos keeps, List.takeWhile_cons_of_neg (by simp), List.append_nil]

/-- An empty value stays empty. -/
@[simp] theorem valueAfter_nil (after : Bool) : valueAfter references after [] = [] :=
  references.nil

/-- A word without line ends and null characters is passed on to the resolution. -/
theorem newlines_word {word : List Char} (some : word ≠ [])
    (settled : ∀ c ∈ word, c ≠ '\r' ∧ c ≠ '\n' ∧ c ≠ '\x00') (after : Bool) (rest : List Char) :
    (newlines after (word ++ rest)).map visible = word ++ (newlines false rest).map visible := by
  induction word generalizing after with
  | nil => exact absurd rfl some
  | cons c word inductionHypothesis =>
    obtain ⟨noReturn, noFeed, noNull⟩ := settled c List.mem_cons_self
    have first : newlines after (c :: (word ++ rest)) = c :: newlines false (word ++ rest) := by
      rw [newlines, if_neg noReturn, if_neg fun feed => noFeed feed.1]
    have same : visible c = c := if_neg noNull
    rw [List.cons_append, first, List.map_cons, same]
    cases word with
    | nil => rfl
    | cons d word =>
      rw [inductionHypothesis (by simp) fun e inside => settled e (List.mem_cons_of_mem c inside)]
      rfl

/-- A settled character stands for itself. -/
theorem value_settled {c : Char} (settled : Settled c) (after : Bool) (rest : List Char) :
    valueAfter references after (c :: rest) = c :: valueAfter references false rest := by
  obtain ⟨ampersand, others⟩ := settled
  have read := newlines_word (by simp : [c] ≠ [])
    (fun d inside => List.mem_singleton.mp inside ▸ others) after rest
  unfold valueAfter
  rw [← List.singleton_append, read, List.singleton_append]
  exact references.plain c _ ampersand

/-- The word of an escape stands for its character. -/
theorem value_reference {c : Char} {word : List Char} (escape : (c, word) ∈ escapes)
    (after : Bool) (rest : List Char) :
    valueAfter references after (word ++ rest) = c :: valueAfter references false rest := by
  have clean : ∀ escape ∈ escapes, escape.2 ≠ [] ∧
      (escape.2.all fun d => d != '\r' && d != '\n' && d != '\x00') = true := by decide
  obtain ⟨some, settled⟩ := clean (c, word) escape
  simp only [List.all_eq_true, Bool.and_eq_true, bne_iff_ne, and_assoc] at settled
  unfold valueAfter
  rw [newlines_word some settled]
  exact references.reference c word _ escape

/-- A text in which nothing has a meaning is its own value. -/
theorem value_text {text : List Char} (settled : ∀ c ∈ text, Settled c) (rest : List Char) :
    valueAfter references false (text ++ rest) = text ++ valueAfter references false rest := by
  induction text with
  | nil => rfl
  | cons c text inductionHypothesis =>
    rw [List.cons_append, value_settled references (settled c List.mem_cons_self),
      inductionHypothesis fun d inside => settled d (List.mem_cons_of_mem c inside)]
    rfl

/-- A value of settled characters stands for itself. -/
theorem attributeValue_self {text : List Char} (settled : ∀ c ∈ text, Settled c) :
    attributeValue references text = text := by
  have whole := value_text references settled []
  rwa [List.append_nil, valueAfter_nil, List.append_nil] at whole

/-- What has been escaped is read back, up to line ends and null characters. -/
theorem value_escaped {escape : Char → List Char}
    (each : ∀ c, (c, escape c) ∈ escapes ∨ (c ≠ '&' ∧ escape c = [c])) {rest : List Char}
    (ahead : ∀ after, valueAfter references after rest = valueAfter references false rest)
    (after : Bool) (text : List Char) :
    valueAfter references after (text.flatMap escape ++ rest) =
      (newlines after text).map visible ++ valueAfter references false rest := by
  induction text generalizing after with
  | nil => exact ahead after
  | cons c text inductionHypothesis =>
    rw [List.flatMap_cons, List.append_assoc]
    rcases each c with escape | ⟨other, own⟩
    · have settled : ∀ escape ∈ escapes, escape.1 ≠ '\r' ∧ escape.1 ≠ '\n' ∧
          visible escape.1 = escape.1 := by decide
      obtain ⟨noReturn, noFeed, same⟩ := settled _ escape
      rw [value_reference references escape, inductionHypothesis, newlines, if_neg noReturn,
        if_neg fun feed => noFeed feed.1, List.map_cons, same]
      rfl
    · have seen : visible c ≠ '&' := by
        unfold visible
        split
        · decide
        · exact other
      rw [own, List.singleton_append, valueAfter, newlines, newlines]
      split
      · exact (references.plain '\n' _ (by decide)).trans
          (congrArg ('\n' :: ·) (inductionHypothesis true))
      · split
        · exact inductionHypothesis false
        · exact (references.plain (visible c) _ seen).trans
            (congrArg (visible c :: ·) (inductionHypothesis false))

/-- It makes no difference to a reader that skips them how lines end. -/
theorem filter_newlines {kept : Char → Bool} (noReturn : kept '\r' = false)
    (noFeed : kept '\n' = false) (after : Bool) (text : List Char) :
    (newlines after text).filter kept = text.filter kept := by
  induction text generalizing after with
  | nil => rfl
  | cons c rest inductionHypothesis =>
    rw [newlines]
    split
    · rename_i same
      rw [List.filter_cons_of_neg (by simp [noFeed]), inductionHypothesis, same,
        List.filter_cons_of_neg (by simp [noReturn])]
    · split
      · rename_i same
        rw [inductionHypothesis, same.1, List.filter_cons_of_neg (by simp [noFeed])]
      · rw [List.filter_cons, List.filter_cons, inductionHypothesis]

/-- A text without its null characters, and only what is kept of it. -/
def tidy (kept : Char → Bool) (text : List Char) : List Char := (text.map visible).filter kept

/-- Where line breaks are dropped anyway, preparing them makes no difference. -/
theorem tidy_newlines {kept : Char → Bool} (noReturn : kept '\r' = false)
    (noFeed : kept '\n' = false) (after : Bool) (text : List Char) :
    ((newlines after text).map visible).filter kept = tidy kept text := by
  have skips : (newlines after text).filter (kept ∘ visible) = text.filter (kept ∘ visible) := by
    apply filter_newlines
    · exact noReturn
    · exact noFeed
  unfold tidy
  rw [List.filter_map, List.filter_map, skips]

/-- A text is tidy exactly if each of its characters is kept and none is the null character. -/
theorem tidy_eq_iff (kept : Char → Bool) (text : List Char) :
    tidy kept text = text ↔ ∀ c ∈ text, kept c = true ∧ c ≠ '\x00' := by
  constructor
  · intro same c inside
    rw [← same] at inside
    obtain ⟨seen, keeps⟩ := List.mem_filter.mp inside
    obtain ⟨d, _, rfl⟩ := List.mem_map.mp seen
    refine ⟨keeps, ?_⟩
    unfold visible
    split
    · decide
    · assumption
  · intro each
    have seen : text.map visible = text := by
      apply Eq.trans _ (List.map_id text)
      apply List.map_congr_left
      exact fun c inside => if_neg (each c inside).2
    rw [tidy, seen, List.filter_eq_self]
    exact fun c inside => (each c inside).1

/-- Nothing is left out of a text that keeps its ASCII characters, if only such characters
can be left out. -/
theorem asciiCount_tidy {kept : Char → Bool} (ascii : ∀ c, kept c = false → c.toNat < 0x80)
    (text : List Char) : Query.asciiCount (tidy kept text) ≤ Query.asciiCount text ∧
      (Query.asciiCount (tidy kept text) = Query.asciiCount text → tidy kept text = text) := by
  induction text with
  | nil => exact ⟨Nat.le_refl _, fun _ => rfl⟩
  | cons c rest inductionHypothesis =>
    obtain ⟨least, exactly⟩ := inductionHypothesis
    have split : tidy kept (c :: rest) =
        if kept (visible c) then visible c :: tidy kept rest else tidy kept rest := by
      simp [tidy, List.filter_cons]
    rw [split, Query.asciiCount_cons]
    by_cases null : c = '\x00'
    · have replaced : visible c = '\uFFFD' := if_pos null
      have high : ¬ '\uFFFD'.toNat < 0x80 := by decide
      have low : c.toNat < 0x80 := by rw [null]; decide
      rw [replaced, if_pos low]
      split
      · rw [Query.asciiCount_cons, if_neg high]
        constructor
        · omega
        · intro same
          omega
      · constructor
        · omega
        · intro same
          omega
    · have same : visible c = c := if_neg null
      rw [same]
      split
      · rw [Query.asciiCount_cons]
        constructor
        · omega
        · intro equal
          rw [exactly (by omega)]
      · rename_i left
        rw [if_pos (ascii c (by simpa using left))]
        constructor
        · omega
        · intro equal
          omega

end Values

section Addresses

/-- Nothing is dropped in front of a character that counts. -/
theorem dropWhile_blank {text : List Char} (counts : ∀ c ∈ text.head?, blank c = false) :
    text.dropWhile blank = text := by
  cases text with
  | nil => rfl
  | cons c rest => exact List.dropWhile_cons_of_neg (by simp [counts c rfl])

/-- An address with characters that count at its ends. -/
theorem address_eq {value : List Char} (front : ∀ c ∈ value.head?, blank c = false)
    (back : ∀ c ∈ value.getLast?, blank c = false) :
    address value = value.filter fun c => !broken c := by
  have last : value.rdropWhile blank = value := by
    unfold List.rdropWhile
    rw [dropWhile_blank, List.reverse_reverse]
    rwa [List.head?_reverse]
  rw [address, dropWhile_blank front, last]

/-- The first character of an address is kept if it counts. -/
theorem address_cons {c : Char} (counts : blank c = false) (whole : broken c = false)
    (rest : List Char) : ∃ tail, address (c :: rest) = c :: tail := by
  have trimmed : ∃ tail, (c :: rest).rdropWhile blank = c :: tail := by
    have last : [c].dropWhile blank = [c] := dropWhile_blank (by simpa using counts)
    unfold List.rdropWhile
    rw [List.reverse_cons, List.dropWhile_append, last]
    split
    · exact ⟨[], rfl⟩
    · exact ⟨_, List.reverse_concat ..⟩
  obtain ⟨tail, split⟩ := trimmed
  unfold address
  rw [dropWhile_blank (by simpa using counts), split, List.filter_cons_of_pos (by simp [whole])]
  exact ⟨_, rfl⟩

/-- A link that begins with another character does not ask for a path. -/
theorem requested_other {c first : Char} {path : List Char} (counts : blank c = false)
    (whole : broken c = false) (other : c ≠ first) (rest : List Char) :
    requested (first :: path) (c :: rest) = none := by
  obtain ⟨tail, clean⟩ := address_cons counts whole rest
  have different : ((first :: path) ++ ['?']).isPrefixOf (c :: tail) = false := by
    simp [List.isPrefixOf, Ne.symm other]
  unfold requested Text.stripPrefix
  rw [clean, different]
  rfl

/-- The query of a link to a path, with the address cleaned already. -/
theorem requested_eq {path value query : List Char} (clean : address value = path ++ '?' :: query) :
    requested path value = some (Query.encodeQuery (query.takeWhile (· != '#'))) := by
  have whole : path ++ '?' :: query = path ++ ['?'] ++ query := by simp
  rw [requested, clean, whole, Text.stripPrefix_append]
  rfl

/-- The character means nothing in an attribute, in an address and between quotes. -/
structure Neutral (c : Char) : Prop where
  settled : Settled c
  counts : blank c = false
  whole : broken c = false
  inside : c ≠ '#'
  unquoted : c ≠ '"'

/-- What a form writes means nothing outside of queries. -/
theorem neutral_unreserved {c : Char} (free : Query.unreserved c = true) : Neutral c := by
  have other : ∀ d, Query.unreserved d = false → c ≠ d := by
    rintro d taken rfl
    exact absurd free (by simp [taken])
  have above : 0x20 < c.toNat := by
    have taken : ∀ code ≤ 0x20, Query.unreserved (Char.ofNat code) = false := by decide
    by_contra below
    have own := taken c.toNat (Nat.le_of_not_lt below)
    rw [Char.ofNat_toNat, free] at own
    exact absurd own (by simp)
  have whole : broken c = false := by
    simp only [broken, Bool.or_eq_false_iff, beq_eq_false_iff_ne]
    exact ⟨⟨other _ (by decide), other _ (by decide)⟩, other _ (by decide)⟩
  constructor
  · exact ⟨other _ (by decide), other _ (by decide), other _ (by decide), other _ (by decide)⟩
  · simpa [blank] using above
  · exact whole
  · exact other _ (by decide)
  · exact other _ (by decide)

/-- An address in which nothing has a meaning stands for itself. -/
theorem address_self {value : List Char} (neutral : ∀ c ∈ value, Neutral c) :
    address value = value := by
  rw [address_eq]
  · apply List.filter_eq_self.mpr
    intro c inside
    simp [(neutral c inside).whole]
  · exact fun c first => (neutral c (List.mem_of_mem_head? first)).counts
  · exact fun c last => (neutral c (List.mem_of_mem_getLast? last)).counts

/-- An encoded field has only characters that nothing takes for anything else. -/
theorem neutral_encode {c : Char} {text : List Char} (member : c ∈ Query.encode text) :
    Neutral c := by
  rcases Query.mem_encode member with free | rfl | rfl
  · exact neutral_unreserved free
  · exact ⟨by decide, by decide, by decide, by decide, by decide⟩
  · exact ⟨by decide, by decide, by decide, by decide, by decide⟩

end Addresses

end Foundation.Html
