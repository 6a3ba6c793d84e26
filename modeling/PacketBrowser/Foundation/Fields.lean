import PacketBrowser.Foundation.Html

/-!
# The fields of a page

A page is written piece by piece. The fields that begin in a given way are found at every
place of it where the beginning stands. A piece that neither contains the beginning nor can
be the first part of it is aside: whatever is written behind it, no field begins there.

What a browser submits for a field is its value with line ends of one form.
-/

namespace Foundation.Html

/-- The sources of all attributes behind an opening, in order. -/
def fields (opening : List Char) : List Char → List (List Char)
  | [] => []
  | c :: rest =>
    match quoted opening (c :: rest) with
    | some source => source :: fields opening rest
    | none => fields opening rest

/-- Nowhere in the piece does the opening begin. -/
def aside (opening : List Char) : List Char → Bool
  | [] => true
  | c :: rest => !opening.isPrefixOf (c :: rest) && !(c :: rest).isPrefixOf opening &&
    aside opening rest

/-- Nowhere in the piece do these two characters follow each other, and the first of them does
not end it. -/
def apart (first second : Char) : List Char → Bool
  | [] => true
  | [c] => c != first
  | c :: d :: rest => !(c == first && d == second) && apart first second (d :: rest)

/-- A value as it is submitted. -/
def lineEnds (value : List Char) : List Char :=
  (newlines false value).flatMap fun c => if c = '\n' then ['\r', '\n'] else [c]

section Reading

variable {opening : List Char}

/-- A text is aside if it is where it begins and from there on. -/
theorem aside_cons {c : Char} {rest : List Char} : aside opening (c :: rest) = true ↔
    (¬ opening <+: c :: rest ∧ ¬ c :: rest <+: opening) ∧ aside opening rest = true := by
  simp only [aside, Bool.and_eq_true, Bool.not_eq_true', ← List.isPrefixOf_iff_prefix,
    Bool.not_eq_true]

/-- Texts that are aside stay so one behind the other. -/
theorem aside_append {one two : List Char} (first : aside opening one = true)
    (second : aside opening two = true) : aside opening (one ++ two) = true := by
  induction one with
  | nil => exact second
  | cons c one inductionHypothesis =>
    obtain ⟨⟨longer, shorter⟩, rest⟩ := aside_cons.mp first
    refine aside_cons.mpr ⟨⟨?_, ?_⟩, inductionHypothesis rest⟩
    · intro starts
      have whole : c :: one <+: c :: (one ++ two) := List.prefix_append (c :: one) two
      exact (List.prefix_or_prefix_of_prefix starts whole).elim longer shorter
    · exact fun starts => shorter ((List.prefix_append (c :: one) two).trans starts)

/-- A text without the first character of the opening is aside. -/
theorem aside_text {first : Char} {tail text : List Char} (clean : first ∉ text) :
    aside (first :: tail) text = true := by
  induction text with
  | nil => rfl
  | cons c text inductionHypothesis =>
    obtain ⟨other, rest⟩ := not_or.mp (List.mem_cons.not.mp clean)
    refine aside_cons.mpr ⟨⟨?_, ?_⟩, inductionHypothesis rest⟩
    · exact fun starts => other (List.cons_prefix_cons.mp starts).1
    · exact fun starts => other (List.cons_prefix_cons.mp starts).1.symm

/-- An opening begins nowhere where its first two characters do not. -/
theorem aside_apart {first second : Char} {tail piece : List Char}
    (separate : apart first second piece = true) :
    aside (first :: second :: tail) piece = true := by
  induction piece with
  | nil => rfl
  | cons c piece inductionHypothesis =>
    cases piece with
    | nil =>
      have other : c ≠ first := bne_iff_ne.mp separate
      refine aside_cons.mpr ⟨⟨?_, ?_⟩, rfl⟩
      · exact fun starts => other (List.cons_prefix_cons.mp starts).1.symm
      · exact fun starts => other (List.cons_prefix_cons.mp starts).1
    | cons d piece =>
      simp only [apart, Bool.and_eq_true, Bool.not_eq_true', Bool.and_eq_false_iff,
        beq_eq_false_iff_ne] at separate
      obtain ⟨other, rest⟩ := separate
      refine aside_cons.mpr ⟨⟨?_, ?_⟩, inductionHypothesis rest⟩
      · intro starts
        obtain ⟨same, more⟩ := List.cons_prefix_cons.mp starts
        exact other.elim (· same.symm) (· (List.cons_prefix_cons.mp more).1.symm)
      · intro starts
        obtain ⟨same, more⟩ := List.cons_prefix_cons.mp starts
        exact other.elim (· same) (· (List.cons_prefix_cons.mp more).1)

/-- Markup that begins otherwise has no quoted value here. -/
theorem quoted_none {markup : List Char} (other : ¬ opening <+: markup) :
    quoted opening markup = none := by
  cases found : Text.stripPrefix opening markup with
  | none => rw [quoted, found, Option.map_none]
  | some behind => exact absurd ⟨behind, (Text.stripPrefix_some found).symm⟩ other

/-- No field begins in a piece that is aside. -/
theorem fields_aside {piece : List Char} (beside : aside opening piece = true)
    (rest : List Char) : fields opening (piece ++ rest) = fields opening rest := by
  induction piece with
  | nil => rfl
  | cons c piece inductionHypothesis =>
    obtain ⟨⟨longer, shorter⟩, later⟩ := aside_cons.mp beside
    have other : ¬ opening <+: c :: (piece ++ rest) := by
      intro starts
      have whole : c :: piece <+: c :: (piece ++ rest) := List.prefix_append (c :: piece) rest
      exact (List.prefix_or_prefix_of_prefix starts whole).elim longer shorter
    rw [List.cons_append, fields, quoted_none other]
    exact inductionHypothesis later

/-- A field is read where it is written. -/
theorem fields_field {first : Char} {tail source closing : List Char}
    (unbordered : aside (first :: tail) tail = true) (unquoted : '"' ∉ source)
    (plain : first ∉ source) (closes : closing.head? = some '"') :
    fields (first :: tail) (first :: tail ++ source ++ closing) =
      source :: fields (first :: tail) closing := by
  have read := quoted_eq (first :: tail) unquoted closes
  simp only [List.cons_append] at read ⊢
  rw [fields, read, List.append_assoc, fields_aside unbordered, fields_aside (aside_text plain)]

end Reading

section Submitting

/-- Behind the preparation of newlines there is no carriage return. -/
theorem newlines_return (after : Bool) (text : List Char) : '\r' ∉ newlines after text := by
  induction text generalizing after with
  | nil => simp [newlines]
  | cons c text inductionHypothesis =>
    rw [newlines]
    split
    · simp [inductionHypothesis]
    · rename_i other
      split
      · exact inductionHypothesis false
      · simp [Ne.symm other, inductionHypothesis]

/-- Line ends that are line feeds already stay. -/
theorem newlines_self {text : List Char} (single : '\r' ∉ text) : newlines false text = text := by
  induction text with
  | nil => rfl
  | cons c text inductionHypothesis =>
    obtain ⟨other, rest⟩ := not_or.mp (List.mem_cons.not.mp single)
    rw [newlines, if_neg (Ne.symm other), if_neg (by simp), inductionHypothesis rest]

/-- Nothing but line feeds is new in a text with its line ends changed. -/
theorem mem_newlines {c : Char} {after : Bool} {text : List Char}
    (member : c ∈ newlines after text) : c = '\n' ∨ c ∈ text := by
  induction text generalizing after with
  | nil => exact absurd member (by simp [newlines])
  | cons d text inductionHypothesis =>
    rw [newlines] at member
    split at member
    · rcases List.mem_cons.mp member with rfl | later
      · exact Or.inl rfl
      · exact (inductionHypothesis later).imp_right (List.mem_cons_of_mem d)
    · split at member
      · exact (inductionHypothesis member).imp_right (List.mem_cons_of_mem d)
      · rcases List.mem_cons.mp member with rfl | later
        · exact Or.inr List.mem_cons_self
        · exact (inductionHypothesis later).imp_right (List.mem_cons_of_mem d)

/-- The line ends of a value add nothing but line breaks. -/
theorem mem_lineEnds {c : Char} {value : List Char} (member : c ∈ lineEnds value) :
    c = '\r' ∨ c = '\n' ∨ c ∈ value := by
  obtain ⟨d, inside, own⟩ := List.mem_flatMap.mp member
  split at own
  · simp only [List.mem_cons, List.not_mem_nil, or_false] at own
    exact own.imp_right Or.inl
  · rw [List.mem_singleton.mp own]
    exact Or.inr (mem_newlines inside)

/-- What a browser submits for a value that has been read from markup. -/
def posted (text : List Char) : List Char := lineEnds ((newlines false text).map visible)

/-- Only the null character is replaced. -/
theorem visible_eq {c : Char} (other : c ≠ '\x00') : visible c = c := if_neg other

/-- A text is submitted as it is if it has no null character and its line ends are those
of submitted values. -/
theorem posted_eq_iff {text : List Char} :
    posted text = text ↔ '\x00' ∉ text ∧ lineEnds text = text := by
  have whole : '\x00' ∉ text → posted text = lineEnds text := by
    intro clean
    have same : (newlines false text).map visible = newlines false text := by
      refine (List.map_congr_left fun c inside => visible_eq ?_).trans (List.map_id _)
      rintro rfl
      exact (mem_newlines inside).elim (by decide) clean
    rw [posted, same, lineEnds, lineEnds, newlines_self (newlines_return false text)]
  constructor
  · intro same
    have clean : '\x00' ∉ text := by
      rw [← same]
      intro member
      rcases mem_lineEnds member with other | other | inside
      · exact absurd other (by decide)
      · exact absurd other (by decide)
      · obtain ⟨c, _, null⟩ := List.mem_map.mp inside
        unfold visible at null
        split at null
        · exact absurd null (by decide)
        · contradiction
    exact ⟨clean, (whole clean).symm.trans same⟩
  · rintro ⟨clean, ends⟩
    exact (whole clean).trans ends

end Submitting

end Foundation.Html
