import Mathlib.Data.Bool.AllAny
import Mathlib.Data.List.DropRight

/-!
# White space and letter case

White space is that of Unicode. A mapping to upper case is a parameter, since beyond
ASCII it depends on the version of Unicode; `Casing` holds what all of them share.
-/

namespace Foundation.Text

/-- A text is looked for in a list of texts. -/
instance decidableMem (text : List Char) (texts : List (List Char)) : Decidable (text ∈ texts) :=
  decidable_of_iff (texts.contains text = true) List.contains_iff_mem

/-- The characters with the property `White_Space`. -/
def whitespace (c : Char) : Bool :=
  (9 ≤ c.toNat && c.toNat ≤ 13) || c.toNat == 0x20 || c.toNat == 0x85 || c.toNat == 0xA0 ||
    c.toNat == 0x1680 || (0x2000 ≤ c.toNat && c.toNat ≤ 0x200A) || c.toNat == 0x2028 ||
    c.toNat == 0x2029 || c.toNat == 0x202F || c.toNat == 0x205F || c.toNat == 0x3000

/-- The text without white space at its ends. -/
def trim (text : List Char) : List Char := (text.dropWhile whitespace).rdropWhile whitespace

/-- The pieces between white space. -/
def words (text : List Char) : List (List Char) :=
  (text.splitOnP whitespace).filter fun word => !word.isEmpty

/-- What is left behind a prefix. -/
def stripPrefix (pre text : List Char) : Option (List Char) :=
  if pre.isPrefixOf text then some (text.drop pre.length) else none

/-- What is left in front of a suffix. -/
def stripSuffix (suf text : List Char) : Option (List Char) :=
  if suf.isSuffixOf text then some (text.take (text.length - suf.length)) else none

/-- The text with the letters of ASCII in lower case. -/
def toAsciiLowercase (text : List Char) : List Char := text.map Char.toLower

/-- Each character in upper case, which may be several characters. -/
structure Casing where
  upper : Char → List Char
  ascii : ∀ c, c.toNat < 0x80 → upper c = [c.toUpper]

/-- The mapping that leaves everything but ASCII letters alone. -/
def Casing.onlyAscii : Casing := ⟨fun c => [c.toUpper], fun _ _ => rfl⟩

/-- A text in upper case, character by character. -/
def Casing.toUppercase (casing : Casing) (text : List Char) : List Char := text.flatMap casing.upper

/-- What is stripped is what the text begins with. -/
theorem stripPrefix_some {pre text rest : List Char} (stripped : stripPrefix pre text = some rest) :
    text = pre ++ rest := by
  unfold stripPrefix at stripped
  split at stripped
  · rename_i found
    obtain rfl := Option.some.inj stripped
    exact (List.prefix_iff_eq_append.mp (List.isPrefixOf_iff_prefix.mp found)).symm
  · exact absurd stripped (by simp)

/-- A text that begins so is stripped. -/
theorem stripPrefix_append (pre rest : List Char) : stripPrefix pre (pre ++ rest) = some rest := by
  unfold stripPrefix
  rw [if_pos (List.isPrefixOf_iff_prefix.mpr (List.prefix_append _ _)), List.drop_left]

/-- What is stripped is what the text ends with. -/
theorem stripSuffix_some {suf text rest : List Char} (stripped : stripSuffix suf text = some rest) :
    text = rest ++ suf := by
  unfold stripSuffix at stripped
  split at stripped
  · rename_i found
    obtain rfl := Option.some.inj stripped
    exact (List.suffix_iff_eq_append.mp (List.isSuffixOf_iff_suffix.mp found)).symm
  · exact absurd stripped (by simp)

/-- Nothing is trimmed in front of a visible character. -/
theorem trim_front (first : Char) (text : List Char) (visible : whitespace first = false) :
    trim (first :: text) = (first :: text).rdropWhile whitespace := by
  simp [trim, List.dropWhile, visible]

/-- Trimming only leaves out. -/
theorem mem_of_mem_trim {c : Char} {text : List Char} (member : c ∈ trim text) : c ∈ text :=
  (List.dropWhile_suffix whitespace).subset ((List.rdropWhile_prefix whitespace _).subset member)

/-- The pieces of a text contain nothing else. -/
theorem mem_of_mem_splitOn {separator c : Char} {text piece : List Char}
    (member : piece ∈ text.splitOn separator) (inside : c ∈ piece) : c ∈ text := by
  rw [List.splitOn_eq_splitOnP] at member
  induction text generalizing piece with
  | nil =>
    rw [List.splitOnP_nil, List.mem_singleton] at member
    exact member ▸ inside
  | cons first rest inductionHypothesis =>
    rw [List.splitOnP_cons_eq_if_modifyHead] at member
    split at member
    · rcases List.mem_cons.mp member with rfl | later
      · exact absurd inside (by simp)
      · exact List.mem_cons_of_mem _ (inductionHypothesis later inside)
    · obtain ⟨front, others, split⟩ := List.exists_cons_of_ne_nil
        (List.splitOnP_ne_nil (· == separator) rest)
      rw [split] at member inductionHypothesis
      rw [List.modifyHead_cons] at member
      rcases List.mem_cons.mp member with rfl | later
      · rcases List.mem_cons.mp inside with rfl | behind
        · exact List.mem_cons_self
        · exact List.mem_cons_of_mem _ (inductionHypothesis List.mem_cons_self behind)
      · exact List.mem_cons_of_mem _
          (inductionHypothesis (List.mem_cons_of_mem _ later) inside)

/-- On a text that contains no other white space, these characters are all that is trimmed. -/
theorem trim_by {blank : Char → Bool} {text : List Char}
    (same : ∀ c ∈ text, whitespace c = blank c) :
    trim text = (text.dropWhile blank).rdropWhile blank := by
  have front : ∀ sequence : List Char, (∀ c ∈ sequence, whitespace c = blank c) →
      sequence.dropWhile whitespace = sequence.dropWhile blank := by
    intro sequence every
    induction sequence with
    | nil => rfl
    | cons first rest inductionHypothesis =>
      rw [List.dropWhile_cons, List.dropWhile_cons, every first List.mem_cons_self,
        inductionHypothesis fun c inside => every c (List.mem_cons_of_mem _ inside)]
  unfold trim List.rdropWhile
  rw [front text same, front]
  intro c inside
  exact same c ((List.dropWhile_suffix _).subset (List.mem_reverse.mp inside))

/-- White space at the end does not matter. -/
theorem trim_concat (text : List Char) (last : Char) (blank : whitespace last = true) :
    trim (text ++ [last]) = trim text := by
  unfold trim
  rw [List.dropWhile_append]
  split
  · rename_i nothing
    rw [List.isEmpty_iff.mp nothing]
    simp [List.dropWhile, blank]
  · exact List.rdropWhile_concat_pos _ _ _ blank

/-- Nothing is trimmed of a visible text at the beginning. -/
theorem trim_visible (front rest : List Char) (visible : ∀ c ∈ front, whitespace c = false) :
    front <+: trim (front ++ rest) := by
  cases front with
  | nil => exact List.nil_prefix
  | cons first front =>
    rw [List.cons_append, trim_front first _ (visible first List.mem_cons_self), ← List.cons_append]
    have kept : (first :: front).reverse.dropWhile whitespace = (first :: front).reverse := by
      apply List.dropWhile_eq_self_iff.mpr
      intro nonempty
      rw [visible _ (List.mem_reverse.mp (List.getElem_mem nonempty))]
      exact Bool.false_ne_true
    unfold List.rdropWhile
    rw [List.reverse_append, List.dropWhile_append]
    split
    · exact ⟨[], by rw [kept, List.reverse_reverse, List.append_nil]⟩
    · rw [List.reverse_append, List.reverse_reverse]
      exact List.prefix_append _ _

/-- A word in front of white space is the first of the words. -/
theorem words_cons {word : List Char} (some : word ≠ [])
    (visible : ∀ c ∈ word, whitespace c = false) {blank : Char} (blanks : whitespace blank = true)
    (rest : List Char) : words (word ++ blank :: rest) = word :: words rest := by
  unfold words
  rw [List.splitOnP_append_cons_of_forall_mem visible blank blanks,
    List.filter_cons_of_pos (by simp [some])]

/-- A text without white space is one word. -/
theorem words_single {word : List Char} (some : word ≠ [])
    (visible : ∀ c ∈ word, whitespace c = false) : words word = [word] := by
  unfold words
  rw [List.splitOnP_eq_singleton visible]
  simp [some]

/-- Words are not empty, and no white space is in them. -/
theorem of_mem_words {word text : List Char} (member : word ∈ words text) :
    word ≠ [] ∧ ∀ c ∈ word, whitespace c = false := by
  obtain ⟨piece, some⟩ := List.mem_filter.mp member
  constructor
  · rintro rfl
    exact absurd some (by simp)
  clear member some
  induction text generalizing word with
  | nil =>
    rw [List.splitOnP_nil, List.mem_singleton] at piece
    simp [piece]
  | cons first text inductionHypothesis =>
    rw [List.splitOnP_cons_eq_if_modifyHead] at piece
    split at piece
    · rcases List.mem_cons.mp piece with rfl | later
      · simp
      · exact inductionHypothesis later
    · rename_i visible
      cases pieces : text.splitOnP whitespace with
      | nil => exact absurd pieces (List.splitOnP_ne_nil _ _)
      | cons front others =>
        rw [pieces, List.modifyHead_cons] at piece
        rcases List.mem_cons.mp piece with rfl | later
        · intro c member
          rcases List.mem_cons.mp member with rfl | within
          · exact Bool.eq_false_iff.mpr visible
          · exact inductionHypothesis (by rw [pieces]; exact List.mem_cons_self) c within
        · exact inductionHypothesis (by rw [pieces]; exact List.mem_cons_of_mem _ later)

/-- Lower case stays as it is. -/
theorem toAsciiLowercase_idempotent (text : List Char) :
    toAsciiLowercase (toAsciiLowercase text) = toAsciiLowercase text := by
  unfold toAsciiLowercase
  rw [List.map_map]
  apply List.map_congr_left
  intro c _
  show c.toLower.toLower = c.toLower
  by_cases capital : c.val ≥ 'A'.val ∧ c.val ≤ 'Z'.val
  · have raised : c.toLower.val = c.val + 32 :=
      congrArg Char.val (dif_pos capital : c.toLower = _)
    have lower : ¬ (c.toLower.val ≥ 'A'.val ∧ c.toLower.val ≤ 'Z'.val) := by
      rw [raised]
      obtain ⟨low, high⟩ := capital
      rintro ⟨_, still⟩
      have first : 65 ≤ c.val.toNat := low
      have last : c.val.toNat ≤ 90 := high
      have above : (c.val + 32).toNat ≤ 90 := still
      rw [UInt32.toNat_add] at above
      have small : UInt32.toNat 32 = 32 := rfl
      omega
    exact dif_neg lower
  · have same : c.toLower = c := dif_neg capital
    rw [same, same]

end Foundation.Text
