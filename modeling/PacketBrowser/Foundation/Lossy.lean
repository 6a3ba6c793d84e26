import Mathlib.Data.List.Infix
import PacketBrowser.Foundation.Utf8

/-!
# What lossy decoding leaves intact

Bytes that arrive in pieces are often decoded piece by piece, and a character that is cut is
lost. ASCII characters are not: whatever the pieces, every ASCII byte becomes its character,
and what stands between two of them becomes characters that are not ASCII. `Blurred` says
this of bytes and a text. Words of ASCII characters are therefore found in the text exactly
if they are found in the bytes.
-/

namespace Foundation.Utf8

/-- The byte is not an ASCII character. -/
def High (b : UInt8) : Prop := 0x80 ≤ b.toNat

/-- The text comes from the bytes, but characters that are not ASCII may be others and
fewer. None takes more than three times its bytes. -/
inductive Blurred : List UInt8 → List Char → Prop
  | nil : Blurred [] []
  | ascii {b : UInt8} {bytes : List UInt8} {text : List Char} (low : b.toNat < 0x80)
      (rest : Blurred bytes text) : Blurred (b :: bytes) (Char.ofNat b.toNat :: text)
  | high {run bytes : List UInt8} {c : Char} {text : List Char} (some : run ≠ [])
      (each : ∀ b ∈ run, High b) (other : 0x80 ≤ c.toNat)
      (size : (String.utf8EncodeChar c).length ≤ 3 * run.length) (rest : Blurred bytes text) :
      Blurred (run ++ bytes) (c :: text)

section Reading

/-- A scalar value is the number of its character. -/
theorem toNat_char (n : Nat) (valid : n.isValidChar) : (Char.ofNat n).toNat = n := by
  have same : Char.ofNat n = Char.ofNatAux n valid := dif_pos valid
  rw [same]
  rfl

/-- A continuation byte is not ASCII. -/
theorem continuation_high {b : UInt8} (continues : continuation b = true) : High b := by
  simp only [continuation, Bool.and_eq_true, decide_eq_true_eq] at continues
  exact continues.1

/-- The second byte of a three-byte form is not ASCII. -/
theorem secondOfThree_high {a b : UInt8} (second : secondOfThree a b = true) : High b := by
  simp only [secondOfThree, Bool.and_eq_true] at second
  exact continuation_high second.1.1

/-- The second byte of a four-byte form is not ASCII. -/
theorem secondOfFour_high {a b : UInt8} (second : secondOfFour a b = true) : High b := by
  simp only [secondOfFour, Bool.and_eq_true] at second
  exact continuation_high second.1.1

/-- What a read behind a byte outside ASCII takes: more such bytes, and some of them if it
reads a character. -/
def Takes (rest : List UInt8) (read : Option Char × List UInt8) : Prop :=
  ∃ run, rest = run ++ read.2 ∧ (∀ b ∈ run, High b) ∧
    ∀ c, read.1 = some c → run ≠ [] ∧ 0x80 ≤ c.toNat

/-- A run of high bytes may be taken for an ill-formed prefix. -/
theorem takes_none (run : List UInt8) {rest : List UInt8} (each : ∀ b ∈ run, High b) :
    Takes (run ++ rest) (none, rest) :=
  ⟨run, rfl, each, fun _ read => absurd read (by simp)⟩

/-- A run of high bytes may be taken for a character outside ASCII. -/
theorem takes_some (run : List UInt8) {rest : List UInt8} {n : Nat} (some : run ≠ [])
    (each : ∀ b ∈ run, High b) (high : 0x80 ≤ n) (valid : n.isValidChar) :
    Takes (run ++ rest) (Option.some (Char.ofNat n), rest) := by
  refine ⟨run, rfl, each, fun c read => ⟨some, ?_⟩⟩
  obtain rfl := Option.some.inj read
  rw [toNat_char n valid]
  exact high

/-- One read takes an ASCII byte, or bytes that are not ASCII. -/
theorem next_low {a : UInt8} (low : a.toNat < 0x80) (rest : List UInt8) :
    next (a :: rest) = (some (Char.ofNat a.toNat), rest) := by
  unfold next
  dsimp only
  rw [if_pos low]

/-- What is read behind a high byte takes a run of high bytes. -/
theorem next_high {a : UInt8} (high : High a) (rest : List UInt8) :
    Takes rest (next (a :: rest)) := by
  have nothing : ∀ rest, Takes rest (none, rest) := fun rest => takes_none [] (by simp)
  unfold next
  dsimp only
  rw [if_neg (Nat.not_lt.mpr high)]
  split
  · -- two bytes
    split
    · split
      · rename_i range _ b rest' continues
        have bounds := continues
        simp only [continuation, Bool.and_eq_true, decide_eq_true_eq] at bounds
        apply takes_some [b] (by simp)
        · simpa using continuation_high continues
        · omega
        · simp only [Nat.isValidChar]
          omega
      · exact nothing _
    · exact nothing _
  split
  · -- three bytes
    split
    · split
      · split
        · rename_i range _ b c rest' second continues
          have bounds := continues
          have shape := second
          simp only [secondOfThree, continuation, Bool.and_eq_true, Bool.or_eq_true, bne_iff_ne,
            decide_eq_true_eq] at bounds shape
          apply takes_some [b, c] (by simp)
          · simpa using ⟨secondOfThree_high second, continuation_high continues⟩
          · omega
          · simp only [Nat.isValidChar]
            omega
        · rename_i second _
          exact takes_none [_] (by simpa using secondOfThree_high second)
      · exact nothing _
    · split
      · rename_i second
        exact takes_none [_] (by simpa using secondOfThree_high second)
      · exact nothing _
    · exact nothing _
  split
  · -- four bytes
    split
    · split
      · split
        · split
          · rename_i range _ b c d rest' second third fourth
            have shape := second
            have bounds := And.intro third fourth
            simp only [secondOfFour, continuation, Bool.and_eq_true, Bool.or_eq_true, bne_iff_ne,
              decide_eq_true_eq] at bounds shape
            apply takes_some [b, c, d] (by simp)
            · simpa using ⟨secondOfFour_high second, continuation_high third, continuation_high fourth⟩
            · omega
            · simp only [Nat.isValidChar]
              omega
          · rename_i second third _
            exact takes_none [_, _]
              (by simpa using ⟨secondOfFour_high second, continuation_high third⟩)
        · rename_i second _
          exact takes_none [_] (by simpa using secondOfFour_high second)
      · exact nothing _
    · split
      · split
        · rename_i second third
          exact takes_none [_, _]
            (by simpa using ⟨secondOfFour_high second, continuation_high third⟩)
        · rename_i second _
          exact takes_none [_] (by simpa using secondOfFour_high second)
      · exact nothing _
    · split
      · rename_i second
        exact takes_none [_] (by simpa using secondOfFour_high second)
      · exact nothing _
    · exact nothing _
  · exact nothing _

/-- Enough reads turn all bytes into text. -/
theorem blurred_lossyWithin (reads : Nat) (bytes : List UInt8) (enough : bytes.length ≤ reads) :
    Blurred bytes (lossyWithin reads bytes) := by
  induction reads generalizing bytes with
  | zero =>
    obtain rfl := List.eq_nil_of_length_eq_zero (Nat.le_zero.mp enough)
    exact .nil
  | succ reads inductionHypothesis =>
    cases bytes with
    | nil => exact .nil
    | cons a rest =>
      simp only [List.length_cons, Nat.add_le_add_iff_right] at enough
      by_cases low : a.toNat < 0x80
      · rw [lossyWithin, next_low low]
        exact .ascii low (inductionHypothesis rest enough)
      · have high : High a := Nat.le_of_not_lt low
        obtain ⟨run, split, each, reads'⟩ := next_high high rest
        rw [lossyWithin]
        generalize next (a :: rest) = read at split reads'
        obtain ⟨c, left⟩ := read
        simp only at split reads'
        subst split
        have bytes : a :: (run ++ left) = (a :: run) ++ left := rfl
        rw [bytes]
        apply Blurred.high (by simp)
        · simpa using ⟨high, each⟩
        · cases c with
          | none => decide
          | some c => exact (reads' c rfl).2
        · cases c with
          | none =>
            simp only [Option.getD_none, List.length_cons]
            have three : (String.utf8EncodeChar '\uFFFD').length = 3 := by decide
            omega
          | some c =>
            have more := List.length_pos_of_ne_nil (reads' c rfl).1
            have four := Char.utf8Size_le_four c
            simp only [Option.getD_some, List.length_cons, String.length_utf8EncodeChar]
            omega
        · rw [List.length_append] at enough
          exact inductionHypothesis left (by omega)

/-- Lossy decoding keeps ASCII bytes and blurs the rest. -/
theorem blurred_lossy (bytes : List UInt8) : Blurred bytes (lossy bytes) :=
  blurred_lossyWithin _ bytes (Nat.le_refl _)

/-- A text is read back exactly, without a replacement. -/
theorem lossyWithin_encode (text : List Char) (reads : Nat) (enough : text.length ≤ reads) :
    lossyWithin reads (encode text) = text := by
  induction text generalizing reads with
  | nil => cases reads <;> rfl
  | cons c text inductionHypothesis =>
    obtain ⟨remaining, rfl⟩ : ∃ remaining, reads = remaining + 1 :=
      ⟨reads - 1, by simp only [List.length_cons] at enough; omega⟩
    obtain ⟨first, tail, split⟩ := List.exists_cons_of_ne_nil (encode_char_ne_nil c)
    have read : next (first :: (tail ++ encode text)) = (some c, encode text) := by
      rw [← List.cons_append, ← split, next_encode]
    rw [encode_cons, split, List.cons_append, lossyWithin, read]
    exact congrArg (c :: ·) (inductionHypothesis remaining (by simpa using enough))

/-- Lossy decoding reads an encoded text back. -/
theorem lossy_encode (text : List Char) : lossy (encode text) = text :=
  lossyWithin_encode text _ (length_le_encode text)

/-- What is decoded strictly has no replacement in it. -/
theorem lossyWithin_decode {reads : Nat} {bytes : List UInt8} {text : List Char}
    (decoded : decodeWithin reads bytes = some text) : lossyWithin reads bytes = text := by
  induction reads generalizing bytes text with
  | zero =>
    cases bytes with
    | nil => exact Option.some.inj decoded
    | cons b bytes => exact absurd decoded (by simp [decodeWithin])
  | succ reads inductionHypothesis =>
    cases bytes with
    | nil => exact Option.some.inj decoded
    | cons b bytes =>
      unfold decodeWithin at decoded
      unfold lossyWithin
      cases read : next (b :: bytes) with
      | mk c rest =>
        rw [read] at decoded
        cases c with
        | none => exact absurd decoded (by simp)
        | some c =>
          obtain ⟨others, tail, rfl⟩ := Option.map_eq_some_iff.mp decoded
          rw [← inductionHypothesis tail]
          rfl

/-- Strict decoding keeps ASCII bytes and blurs the rest. -/
theorem blurred_decode {bytes : List UInt8} {text : List Char} (decoded : decode bytes = some text) :
    Blurred bytes text := by
  have blurred := blurred_lossy bytes
  rwa [lossy, lossyWithin_decode decoded] at blurred

/-- Bytes of ASCII are decoded one by one. -/
theorem lossy_ascii (bytes : List UInt8) (low : ∀ b ∈ bytes, b.toNat < 0x80) :
    lossy bytes = bytes.map fun b => Char.ofNat b.toNat := by
  have code : ∀ b ∈ bytes, (Char.ofNat b.toNat).toNat = b.toNat := by
    intro b member
    have small := low b member
    exact toNat_char b.toNat (Or.inl (by omega))
  have ascii : ∀ c ∈ bytes.map fun b => Char.ofNat b.toNat, c.toNat < 0x80 := by
    intro c member
    obtain ⟨b, inside, rfl⟩ := List.mem_map.mp member
    rw [code b inside]
    exact low b inside
  have written : encode (bytes.map fun b => Char.ofNat b.toNat) = bytes := by
    rw [encode_ascii _ ascii, List.map_map, ← List.map_id bytes, List.map_map]
    apply List.map_congr_left
    intro b member
    show UInt8.ofNat (Char.ofNat b.toNat).toNat = b
    rw [code b member]
    exact UInt8.ofNat_toNat
  rw [← written, lossy_encode, written]

/-- A text comes from its own bytes. -/
theorem blurred_encode (text : List Char) : Blurred (encode text) text := by
  have blurred := blurred_lossy (encode text)
  rwa [lossy_encode] at blurred

end Reading

section Parts

variable {bytes front back : List UInt8} {text before after word : List Char}

/-- Texts in succession come from bytes in succession. -/
theorem Blurred.append (first : Blurred front before) (second : Blurred back after) :
    Blurred (front ++ back) (before ++ after) := by
  induction first with
  | nil => exact second
  | ascii low _ inductionHypothesis => exact .ascii low inductionHypothesis
  | high some each other size _ inductionHypothesis =>
    rw [List.append_assoc]
    exact .high some each other size inductionHypothesis

/-- The bytes of a text split where the text does. -/
theorem Blurred.split (blurred : Blurred bytes (before ++ after)) :
    ∃ front back, bytes = front ++ back ∧ Blurred front before ∧ Blurred back after := by
  induction before generalizing bytes with
  | nil => exact ⟨[], bytes, rfl, .nil, blurred⟩
  | cons c before inductionHypothesis =>
    cases blurred with
    | ascii low rest =>
      obtain ⟨front, back, rfl, first, second⟩ := inductionHypothesis rest
      exact ⟨_ :: front, back, rfl, .ascii low first, second⟩
    | high some each other size rest =>
      obtain ⟨front, back, rfl, first, second⟩ := inductionHypothesis rest
      exact ⟨_ ++ front, back, (List.append_assoc _ _ _).symm, .high some each other size first, second⟩

/-- A text splits at every ASCII byte. -/
theorem Blurred.split_ascii {b : UInt8} (low : b.toNat < 0x80)
    (blurred : Blurred (front ++ b :: back) text) :
    ∃ before after, text = before ++ Char.ofNat b.toNat :: after ∧ Blurred front before ∧
      Blurred back after := by
  generalize whole : front ++ b :: back = bytes at blurred
  induction blurred generalizing front with
  | nil => exact absurd whole (by simp)
  | @ascii first bytes text lowFirst rest inductionHypothesis =>
    cases front with
    | nil =>
      obtain ⟨rfl, rfl⟩ := List.cons.inj whole
      exact ⟨[], text, rfl, .nil, rest⟩
    | cons other front =>
      obtain ⟨rfl, tail⟩ := List.cons.inj whole
      obtain ⟨before, after, rfl, one, two⟩ := inductionHypothesis tail
      exact ⟨_ :: before, after, rfl, .ascii lowFirst one, two⟩
  | @high run bytes c text some each other size rest inductionHypothesis =>
    -- the byte does not stand in the run
    obtain ⟨between, rfl, rfl⟩ : ∃ between, front = run ++ between ∧ bytes = between ++ b :: back := by
      rcases List.append_eq_append_iff.mp whole with ⟨between, cut, tail⟩ | ⟨between, cut, tail⟩
      · cases between with
        | nil => exact ⟨[], by simpa using cut.symm, tail.symm⟩
        | cons first between =>
          obtain ⟨rfl, _⟩ := List.cons.inj tail
          have inside : High b := each b (by simp [cut])
          exact absurd low (Nat.not_lt.mpr inside)
      · exact ⟨between, cut, tail⟩
    obtain ⟨before, after, rfl, one, two⟩ := inductionHypothesis rfl
    exact ⟨c :: before, after, rfl, .high some each other size one, two⟩

/-- No text comes from nothing, and nothing from no text. -/
theorem Blurred.nil_iff (blurred : Blurred bytes text) : text = [] ↔ bytes = [] := by
  cases blurred with
  | nil => simp
  | ascii low rest => simp
  | high some each other size rest => simp [some]

/-- Words of ASCII characters at the front are read exactly. -/
theorem Blurred.front_word (ascii : ∀ c ∈ word, c.toNat < 0x80)
    (blurred : Blurred (encode word ++ back) text) : ∃ after, text = word ++ after ∧ Blurred back after := by
  induction word generalizing text with
  | nil => exact ⟨text, rfl, blurred⟩
  | cons c word inductionHypothesis =>
    have low := ascii c List.mem_cons_self
    have byte := toNat_ofNat_byte c.toNat (by omega)
    rw [encode_cons, encode_ascii_char c low] at blurred
    have first : Blurred ([] ++ UInt8.ofNat c.toNat :: (encode word ++ back)) text := blurred
    obtain ⟨before, after, rfl, none, rest⟩ := first.split_ascii (by omega)
    obtain rfl := none.nil_iff.mpr rfl
    obtain ⟨after, rfl, behind⟩ := inductionHypothesis (fun d member => ascii d (by simp [member])) rest
    rw [byte, Char.ofNat_toNat]
    exact ⟨after, rfl, behind⟩

/-- A text splits around a word of ASCII characters in the bytes. -/
theorem Blurred.split_word (some : word ≠ []) (ascii : ∀ c ∈ word, c.toNat < 0x80)
    (blurred : Blurred (front ++ encode word ++ back) text) :
    ∃ before after, text = before ++ word ++ after ∧ Blurred front before ∧ Blurred back after := by
  obtain ⟨c, rest, rfl⟩ := List.exists_cons_of_ne_nil some
  have low := ascii c List.mem_cons_self
  have byte := toNat_ofNat_byte c.toNat (by omega)
  have first : Blurred (front ++ UInt8.ofNat c.toNat :: (encode rest ++ back)) text := by
    rw [encode_cons, encode_ascii_char c low] at blurred
    simpa using blurred
  obtain ⟨before, after, rfl, one, second⟩ := first.split_ascii (by omega)
  obtain ⟨after, rfl, two⟩ := second.front_word fun d member => ascii d (by simp [member])
  rw [byte, Char.ofNat_toNat]
  exact ⟨before, after, by simp, one, two⟩

/-- A text of ASCII characters comes from its own bytes only. -/
theorem Blurred.word_bytes (ascii : ∀ c ∈ word, c.toNat < 0x80) (blurred : Blurred bytes word) :
    bytes = encode word := by
  induction word generalizing bytes with
  | nil => exact blurred.nil_iff.mp rfl
  | cons c word inductionHypothesis =>
    have low := ascii c List.mem_cons_self
    cases blurred with
    | @ascii b bytes _ lowByte rest =>
      rw [encode_cons, encode_ascii_char _ low, toNat_char _ (by left; omega),
        UInt8.ofNat_toNat, inductionHypothesis (fun d member => ascii d (by simp [member])) rest]
      rfl
    | high some each other size rest => exact absurd low (Nat.not_lt.mpr other)

/-- A word of ASCII characters is found in the text exactly if it is found in the bytes. -/
theorem Blurred.infix_iff (some : word ≠ []) (ascii : ∀ c ∈ word, c.toNat < 0x80)
    (blurred : Blurred bytes text) : word <:+: text ↔ encode word <:+: bytes := by
  constructor
  · rintro ⟨before, after, rfl⟩
    obtain ⟨front, back, rfl, first, _⟩ := blurred.split
    obtain ⟨start, middle, rfl, _, second⟩ := first.split
    rw [second.word_bytes ascii]
    exact ⟨start, back, rfl⟩
  · rintro ⟨front, back, rfl⟩
    obtain ⟨before, after, rfl, _⟩ := blurred.split_word some ascii
    exact ⟨before, after, rfl⟩

end Parts

section Words

variable {found : List Char → Bool} {word : List Char → Prop}
variable {bytes front back : List UInt8} {text before : List Char}

/-- What is looked for is one of some words of ASCII characters. -/
structure Seeks (found : List Char → Bool) (word : List Char → Prop) : Prop where
  finds : ∀ text, found text = true ↔ ∃ w, word w ∧ w <:+: text
  some : ∀ w, word w → w ≠ []
  ascii : ∀ w, word w → ∀ c ∈ w, c.toNat < 0x80

/-- It is found in the bytes. -/
theorem Seeks.finds_bytes (seeks : Seeks found word) (blurred : Blurred bytes text) :
    found text = true ↔ ∃ w, word w ∧ encode w <:+: bytes := by
  rw [seeks.finds]
  constructor
  · rintro ⟨w, is, inside⟩
    exact ⟨w, is, (blurred.infix_iff (seeks.some w is) (seeks.ascii w is)).mp inside⟩
  · rintro ⟨w, is, inside⟩
    exact ⟨w, is, (blurred.infix_iff (seeks.some w is) (seeks.ascii w is)).mpr inside⟩

/-- Two texts of the same bytes do not differ in this. -/
theorem Seeks.same (seeks : Seeks found word) {left right : List Char} (one : Blurred bytes left)
    (two : Blurred bytes right) : found left = found right := by
  rw [Bool.eq_iff_iff, seeks.finds_bytes one, seeks.finds_bytes two]

/-- What is found in front of other bytes is found without the last character. -/
theorem Seeks.early (seeks : Seeks found word) (blurred : Blurred (front ++ back) text)
    (more : back ≠ []) (first : Blurred front before) (early : found before = true) :
    found text.dropLast = true := by
  obtain ⟨w, is, start, behind, rfl⟩ := (seeks.finds_bytes first).mp early
  rw [List.append_assoc] at blurred
  obtain ⟨start', after, rfl, _, last⟩ := blurred.split_word (seeks.some w is) (seeks.ascii w is)
  have remains : after ≠ [] := by
    rw [ne_eq, last.nil_iff]
    simp [more]
  rw [List.dropLast_append_of_ne_nil remains, seeks.finds]
  exact ⟨w, is, start', after.dropLast, rfl⟩

end Words

section Pieces

/-! Bytes that are decoded piece by piece. -/

/-- The text of bytes that come in pieces. -/
def lossyPieces (pieces : List (List UInt8)) : List Char := pieces.flatMap lossy

/-- The most that a byte can add to the size of a text. -/
def weight (b : UInt8) : Nat := if b.toNat < 0x80 then 1 else 3

/-- The size that a text can have once it has been cut. -/
def inflated : List UInt8 → Nat
  | [] => 0
  | b :: bytes => weight b + inflated bytes

/-- Decoding piece by piece keeps ASCII bytes and blurs the rest. -/
theorem blurred_pieces (pieces : List (List UInt8)) : Blurred pieces.flatten (lossyPieces pieces) := by
  induction pieces with
  | nil => exact .nil
  | cons piece pieces inductionHypothesis => exact (blurred_lossy piece).append inductionHypothesis

/-- Pieces are decoded one after the other. -/
theorem lossyPieces_append (front back : List (List UInt8)) :
    lossyPieces (front ++ back) = lossyPieces front ++ lossyPieces back := List.flatMap_append

/-- The lengths of two texts add up. -/
theorem byteLength_append (left right : List Char) :
    byteLength (left ++ right) = byteLength left + byteLength right := by
  simp [byteLength]

/-- The length of a text is that of its first character and of the rest. -/
theorem byteLength_cons (c : Char) (text : List Char) :
    byteLength (c :: text) = (String.utf8EncodeChar c).length + byteLength text := by
  simp [byteLength]

/-- The inflated lengths of two texts add up. -/
theorem inflated_append (left right : List UInt8) :
    inflated (left ++ right) = inflated left + inflated right := by
  induction left with
  | nil => exact (Nat.zero_add _).symm
  | cons b left inductionHypothesis =>
    simp only [List.cons_append, inflated, inductionHypothesis, Nat.add_assoc]

/-- A run of high bytes inflates to three bytes each. -/
theorem inflated_high (run : List UInt8) (each : ∀ b ∈ run, High b) :
    inflated run = 3 * run.length := by
  induction run with
  | nil => rfl
  | cons b run inductionHypothesis =>
    have heavy : weight b = 3 := if_neg (Nat.not_lt.mpr (each b List.mem_cons_self))
    have rest := inductionHypothesis fun d inside => each d (List.mem_cons_of_mem b inside)
    have sum : inflated (b :: run) = weight b + inflated run := rfl
    rw [sum, heavy, rest, List.length_cons]
    omega

/-- A text in ASCII does not inflate. -/
theorem inflated_ascii (text : List Char) (ascii : ∀ c ∈ text, c.toNat < 0x80) :
    inflated (encode text) = text.length := by
  induction text with
  | nil => rfl
  | cons c text inductionHypothesis =>
    have low := ascii c List.mem_cons_self
    have light : weight (UInt8.ofNat c.toNat) = 1 := by
      rw [weight, toNat_ofNat_byte c.toNat (by omega), if_pos low]
    have rest := inductionHypothesis fun d inside => ascii d (List.mem_cons_of_mem c inside)
    rw [encode_cons, encode_ascii_char c low, inflated_append, rest, List.length_cons, Nat.add_comm]
    exact congrArg (text.length + ·) light

/-- No cutting makes more of the bytes. -/
theorem Blurred.byteLength_le {bytes : List UInt8} {text : List Char} (blurred : Blurred bytes text) :
    byteLength text ≤ inflated bytes := by
  induction blurred with
  | nil => simp [byteLength]
  | @ascii b bytes text low _ inductionHypothesis =>
    have own : (Char.ofNat b.toNat).toNat = b.toNat := by
      exact toNat_char _ (by left; omega)
    have one : inflated (b :: bytes) = 1 + inflated bytes := by simp [inflated, weight, low]
    rw [byteLength_cons, encode_ascii_char _ (by omega), one]
    exact Nat.add_le_add_left inductionHypothesis 1
  | @high run bytes c text some each other size _ inductionHypothesis =>
    rw [byteLength_cons, inflated_append, inflated_high run each]
    exact Nat.add_le_add size inductionHypothesis

/-- Every byte on its own. -/
def single (bytes : List UInt8) : List (List UInt8) := bytes.map fun b => [b]

/-- Single bytes are all the bytes. -/
theorem flatten_single (bytes : List UInt8) : (single bytes).flatten = bytes := by
  induction bytes with
  | nil => rfl
  | cons b bytes inductionHypothesis => exact congrArg (b :: ·) inductionHypothesis

/-- A single byte outside ASCII is replaced. -/
theorem lossy_single (b : UInt8) :
    lossy [b] = [if b.toNat < 0x80 then Char.ofNat b.toNat else '\uFFFD'] := by
  have once : lossy [b] = (next [b]).1.getD '\uFFFD' :: lossyWithin 0 (next [b]).2 := rfl
  by_cases low : b.toNat < 0x80
  · rw [once, next_low low, if_pos low]
    rfl
  · obtain ⟨run, split, _, reads⟩ := next_high (Nat.le_of_not_lt low) []
    obtain ⟨rfl, last⟩ := List.append_eq_nil_iff.mp split.symm
    have nothing : (next [b]).1 = none := by
      cases read : (next [b]).1 with
      | none => rfl
      | some c => exact absurd rfl (reads c read).1
    rw [once, nothing, last, if_neg low]
    rfl

/-- Decoded byte by byte, the text has the inflated length. -/
theorem byteLength_single (bytes : List UInt8) :
    byteLength (lossyPieces (single bytes)) = inflated bytes := by
  induction bytes with
  | nil => rfl
  | cons b bytes inductionHypothesis =>
    have first : lossyPieces (single (b :: bytes)) = lossy [b] ++ lossyPieces (single bytes) := rfl
    have one : byteLength (lossy [b]) = weight b := by
      rw [lossy_single, weight]
      split
      · rename_i low
        rw [byteLength_cons, encode_ascii_char]
        · rfl
        · rw [toNat_char b.toNat (by left; omega)]
          exact low
      · decide
    rw [first, byteLength_append, one, inductionHypothesis]
    rfl

/-- Decoded byte by byte, there is a character for each byte. -/
theorem length_single (bytes : List UInt8) : (lossyPieces (single bytes)).length = bytes.length := by
  induction bytes with
  | nil => rfl
  | cons b bytes inductionHypothesis =>
    have first : lossyPieces (single (b :: bytes)) = lossy [b] ++ lossyPieces (single bytes) := rfl
    rw [first, List.length_append, lossy_single, inductionHypothesis, Nat.add_comm]
    rfl

/-- A text is as long as its bytes only if all of it is ASCII. -/
theorem ascii_of_length (text : List Char) (same : (encode text).length = text.length) :
    ∀ c ∈ text, c.toNat < 0x80 := by
  induction text with
  | nil => simp
  | cons c text inductionHypothesis =>
    have rest := length_le_encode text
    have positive := Char.utf8Size_pos c
    simp only [encode_cons, List.length_append, List.length_cons, String.length_utf8EncodeChar] at same
    intro d member
    rcases List.mem_cons.mp member with rfl | later
    · have one : d.utf8Size = 1 := by omega
      have bound : d.val.toNat ≤ 127 := Char.utf8Size_eq_one_iff.mp one
      exact Nat.lt_succ_of_le bound
    · exact inductionHypothesis (by omega) d later

end Pieces

end Foundation.Utf8
