import Mathlib.Data.Nat.Notation

/-!
# UTF-8 text

Encoding uses the core library's bytes of a scalar value. Reading takes one
scalar value from the front of a byte sequence, or else the longest ill-formed
prefix that a replacing decoder turns into one replacement character. Strict
decoding refuses any ill-formed prefix; lossy decoding replaces it. Both read an
encoded text back exactly.
-/

namespace Foundation.Utf8

/-- UTF-8 bytes of a text. -/
def encode (text : List Char) : List UInt8 := text.flatMap String.utf8EncodeChar

/-- An empty text has no bytes. -/
@[simp] theorem encode_nil : encode [] = [] := rfl

/-- The bytes of a text are those of its first character and of the rest. -/
@[simp] theorem encode_cons (c : Char) (text : List Char) :
    encode (c :: text) = String.utf8EncodeChar c ++ encode text := rfl

/-- Two texts are encoded one after the other. -/
@[simp] theorem encode_append (left right : List Char) :
    encode (left ++ right) = encode left ++ encode right := List.flatMap_append

/-- A byte of the form 10xxxxxx. -/
def continuation (b : UInt8) : Bool := 0x80 ≤ b.toNat && b.toNat < 0xC0

/-- The second byte of a three-byte form: no overlong form and no surrogate. -/
def secondOfThree (a b : UInt8) : Bool :=
  continuation b && (a.toNat != 0xE0 || 0xA0 ≤ b.toNat) && (a.toNat != 0xED || b.toNat < 0xA0)

/-- The second byte of a four-byte form: no overlong form, nothing above the
last scalar value. -/
def secondOfFour (a b : UInt8) : Bool :=
  continuation b && (a.toNat != 0xF0 || 0x90 ≤ b.toNat) && (a.toNat != 0xF4 || b.toNat < 0x90)

/-- Read from the front: a scalar value, or none for an ill-formed prefix, and
the bytes behind what was read. An ill-formed prefix ends before the first byte
that cannot continue it. -/
def next : List UInt8 → Option Char × List UInt8
  | [] => (none, [])
  | a :: rest =>
    if a.toNat < 0x80 then (some (Char.ofNat a.toNat), rest)
    else if 0xC2 ≤ a.toNat ∧ a.toNat < 0xE0 then
      match rest with
      | b :: rest' =>
        if continuation b then
          (some (Char.ofNat ((a.toNat - 0xC0) * 0x40 + (b.toNat - 0x80))), rest')
        else (none, rest)
      | [] => (none, [])
    else if 0xE0 ≤ a.toNat ∧ a.toNat < 0xF0 then
      match rest with
      | b :: c :: rest' =>
        if secondOfThree a b then
          if continuation c then
            (some (Char.ofNat ((a.toNat - 0xE0) * 0x1000 + (b.toNat - 0x80) * 0x40 +
              (c.toNat - 0x80))), rest')
          else (none, c :: rest')
        else (none, rest)
      | [b] => if secondOfThree a b then (none, []) else (none, rest)
      | [] => (none, [])
    else if 0xF0 ≤ a.toNat ∧ a.toNat < 0xF5 then
      match rest with
      | b :: c :: d :: rest' =>
        if secondOfFour a b then
          if continuation c then
            if continuation d then
              (some (Char.ofNat ((a.toNat - 0xF0) * 0x40000 + (b.toNat - 0x80) * 0x1000 +
                (c.toNat - 0x80) * 0x40 + (d.toNat - 0x80))), rest')
            else (none, d :: rest')
          else (none, c :: d :: rest')
        else (none, rest)
      | [b, c] =>
        if secondOfFour a b then if continuation c then (none, []) else (none, [c])
        else (none, rest)
      | [b] => if secondOfFour a b then (none, []) else (none, rest)
      | [] => (none, [])
    else (none, rest)

/-- Strict decoding with a bound on the number of reads. -/
def decodeWithin : Nat → List UInt8 → Option (List Char)
  | _, [] => some []
  | 0, _ :: _ => none
  | reads + 1, bytes@(_ :: _) =>
    match next bytes with
    | (some c, rest) => (decodeWithin reads rest).map (c :: ·)
    | (none, _) => none

/-- Strict decoding: none as soon as one prefix is ill-formed. Every read takes
at least one byte, so the length bounds the number of reads. -/
def decode (bytes : List UInt8) : Option (List Char) := decodeWithin bytes.length bytes

/-- Lossy decoding with a bound on the number of reads. -/
def lossyWithin : Nat → List UInt8 → List Char
  | _, [] => []
  | 0, _ :: _ => []
  | reads + 1, bytes@(_ :: _) =>
    let (c, rest) := next bytes
    c.getD '\uFFFD' :: lossyWithin reads rest

/-- Lossy decoding: one replacement character for each ill-formed prefix. -/
def lossy (bytes : List UInt8) : List Char := lossyWithin bytes.length bytes

/-- Length of a text in UTF-8 bytes. -/
def byteLength (text : List Char) : Nat := (encode text).length

/-- A value of one byte is what the byte says. -/
theorem toNat_ofNat_byte (n : Nat) (small : n < 256) : (UInt8.ofNat n).toNat = n := by
  simp [UInt8.toNat_ofNat', Nat.mod_eq_of_lt small]

/-- One-byte form. -/
theorem next_one (v : Nat) (rest : List UInt8) (short : v < 0x80) :
    next (UInt8.ofNat v :: rest) = (some (Char.ofNat v), rest) := by
  have byte := toNat_ofNat_byte v (by omega)
  simp [next, byte, short]

/-- Two-byte form. -/
theorem next_two (v : Nat) (rest : List UInt8) (above : 0x7F < v) (below : v ≤ 0x7FF) :
    next (UInt8.ofNat (v / 64 % 32 + 192) :: UInt8.ofNat (v % 64 + 128) :: rest) =
      (some (Char.ofNat v), rest) := by
  have first := toNat_ofNat_byte (v / 64 % 32 + 192) (by omega)
  have second := toNat_ofNat_byte (v % 64 + 128) (by omega)
  have notOne : ¬ v / 64 % 32 + 192 < 128 := by omega
  have lead : 194 ≤ v / 64 % 32 + 192 ∧ v / 64 % 32 + 192 < 224 := by omega
  have follows : continuation (UInt8.ofNat (v % 64 + 128)) = true := by
    simp only [continuation, second, Bool.and_eq_true, decide_eq_true_eq]
    omega
  have value : (v / 64 % 32 + 192 - 0xC0) * 0x40 + (v % 64 + 128 - 0x80) = v := by omega
  simp only [next, first, second, notOne, lead, follows, value, if_true, if_false, and_self]

/-- Three-byte form; the bounds on the second byte hold because the value is
neither overlong nor a surrogate. -/
theorem next_three (v : Nat) (rest : List UInt8) (above : 0x7FF < v) (below : v ≤ 0xFFFF)
    (scalar : v < 0xD800 ∨ 0xDFFF < v) :
    next (UInt8.ofNat (v / 4096 % 16 + 224) :: UInt8.ofNat (v / 64 % 64 + 128) ::
      UInt8.ofNat (v % 64 + 128) :: rest) = (some (Char.ofNat v), rest) := by
  have first := toNat_ofNat_byte (v / 4096 % 16 + 224) (by omega)
  have second := toNat_ofNat_byte (v / 64 % 64 + 128) (by omega)
  have third := toNat_ofNat_byte (v % 64 + 128) (by omega)
  have notOne : ¬ v / 4096 % 16 + 224 < 128 := by omega
  have notTwo : ¬ (194 ≤ v / 4096 % 16 + 224 ∧ v / 4096 % 16 + 224 < 224) := by omega
  have lead : 224 ≤ v / 4096 % 16 + 224 ∧ v / 4096 % 16 + 224 < 240 := by omega
  have follows : secondOfThree (UInt8.ofNat (v / 4096 % 16 + 224))
      (UInt8.ofNat (v / 64 % 64 + 128)) = true := by
    simp only [secondOfThree, continuation, first, second, Bool.and_eq_true, Bool.or_eq_true,
      decide_eq_true_eq, bne_iff_ne]
    omega
  have last : continuation (UInt8.ofNat (v % 64 + 128)) = true := by
    simp only [continuation, third, Bool.and_eq_true, decide_eq_true_eq]
    omega
  have value : (v / 4096 % 16 + 224 - 0xE0) * 0x1000 + (v / 64 % 64 + 128 - 0x80) * 0x40 +
      (v % 64 + 128 - 0x80) = v := by omega
  simp only [next, first, second, third, notOne, notTwo, lead, follows, last, value, if_true,
    if_false, and_self]

/-- Four-byte form, up to the last scalar value. -/
theorem next_four (v : Nat) (rest : List UInt8) (above : 0xFFFF < v) (below : v < 0x110000) :
    next (UInt8.ofNat (v / 262144 % 8 + 240) :: UInt8.ofNat (v / 4096 % 64 + 128) ::
      UInt8.ofNat (v / 64 % 64 + 128) :: UInt8.ofNat (v % 64 + 128) :: rest) =
      (some (Char.ofNat v), rest) := by
  have first := toNat_ofNat_byte (v / 262144 % 8 + 240) (by omega)
  have second := toNat_ofNat_byte (v / 4096 % 64 + 128) (by omega)
  have third := toNat_ofNat_byte (v / 64 % 64 + 128) (by omega)
  have fourth := toNat_ofNat_byte (v % 64 + 128) (by omega)
  have notOne : ¬ v / 262144 % 8 + 240 < 128 := by omega
  have notTwo : ¬ (194 ≤ v / 262144 % 8 + 240 ∧ v / 262144 % 8 + 240 < 224) := by omega
  have notThree : ¬ (224 ≤ v / 262144 % 8 + 240 ∧ v / 262144 % 8 + 240 < 240) := by omega
  have lead : 240 ≤ v / 262144 % 8 + 240 ∧ v / 262144 % 8 + 240 < 245 := by omega
  have follows : secondOfFour (UInt8.ofNat (v / 262144 % 8 + 240))
      (UInt8.ofNat (v / 4096 % 64 + 128)) = true := by
    simp only [secondOfFour, continuation, first, second, Bool.and_eq_true, Bool.or_eq_true,
      decide_eq_true_eq, bne_iff_ne]
    omega
  have after : continuation (UInt8.ofNat (v / 64 % 64 + 128)) = true := by
    simp only [continuation, third, Bool.and_eq_true, decide_eq_true_eq]
    omega
  have last : continuation (UInt8.ofNat (v % 64 + 128)) = true := by
    simp only [continuation, fourth, Bool.and_eq_true, decide_eq_true_eq]
    omega
  have value : (v / 262144 % 8 + 240 - 0xF0) * 0x40000 + (v / 4096 % 64 + 128 - 0x80) * 0x1000 +
      (v / 64 % 64 + 128 - 0x80) * 0x40 + (v % 64 + 128 - 0x80) = v := by omega
  simp only [next, first, second, third, fourth, notOne, notTwo, notThree, lead, follows, after,
    last, value, if_true, if_false, and_self]

/-- A scalar value's bytes are read back as that value. The cases are the four
encoded lengths; surrogates are not scalar values. -/
theorem next_encode (c : Char) (rest : List UInt8) :
    next (String.utf8EncodeChar c ++ rest) = (some c, rest) := by
  have restore : Char.ofNat c.val.toNat = c := Char.ofNat_toNat c
  have scalar : c.val.toNat < 0xD800 ∨ 0xDFFF < c.val.toNat ∧ c.val.toNat < 0x110000 := c.valid
  unfold String.utf8EncodeChar
  generalize c.val.toNat = v at restore scalar
  by_cases one : v ≤ 0x7F
  · simp only [one, if_true, List.cons_append, List.nil_append]
    rw [next_one v rest (by omega), restore]
  by_cases two : v ≤ 0x7FF
  · simp only [one, two, if_true, if_false, List.cons_append, List.nil_append]
    rw [next_two v rest (by omega) two, restore]
  by_cases three : v ≤ 0xFFFF
  · simp only [one, two, three, if_true, if_false, List.cons_append, List.nil_append]
    rw [next_three v rest (by omega) three (by omega), restore]
  · simp only [one, two, three, if_false, List.cons_append, List.nil_append]
    rw [next_four v rest (by omega) (by omega), restore]

/-- Every character has a byte. -/
theorem encode_char_ne_nil (c : Char) : String.utf8EncodeChar c ≠ [] := by
  have positive := Char.utf8Size_pos c
  intro empty
  rw [← String.length_utf8EncodeChar, empty] at positive
  exact absurd positive (by decide)

/-- Any sufficient number of reads decodes an encoded text. -/
theorem decodeWithin_encode (text : List Char) (reads : Nat) (enough : text.length ≤ reads) :
    decodeWithin reads (encode text) = some text := by
  induction text generalizing reads with
  | nil => cases reads <;> rfl
  | cons c text inductionHypothesis =>
    obtain ⟨remaining, rfl⟩ : ∃ remaining, reads = remaining + 1 :=
      ⟨reads - 1, by simp only [List.length_cons] at enough; omega⟩
    obtain ⟨first, tail, split⟩ := List.exists_cons_of_ne_nil (encode_char_ne_nil c)
    have read : next (first :: (tail ++ encode text)) = (some c, encode text) := by
      rw [← List.cons_append, ← split, next_encode]
    have rest := inductionHypothesis remaining (by simpa using enough)
    rw [encode_cons, split, List.cons_append, decodeWithin, read]
    simp [rest]

/-- A text has at least as many bytes as characters. -/
theorem length_le_encode (text : List Char) : text.length ≤ (encode text).length := by
  induction text with
  | nil => simp
  | cons c text inductionHypothesis =>
    have positive := Char.utf8Size_pos c
    simp only [encode_cons, List.length_cons, List.length_append, String.length_utf8EncodeChar]
    omega

/-- Strict decoding reads an encoded text back exactly. -/
theorem decode_encode (text : List Char) : decode (encode text) = some text :=
  decodeWithin_encode text _ (length_le_encode text)

/-- A character that is read does not depend on what is behind it. -/
theorem next_append {bytes rest : List UInt8} {c : Char} (reads : next bytes = (some c, rest))
    (behind : List UInt8) : next (bytes ++ behind) = (some c, rest ++ behind) := by
  have found : ∀ {d : Char} {tail : List UInt8}, (some d, tail) = (some c, rest) →
      (some d, tail ++ behind) = (some c, rest ++ behind) := by
    intro d tail same
    obtain ⟨first, rfl⟩ := Prod.mk.inj same
    rw [first]
  have missing : ∀ {tail : List UInt8}, (none, tail) ≠ (some c, rest) := by simp
  cases bytes with
  | nil => exact absurd reads missing
  | cons a bytes =>
    rw [List.cons_append]
    simp only [next] at reads ⊢
    split at reads
    · rename_i one
      rw [if_pos one]
      exact found reads
    rename_i one
    rw [if_neg one]
    split at reads
    · rename_i two
      rw [if_pos two]
      match bytes with
      | b :: tail =>
        simp only [List.cons_append] at reads ⊢
        split at reads
        · rename_i continues
          rw [if_pos continues]
          exact found reads
        · exact absurd reads missing
      | [] => exact absurd reads missing
    rename_i two
    rw [if_neg two]
    split at reads
    · rename_i three
      rw [if_pos three]
      match bytes with
      | b :: c :: tail =>
        simp only [List.cons_append] at reads ⊢
        split at reads
        · rename_i second
          rw [if_pos second]
          split at reads
          · rename_i continues
            rw [if_pos continues]
            exact found reads
          · exact absurd reads missing
        · exact absurd reads missing
      | [b] =>
        dsimp only at reads
        split at reads <;> exact absurd reads missing
      | [] => exact absurd reads missing
    rename_i three
    rw [if_neg three]
    split at reads
    · rename_i four
      rw [if_pos four]
      match bytes with
      | b :: c :: d :: tail =>
        simp only [List.cons_append] at reads ⊢
        split at reads
        · rename_i second
          rw [if_pos second]
          split at reads
          · rename_i third
            rw [if_pos third]
            split at reads
            · rename_i continues
              rw [if_pos continues]
              exact found reads
            · exact absurd reads missing
          · exact absurd reads missing
        · exact absurd reads missing
      | [b, c] =>
        dsimp only at reads
        split at reads
        · split at reads <;> exact absurd reads missing
        · exact absurd reads missing
      | [b] =>
        dsimp only at reads
        split at reads <;> exact absurd reads missing
      | [] => exact absurd reads missing
    · exact absurd reads missing

/-- What decodes to a text is not a proper prefix of its encoding. -/
theorem decodeWithin_prefix {reads : Nat} {front behind : List UInt8} {text : List Char}
    (decoded : decodeWithin reads front = some text) (split : encode text = front ++ behind) :
    behind = [] := by
  induction reads generalizing front text with
  | zero =>
    cases front with
    | nil =>
      obtain rfl := Option.some.inj decoded
      exact split.symm
    | cons a bytes => exact absurd decoded (by simp [decodeWithin])
  | succ reads inductionHypothesis =>
    cases front with
    | nil =>
      obtain rfl := Option.some.inj decoded
      exact split.symm
    | cons a bytes =>
      rw [decodeWithin] at decoded
      cases read : next (a :: bytes) with
      | mk first rest =>
        rw [read] at decoded
        cases first with
        | none => exact absurd decoded (by simp)
        | some c =>
          obtain ⟨text, later, rfl⟩ := Option.map_eq_some_iff.mp decoded
          have same := next_append read behind
          rw [← split, encode_cons, next_encode] at same
          exact inductionHypothesis later (Prod.mk.inj same).2

/-- A front of an encoded text that decodes to the whole text is all of it. -/
theorem decode_prefix {front behind : List UInt8} {text : List Char}
    (decoded : decode front = some text) (split : encode text = front ++ behind) : behind = [] :=
  decodeWithin_prefix decoded split

/-- An ASCII character is its own single byte. -/
theorem encode_ascii_char (c : Char) (ascii : c.toNat < 0x80) :
    String.utf8EncodeChar c = [UInt8.ofNat c.toNat] := by
  have small : c.val.toNat ≤ 0x7F := by
    have same : c.toNat = c.val.toNat := rfl
    omega
  simp only [String.utf8EncodeChar, small, if_true]
  rfl

/-- An ASCII text is one byte for each character. -/
theorem encode_ascii (text : List Char) (ascii : ∀ c ∈ text, c.toNat < 0x80) :
    encode text = text.map fun c => UInt8.ofNat c.toNat := by
  induction text with
  | nil => rfl
  | cons c text inductionHypothesis =>
    have first := encode_ascii_char c (ascii c List.mem_cons_self)
    have later := inductionHypothesis fun d member => ascii d (List.mem_cons_of_mem c member)
    rw [encode_cons, first, later]
    rfl

/-- A byte of an encoded ASCII text is the code of one of its characters. -/
theorem char_of_mem (text : List Char) (ascii : ∀ c ∈ text, c.toNat < 0x80) (b : UInt8)
    (member : b ∈ encode text) : ∃ c ∈ text, c.toNat = b.toNat := by
  rw [encode_ascii text ascii, List.mem_map] at member
  obtain ⟨c, inside, rfl⟩ := member
  have small := ascii c inside
  exact ⟨c, inside, (toNat_ofNat_byte c.toNat (by omega)).symm⟩

/-- The bytes of longer forms are not ASCII. -/
theorem high_of_mem (c : Char) (b : UInt8) (long : 0x7F < c.toNat)
    (member : b ∈ String.utf8EncodeChar c) : 0x80 ≤ b.toNat := by
  have long : ¬ c.val.toNat ≤ 0x7F := Nat.not_le.mpr long
  unfold String.utf8EncodeChar at member
  simp only [long, if_false] at member
  generalize c.val.toNat = v at member
  have bound : ∀ n, 128 ≤ n → n < 256 → 0x80 ≤ (UInt8.ofNat n).toNat := fun n low high => by
    rw [toNat_ofNat_byte n high]
    exact low
  split at member
  · simp only [List.mem_cons, List.not_mem_nil, or_false] at member
    rcases member with rfl | rfl <;> exact bound _ (by omega) (by omega)
  · split at member
    · simp only [List.mem_cons, List.not_mem_nil, or_false] at member
      rcases member with rfl | rfl | rfl <;> exact bound _ (by omega) (by omega)
    · simp only [List.mem_cons, List.not_mem_nil, or_false] at member
      rcases member with rfl | rfl | rfl | rfl <;> exact bound _ (by omega) (by omega)

/-- An ASCII byte occurs in an encoded text only as its own character. -/
theorem mem_encode_iff (text : List Char) (c : Char) (ascii : c.toNat < 0x80) :
    UInt8.ofNat c.toNat ∈ encode text ↔ c ∈ text := by
  have byte := toNat_ofNat_byte c.toNat (by omega)
  simp only [encode, List.mem_flatMap]
  constructor
  · rintro ⟨d, inside, member⟩
    by_cases long : 0x7F < d.toNat
    · have high := high_of_mem d _ long member
      omega
    · rw [encode_ascii_char d (by omega), List.mem_singleton] at member
      have same : c.toNat = d.toNat := by
        rw [← byte, member, toNat_ofNat_byte d.toNat (by omega)]
      rw [show c = d from Char.toNat_inj.mp same]
      exact inside
  · intro inside
    exact ⟨c, inside, by rw [encode_ascii_char c ascii, List.mem_singleton]⟩

/-- Deleting an ASCII byte from an encoded text deletes its character from the text. -/
theorem encode_filter (text : List Char) (c : Char) (ascii : c.toNat < 0x80) :
    (encode text).filter (· != UInt8.ofNat c.toNat) = encode (text.filter (· != c)) := by
  induction text with
  | nil => rfl
  | cons first text inductionHypothesis =>
    rw [encode_cons, List.filter_append, inductionHypothesis, List.filter_cons]
    have only : UInt8.ofNat c.toNat ∈ String.utf8EncodeChar first ↔ c = first := by
      have single := mem_encode_iff [first] c ascii
      rwa [encode_cons, encode_nil, List.append_nil, List.mem_singleton] at single
    by_cases same : c = first
    · subst same
      rw [encode_ascii_char c ascii]
      simp
    · have absent : UInt8.ofNat c.toNat ∉ String.utf8EncodeChar first := fun member =>
        same (only.mp member)
      have kept : (first != c) = true := by simpa using fun equal => same (Eq.symm equal)
      rw [if_pos kept, encode_cons, List.filter_eq_self.mpr]
      intro b member
      simp only [bne_iff_ne, ne_eq]
      rintro rfl
      exact absent member

end Foundation.Utf8
