import Mathlib.Data.Nat.Bitwise

/-!
# Numbers in big-endian order and their leading bits

Two numbers of one width agree in their leading bits if dividing by the size of the rest
gives the same. A mask over the leading bits compares just that, for machine integers of
any width; for a number given by its bytes, it can be read off the leading bytes.
-/

namespace Foundation.Prefix

/-- How many numbers agree outside of so many low bits. -/
def span (free : Nat) : Nat := Nat.pow 2 free

/-- The numbers agree in all but so many low bits. -/
def Agree (free left right : Nat) : Prop := left / span free = right / span free

instance (free left right : Nat) : Decidable (Agree free left right) :=
  inferInstanceAs (Decidable (_ = _))

/-- The number with these bytes, the most significant one first. -/
def value (bytes : List UInt8) : Nat := bytes.foldl (fun total b => total * 256 + b.toNat) 0

/-- There is at least one value in any number of free bits. -/
theorem span_pos (free : Nat) : 0 < span free := Nat.two_pow_pos free

/-- The free bits of two parts multiply their values. -/
theorem span_add (left right : Nat) : span (left + right) = span left * span right :=
  Nat.pow_add 2 left right

/-- A mask over the leading bits. -/
def mask (width free : Nat) : BitVec width := BitVec.allOnes width <<< free

/-- A bit of the mask is set exactly if it is not free. -/
theorem mask_bit (width free place : Nat) :
    (mask width free).getLsbD place = (decide (place < width) && decide (free ≤ place)) := by
  unfold mask
  by_cases high : free ≤ place
  · by_cases inside : place < width
    · simp [high, inside, Nat.not_lt.mpr high]
    · simp [inside]
  · simp [high, Nat.lt_of_not_le high]

/-- Masked numbers are equal if and only if they agree. -/
theorem masked_eq_iff {width : Nat} (free : Nat) (x y : BitVec width) :
    x &&& mask width free = y &&& mask width free ↔ Agree free x.toNat y.toNat := by
  have bit : ∀ (z : BitVec width) place,
      (z &&& mask width free).getLsbD place = (z.getLsbD place && decide (free ≤ place)) := by
    intro z place
    rw [BitVec.getLsbD_and, mask_bit]
    by_cases inside : place < width
    · simp [inside]
    · simp [BitVec.getLsbD_of_ge z place (Nat.le_of_not_lt inside)]
  have quotient : ∀ (z : BitVec width) place,
      (z.toNat / span free).testBit place = z.getLsbD (place + free) := by
    intro z place
    exact Nat.testBit_div_two_pow _ _
  constructor
  · intro same
    apply Nat.eq_of_testBit_eq
    intro place
    have equal := congrArg (·.getLsbD (place + free)) same
    simp only [bit, Nat.le_add_left, decide_true, Bool.and_true] at equal
    rw [quotient, quotient, equal]
  · intro same
    apply BitVec.eq_of_getLsbD_eq
    intro place _
    rw [bit, bit]
    by_cases high : free ≤ place
    · have equal := congrArg (·.testBit (place - free)) same
      simp only [quotient, Nat.sub_add_cancel high] at equal
      rw [equal]
    · simp [high]

/-- The value is read byte by byte, from the front. -/
theorem foldl_value (bytes : List UInt8) (total : Nat) :
    bytes.foldl (fun total b => total * 256 + b.toNat) total =
      total * span (8 * bytes.length) + value bytes := by
  have step : ∀ count, span (8 * (count + 1)) = 256 * span (8 * count) := by
    intro count
    rw [show 8 * (count + 1) = 8 + 8 * count by omega, span_add]
    rfl
  induction bytes generalizing total with
  | nil => simp [value, span]
  | cons first rest inductionHypothesis =>
    have front : value (first :: rest) = first.toNat * span (8 * rest.length) + value rest := by
      unfold value
      rw [List.foldl_cons, inductionHypothesis]
      simp [value]
    rw [List.foldl_cons, inductionHypothesis, front, List.length_cons, step, Nat.add_mul]
    rw [Nat.mul_assoc total, Nat.add_assoc]

/-- The value of two parts, the first of which counts for more. -/
theorem value_append (front back : List UInt8) :
    value (front ++ back) = value front * span (8 * back.length) + value back := by
  rw [value, List.foldl_append, foldl_value]
  rfl

/-- The value of a byte and what follows. -/
theorem value_cons (first : UInt8) (rest : List UInt8) :
    value (first :: rest) = first.toNat * span (8 * rest.length) + value rest := by
  rw [← List.singleton_append, value_append]
  simp [value]

/-- The value of so many bytes fits in their bits. -/
theorem value_lt (bytes : List UInt8) : value bytes < span (8 * bytes.length) := by
  induction bytes with
  | nil => exact span_pos 0
  | cons first rest inductionHypothesis =>
    have byte : first.toNat + 1 ≤ 256 := first.toNat_lt
    have size : span (8 * (rest.length + 1)) = 256 * span (8 * rest.length) := by
      rw [show 8 * (rest.length + 1) = 8 + 8 * rest.length by omega, span_add]
      rfl
    rw [value_cons, List.length_cons, size]
    calc first.toNat * span (8 * rest.length) + value rest
      _ < first.toNat * span (8 * rest.length) + span (8 * rest.length) := by omega
      _ = (first.toNat + 1) * span (8 * rest.length) := by rw [Nat.add_mul, Nat.one_mul]
      _ ≤ 256 * span (8 * rest.length) := Nat.mul_le_mul_right _ byte

/-- The leading bytes are what is left of the number without the others. -/
theorem value_div (front back : List UInt8) :
    value (front ++ back) / span (8 * back.length) = value front := by
  rw [value_append, Nat.mul_comm, Nat.mul_add_div (span_pos _), Nat.div_eq_of_lt (value_lt back),
    Nat.add_zero]

/-- Bytes of one length have one value only if they are the same. -/
theorem value_injective {left right : List UInt8} (lengths : left.length = right.length)
    (same : value left = value right) : left = right := by
  induction left generalizing right with
  | nil => exact (List.length_eq_zero_iff.mp lengths.symm).symm
  | cons first rest inductionHypothesis =>
    cases right with
    | nil => exact absurd lengths (by simp)
    | cons other others =>
      have equal : rest.length = others.length := Nat.succ.inj lengths
      have heads : value [first] = value [other] := by
        rw [← value_div [first] rest, ← value_div [other] others, equal]
        exact congrArg (· / span (8 * others.length)) same
      have bytes : first = other := UInt8.toNat_inj.mp (by simpa [value] using heads)
      subst bytes
      rw [value_cons, value_cons, equal] at same
      rw [inductionHypothesis equal (Nat.add_left_cancel same)]

/-- To agree outside of no bit is to be equal. -/
theorem agree_zero {left right : Nat} : Agree 0 left right ↔ left = right := by
  unfold Agree span
  rw [Nat.pow_eq, Nat.pow_zero, Nat.div_one, Nat.div_one]

/-- Bytes of one length agree outside of no bit only if they are the same. -/
theorem agree_bytes {left right : List UInt8} (lengths : left.length = right.length) :
    Agree 0 (value left) (value right) ↔ left = right := by
  rw [agree_zero]
  exact ⟨value_injective lengths, congrArg value⟩

/-- A byte agrees with another one if and only if the masked bytes are equal. -/
theorem agree_byte (free : Nat) (left right : UInt8) :
    Agree free (value [left]) (value [right]) ↔
      left &&& .ofBitVec (mask 8 free) = right &&& .ofBitVec (mask 8 free) := by
  have single : ∀ b : UInt8, value [b] = b.toBitVec.toNat := by
    intro b
    simp [value]
  rw [single, single, ← masked_eq_iff, ← UInt8.toBitVec_inj]
  rfl

/-- Bytes behind the ones that matter do not. -/
theorem agree_append {front front' back back' : List UInt8} (lengths : back.length = back'.length)
    (free : Nat) : Agree (8 * back.length + free) (value (front ++ back)) (value (front' ++ back')) ↔
      Agree free (value front) (value front') := by
  unfold Agree
  rw [span_add, ← Nat.div_div_eq_div_mul, ← Nat.div_div_eq_div_mul, value_div, lengths, value_div]

/-- The first bytes have to be the same where only later bits are free. -/
theorem agree_cons {first other : UInt8} {rest others : List UInt8}
    (lengths : rest.length = others.length) {free : Nat} (later : free ≤ 8 * rest.length) :
    Agree free (value (first :: rest)) (value (other :: others)) ↔
      first = other ∧ Agree free (value rest) (value others) := by
  obtain ⟨more, size⟩ := Nat.exists_eq_add_of_le later
  have quotient : ∀ (b : UInt8) (bytes : List UInt8), bytes.length = rest.length →
      value (b :: bytes) / span free = b.toNat * span more + value bytes / span free := by
    intro b bytes same
    rw [value_cons, same, size, span_add, Nat.mul_left_comm, Nat.mul_add_div (span_pos free)]
  have below : ∀ bytes : List UInt8, bytes.length = rest.length →
      value bytes / span free < span more := by
    intro bytes same
    apply Nat.div_lt_of_lt_mul
    rw [← span_add, ← size, ← same]
    exact value_lt bytes
  unfold Agree
  rw [quotient first rest rfl, quotient other others lengths.symm]
  constructor
  · intro same
    have upper := congrArg (· / span more) same
    have lower := congrArg (· % span more) same
    simp only [Nat.mul_add_mod', Nat.mod_eq_of_lt (below rest rfl),
      Nat.mod_eq_of_lt (below others lengths.symm)] at lower
    simp only [Nat.mul_comm _ (span more), Nat.mul_add_div (span_pos more),
      Nat.div_eq_of_lt (below rest rfl), Nat.div_eq_of_lt (below others lengths.symm),
      Nat.add_zero] at upper
    exact ⟨UInt8.toNat_inj.mp upper, lower⟩
  · rintro ⟨rfl, same⟩
    rw [same]

end Foundation.Prefix
