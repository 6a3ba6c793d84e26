import Mathlib.Data.Nat.Notation

/-!
# Decimal text of machine integers

Reading accepts one optional sign, then at least one decimal digit and nothing
else, and refuses values outside the stated range. Leading zeros are accepted.
Printing writes no sign for a nonnegative value and no leading zeros, so a
printed value within range is read back exactly.
-/

namespace Foundation.Decimal

/-- The value of a nonempty text that consists of decimal digits only. -/
def digits (text : List Char) : Option Nat :=
  if text ≠ [] ∧ text.all Char.isDigit then some (Nat.ofDigitChars 10 text 0) else none

/-- Read an unsigned value below `limit`; one leading plus sign is allowed. -/
def parseUnsigned (limit : Nat) (text : List Char) : Option Nat :=
  let body := match text with
    | '+' :: rest => rest
    | _ => text
  (digits body).bind fun value => if value < limit then some value else none

/-- Read a signed value from `-limit` up to, but excluding, `limit`. -/
def parseSigned (limit : Nat) (text : List Char) : Option Int :=
  match text with
  | '-' :: rest => (digits rest).bind fun value =>
      if value ≤ limit then some (-(value : Int)) else none
  | _ => (parseUnsigned limit text).map Int.ofNat

/-- Decimal text of a natural number. -/
def printNat (value : Nat) : List Char := Nat.toDigits 10 value

/-- Decimal text of an integer, with a minus sign only below zero. -/
def printInt (value : Int) : List Char :=
  if value < 0 then '-' :: printNat value.natAbs else printNat value.natAbs

/-- Printing writes digits only. -/
theorem print_digit (value : Nat) (c : Char) (member : c ∈ printNat value) : c.isDigit := by
  exact Nat.isDigit_of_mem_toDigits (by decide) (by decide) member

/-- Printing writes something. -/
theorem print_ne_nil (value : Nat) : printNat value ≠ [] := Nat.toDigits_ne_nil

/-- Printing and reading digits are inverse. -/
theorem digits_print (value : Nat) : digits (printNat value) = some value := by
  have all : (printNat value).all Char.isDigit := List.all_eq_true.mpr (print_digit value)
  simp only [digits, ne_eq, print_ne_nil, not_false_eq_true, all, and_self, if_true]
  rw [printNat, Nat.ofDigitChars_ten_toDigits]

/-- A text of digits starts with neither sign. -/
theorem digits_head {text : List Char} {value : Nat} (read : digits text = some value) :
    ∃ first rest, text = first :: rest ∧ first ≠ '+' ∧ first ≠ '-' := by
  unfold digits at read
  split at read
  · rename_i shape
    obtain ⟨first, rest, rfl⟩ := List.exists_cons_of_ne_nil shape.1
    have digit := List.all_eq_true.mp shape.2 first List.mem_cons_self
    refine ⟨first, rest, rfl, ?_, ?_⟩
    · rintro rfl
      exact absurd digit (by decide)
    · rintro rfl
      exact absurd digit (by decide)
  · exact absurd read (by simp)

/-- A text of digits is read if its value is below the limit, and rejected otherwise. -/
theorem parseUnsigned_digits (limit : Nat) {text : List Char} {value : Nat}
    (read : digits text = some value) :
    parseUnsigned limit text = if value < limit then some value else none := by
  obtain ⟨first, rest, rfl, plus, _⟩ := digits_head read
  rw [parseUnsigned]
  · rw [read, Option.bind_some]
  · rintro tail same
    exact plus (List.cons.inj same).1

/-- Digits without a sign are read as the number they are, where it is within the limit. -/
theorem parseSigned_digits (limit : Nat) {text : List Char} {value : Nat}
    (read : digits text = some value) :
    parseSigned limit text = if value < limit then some (value : Int) else none := by
  obtain ⟨first, rest, rfl, _, minus⟩ := digits_head read
  rw [parseSigned]
  · rw [parseUnsigned_digits limit read]
    split
    · rfl
    · rfl
  · rintro tail same
    exact minus (List.cons.inj same).1

/-- A printed value is read back if it is below the limit, and rejected otherwise. -/
theorem parse_print (limit value : Nat) :
    parseUnsigned limit (printNat value) = if value < limit then some value else none :=
  parseUnsigned_digits limit (digits_print value)

/-- A printed number below the limit is read back. -/
theorem parse_print_unsigned (limit value : Nat) (inside : value < limit) :
    parseUnsigned limit (printNat value) = some value := by
  rw [parse_print, if_pos inside]

/-- A printed value within the signed range is read back, the least one included. -/
theorem parse_print_signed (limit : Nat) (value : Int)
    (above : -(limit : Int) ≤ value) (below : value < limit) :
    parseSigned limit (printInt value) = some value := by
  by_cases negative : value < 0
  · have bounded : value.natAbs ≤ limit := by omega
    simp only [printInt, negative, if_true, parseSigned, digits_print, Option.bind_some, bounded]
    exact congrArg some (by omega)
  · have bounded : value.natAbs < limit := by omega
    rw [printInt, if_neg negative, parseSigned_digits limit (digits_print _), if_pos bounded]
    exact congrArg some (by omega)

/-- Every character of a printed integer is a digit or the minus sign. -/
theorem print_int_char (value : Int) (c : Char) (member : c ∈ printInt value) :
    c.isDigit ∨ c = '-' := by
  unfold printInt at member
  split at member
  · rcases List.mem_cons.mp member with minus | digit
    · exact Or.inr minus
    · exact Or.inl (print_digit _ c digit)
  · exact Or.inl (print_digit _ c member)

end Foundation.Decimal
