import Mathlib.Data.Nat.Notation
import Mathlib.Data.List.Basic

/-!
# Base64 with the standard alphabet

Three bytes become four symbols; a last group of one or two bytes is filled up
with padding. Reading is strict: the length is a multiple of four, padding only
ends the last group, and the bits a padded group leaves over are zero. Reading
what was written gives the bytes back, whatever they are.
-/

namespace Foundation.Base64

/-- The padding byte `=`. -/
def padding : UInt8 := 61

/-- Symbol of a six-bit value. -/
def symbol (value : Nat) : UInt8 :=
  if value < 26 then UInt8.ofNat (value + 65)
  else if value < 52 then UInt8.ofNat (value + 71)
  else if value < 62 then UInt8.ofNat (value - 4)
  else if value = 62 then 43
  else 47

/-- Six-bit value of a symbol, if it is one. -/
def valueOf (b : UInt8) : Option Nat :=
  if 65 ≤ b.toNat ∧ b.toNat ≤ 90 then some (b.toNat - 65)
  else if 97 ≤ b.toNat ∧ b.toNat ≤ 122 then some (b.toNat - 71)
  else if 48 ≤ b.toNat ∧ b.toNat ≤ 57 then some (b.toNat + 4)
  else if b = 43 then some 62
  else if b = 47 then some 63
  else none

/-- Encode three bytes at a time; the last group is padded. -/
def encode : List UInt8 → List UInt8
  | [] => []
  | [a] => [symbol (a.toNat / 4), symbol (a.toNat % 4 * 16), padding, padding]
  | [a, b] =>
    [symbol (a.toNat / 4), symbol (a.toNat % 4 * 16 + b.toNat / 16),
      symbol (b.toNat % 16 * 4), padding]
  | a :: b :: c :: rest =>
    symbol (a.toNat / 4) :: symbol (a.toNat % 4 * 16 + b.toNat / 16) ::
      symbol (b.toNat % 16 * 4 + c.toNat / 64) :: symbol (c.toNat % 64) :: encode rest

/-- The three bytes of four six-bit values. -/
def join (w x y z : Nat) : List UInt8 :=
  [UInt8.ofNat (w * 4 + x / 16), UInt8.ofNat (x % 16 * 16 + y / 4), UInt8.ofNat (y % 4 * 64 + z)]

/-- A group without padding. -/
def decodeGroup (w x y z : UInt8) : Option (List UInt8) := do
  return join (← valueOf w) (← valueOf x) (← valueOf y) (← valueOf z)

/-- The last group: up to two padding bytes, and no bits left over. -/
def decodeLast (w x y z : UInt8) : Option (List UInt8) :=
  if z ≠ padding then decodeGroup w x y z
  else if y ≠ padding then do
    let third ← valueOf y
    if third % 4 = 0 then return (join (← valueOf w) (← valueOf x) third 0).take 2 else none
  else do
    let second ← valueOf x
    if second % 16 = 0 then return (join (← valueOf w) second 0 0).take 1 else none

/-- Strict decoding. -/
def decode : List UInt8 → Option (List UInt8)
  | [] => some []
  | [w, x, y, z] => decodeLast w x y z
  | w :: x :: y :: z :: rest => do return (← decodeGroup w x y z) ++ (← decode rest)
  | _ => none

/-- A symbol has the value it was written for. -/
theorem valueOf_symbol (value : Nat) (small : value < 64) :
    valueOf (symbol value) = some value := by
  have every : ∀ v : Fin 64, valueOf (symbol v) = some v.val := by decide
  exact every ⟨value, small⟩

/-- No symbol is the one that pads. -/
theorem symbol_ne_padding (value : Nat) (small : value < 64) : symbol value ≠ padding := by
  have every : ∀ v : Fin 64, symbol v ≠ padding := by decide
  exact every ⟨value, small⟩

/-- The four values of three bytes give the bytes back. -/
theorem join_split (a b c : UInt8) :
    join (a.toNat / 4) (a.toNat % 4 * 16 + b.toNat / 16) (b.toNat % 16 * 4 + c.toNat / 64)
      (c.toNat % 64) = [a, b, c] := by
  have first := a.toNat_lt
  have second := b.toNat_lt
  have third := c.toNat_lt
  have one : a.toNat / 4 * 4 + (a.toNat % 4 * 16 + b.toNat / 16) / 16 = a.toNat := by omega
  have two : (a.toNat % 4 * 16 + b.toNat / 16) % 16 * 16 + (b.toNat % 16 * 4 + c.toNat / 64) / 4 =
      b.toNat := by omega
  have three : (b.toNat % 16 * 4 + c.toNat / 64) % 4 * 64 + c.toNat % 64 = c.toNat := by omega
  simp only [join, one, two, three, UInt8.ofNat_toNat]

/-- Four symbols are read back as the three bytes that their values join to. -/
theorem decodeGroup_symbols (w x y z : Nat) (first : w < 64) (second : x < 64) (third : y < 64)
    (fourth : z < 64) :
    decodeGroup (symbol w) (symbol x) (symbol y) (symbol z) = some (join w x y z) := by
  simp [decodeGroup, valueOf_symbol, first, second, third, fourth]

/-- A group of three bytes is read back, also as the last group. -/
theorem decode_group (a b c : UInt8) (rest : List UInt8) :
    decode (symbol (a.toNat / 4) :: symbol (a.toNat % 4 * 16 + b.toNat / 16) ::
      symbol (b.toNat % 16 * 4 + c.toNat / 64) :: symbol (c.toNat % 64) :: rest) =
      (decode rest).map ([a, b, c] ++ ·) := by
  have boundA := a.toNat_lt
  have boundB := b.toNat_lt
  have boundC := c.toNat_lt
  have group := decodeGroup_symbols (a.toNat / 4) (a.toNat % 4 * 16 + b.toNat / 16)
    (b.toNat % 16 * 4 + c.toNat / 64) (c.toNat % 64) (by omega) (by omega) (by omega) (by omega)
  rw [join_split] at group
  cases rest with
  | nil =>
    have full := symbol_ne_padding (c.toNat % 64) (by omega)
    simp [decode, decodeLast, full, group]
  | cons first rest =>
    rw [decode.eq_3 _ _ _ _ _ (by simp), group]
    cases decode (first :: rest) <;> simp

/-- Decoding reads an encoding back exactly. Induction follows the groups of
three; the padded groups are the base cases. -/
theorem decode_encode (payload : List UInt8) : decode (encode payload) = some payload := by
  induction payload using encode.induct with
  | case1 => rfl
  | case2 a =>
    have bound := a.toNat_lt
    have second := valueOf_symbol (a.toNat % 4 * 16) (by omega)
    have first := valueOf_symbol (a.toNat / 4) (by omega)
    have whole : join (a.toNat / 4) (a.toNat % 4 * 16) 0 0 = [a, 0, 0] := by
      simpa using join_split a 0 0
    simp [encode, decode, decodeLast, first, second, whole]
  | case3 a b =>
    have boundA := a.toNat_lt
    have boundB := b.toNat_lt
    have third := valueOf_symbol (b.toNat % 16 * 4) (by omega)
    have second := valueOf_symbol (a.toNat % 4 * 16 + b.toNat / 16) (by omega)
    have first := valueOf_symbol (a.toNat / 4) (by omega)
    have full := symbol_ne_padding (b.toNat % 16 * 4) (by omega)
    have whole : join (a.toNat / 4) (a.toNat % 4 * 16 + b.toNat / 16) (b.toNat % 16 * 4) 0 =
        [a, b, 0] := by
      simpa using join_split a b 0
    simp [encode, decode, decodeLast, first, second, third, full, whole]
  | case4 a b c rest inductionHypothesis =>
    rw [encode, decode_group, inductionHypothesis]
    rfl

/-- A letter, a digit, `+`, `/` or padding. -/
def alphabet (b : UInt8) : Bool := (valueOf b).isSome || b == padding

/-- The alphabet lies between `+` and `z`. -/
theorem alphabet_bounds (b : UInt8) (member : alphabet b = true) :
    43 ≤ b.toNat ∧ b.toNat ≤ 122 := by
  by_cases pad : b = padding
  · subst pad
    decide
  · have valued : (valueOf b).isSome = true := by simpa [alphabet, pad] using member
    unfold valueOf at valued
    split at valued
    · omega
    · split at valued
      · omega
      · split at valued
        · omega
        · split at valued
          · rename_i plus
            subst plus
            decide
          · split at valued
            · rename_i slash
              subst slash
              decide
            · exact absurd valued (by decide)

/-- Every symbol is one of the alphabet. -/
theorem symbol_alphabet (value : Nat) (small : value < 64) : alphabet (symbol value) = true := by
  simp [alphabet, valueOf_symbol value small]

/-- Every byte of an encoding is in the alphabet. -/
theorem encode_alphabet (payload : List UInt8) (b : UInt8) (member : b ∈ encode payload) :
    alphabet b = true := by
  induction payload using encode.induct with
  | case1 => simp [encode] at member
  | case2 a =>
    have bound := a.toNat_lt
    simp only [encode, List.mem_cons, List.not_mem_nil, or_false] at member
    rcases member with rfl | rfl | rfl | rfl
    · exact symbol_alphabet _ (by omega)
    · exact symbol_alphabet _ (by omega)
    · rfl
    · rfl
  | case3 a c =>
    have boundA := a.toNat_lt
    have boundC := c.toNat_lt
    simp only [encode, List.mem_cons, List.not_mem_nil, or_false] at member
    rcases member with rfl | rfl | rfl | rfl
    · exact symbol_alphabet _ (by omega)
    · exact symbol_alphabet _ (by omega)
    · exact symbol_alphabet _ (by omega)
    · rfl
  | case4 a c d rest inductionHypothesis =>
    have boundA := a.toNat_lt
    have boundC := c.toNat_lt
    have boundD := d.toNat_lt
    simp only [encode, List.mem_cons] at member
    rcases member with rfl | rfl | rfl | rfl | later
    · exact symbol_alphabet _ (by omega)
    · exact symbol_alphabet _ (by omega)
    · exact symbol_alphabet _ (by omega)
    · exact symbol_alphabet _ (by omega)
    · exact inductionHypothesis later

end Foundation.Base64
