import PacketBrowser.Foundation.Query

/-!
# String literals of scripts

What stands between two single quotes in a script is read one character after the other,
and its value is a sequence of units of sixteen bits. All escapes are read, with the octal
ones of sloppy code; the separators of lines and paragraphs are line ends.

An escape is always dearer than its value once a backslash has the price of two characters
and the digits four and five have the price of one: no text is the value of a literal whose
body costs the same and has a backslash.
-/

namespace Foundation.Script

section Reading

/-- The units of a code point. -/
def units (value : Nat) : List Nat :=
  if value < 0x10000 then [value]
  else [0xD800 + (value - 0x10000) / 0x400, 0xDC00 + (value - 0x10000) % 0x400]

/-- The code units of a text. -/
def utf16 (text : List Char) : List Nat := text.flatMap fun c => units c.toNat

/-- The characters that end a line of a script. -/
def lineEnd (c : Char) : Bool := c == '\n' || c == '\r' || c == '\u2028' || c == '\u2029'

/-- Where the reader is. -/
inductive Mode
  | plain
  | escape
  /-- Behind an escaped carriage return, which a line feed belongs to. -/
  | returned
  | hex (value missing : Nat)
  | unicode
  | braced (value : Nat) (started : Bool)
  | octal (value missing : Nat)
  deriving DecidableEq

/-- The value of an octal digit. -/
def octalValue (c : Char) : Option Nat :=
  if 48 ≤ c.toNat ∧ c.toNat < 56 then some (c.toNat - 48) else none

/-- The units of an escape of two characters. -/
def short (c : Char) : List Nat :=
  if c = 'b' then [8] else if c = 't' then [9] else if c = 'n' then [10] else
  if c = 'v' then [11] else if c = 'f' then [12] else if c = 'r' then [13] else units c.toNat

/-- A character outside of escapes. -/
def ordinary (c : Char) : Option (Mode × List Nat) :=
  if c = '\'' ∨ lineEnd c = true then none else
  if c = '\\' then some (.escape, []) else some (.plain, units c.toNat)

/-- The character behind a backslash. -/
def escaped (c : Char) : Mode × List Nat :=
  if c = 'x' then (.hex 0 1, []) else if c = 'u' then (.unicode, []) else
  if c = '\r' then (.returned, []) else if lineEnd c then (.plain, []) else
  match octalValue c with
  | some value => (.octal value (if value < 4 then 1 else 0), [])
  | none => (.plain, short c)

/-- The next character, with the units it completes. -/
def Mode.step : Mode → Char → Option (Mode × List Nat)
  | .plain, c => ordinary c
  | .escape, c => some (escaped c)
  | .returned, c => if c = '\n' then some (.plain, []) else ordinary c
  | .hex value missing, c => (Query.hexValue c).map fun digit => match missing with
      | 0 => (.plain, [value * 16 + digit])
      | missing + 1 => (.hex (value * 16 + digit) missing, [])
  | .unicode, c => if c = '{' then some (.braced 0 false, []) else
      (Query.hexValue c).map fun digit => (.hex digit 2, [])
  | .braced value started, c => if c = '}' then
        if started then some (.plain, units value) else none
      else (Query.hexValue c).bind fun digit =>
        if value * 16 + digit < 0x110000 then some (.braced (value * 16 + digit) true, []) else none
  | .octal value missing, c => match octalValue c with
      | some digit => match missing with
        | 0 => some (.plain, [value * 8 + digit])
        | missing + 1 => some (.octal (value * 8 + digit) missing, [])
      | none => (ordinary c).map fun (mode, out) => (mode, value :: out)

/-- What is read at the end of the body. -/
def Mode.close : Mode → Option (List Nat)
  | .plain | .returned => some []
  | .octal value _ => some [value]
  | _ => none

/-- The code units a literal stands for, read character by character; none where it breaks off. -/
def read : Mode → List Char → Option (List Nat)
  | mode, [] => mode.close
  | mode, c :: rest => (mode.step c).bind fun out => (read out.1 rest).map (out.2 ++ ·)

/-- The value of a literal in single quotes, if its body is well formed. -/
def stringValue (body : List Char) : Option (List Nat) := read .plain body

example : stringValue "it\\'s\\x41\\u0042\\u{43}\\104\\\n.".toList =
    some (utf16 "it'sABCD.".toList) := by
  decide

end Reading

section Prices

/-- The price of a unit, in a body or in a value. -/
def price (unit : Nat) : Nat := if unit = 0x5C then 2 else if unit = 0x34 ∨ unit = 0x35 then 1 else 0

/-- What code units cost when they are written in UTF-8. -/
def cost : List Nat → Nat
  | [] => 0
  | value :: values => price value + cost values

/-- What is paid already for an escape that has come to a value. -/
def heavy (value : Nat) : Nat := if value = 5 ∨ value = 0x5C then 2 else 1

/-- What the characters read so far have already paid for. -/
def Mode.paid : Mode → Nat
  | .plain => 0
  | .escape | .returned | .unicode => 1
  | .hex value _ | .braced value _ | .octal value _ => heavy value

/-- Nothing costs nothing. -/
@[simp] theorem cost_nil : cost [] = 0 := rfl

/-- The cost of one unit and of those that follow. -/
@[simp] theorem cost_cons (value : Nat) (values : List Nat) :
    cost (value :: values) = price value + cost values := rfl

/-- The costs of two sequences add up. -/
@[simp] theorem cost_append (left right : List Nat) :
    cost (left ++ right) = cost left + cost right := by
  induction left with
  | nil => exact (Nat.zero_add _).symm
  | cons value values inductionHypothesis =>
    rw [List.cons_append, cost_cons, cost_cons, inductionHypothesis, Nat.add_assoc]

/-- A unit costs no more than a value with as many digits may cost. -/
theorem price_heavy (value : Nat) : price value ≤ heavy value := by
  unfold price heavy
  split_ifs <;> omega

/-- The units of a character cost what it costs. -/
theorem cost_units (value : Nat) : cost (units value) = price value := by
  unfold units
  split
  · simp
  · rename_i beyond
    simp only [cost_cons, cost_nil, price]
    split_ifs <;> omega

/-- A hexadecimal digit and its value. -/
theorem hexValue_some {c : Char} {digit : Nat} (known : Query.hexValue c = some digit) :
    c.toNat = digit + 48 ∧ digit < 10 ∨ 10 ≤ digit ∧ digit < 16 := by
  unfold Query.hexValue at known
  split at known
  · rename_i decimal
    obtain rfl := Option.some.inj known
    simp only [Char.isDigit, Bool.and_eq_true, decide_eq_true_eq] at decimal
    have lower : 48 ≤ c.toNat := decimal.1
    have upper : c.toNat ≤ 57 := decimal.2
    omega
  · split at known
    · obtain rfl := Option.some.inj known
      omega
    · split at known
      · obtain rfl := Option.some.inj known
        omega
      · exact absurd known (by simp)

/-- A hexadecimal digit costs what it adds. -/
theorem heavy_hex {c : Char} {digit : Nat} (known : Query.hexValue c = some digit) (value : Nat) :
    heavy (value * 16 + digit) ≤ heavy value + price c.toNat := by
  have range := hexValue_some known
  unfold heavy price
  split_ifs <;> omega

/-- One more octal digit is paid for by its own price. -/
theorem heavy_octal {c : Char} {digit : Nat} (known : octalValue c = some digit) (value : Nat) :
    heavy (value * 8 + digit) ≤ heavy value + price c.toNat := by
  unfold octalValue at known
  rw [Option.ite_none_right_eq_some] at known
  obtain ⟨range, same⟩ := known
  obtain rfl := Option.some.inj same
  unfold heavy price
  split_ifs <;> omega

/-- A character behind a backslash costs no more than the two. -/
theorem cost_short (c : Char) : cost (short c) ≤ 1 + price c.toNat := by
  have letters : ∀ unit ∈ [8, 9, 10, 11, 12, 13], cost [unit] = 0 := by decide
  unfold short
  split_ifs
  · rw [letters 8 (by decide)]
    exact Nat.zero_le _
  · rw [letters 9 (by decide)]
    exact Nat.zero_le _
  · rw [letters 10 (by decide)]
    exact Nat.zero_le _
  · rw [letters 11 (by decide)]
    exact Nat.zero_le _
  · rw [letters 12 (by decide)]
    exact Nat.zero_le _
  · rw [letters 13 (by decide)]
    exact Nat.zero_le _
  · rw [cost_units]
    exact Nat.le_add_left _ _

variable {mode next : Mode} {c : Char} {out : List Nat}

/-- Outside of escapes, a backslash is the only character that is not worth its price. -/
theorem ordinary_paid (stepped : ordinary c = some (next, out)) :
    cost out + next.paid + (if c = '\\' then 1 else 0) ≤ price c.toNat ∧
      (c ≠ '\\' → next = .plain) := by
  unfold ordinary at stepped
  split at stepped
  · exact absurd stepped (by simp)
  · split at stepped
    · rename_i backslash
      obtain ⟨rfl, rfl⟩ := Prod.mk.inj (Option.some.inj stepped)
      subst backslash
      exact ⟨by decide, fun other => absurd rfl other⟩
    · rename_i other
      obtain ⟨rfl, rfl⟩ := Prod.mk.inj (Option.some.inj stepped)
      rw [if_neg other, cost_units]
      exact ⟨Nat.le_refl _, fun _ => rfl⟩

/-- What is read behind a backslash is paid for by the two characters. -/
theorem escaped_paid (c : Char) :
    cost (escaped c).2 + (escaped c).1.paid ≤ 1 + price c.toNat := by
  unfold escaped
  split_ifs
  · exact Nat.le_add_right _ _
  · exact Nat.le_add_right _ _
  · exact Nat.le_add_right _ _
  · exact Nat.zero_le _
  · split
    · rename_i value known
      have first := heavy_octal known 0
      rw [Nat.zero_mul, Nat.zero_add] at first
      exact Nat.le_trans (Nat.le_of_eq (Nat.zero_add _)) first
    · exact cost_short c

/-- No step gives more than was paid for. -/
theorem step_paid (stepped : mode.step c = some (next, out)) :
    cost out + next.paid ≤ mode.paid + price c.toNat := by
  cases mode with
  | plain =>
    have paid := (ordinary_paid stepped).1
    show cost out + next.paid ≤ 0 + price c.toNat
    omega
  | escape =>
    obtain ⟨rfl, rfl⟩ := Prod.mk.inj (Option.some.inj stepped)
    exact escaped_paid c
  | returned =>
    rw [Mode.step] at stepped
    split at stepped
    · obtain ⟨rfl, rfl⟩ := Prod.mk.inj (Option.some.inj stepped)
      exact Nat.zero_le _
    · have paid := (ordinary_paid stepped).1
      show cost out + next.paid ≤ 1 + price c.toNat
      omega
  | hex value missing =>
    obtain ⟨digit, known, same⟩ := Option.map_eq_some_iff.mp stepped
    have dear := heavy_hex known value
    cases missing with
    | zero =>
      obtain ⟨rfl, rfl⟩ := Prod.mk.inj same
      have whole := price_heavy (value * 16 + digit)
      simp only [cost_cons, cost_nil, Mode.paid]
      omega
    | succ missing =>
      obtain ⟨rfl, rfl⟩ := Prod.mk.inj same
      simp only [cost_nil, Mode.paid]
      omega
  | unicode =>
    rw [Mode.step] at stepped
    split at stepped
    · obtain ⟨rfl, rfl⟩ := Prod.mk.inj (Option.some.inj stepped)
      exact Nat.le_add_right _ _
    · obtain ⟨digit, known, same⟩ := Option.map_eq_some_iff.mp stepped
      obtain ⟨rfl, rfl⟩ := Prod.mk.inj same
      have dear := heavy_hex known 0
      rw [Nat.zero_mul, Nat.zero_add] at dear
      exact Nat.le_trans (Nat.le_of_eq (Nat.zero_add _)) dear
  | braced value started =>
    rw [Mode.step] at stepped
    split at stepped
    · split at stepped
      · obtain ⟨rfl, rfl⟩ := Prod.mk.inj (Option.some.inj stepped)
        have whole := price_heavy value
        simp only [cost_units, Mode.paid]
        omega
      · exact absurd stepped (by simp)
    · obtain ⟨digit, known, same⟩ := Option.bind_eq_some_iff.mp stepped
      obtain ⟨rfl, rfl⟩ := Prod.mk.inj (Option.some.inj (Option.ite_none_right_eq_some.mp same).2)
      have dear := heavy_hex known value
      simp only [cost_nil, Mode.paid]
      omega
  | octal value missing =>
    have whole := price_heavy value
    rw [Mode.step] at stepped
    split at stepped
    · rename_i digit known
      have dear := heavy_octal known value
      have last := price_heavy (value * 8 + digit)
      split at stepped
      · obtain ⟨rfl, rfl⟩ := Prod.mk.inj (Option.some.inj stepped)
        simp only [cost_cons, cost_nil, Mode.paid]
        omega
      · obtain ⟨rfl, rfl⟩ := Prod.mk.inj (Option.some.inj stepped)
        simp only [cost_nil, Mode.paid]
        omega
    · obtain ⟨⟨after, others⟩, found, same⟩ := Option.map_eq_some_iff.mp stepped
      obtain ⟨rfl, rfl⟩ := Prod.mk.inj same
      have paid := (ordinary_paid found).1
      show cost (value :: others) + after.paid ≤ heavy value + price c.toNat
      rw [cost_cons]
      omega

/-- What is still due when the literal ends has been paid for. -/
theorem close_paid {values : List Nat} (closed : mode.close = some values) :
    cost values ≤ mode.paid := by
  cases mode with
  | octal value missing =>
    obtain rfl := Option.some.inj closed
    have whole := price_heavy value
    simp only [cost_cons, cost_nil, Mode.paid]
    omega
  | plain =>
    obtain rfl := Option.some.inj closed
    exact Nat.zero_le _
  | returned =>
    obtain rfl := Option.some.inj closed
    exact Nat.zero_le _
  | _ => exact absurd closed (by simp [Mode.close])

/-- A value is not worth more than what was read. -/
theorem read_paid {text : List Char} {values : List Nat} (known : read mode text = some values) :
    cost values ≤ mode.paid + cost (utf16 text) := by
  induction text generalizing mode values with
  | nil => exact Nat.le_trans (close_paid known) (Nat.le_add_right _ _)
  | cons c text inductionHypothesis =>
    obtain ⟨⟨next, out⟩, stepped, later⟩ := Option.bind_eq_some_iff.mp known
    obtain ⟨others, found, rfl⟩ := Option.map_eq_some_iff.mp later
    have rest := inductionHypothesis found
    have paid := step_paid stepped
    have whole : cost (utf16 (c :: text)) = price c.toNat + cost (utf16 text) := by
      rw [utf16, List.flatMap_cons, cost_append, cost_units]
      rfl
    rw [cost_append, whole]
    dsimp only at rest ⊢
    omega

/-- With a backslash, it is worth less. -/
theorem stringValue_cheaper {body : List Char} {values : List Nat}
    (known : stringValue body = some values) (backslash : '\\' ∈ body) :
    cost values < cost (utf16 body) := by
  unfold stringValue at known
  induction body generalizing values with
  | nil => exact absurd backslash List.not_mem_nil
  | cons c body inductionHypothesis =>
    obtain ⟨⟨next, out⟩, stepped, later⟩ := Option.bind_eq_some_iff.mp known
    obtain ⟨others, found, rfl⟩ := Option.map_eq_some_iff.mp later
    obtain ⟨paid, stays⟩ := ordinary_paid stepped
    have whole : cost (utf16 (c :: body)) = price c.toNat + cost (utf16 body) := by
      rw [utf16, List.flatMap_cons, cost_append, cost_units]
      rfl
    rw [cost_append, whole]
    by_cases here : c = '\\'
    · rw [if_pos here] at paid
      have rest := read_paid found
      dsimp only at rest ⊢
      omega
    · obtain rfl := stays here
      have rest := inductionHypothesis found (by simpa [Ne.symm here] using backslash)
      rw [if_neg here] at paid
      dsimp only at rest ⊢
      omega

end Prices

section Plain

/-- Without escapes, a body is its own value, and has no quote and no line end in it. -/
theorem stringValue_iff {body : List Char} {values : List Nat} (plain : '\\' ∉ body) :
    stringValue body = some values ↔
      values = utf16 body ∧ ∀ c ∈ body, c ≠ '\'' ∧ lineEnd c = false := by
  unfold stringValue
  induction body generalizing values with
  | nil =>
    constructor
    · intro known
      exact ⟨(Option.some.inj known).symm, fun c member => absurd member List.not_mem_nil⟩
    · rintro ⟨rfl, _⟩
      rfl
  | cons c body inductionHypothesis =>
    have here : c ≠ '\\' := fun same => plain (same ▸ List.mem_cons_self)
    have rest := fun values => @inductionHypothesis values
      fun member => plain (List.mem_cons_of_mem c member)
    rw [read, Mode.step, ordinary, if_neg here]
    by_cases fine : c = '\'' ∨ lineEnd c = true
    · rw [if_pos fine]
      constructor
      · intro known
        exact absurd known (by simp)
      · rintro ⟨_, each⟩
        obtain ⟨quote, line⟩ := each c List.mem_cons_self
        rcases fine with same | ends
        · exact absurd same quote
        · exact absurd ends (by simp [line])
    · rw [if_neg fine, Option.bind_some, Option.map_eq_some_iff]
      constructor
      · rintro ⟨others, found, rfl⟩
        obtain ⟨rfl, each⟩ := (rest others).mp found
        exact ⟨rfl, List.forall_mem_cons.mpr ⟨by simpa using fine, each⟩⟩
      · rintro ⟨rfl, each⟩
        exact ⟨utf16 body, (rest _).mpr ⟨rfl, (List.forall_mem_cons.mp each).2⟩, rfl⟩

end Plain

end Foundation.Script
