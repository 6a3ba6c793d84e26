import Mathlib.Data.List.Basic
import PacketBrowser.Foundation.Decimal
import PacketBrowser.Foundation.Query

/-!
# JSON

A text is cut into tokens one character after the other, and the tokens are read with a
stack of the arrays and objects that are still open. A numeral keeps the text it was
written with, and a string is a text, its pairs of surrogates put together.

What is replaced by its escape leaves the tokens alone wherever a text is read at all, as
long as it is no part of the grammar outside of strings.
-/

namespace Foundation.Json

section Numerals

/-- How far a numeral is read. -/
inductive Progress
  | start
  | minus
  | zero
  | whole
  | point
  | fraction
  | exponent
  | sign
  | power
  deriving DecidableEq

/-- The next character of a numeral. -/
def Progress.step : Progress → Char → Option Progress
  | .start, c => if c = '-' then some .minus else if c = '0' then some .zero else
      if c.isDigit then some .whole else none
  | .minus, c => if c = '0' then some .zero else if c.isDigit then some .whole else none
  | .zero, c => if c = '.' then some .point else
      if c = 'e' ∨ c = 'E' then some .exponent else none
  | .whole, c => if c.isDigit then some .whole else if c = '.' then some .point else
      if c = 'e' ∨ c = 'E' then some .exponent else none
  | .point, c => if c.isDigit then some .fraction else none
  | .fraction, c => if c.isDigit then some .fraction else
      if c = 'e' ∨ c = 'E' then some .exponent else none
  | .exponent, c => if c = '+' ∨ c = '-' then some .sign else
      if c.isDigit then some .power else none
  | .sign, c => if c.isDigit then some .power else none
  | .power, c => if c.isDigit then some .power else none

/-- The numeral may end here. -/
def Progress.ends : Progress → Bool
  | .zero | .whole | .fraction | .power => true
  | _ => false

/-- The text is a number as the grammar writes it. -/
def isNumeral (text : List Char) : Bool :=
  (text.foldlM Progress.step .start).any Progress.ends

/-- The text of a number. -/
structure Numeral where
  text : List Char
  written : isNumeral text = true
  deriving DecidableEq

end Numerals

section Values

/-- A value, with numbers as they are written and members in their order. -/
inductive Value
  | null
  | bool (value : Bool)
  | number (numeral : Numeral)
  | string (text : List Char)
  | array (items : List Value)
  | object (members : List (List Char × Value))

/-- A word of the grammar. -/
inductive Token
  | beginArray
  | endArray
  | beginObject
  | endObject
  | comma
  | colon
  | null
  | bool (value : Bool)
  | number (numeral : Numeral)
  | string (text : List Char)
  deriving DecidableEq

end Values

section Lexer

/-- White space between tokens. -/
def blank (c : Char) : Bool := c == ' ' || c == '\t' || c == '\n' || c == '\r'

/-- The tokens of a single character. -/
def structural (c : Char) : Option Token :=
  if c = '[' then some .beginArray else if c = ']' then some .endArray else
  if c = '{' then some .beginObject else if c = '}' then some .endObject else
  if c = ',' then some .comma else if c = ':' then some .colon else none

/-- The characters of numerals and of the three words. -/
def literal (c : Char) : Bool := c.isAlphanum || c == '-' || c == '+' || c == '.'

/-- Where the lexer is. -/
inductive Mode
  | between
  | word (read : List Char)
  | string (read : List Char)
  | escape (read : List Char)
  /-- Within the digits of an escape, perhaps of the second one of a pair. -/
  | unit (read : List Char) (high : Option Nat) (value missing : Nat)
  /-- Behind the first unit of a pair, and perhaps behind a further backslash. -/
  | pair (read : List Char) (high : Nat) (escape : Bool)
  deriving DecidableEq

/-- The token of a word. -/
def spelled (word : List Char) : Option Token :=
  if word = "null".toList then some .null else
  if word = "true".toList then some (.bool true) else
  if word = "false".toList then some (.bool false) else
  if numeral : isNumeral word = true then some (.number ⟨word, numeral⟩) else none

/-- The character of an escape of two characters. -/
def short (c : Char) : Option Char :=
  if c = '"' ∨ c = '\\' ∨ c = '/' then some c else
  if c = 'b' then some (Char.ofNat 8) else if c = 't' then some '\t' else
  if c = 'n' then some '\n' else if c = 'f' then some (Char.ofNat 12) else
  if c = 'r' then some '\r' else none

/-- The first half of a surrogate pair. -/
def isHigh (value : Nat) : Bool := 0xD800 ≤ value && value < 0xDC00

/-- The second half of a surrogate pair. -/
def isLow (value : Nat) : Bool := 0xDC00 ≤ value && value < 0xE000

/-- A unit of sixteen bits is a character, or half of one. -/
def finish (read : List Char) : Option Nat → Nat → Option Mode
  | none, value => if isHigh value then some (.pair read value false) else
      if isLow value then none else some (.string (read ++ [Char.ofNat value]))
  | some high, value => if isLow value then
      some (.string (read ++ [Char.ofNat (0x10000 + (high - 0xD800) * 0x400 + (value - 0xDC00))]))
    else none

/-- A token begins, or nothing does. -/
def begin (c : Char) : Option (Mode × List Token) :=
  if blank c then some (.between, []) else if c = '"' then some (.string [], []) else
  if literal c then some (.word [c], []) else (structural c).map fun token => (.between, [token])

/-- The next character, with the tokens it completes. -/
def Mode.step : Mode → Char → Option (Mode × List Token)
  | .between, c => begin c
  | .word read, c => if literal c then some (.word (read ++ [c]), []) else
      (spelled read).bind fun token => (begin c).map fun (mode, tokens) => (mode, token :: tokens)
  | .string read, c => if c = '"' then some (.between, [.string read]) else
      if c = '\\' then some (.escape read, []) else
      if c.toNat < 0x20 then none else some (.string (read ++ [c]), [])
  | .escape read, c => if c = 'u' then some (.unit read none 0 3, []) else
      (short c).map fun meant => (.string (read ++ [meant]), [])
  | .unit read high value missing, c => (Query.hexValue c).bind fun digit =>
      match missing with
      | 0 => (finish read high (value * 16 + digit)).map fun mode => (mode, [])
      | missing + 1 => some (.unit read high (value * 16 + digit) missing, [])
  | .pair read high false, c => if c = '\\' then some (.pair read high true, []) else none
  | .pair read high true, c => if c = 'u' then some (.unit read (some high) 0 3, []) else none

/-- What is read at the end of the text. -/
def Mode.close : Mode → Option (List Token)
  | .between => some []
  | .word read => (spelled read).map fun token => [token]
  | _ => none

/-- The tokens of a text. -/
def lex : Mode → List Char → Option (List Token)
  | mode, [] => mode.close
  | mode, c :: rest => (mode.step c).bind fun out => (lex out.1 rest).map (out.2 ++ ·)

end Lexer

section Grammar

/-- An array or an object that is still open. -/
inductive Frame
  | array (items : List Value)
  | object (members : List (List Char × Value)) (key : List Char)

/-- What is expected next. -/
inductive Stage
  | value (open' : List Frame)
  | items (open' : List Frame)
  | members (open' : List Frame)
  | key (read : List (List Char × Value)) (open' : List Frame)
  | colon (read : List (List Char × Value)) (key : List Char) (open' : List Frame)
  | item (read : List Value) (open' : List Frame)
  | member (read : List (List Char × Value)) (open' : List Frame)
  | done (value : Value)

/-- A value is complete. -/
def supply (value : Value) : List Frame → Stage
  | [] => .done value
  | .array items :: open' => .item (items ++ [value]) open'
  | .object members key :: open' => .member (members ++ [(key, value)]) open'

/-- A value begins. -/
def enter (open' : List Frame) : Token → Option Stage
  | .null => some (supply .null open')
  | .bool value => some (supply (.bool value) open')
  | .number numeral => some (supply (.number numeral) open')
  | .string text => some (supply (.string text) open')
  | .beginArray => some (.items open')
  | .beginObject => some (.members open')
  | _ => none

/-- One token in front of the reader, and where it is then; none where the grammar has no place
for it. -/
def Stage.step : Stage → Token → Option Stage
  | .value open', token => enter open' token
  | .items open', .endArray => some (supply (.array []) open')
  | .items open', token => enter (.array [] :: open') token
  | .members open', .endObject => some (supply (.object []) open')
  | .members open', .string name => some (.colon [] name open')
  | .key read open', .string name => some (.colon read name open')
  | .colon read name open', .colon => some (.value (.object read name :: open'))
  | .item read open', .comma => some (.value (.array read :: open'))
  | .item read open', .endArray => some (supply (.array read) open')
  | .member read open', .comma => some (.key read open')
  | .member read open', .endObject => some (supply (.object read) open')
  | _, _ => none

/-- The value, if it is complete. -/
def Stage.result : Stage → Option Value
  | .done result => some result
  | _ => none

/-- The value of a text. -/
def parse (text : List Char) : Option Value :=
  (lex .between text).bind fun tokens =>
    (tokens.foldlM Stage.step (.value [])).bind Stage.result

end Grammar

section Printer

/-- The escape of a character by the digits of its unit. -/
def unicodeEscape (c : Char) : List Char :=
  ['\\', 'u', Nat.digitChar (c.toNat / 4096 % 16), Nat.digitChar (c.toNat / 256 % 16),
    Nat.digitChar (c.toNat / 16 % 16), Nat.digitChar (c.toNat % 16)]

/-- A character within a string. -/
def escaped (c : Char) : List Char :=
  if c = '"' then "\\\"".toList else if c = '\\' then "\\\\".toList else
  if c = Char.ofNat 8 then "\\b".toList else if c = '\t' then "\\t".toList else
  if c = '\n' then "\\n".toList else if c = Char.ofNat 12 then "\\f".toList else
  if c = '\r' then "\\r".toList else
  if c.toNat < 0x20 then unicodeEscape c else [c]

/-- A text in quotes, with escapes where it needs them. -/
def quoted (text : List Char) : List Char := '"' :: (text.flatMap escaped ++ ['"'])

mutual

/-- The text of a value, without white space. -/
def print : Value → List Char
  | .null => "null".toList
  | .bool true => "true".toList
  | .bool false => "false".toList
  | .number numeral => numeral.text
  | .string text => quoted text
  | .array items => '[' :: (printItems items ++ [']'])
  | .object members => '{' :: (printMembers members ++ ['}'])

/-- The items of an array, with commas between them. -/
def printItems : List Value → List Char
  | [] => []
  | [item] => print item
  | item :: items => print item ++ ',' :: printItems items

/-- The members of an object, with commas between them. -/
def printMembers : List (List Char × Value) → List Char
  | [] => []
  | [(key, value)] => quoted key ++ ':' :: print value
  | (key, value) :: members => quoted key ++ ':' :: (print value ++ ',' :: printMembers members)

end

end Printer

section Escapes

variable {read rest : List Char} {c : Char}

/-- A hexadecimal digit has the value it was written for. -/
theorem hexValue_digitChar : ∀ value < 16, Query.hexValue (Nat.digitChar value) = some value := by
  decide

/-- One character at a time. -/
theorem lex_cons {mode next : Mode} {tokens : List Token}
    (stepped : mode.step c = some (next, tokens)) (rest : List Char) :
    lex mode (c :: rest) = (lex next rest).map (tokens ++ ·) := by
  rw [lex, stepped]
  rfl

/-- A character that completes no token. -/
theorem lex_next {mode next : Mode} (stepped : mode.step c = some (next, [])) (rest : List Char) :
    lex mode (c :: rest) = lex next rest := by
  rw [lex_cons stepped]
  simp

/-- A digit that is not the last one. -/
theorem lex_digit {high : Option Nat} {value digit missing : Nat} (small : digit < 16) :
    lex (.unit read high value (missing + 1)) (Nat.digitChar digit :: rest) =
      lex (.unit read high (value * 16 + digit) missing) rest := by
  apply lex_next
  simp [Mode.step, hexValue_digitChar digit small]

/-- No character is half of a pair. -/
theorem finish_char (read : List Char) (c : Char) :
    finish read none c.toNat = some (.string (read ++ [c])) := by
  have apart : c.toNat < 0xD800 ∨ 0xDFFF < c.toNat ∧ c.toNat < 0x110000 := c.valid
  have high : isHigh c.toNat = false := by
    unfold isHigh
    simp only [Bool.and_eq_false_iff, decide_eq_false_iff_not]
    omega
  have low : isLow c.toNat = false := by
    unfold isLow
    simp only [Bool.and_eq_false_iff, decide_eq_false_iff_not]
    omega
  simp [finish, high, low, Char.ofNat_toNat]

/-- The escape of a character is read as the character. -/
theorem lex_unicode (inside : c.toNat < 0x10000) (read rest : List Char) :
    lex (.string read) (unicodeEscape c ++ rest) = lex (.string (read ++ [c])) rest := by
  have last : lex (.unit read none ((c.toNat / 4096 % 16 * 16 + c.toNat / 256 % 16) * 16 +
      c.toNat / 16 % 16) 0) (Nat.digitChar (c.toNat % 16) :: rest) =
        lex (.string (read ++ [c])) rest := by
    have whole : ((c.toNat / 4096 % 16 * 16 + c.toNat / 256 % 16) * 16 + c.toNat / 16 % 16) * 16 +
        c.toNat % 16 = c.toNat := by omega
    have digit := hexValue_digitChar (c.toNat % 16) (Nat.mod_lt _ (by decide))
    apply lex_next
    simp only [Mode.step, digit, Option.bind_some, whole, finish_char, Option.map_some]
  have backslash : Mode.step (.string read) '\\' = some (.escape read, []) := rfl
  have unicode : Mode.step (.escape read) 'u' = some (.unit read none 0 3, []) := rfl
  have first : lex (.string read) (unicodeEscape c ++ rest) =
      lex (.unit read none 0 3) ((unicodeEscape c).drop 2 ++ rest) := by
    show lex _ ('\\' :: 'u' :: ((unicodeEscape c).drop 2 ++ rest)) = _
    rw [lex_next backslash, lex_next unicode]
  rw [first]
  show lex _ (_ :: _ :: _ :: _ :: rest) = _
  rw [lex_digit (Nat.mod_lt _ (by decide)), lex_digit (Nat.mod_lt _ (by decide)),
    lex_digit (Nat.mod_lt _ (by decide)), Nat.zero_mul, Nat.zero_add]
  exact last

end Escapes

section Replacement

/-- The character is no part of the grammar outside of strings. -/
def foreign (c : Char) : Bool :=
  !(blank c || literal c || (structural c).isSome || c == '"' || c == '\\' || c == '/')

/-- The text with some characters replaced by their escapes. -/
def replaceBy (chosen : Char → Bool) (text : List Char) : List Char :=
  text.flatMap fun c => if chosen c then unicodeEscape c else [c]

/-- Hexadecimal digits are characters of a literal. -/
theorem literal_hex {c : Char} (digit : (Query.hexValue c).isSome) : literal c = true := by
  have each : ∀ value < 103, (Query.hexValue (Char.ofNat value)).isSome →
      literal (Char.ofNat value) = true := by
    decide
  exact Query.digit_cases (fun c => literal c = true) each digit

/-- Such a character is read within a string, or not at all. -/
theorem step_foreign {mode next : Mode} {tokens : List Token} {c : Char} (stray : foreign c = true)
    (stepped : mode.step c = some (next, tokens)) :
    ∃ read, mode = .string read ∧ next = .string (read ++ [c]) ∧ tokens = [] := by
  unfold foreign at stray
  simp only [Bool.not_eq_true', Bool.or_eq_false_iff, beq_eq_false_iff_ne] at stray
  obtain ⟨⟨⟨⟨⟨space, word⟩, token⟩, quote⟩, backslash⟩, slash⟩ := stray
  have nothing : begin c = none := by
    simpa [begin, space, quote, word] using token
  have unescaped : c ≠ 'u' ∧ short c = none := by
    constructor
    · rintro rfl
      exact absurd word (by decide)
    · have known : ∀ d ∈ ['b', 't', 'n', 'f', 'r'], c ≠ d := by
        rintro d member rfl
        have each : ∀ d ∈ ['b', 't', 'n', 'f', 'r'], literal d = true :=
          List.all_eq_true.mp (by decide)
        exact absurd word (by simp [each c member])
      simp [short, quote, backslash, slash, known]
  cases mode with
  | between =>
    rw [Mode.step, nothing] at stepped
    exact absurd stepped (by simp)
  | word read =>
    rw [Mode.step, word, nothing] at stepped
    exact absurd stepped (by simp)
  | string read =>
    rw [Mode.step, if_neg quote, if_neg backslash, Option.ite_none_left_eq_some] at stepped
    obtain ⟨rfl, rfl⟩ := Prod.mk.inj (Option.some.inj stepped.2)
    exact ⟨read, rfl, rfl, rfl⟩
  | escape read =>
    rw [Mode.step, if_neg unescaped.1, unescaped.2] at stepped
    exact absurd stepped (by simp)
  | unit read high value missing =>
    have undigit : Query.hexValue c = none := by
      cases digit : Query.hexValue c with
      | none => rfl
      | some value => exact absurd word (by simp [literal_hex (c := c) (by simp [digit])])
    rw [Mode.step, undigit] at stepped
    exact absurd stepped (by simp)
  | pair read high escape =>
    cases escape
    · rw [Mode.step, if_neg backslash] at stepped
      exact absurd stepped (by simp)
    · rw [Mode.step, if_neg unescaped.1] at stepped
      exact absurd stepped (by simp)

/-- Replacing such characters leaves the tokens of a text alone. -/
theorem lex_replaceBy {chosen : Char → Bool}
    (strays : ∀ c, chosen c = true → foreign c = true ∧ c.toNat < 0x10000) {mode : Mode}
    {text : List Char} {tokens : List Token} (read : lex mode text = some tokens) :
    lex mode (replaceBy chosen text) = some tokens := by
  induction text generalizing mode tokens with
  | nil => exact read
  | cons c text inductionHypothesis =>
    rw [lex] at read
    obtain ⟨⟨next, ready⟩, stepped, later⟩ := Option.bind_eq_some_iff.mp read
    obtain ⟨others, found, rfl⟩ := Option.map_eq_some_iff.mp later
    have continued := inductionHypothesis found
    show lex mode ((if chosen c then unicodeEscape c else [c]) ++ replaceBy chosen text) = _
    cases choice : chosen c with
    | false =>
      show lex mode (c :: replaceBy chosen text) = _
      rw [lex_cons stepped, continued]
      rfl
    | true =>
      obtain ⟨stray, inside⟩ := strays c choice
      obtain ⟨content, rfl, rfl, rfl⟩ := step_foreign stray stepped
      rw [if_pos rfl, lex_unicode inside, continued]
      rfl

/-- The value stays the same. -/
theorem parse_replaceBy {chosen : Char → Bool}
    (strays : ∀ c, chosen c = true → foreign c = true ∧ c.toNat < 0x10000) {text : List Char}
    {value : Value} (read : parse text = some value) :
    parse (replaceBy chosen text) = some value := by
  unfold parse at read ⊢
  obtain ⟨tokens, lexed, rest⟩ := Option.bind_eq_some_iff.mp read
  rw [lex_replaceBy strays lexed]
  exact rest

end Replacement

section Words

variable {rest : List Char}

/-- No literal character stands in front. -/
def Delimited (rest : List Char) : Prop := ∀ c ∈ rest.head?, literal c = false

/-- A character of a literal is no blank and no quote. -/
theorem literal_apart {c : Char} (inside : literal c = true) : blank c = false ∧ c ≠ '"' := by
  constructor
  · apply Bool.eq_false_iff.mpr
    intro space
    simp only [blank, Bool.or_eq_true, beq_iff_eq] at space
    rcases space with ((rfl | rfl) | rfl) | rfl <;> exact absurd inside (by decide)
  · rintro rfl
    exact absurd inside (by decide)

/-- A word goes on to its last literal character. -/
theorem lex_word {word : List Char} (literals : ∀ c ∈ word, literal c = true) (read : List Char) :
    lex (.word read) (word ++ rest) = lex (.word (read ++ word)) rest := by
  induction word generalizing read with
  | nil => rw [List.append_nil, List.nil_append]
  | cons c word inductionHypothesis =>
    have here : literal c = true := literals c List.mem_cons_self
    have later := inductionHypothesis (fun d member => literals d (List.mem_cons_of_mem c member))
      (read ++ [c])
    rw [List.append_assoc, List.singleton_append] at later
    have stepped : Mode.step (.word read) c = some (.word (read ++ [c]), []) := by
      rw [Mode.step, if_pos here]
    rw [List.cons_append, lex_next stepped]
    exact later

/-- A word is complete in front of anything else. -/
theorem lex_spelled {word : List Char} {token : Token} (known : spelled word = some token)
    (delimited : Delimited rest) :
    lex (.word word) rest = (lex .between rest).map (token :: ·) := by
  cases rest with
  | nil => simp [lex, Mode.close, known]
  | cons c rest =>
    have apart : literal c = false := delimited c rfl
    rw [lex, lex, Mode.step, Mode.step, apart, known]
    cases begin c with
    | none => rfl
    | some out => simp [Function.comp_def]

/-- A word in front of anything else is a token. -/
theorem lex_literal {word : List Char} (token : Token) (known : spelled word = some token)
    (some : word ≠ []) (literals : word.all literal = true) (delimited : Delimited rest) :
    lex .between (word ++ rest) = (lex .between rest).map (token :: ·) := by
  cases word with
  | nil => exact absurd rfl some
  | cons c word =>
    have each : ∀ d ∈ c :: word, literal d = true := List.all_eq_true.mp literals
    have here : literal c = true := each c List.mem_cons_self
    obtain ⟨space, quote⟩ := literal_apart here
    have begins : Mode.step .between c = Option.some (.word [c], []) := by
      simp [Mode.step, begin, space, quote, here]
    rw [List.cons_append, lex_cons begins,
      lex_word (fun d member => each d (List.mem_cons_of_mem c member))]
    rw [show [c] ++ word = c :: word from rfl, lex_spelled known delimited]
    simp [Function.comp_def]

/-- Decimal digits are characters of a literal. -/
theorem literal_digit {c : Char} (digit : c.isDigit = true) : literal c = true := by
  simp [literal, Char.isAlphanum, digit]

/-- A numeral goes on with literal characters only. -/
theorem step_literal {progress next : Progress} {c : Char}
    (stepped : progress.step c = some next) : literal c = true := by
  by_cases digit : c.isDigit = true
  · exact literal_digit digit
  · have sign : c = '-' ∨ c = '+' ∨ c = '.' ∨ c = 'e' ∨ c = 'E' ∨ c = '0' := by
      by_contra other
      simp only [not_or] at other
      obtain ⟨minus, plus, point, lower, upper, zero⟩ := other
      cases progress <;> simp [Progress.step, *] at stepped
    rcases sign with rfl | rfl | rfl | rfl | rfl | rfl <;> decide

/-- A number is a literal. -/
theorem numeral_literal (numeral : Numeral) :
    numeral.text ≠ [] ∧ numeral.text.all literal = true := by
  obtain ⟨text, written⟩ := numeral
  have each : ∀ (text : List Char) (progress : Progress),
      (text.foldlM Progress.step progress).isSome → ∀ c ∈ text, literal c = true := by
    intro text
    induction text with
    | nil => exact fun _ _ c member => absurd member List.not_mem_nil
    | cons first text inductionHypothesis =>
      intro progress read c member
      cases stepped : progress.step first with
      | none =>
        rw [List.foldlM_cons, stepped] at read
        exact absurd read (by simp)
      | some next =>
        rw [List.foldlM_cons, stepped] at read
        rcases List.mem_cons.mp member with rfl | inside
        · exact step_literal stepped
        · exact inductionHypothesis next read c inside
  constructor
  · rintro rfl
    exact absurd written (by decide)
  · apply List.all_eq_true.mpr
    apply each text .start
    unfold isNumeral at written
    cases read : text.foldlM Progress.step .start with
    | none =>
      rw [read] at written
      exact absurd written (by simp)
    | some progress => rfl

/-- A number is read back from how it is spelled. -/
theorem spelled_numeral (numeral : Numeral) :
    spelled numeral.text = some (.number numeral) := by
  have other : ∀ word : List Char, isNumeral word = false → numeral.text ≠ word := by
    rintro word unwritten rfl
    exact absurd numeral.written (by simp [unwritten])
  unfold spelled
  rw [if_neg (other _ (by decide)), if_neg (other _ (by decide)), if_neg (other _ (by decide)),
    dif_pos numeral.written]

end Words

section Naturals

/-- The digits of a positive number are read as a whole number. -/
theorem whole_digits (value : Nat) (positive : 0 < value) :
    (Decimal.printNat value).foldlM Progress.step .start = some .whole := by
  induction value using Nat.strongRecOn with
  | ind value inductionHypothesis =>
    unfold Decimal.printNat at *
    by_cases single : value < 10
    · rw [Nat.toDigits_of_lt_base single]
      have each : ∀ value < 10, 0 < value →
          [Nat.digitChar value].foldlM Progress.step .start = some .whole := by decide
      exact each value single positive
    · have digit : ∀ value < 10, Progress.step .whole (Nat.digitChar value) = some .whole := by
        decide
      rw [Nat.toDigits_of_base_le (by decide) (by omega), List.foldlM_append,
        inductionHypothesis (value / 10) (by omega) (by omega)]
      show List.foldlM _ _ _ = _
      rw [List.foldlM_cons, digit _ (Nat.mod_lt _ (by decide))]
      rfl

/-- The numeral of a natural number. -/
def Numeral.ofNat (value : Nat) : Numeral where
  text := Decimal.printNat value
  written := by
    rcases Nat.eq_zero_or_pos value with rfl | positive
    · decide
    · unfold isNumeral
      rw [whole_digits value positive]
      rfl

end Naturals

section Printing

variable {rest : List Char}

/-- A printed character is read as itself. -/
theorem lex_escaped (read : List Char) (c : Char) (rest : List Char) :
    lex (.string read) (escaped c ++ rest) = lex (.string (read ++ [c])) rest := by
  have twofold : ∀ sign meant, sign ≠ 'u' → short sign = some meant →
      lex (.string read) ('\\' :: sign :: rest) = lex (.string (read ++ [meant])) rest := by
    intro sign meant other known
    have backslash : Mode.step (.string read) '\\' = some (.escape read, []) := rfl
    have stepped : Mode.step (.escape read) sign = some (.string (read ++ [meant]), []) := by
      rw [Mode.step, if_neg other, known]
      rfl
    rw [lex_next backslash, lex_next stepped]
  unfold escaped
  split
  · rename_i same
    exact same ▸ twofold '"' '"' (by decide) (by decide)
  split
  · rename_i same
    exact same ▸ twofold '\\' '\\' (by decide) (by decide)
  split
  · rename_i same
    exact same ▸ twofold 'b' (Char.ofNat 8) (by decide) (by decide)
  split
  · rename_i same
    exact same ▸ twofold 't' '\t' (by decide) (by decide)
  split
  · rename_i same
    exact same ▸ twofold 'n' '\n' (by decide) (by decide)
  split
  · rename_i same
    exact same ▸ twofold 'f' (Char.ofNat 12) (by decide) (by decide)
  split
  · rename_i same
    exact same ▸ twofold 'r' '\r' (by decide) (by decide)
  split
  · rename_i control
    exact lex_unicode (by omega) read rest
  · rename_i quote backslash _ _ _ _ _ visible
    show lex _ (c :: rest) = _
    apply lex_next
    rw [Mode.step, if_neg quote, if_neg backslash, if_neg visible]

/-- Escaped characters up to the quote are read back as the characters. -/
theorem lex_escapes (text read rest : List Char) :
    lex (.string read) (text.flatMap escaped ++ '"' :: rest) =
      (lex .between rest).map (.string (read ++ text) :: ·) := by
  induction text generalizing read with
  | nil =>
    rw [List.append_nil]
    rfl
  | cons c text inductionHypothesis =>
    rw [List.flatMap_cons, List.append_assoc, lex_escaped, inductionHypothesis, List.append_assoc]
    rfl

/-- A quoted text is one token. -/
theorem lex_quoted (text rest : List Char) :
    lex .between (quoted text ++ rest) = (lex .between rest).map (.string text :: ·) := by
  have begins : Mode.step .between '"' = some (.string [], []) := by decide
  show lex _ ('"' :: (text.flatMap escaped ++ ['"'] ++ rest)) = _
  rw [lex_next begins, List.append_assoc, List.singleton_append, lex_escapes]
  rfl

/-- A structural character is one token. -/
theorem lex_structural (c : Char) (token : Token)
    (known : Mode.step .between c = some (.between, [token])) (rest : List Char) :
    lex .between (c :: rest) = (lex .between rest).map (token :: ·) := by
  rw [lex_cons known]
  rfl

mutual

/-- The tokens of a value. -/
def tokens : Value → List Token
  | .null => [.null]
  | .bool value => [.bool value]
  | .number numeral => [.number numeral]
  | .string text => [.string text]
  | .array items => .beginArray :: (itemTokens items ++ [.endArray])
  | .object members => .beginObject :: (memberTokens members ++ [.endObject])

/-- The tokens of the items, with commas between them. -/
def itemTokens : List Value → List Token
  | [] => []
  | [item] => tokens item
  | item :: items => tokens item ++ .comma :: itemTokens items

/-- The tokens of the members, with commas between them. -/
def memberTokens : List (List Char × Value) → List Token
  | [] => []
  | [(key, value)] => .string key :: .colon :: tokens value
  | (key, value) :: members =>
    .string key :: .colon :: (tokens value ++ .comma :: memberTokens members)

end

/-- A character that belongs to no literal ends one. -/
theorem delimited_cons (c : Char) (sign : literal c = false) (rest : List Char) :
    Delimited (c :: rest) := by
  rintro d ⟨⟩
  exact sign

mutual

/-- What is printed consists of the tokens of the value. -/
theorem lex_print : ∀ (value : Value) {rest : List Char}, Delimited rest →
    lex .between (print value ++ rest) = (lex .between rest).map (tokens value ++ ·)
  | .null, _, delimited => by
    rw [print, lex_literal .null (by decide) (by decide) (by decide) delimited]
    rfl
  | .bool true, _, delimited => by
    rw [print, lex_literal (.bool true) (by decide) (by decide) (by decide) delimited]
    rfl
  | .bool false, _, delimited => by
    rw [print, lex_literal (.bool false) (by decide) (by decide) (by decide) delimited]
    rfl
  | .number numeral, _, delimited => by
    obtain ⟨some, literals⟩ := numeral_literal numeral
    rw [print, lex_literal (.number numeral) (spelled_numeral numeral) some literals delimited]
    rfl
  | .string text, rest, _ => by
    rw [print, lex_quoted]
    rfl
  | .array items, rest, _ => by
    have closed := lex_structural ']' .endArray (by decide) rest
    have inner := lex_printItems items (delimited_cons ']' (by decide) rest)
    rw [print, List.cons_append, lex_structural '[' .beginArray (by decide),
      List.append_assoc, List.singleton_append, inner, closed]
    simp [tokens, Function.comp_def]
  | .object members, rest, _ => by
    have closed := lex_structural '\x7d' .endObject (by decide) rest
    have inner := lex_printMembers members (delimited_cons '\x7d' (by decide) rest)
    rw [print, List.cons_append, lex_structural '\x7b' .beginObject (by decide),
      List.append_assoc, List.singleton_append, inner, closed]
    simp [tokens, Function.comp_def]

/-- Printed items are read as their tokens. -/
theorem lex_printItems : ∀ (items : List Value) {rest : List Char}, Delimited rest →
    lex .between (printItems items ++ rest) = (lex .between rest).map (itemTokens items ++ ·)
  | [], _, _ => by simp [printItems, itemTokens]
  | [item], _, delimited => by
    rw [printItems, lex_print item delimited, itemTokens]
  | item :: next :: items, rest, delimited => by
    have later := lex_printItems (next :: items) delimited
    have apart := delimited_cons ',' (by decide) (printItems (next :: items) ++ rest)
    rw [printItems, List.append_assoc, List.cons_append, lex_print item apart,
      lex_structural ',' .comma (by decide), later]
    · simp [itemTokens, Function.comp_def]
    · simp

/-- Printed members are read as their tokens. -/
theorem lex_printMembers : ∀ (members : List (List Char × Value)) {rest : List Char},
    Delimited rest → lex .between (printMembers members ++ rest) =
      (lex .between rest).map (memberTokens members ++ ·)
  | [], _, _ => by simp [printMembers, memberTokens]
  | [(key, value)], rest, delimited => by
    rw [printMembers, List.append_assoc, lex_quoted, List.cons_append,
      lex_structural ':' .colon (by decide), lex_print value delimited]
    simp [memberTokens, Function.comp_def]
  | (key, value) :: next :: members, rest, delimited => by
    have later := lex_printMembers (next :: members) delimited
    have apart := delimited_cons ',' (by decide) (printMembers (next :: members) ++ rest)
    rw [printMembers, List.append_assoc, lex_quoted, List.cons_append,
      lex_structural ':' .colon (by decide), List.append_assoc,
      List.cons_append, lex_print value apart,
      lex_structural ',' .comma (by decide), later]
    · simp [memberTokens, Function.comp_def]
    · simp

end

end Printing

section Reading

variable {open' : List Frame}

/-- The tokens of a value do not begin with the end of an array. -/
theorem tokens_head (value : Value) :
    ∃ first rest, tokens value = first :: rest ∧ first ≠ .endArray := by
  cases value <;> exact ⟨_, _, rfl, by simp⟩

/-- The first item of an array is read like any other one. -/
theorem items_first (value : Value) (rest : List Token) :
    (tokens value ++ rest).foldlM Stage.step (.items open') =
      (tokens value ++ rest).foldlM Stage.step (.value (.array [] :: open')) := by
  obtain ⟨first, others, same, other⟩ := tokens_head value
  have stepped : Stage.step (.items open') first =
      Stage.step (.value (.array [] :: open')) first := by
    cases first <;> first | rfl | exact absurd rfl other
  rw [same, List.cons_append, List.foldlM_cons, List.foldlM_cons, stepped]

/-- The tokens of a list begin with those of its first item. -/
theorem itemTokens_head (item : Value) (items : List Value) :
    ∃ rest, itemTokens (item :: items) = tokens item ++ rest := by
  cases items with
  | nil => exact ⟨[], by rw [itemTokens, List.append_nil]⟩
  | cons next items => exact ⟨_, by rw [itemTokens]; simp⟩

/-- The first member of an object is read like any other one. -/
theorem members_first (member : List Char × Value) (members : List (List Char × Value))
    (rest : List Token) :
    (memberTokens (member :: members) ++ rest).foldlM Stage.step (.members open') =
      (memberTokens (member :: members) ++ rest).foldlM Stage.step (.key [] open') := by
  obtain ⟨key, value⟩ := member
  cases members <;> simp only [memberTokens, List.cons_append, List.foldlM_cons] <;> rfl

mutual

/-- The tokens of a value complete it. -/
theorem run_tokens : ∀ (value : Value) (open' : List Frame) (rest : List Token),
    (tokens value ++ rest).foldlM Stage.step (.value open') =
      rest.foldlM Stage.step (supply value open')
  | .null, _, _ => rfl
  | .bool _, _, _ => rfl
  | .number _, _, _ => rfl
  | .string _, _, _ => rfl
  | .array [], _, _ => rfl
  | .array (item :: items), open', rest => by
    obtain ⟨others, same⟩ := itemTokens_head item items
    have inner := run_items (item :: items) (List.cons_ne_nil _ _) [] open' (.endArray :: rest)
    rw [same, List.append_assoc] at inner
    rw [tokens, List.cons_append, List.append_assoc, List.singleton_append, same,
      List.append_assoc]
    show List.foldlM Stage.step (.items open') _ = _
    rw [items_first, inner]
    rfl
  | .object [], _, _ => rfl
  | .object (member :: members), open', rest => by
    have inner := run_members (member :: members) (List.cons_ne_nil _ _) [] open'
      (.endObject :: rest)
    rw [tokens, List.cons_append, List.append_assoc, List.singleton_append]
    show List.foldlM Stage.step (.members open') _ = _
    rw [members_first, inner]
    rfl

/-- Behind the tokens of its items the reader has read them, in the array that is open. -/
theorem run_items : ∀ (items : List Value), items ≠ [] → ∀ (read : List Value)
    (open' : List Frame) (rest : List Token),
    (itemTokens items ++ rest).foldlM Stage.step (.value (.array read :: open')) =
      rest.foldlM Stage.step (.item (read ++ items) open')
  | [], filled, _, _, _ => absurd rfl filled
  | [item], _, read, open', rest => by
    rw [itemTokens, run_tokens item]
    rfl
  | item :: next :: items, _, read, open', rest => by
    have later := run_items (next :: items) (List.cons_ne_nil _ _) (read ++ [item]) open' rest
    rw [List.append_assoc, List.singleton_append] at later
    rw [itemTokens, List.append_assoc, List.cons_append, run_tokens item, ← later]
    · rfl
    · simp

/-- Behind the tokens of its members the reader has read them, in the object that is open. -/
theorem run_members : ∀ (members : List (List Char × Value)), members ≠ [] →
    ∀ (read : List (List Char × Value)) (open' : List Frame) (rest : List Token),
    (memberTokens members ++ rest).foldlM Stage.step (.key read open') =
      rest.foldlM Stage.step (.member (read ++ members) open')
  | [], filled, _, _, _ => absurd rfl filled
  | [(key, value)], _, read, open', rest => by
    have inner := run_tokens value (.object read key :: open') rest
    rw [memberTokens]
    exact inner
  | (key, value) :: next :: members, _, read, open', rest => by
    have inner := run_tokens value (.object read key :: open')
      (.comma :: (memberTokens (next :: members) ++ rest))
    have later := run_members (next :: members) (List.cons_ne_nil _ _) (read ++ [(key, value)])
      open' rest
    rw [List.append_assoc, List.singleton_append] at later
    rw [memberTokens, ← later]
    · rw [List.cons_append, List.cons_append, List.append_assoc, List.cons_append]
      exact inner
    · simp

end

/-- What is printed is read as the value it was printed from. -/
theorem parse_print (value : Value) : parse (print value) = some value := by
  have nothing : Delimited [] := by
    rintro c ⟨⟩
  have lexed := lex_print value nothing
  have whole := run_tokens value [] []
  rw [List.append_nil] at lexed whole
  unfold parse
  rw [lexed]
  simp only [lex, Mode.close, Option.map_some, List.append_nil, Option.bind_some]
  rw [whole]
  rfl

end Reading

end Foundation.Json
