import Mathlib.Data.List.TakeWhile
import PacketBrowser.Foundation.Lossy

/-!
# Query strings

A query string holds pairs of a name and a value as forms submit them: pairs stand between
ampersands, the name ends at the first equals sign, a plus stands for a space, and a percent
sign in front of two hexadecimal digits for a byte. The bytes are then read as UTF-8.

What a serializer writes is read back exactly. A text that no serializer has touched is read
as itself only if nothing in it has a meaning, and every escape read in it costs ASCII
characters, so the loss can be counted.
-/

namespace Foundation.Query

section Escapes

/-- The value of a hexadecimal digit. -/
def hexValue (c : Char) : Option Nat :=
  if c.isDigit then some (c.toNat - 48)
  else if 65 ≤ c.toNat ∧ c.toNat ≤ 70 then some (c.toNat - 55)
  else if 97 ≤ c.toNat ∧ c.toNat ≤ 102 then some (c.toNat - 87)
  else none

/-- A hexadecimal digit, in upper case. -/
def hexDigit (value : Nat) : Char := (Nat.digitChar value).toUpper

/-- The value of the hexadecimal digit at the front. -/
def leading (text : List Char) : Option Nat := text.head?.bind hexValue

/-- The byte that two hexadecimal digits at the front stand for. -/
def escaped (text : List Char) : Option UInt8 :=
  (leading text).bind fun high => (leading text.tail).map fun low => UInt8.ofNat (16 * high + low)

/-- The escape that a character starts. -/
def escapeAt (c : Char) (rest : List Char) : Option UInt8 :=
  if c = '%' then escaped rest else none

/-- The bytes of a character on its own. -/
def single (c : Char) : List UInt8 := if c = '+' then [0x20] else String.utf8EncodeChar c

/-- The bytes a text stands for once some of its characters have been read. -/
def bytesAfter : Nat → List Char → List UInt8
  | _, [] => []
  | skip + 1, _ :: rest => bytesAfter skip rest
  | 0, c :: rest =>
    match escapeAt c rest with
    | some byte => byte :: bytesAfter 2 rest
    | none => single c ++ bytesAfter 0 rest

/-- The bytes a text stands for. -/
def bytes (text : List Char) : List UInt8 := bytesAfter 0 text

/-- The text a component of a query stands for. -/
def decode (text : List Char) : List Char := Utf8.lossy (bytes text)

/-- A byte as an escape. -/
def percent (byte : UInt8) : List Char :=
  ['%', hexDigit (byte.toNat / 16), hexDigit (byte.toNat % 16)]

/-- A text with every character escaped that is not kept. -/
def percentEncode (kept : Char → Bool) (text : List Char) : List Char :=
  text.flatMap fun c => if kept c then [c] else (String.utf8EncodeChar c).flatMap percent

/-- Characters a form leaves as they are. -/
def unreserved (c : Char) : Bool :=
  c.isAlphanum || c == '*' || c == '-' || c == '.' || c == '_'

/-- A component as a form writes it. -/
def encode (text : List Char) : List Char :=
  text.flatMap fun c => if c = ' ' then ['+'] else percentEncode unreserved [c]

/-- A name and its value. -/
def field (name value : List Char) : List Char := encode name ++ '=' :: encode value

/-- Characters a URL parser leaves as they are in the query of a web address. -/
def printable (c : Char) : Bool :=
  0x20 < c.toNat && c.toNat < 0x7F && c != '"' && c != '#' && c != '<' && c != '>' && c != '\''

/-- The query of a web address as a request carries it. -/
def encodeQuery (text : List Char) : List Char := percentEncode printable text

/-- A name and a value, apart at the first equals sign. -/
def pair (segment : List Char) : List Char × List Char :=
  (decode (segment.takeWhile (· != '=')), decode ((segment.dropWhile (· != '=')).drop 1))

/-- The pairs of a query. -/
def parse (query : List Char) : List (List Char × List Char) :=
  ((query.splitOn '&').filter (· ≠ [])).map pair

end Escapes

section Reading

/-- The digits of an escape are read back. -/
theorem hexValue_hexDigit : ∀ value < 16, hexValue (hexDigit value) = some value := by decide

/-- Skipping characters is dropping them. -/
theorem bytesAfter_eq (skip : Nat) (text : List Char) :
    bytesAfter skip text = bytes (text.drop skip) := by
  induction skip generalizing text with
  | zero => rfl
  | succ skip inductionHypothesis =>
    cases text with
    | nil => rfl
    | cons c rest => exact inductionHypothesis rest

/-- An empty text has no bytes. -/
@[simp] theorem bytes_nil : bytes [] = [] := rfl

/-- An escape stands for its byte. -/
theorem bytes_escape {byte : UInt8} {rest : List Char} (read : escaped rest = some byte) :
    bytes ('%' :: rest) = byte :: bytes (rest.drop 2) := by
  have first : escapeAt '%' rest = some byte := read
  rw [← bytesAfter_eq]
  unfold bytes
  rw [bytesAfter, first]

/-- A character that begins no escape stands for its own bytes. -/
theorem bytes_single {c : Char} {rest : List Char} (read : escapeAt c rest = none) :
    bytes (c :: rest) = single c ++ bytes rest := by
  unfold bytes
  rw [bytesAfter, read]

/-- An escape starts with two digits. -/
theorem escaped_some {text : List Char} {byte : UInt8} (read : escaped text = some byte) :
    ∃ high low rest, text = high :: low :: rest ∧ (hexValue high).isSome ∧
      (hexValue low).isSome := by
  obtain ⟨high, first, second⟩ := Option.bind_eq_some_iff.mp read
  obtain ⟨low, last, _⟩ := Option.map_eq_some_iff.mp second
  obtain ⟨c, front, digit⟩ := Option.bind_eq_some_iff.mp first
  obtain ⟨d, behind, other⟩ := Option.bind_eq_some_iff.mp last
  cases text with
  | nil => exact absurd front (by simp)
  | cons a tail =>
    cases tail with
    | nil => exact absurd behind (by simp)
    | cons b rest =>
      obtain rfl := Option.some.inj front
      obtain rfl := Option.some.inj behind
      exact ⟨a, b, rest, rfl, by simp [digit], by simp [other]⟩

/-- A text is read escape by escape and character by character. -/
theorem reading {motive : List Char → Prop} (nil : motive [])
    (escape : ∀ high low rest byte, escaped (high :: low :: rest) = some byte →
      (hexValue high).isSome → (hexValue low).isSome → motive rest →
      motive ('%' :: high :: low :: rest))
    (single : ∀ c rest, escapeAt c rest = none → motive rest → motive (c :: rest))
    (text : List Char) : motive text := by
  induction size : text.length using Nat.strong_induction_on generalizing text with
  | _ size' inductionHypothesis =>
    cases text with
    | nil => exact nil
    | cons c rest =>
      simp only [List.length_cons] at size
      cases read : escapeAt c rest with
      | none => exact single c rest read (inductionHypothesis rest.length (by omega) rest rfl)
      | some byte =>
        unfold escapeAt at read
        split at read
        · rename_i sign
          obtain ⟨high, low, tail, rfl, first, second⟩ := escaped_some read
          simp only [List.length_cons] at size
          subst sign
          exact escape high low tail byte read first second
            (inductionHypothesis tail.length (by omega) tail rfl)
        · exact absurd read (by simp)

/-- The bytes of escapes are read back. -/
theorem bytes_percent (data : List UInt8) (rest : List Char) :
    bytes (data.flatMap percent ++ rest) = data ++ bytes rest := by
  induction data with
  | nil => rfl
  | cons byte data inductionHypothesis =>
    have small : byte.toNat < 256 := byte.toNat_lt
    have high := hexValue_hexDigit (byte.toNat / 16) (by omega)
    have low := hexValue_hexDigit (byte.toNat % 16) (by omega)
    have whole : 16 * (byte.toNat / 16) + byte.toNat % 16 = byte.toNat := Nat.div_add_mod _ 16
    have read : escaped (hexDigit (byte.toNat / 16) :: hexDigit (byte.toNat % 16) ::
        (data.flatMap percent ++ rest)) = some byte := by
      simp only [escaped, leading, List.head?_cons, List.tail_cons, Option.bind_some, high, low,
        Option.map_some, whole, UInt8.ofNat_toNat]
    have next := bytes_escape read
    rw [List.flatMap_cons]
    simp only [percent, List.cons_append, List.nil_append, next, List.drop_succ_cons,
      List.drop_zero, inductionHypothesis]

/-- Only a percent sign begins an escape. -/
theorem escapeAt_other {c : Char} (other : c ≠ '%') (rest : List Char) : escapeAt c rest = none :=
  if_neg other

end Reading

section Writing

/-- A hexadecimal digit is a digit or one of six letters, in either case. -/
theorem hexValue_range {c : Char} (digit : (hexValue c).isSome) :
    (48 ≤ c.toNat ∧ c.toNat ≤ 57) ∨ (65 ≤ c.toNat ∧ c.toNat ≤ 70) ∨
      (97 ≤ c.toNat ∧ c.toNat ≤ 102) := by
  unfold hexValue at digit
  split at digit
  · rename_i decimal
    have bounds := decimal
    simp only [Char.isDigit, Bool.and_eq_true, decide_eq_true_eq] at bounds
    exact Or.inl bounds
  · split at digit
    · rename_i upper
      exact Or.inr (Or.inl upper)
    · split at digit
      · rename_i lower
        exact Or.inr (Or.inr lower)
      · exact absurd digit (by simp)

/-- What is checked for the numbers of the digits holds of the digits. -/
theorem digit_cases (holds : Char → Prop)
    (each : ∀ n < 103, (hexValue (Char.ofNat n)).isSome → holds (Char.ofNat n))
    {c : Char} (digit : (hexValue c).isSome) : holds c := by
  have range := hexValue_range digit
  have own := each c.toNat (by omega)
  rw [Char.ofNat_toNat] at own
  exact own digit

variable {kept : Char → Bool}

/-- An empty text is encoded as an empty one. -/
@[simp] theorem percentEncode_nil : percentEncode kept [] = [] := rfl

/-- Two texts are encoded one after the other. -/
@[simp] theorem percentEncode_append (left right : List Char) :
    percentEncode kept (left ++ right) = percentEncode kept left ++ percentEncode kept right :=
  List.flatMap_append

/-- A character that is kept stands for itself. -/
theorem percentEncode_kept {c : Char} (keeps : kept c = true) (rest : List Char) :
    percentEncode kept (c :: rest) = c :: percentEncode kept rest := by
  simp [percentEncode, keeps]

/-- Any other character is encoded byte by byte. -/
theorem percentEncode_other {c : Char} (other : kept c = false) (rest : List Char) :
    percentEncode kept (c :: rest) =
      (String.utf8EncodeChar c).flatMap percent ++ percentEncode kept rest := by
  simp [percentEncode, other]

/-- Escapes consist of percent signs and digits. -/
theorem mem_percentEncode {c : Char} {text : List Char} (member : c ∈ percentEncode kept text) :
    (c ∈ text ∧ kept c = true) ∨ c = '%' ∨ (hexValue c).isSome := by
  obtain ⟨d, inside, written⟩ := List.mem_flatMap.mp member
  split at written
  · rename_i keeps
    obtain rfl := List.mem_singleton.mp written
    exact Or.inl ⟨inside, keeps⟩
  · obtain ⟨byte, _, digit⟩ := List.mem_flatMap.mp written
    have small : byte.toNat < 256 := byte.toNat_lt
    have high := hexValue_hexDigit (byte.toNat / 16) (by omega)
    have low := hexValue_hexDigit (byte.toNat % 16) (by omega)
    simp only [percent, List.mem_cons, List.not_mem_nil, or_false] at digit
    rcases digit with rfl | rfl | rfl
    · exact Or.inr (Or.inl rfl)
    · exact Or.inr (Or.inr (by simp [high]))
    · exact Or.inr (Or.inr (by simp [low]))

/-- What is not kept is written from a percent sign on. -/
theorem percentEncode_sign {c : Char} (other : kept c = false) (rest : List Char) :
    ∃ tail, percentEncode kept (c :: rest) = '%' :: tail := by
  obtain ⟨byte, bytes, first⟩ := List.exists_cons_of_ne_nil (Utf8.encode_char_ne_nil c)
  rw [percentEncode_other other, first]
  exact ⟨_, rfl⟩

/-- Escaping leaves the escapes that are there. -/
theorem leading_percentEncode (digits : ∀ c, (hexValue c).isSome → kept c = true)
    (text : List Char) : leading (percentEncode kept text) = leading text := by
  cases text with
  | nil => rfl
  | cons c rest =>
    cases keeps : kept c with
    | true => rw [percentEncode_kept keeps]; rfl
    | false =>
      have nothing : hexValue c = none := by
        apply Option.not_isSome_iff_eq_none.mp
        intro digit
        exact absurd (digits c digit) (by simp [keeps])
      obtain ⟨tail, first⟩ := percentEncode_sign keeps rest
      rw [first]
      exact nothing.symm

/-- Where digits are kept, encoding does not change which escape begins a text. -/
theorem escaped_percentEncode (digits : ∀ c, (hexValue c).isSome → kept c = true)
    (text : List Char) : escaped (percentEncode kept text) = escaped text := by
  unfold escaped
  rw [leading_percentEncode digits]
  cases text with
  | nil => rfl
  | cons c rest =>
    cases value : hexValue c with
    | none =>
      have nothing : leading (c :: rest) = none := value
      rw [nothing]
      rfl
    | some high =>
      rw [percentEncode_kept (digits c (by simp [value])), List.tail_cons,
        leading_percentEncode digits, List.tail_cons]

/-- Escaping changes nothing in the bytes if it leaves what has a meaning. -/
theorem bytes_percentEncode (digits : ∀ c, (hexValue c).isSome → kept c = true)
    (sign : kept '%' = true) (plus : kept '+' = true) (text : List Char) :
    bytes (percentEncode kept text) = bytes text := by
  induction text using reading with
  | nil => rfl
  | escape high low rest byte read first second inductionHypothesis =>
    have same : escaped (percentEncode kept (high :: low :: rest)) = some byte := by
      rw [escaped_percentEncode digits, read]
    rw [percentEncode_kept sign, bytes_escape same, bytes_escape read,
      percentEncode_kept (digits high first), percentEncode_kept (digits low second)]
    simp only [List.drop_succ_cons, List.drop_zero, inductionHypothesis]
  | single c rest read inductionHypothesis =>
    have same : escapeAt c (percentEncode kept rest) = none := by
      unfold escapeAt at read
      unfold escapeAt
      rw [escaped_percentEncode digits, read]
    cases keeps : kept c with
    | true =>
      rw [percentEncode_kept keeps, bytes_single same, bytes_single read, inductionHypothesis]
    | false =>
      have other : c ≠ '+' := by
        rintro rfl
        exact absurd plus (by simp [keeps])
      rw [percentEncode_other keeps, bytes_percent, bytes_single read, inductionHypothesis, single,
        if_neg other]

end Writing

section Components

/-- No digit is ever escaped. -/
theorem digit_kept {c : Char} (digit : (hexValue c).isSome) :
    unreserved c = true ∧ printable c = true := by
  have ascii : ∀ n < 103, (hexValue (Char.ofNat n)).isSome →
      unreserved (Char.ofNat n) = true ∧ printable (Char.ofNat n) = true := by decide
  exact digit_cases (fun c => unreserved c = true ∧ printable c = true) ascii digit

/-- What a form writes for a text stands for the bytes of the text. -/
theorem bytes_encode (text : List Char) : bytes (encode text) = Utf8.encode text := by
  induction text with
  | nil => rfl
  | cons c rest inductionHypothesis =>
    have split : encode (c :: rest) =
        (if c = ' ' then ['+'] else percentEncode unreserved [c]) ++ encode rest := rfl
    rw [split, Utf8.encode_cons, ← inductionHypothesis]
    by_cases space : c = ' '
    · subst space
      exact bytes_single (escapeAt_other (by decide) _)
    · rw [if_neg space]
      cases free : unreserved c with
      | false => rw [percentEncode_other free, percentEncode_nil, List.append_nil, bytes_percent]
      | true =>
        have sign : c ≠ '%' := by
          rintro rfl
          exact absurd free (by decide)
        have plus : c ≠ '+' := by
          rintro rfl
          exact absurd free (by decide)
        rw [percentEncode_kept free, percentEncode_nil, List.cons_append, List.nil_append,
          bytes_single (escapeAt_other sign _), single, if_neg plus]

/-- What a form writes is read back. -/
@[simp] theorem decode_encode (text : List Char) : decode (encode text) = text := by
  rw [decode, bytes_encode, Utf8.lossy_encode]

/-- A form writes nothing but these characters. -/
theorem mem_encode {c : Char} {text : List Char} (member : c ∈ encode text) :
    unreserved c = true ∨ c = '+' ∨ c = '%' := by
  obtain ⟨d, _, written⟩ := List.mem_flatMap.mp member
  split at written
  · exact Or.inr (Or.inl (List.mem_singleton.mp written))
  · rcases mem_percentEncode written with ⟨_, free⟩ | sign | digit
    · exact Or.inl free
    · exact Or.inr (Or.inr sign)
    · exact Or.inl (digit_kept digit).1

/-- The query of a web address stands for the same bytes when a request carries it. -/
@[simp] theorem decode_encodeQuery (text : List Char) :
    decode (encodeQuery text) = decode text := by
  unfold decode encodeQuery
  rw [bytes_percentEncode (fun _ digit => (digit_kept digit).2) (by decide) (by decide)]

/-- A separator appears in a query only where it was. -/
theorem separator_encodeQuery {c : Char} {text : List Char} (sign : c ≠ '%')
    (digit : hexValue c = none) (absent : c ∉ text) : c ∉ encodeQuery text := by
  intro member
  rcases mem_percentEncode member with ⟨inside, _⟩ | same | value
  · exact absent inside
  · exact sign same
  · exact absurd value (by simp [digit])

end Components

section Pairs

variable {name value rest : List Char}

/-- A field is its name and its value, each decoded. -/
theorem pair_field (apart : '=' ∉ name) (value : List Char) :
    pair (name ++ '=' :: value) = (decode name, decode value) := by
  have keeps : ∀ c ∈ name, (c != '=') = true := by
    intro c inside
    exact bne_iff_ne.mpr fun same => apart (same ▸ inside)
  unfold pair
  rw [List.takeWhile_append_of_pos keeps, List.dropWhile_append_of_pos keeps]
  simp

/-- A single segment is a single field. -/
theorem parse_single {segment : List Char} (some : segment ≠ []) (alone : '&' ∉ segment) :
    parse segment = [pair segment] := by
  rw [parse, List.splitOn_eq_singleton alone]
  simp [some]

/-- Fields are read segment by segment. -/
theorem parse_cons {segment : List Char} (some : segment ≠ []) (alone : '&' ∉ segment)
    (rest : List Char) : parse (segment ++ '&' :: rest) = pair segment :: parse rest := by
  rw [parse, List.splitOn_append_cons_self_of_not_mem alone,
    List.filter_cons_of_pos (by simp [some])]
  rfl

/-- Encoding a query leaves the sign between name and value. -/
theorem encodeQuery_field (name value : List Char) :
    encodeQuery (name ++ '=' :: value) = encodeQuery name ++ '=' :: encodeQuery value := by
  unfold encodeQuery
  rw [percentEncode_append, percentEncode_kept (by decide)]

/-- Encoding a query leaves the sign between two segments. -/
theorem encodeQuery_segment (segment rest : List Char) :
    encodeQuery (segment ++ '&' :: rest) = encodeQuery segment ++ '&' :: encodeQuery rest := by
  unfold encodeQuery
  rw [percentEncode_append, percentEncode_kept (by decide)]

/-- The segment of a name and a value as a request carries it. -/
theorem segment_field (apart : '=' ∉ name) (first : '&' ∉ name) (second : '&' ∉ value) :
    encodeQuery (name ++ '=' :: value) ≠ [] ∧ '&' ∉ encodeQuery (name ++ '=' :: value) ∧
      pair (encodeQuery (name ++ '=' :: value)) = (decode name, decode value) := by
  refine ⟨?_, ?_, ?_⟩
  · rw [encodeQuery_field]
    simp
  · apply separator_encodeQuery (by decide) (by decide)
    simp [first, second]
  · rw [encodeQuery_field, pair_field, decode_encodeQuery, decode_encodeQuery]
    exact separator_encodeQuery (by decide) (by decide) apart

/-- The first pair of a request ends at the next separator. -/
theorem parse_first (apart : '=' ∉ name) (first : '&' ∉ name) (query : List Char) :
    ∃ pairs, parse (encodeQuery (name ++ '=' :: query)) =
      (decode name, decode (query.takeWhile (· != '&'))) :: pairs := by
  have alone : '&' ∉ query.takeWhile (· != '&') := fun inside => by
    simpa using List.mem_takeWhile_imp inside
  obtain ⟨some, segment, read⟩ := segment_field apart first alone
  have whole := List.takeWhile_append_dropWhile (p := (· != '&')) (l := query)
  cases behind : query.dropWhile (· != '&') with
  | nil =>
    rw [behind, List.append_nil] at whole
    rw [whole] at some segment read ⊢
    exact ⟨[], by rw [parse_single some segment, read]⟩
  | cons c rest =>
    have separator : c = '&' := by
      have stops := List.head?_dropWhile_not (· != '&') query
      simpa [behind] using stops
    subst separator
    rw [behind] at whole
    refine ⟨parse (encodeQuery rest), ?_⟩
    have split : name ++ '=' :: query =
        (name ++ '=' :: query.takeWhile (· != '&')) ++ '&' :: rest := by
      rw [List.append_assoc, List.cons_append, whole]
    rw [split, encodeQuery_segment, parse_cons some segment, read]

/-- A request that carries one name and value. -/
theorem parse_field (apart : '=' ∉ name) (first : '&' ∉ name) (second : '&' ∉ value) :
    parse (encodeQuery (name ++ '=' :: value)) = [(decode name, decode value)] := by
  obtain ⟨some, alone, read⟩ := segment_field apart first second
  rw [parse_single some alone, read]

/-- A request that carries a name and value in front of others. -/
theorem parse_fields (apart : '=' ∉ name) (first : '&' ∉ name) (second : '&' ∉ value)
    (rest : List Char) :
    parse (encodeQuery (name ++ '=' :: value ++ '&' :: rest)) =
      (decode name, decode value) :: parse (encodeQuery rest) := by
  obtain ⟨some, alone, read⟩ := segment_field apart first second
  rw [encodeQuery_segment, parse_cons some alone, read]

end Pairs

section Losses

/-! What is lost of a text that is read as a component without having been written as one. -/

/-- The number of ASCII characters. -/
def asciiCount (text : List Char) : Nat := text.countP fun c => c.toNat < 0x80

/-- How many of the bytes are ASCII. -/
def asciiBytes (data : List UInt8) : Nat := data.countP fun byte => byte.toNat < 0x80

/-- No percent sign stands in front of two digits. -/
def Unescaped (text : List Char) : Prop :=
  ∀ rest, '%' :: rest <:+ text → escaped rest = none

/-- Nothing in the text has a meaning in a component. -/
def Intact (text : List Char) : Prop := '+' ∉ text ∧ Unescaped text

/-- A text has no escape if it begins with none and has none behind. -/
theorem unescaped_cons {c : Char} {rest : List Char} :
    Unescaped (c :: rest) ↔ escapeAt c rest = none ∧ Unescaped rest := by
  constructor
  · intro unescaped
    constructor
    · unfold escapeAt
      split
      · rename_i sign
        exact unescaped rest (sign ▸ List.suffix_rfl)
      · rfl
    · exact fun tail suffix => unescaped tail (List.suffix_cons_iff.mpr (Or.inr suffix))
  · rintro ⟨first, others⟩ tail suffix
    rcases List.suffix_cons_iff.mp suffix with same | later
    · obtain ⟨rfl, rfl⟩ := List.cons.inj same
      exact first
    · exact others tail later

/-- The ASCII characters of a text, with its first one. -/
theorem asciiCount_cons (c : Char) (rest : List Char) :
    asciiCount (c :: rest) = asciiCount rest + if c.toNat < 0x80 then 1 else 0 := by
  simp [asciiCount, List.countP_cons]

/-- The ASCII bytes of some data, with the first one. -/
theorem asciiBytes_cons (byte : UInt8) (rest : List UInt8) :
    asciiBytes (byte :: rest) = asciiBytes rest + if byte.toNat < 0x80 then 1 else 0 := by
  simp [asciiBytes, List.countP_cons]

/-- Decoding keeps every ASCII byte and makes no others. -/
theorem asciiCount_blurred {data : List UInt8} {text : List Char}
    (blurred : Utf8.Blurred data text) :
    asciiCount text = asciiBytes data := by
  induction blurred with
  | nil => rfl
  | @ascii byte _ _ low _ inductionHypothesis =>
    have own := Utf8.toNat_char byte.toNat (Or.inl (by omega))
    rw [asciiCount_cons, asciiBytes_cons, own, inductionHypothesis]
  | @high run data c text _ each other _ _ inductionHypothesis =>
    have none : asciiBytes run = 0 := by
      apply List.countP_eq_zero.mpr
      intro byte inside
      have high : ¬ byte.toNat < 0x80 := Nat.not_lt.mpr (each byte inside)
      simpa using high
    have sum : asciiBytes (run ++ data) = asciiBytes run + asciiBytes data := List.countP_append
    rw [asciiCount_cons, sum, none, inductionHypothesis, if_neg (Nat.not_lt.mpr other)]
    omega

/-- The bytes of a character are ASCII if it is. -/
theorem asciiBytes_single (c : Char) :
    asciiBytes (single c) = if c.toNat < 0x80 then 1 else 0 := by
  unfold single
  split
  · rename_i plus
    subst plus
    rfl
  · have own := asciiCount_blurred (Utf8.blurred_encode [c])
    rw [Utf8.encode_cons, Utf8.encode_nil, List.append_nil, asciiCount_cons] at own
    rw [← own]
    exact Nat.zero_add _

/-- Every escape takes more ASCII characters than it gives. -/
theorem asciiBytes_bytes (text : List Char) :
    asciiBytes (bytes text) ≤ asciiCount text ∧
      (asciiBytes (bytes text) = asciiCount text → Unescaped text) := by
  induction text using reading with
  | nil =>
    refine ⟨Nat.le_refl _, fun _ rest suffix => ?_⟩
    exact absurd (List.suffix_nil.mp suffix) (by simp)
  | escape high low rest byte read first second inductionHypothesis =>
    have firstRange := hexValue_range first
    have secondRange := hexValue_range second
    have sign : '%'.toNat < 0x80 := by decide
    have at_most : (if byte.toNat < 0x80 then 1 else 0) ≤ 1 := by split <;> omega
    obtain ⟨least, _⟩ := inductionHypothesis
    rw [bytes_escape read, asciiBytes_cons, asciiCount_cons, asciiCount_cons, asciiCount_cons,
      if_pos sign, if_pos (by omega : high.toNat < 0x80), if_pos (by omega : low.toNat < 0x80),
      List.drop_succ_cons, List.drop_succ_cons, List.drop_zero]
    constructor
    · omega
    · intro same
      omega
  | single c rest read inductionHypothesis =>
    obtain ⟨least, exactly⟩ := inductionHypothesis
    have sum : asciiBytes (single c ++ bytes rest) =
        asciiBytes (single c) + asciiBytes (bytes rest) := List.countP_append
    rw [bytes_single read, sum, asciiBytes_single, asciiCount_cons]
    constructor
    · omega
    · intro same
      exact unescaped_cons.mpr ⟨read, exactly (by omega)⟩

/-- Decoding keeps ASCII bytes and blurs the rest. -/
theorem blurred_component (text : List Char) : Utf8.Blurred (bytes text) (decode text) :=
  Utf8.blurred_lossy (bytes text)

/-- Decoding brings no more ASCII characters than there were. -/
theorem asciiCount_decode (text : List Char) : asciiCount (decode text) ≤ asciiCount text := by
  rw [asciiCount_blurred (blurred_component text)]
  exact (asciiBytes_bytes text).1

/-- A text that keeps its ASCII characters contains no escape. -/
theorem unescaped_of_asciiCount {text : List Char}
    (same : asciiCount (decode text) = asciiCount text) :
    Unescaped text := by
  rw [asciiCount_blurred (blurred_component text)] at same
  exact (asciiBytes_bytes text).2 same

/-- Without escapes only the meaning of a plus remains. -/
theorem decode_unescaped {text : List Char} (unescaped : Unescaped text) :
    decode text = text.map fun c => if c = '+' then ' ' else c := by
  have written : bytes text = Utf8.encode (text.map fun c => if c = '+' then ' ' else c) := by
    induction text with
    | nil => rfl
    | cons c rest inductionHypothesis =>
      obtain ⟨first, others⟩ := unescaped_cons.mp unescaped
      rw [bytes_single first, inductionHypothesis others, List.map_cons, Utf8.encode_cons]
      congr 1
      unfold single
      split
      · rfl
      · rfl
  rw [decode, written, Utf8.lossy_encode]

/-- A text is read as itself exactly if nothing in it has a meaning. -/
theorem decode_eq_iff (text : List Char) : decode text = text ↔ Intact text := by
  constructor
  · intro same
    have unescaped := unescaped_of_asciiCount (congrArg asciiCount same)
    rw [decode_unescaped unescaped] at same
    have each := List.map_inj_left.mp (same.trans (List.map_id text).symm)
    refine ⟨fun plus => ?_, unescaped⟩
    exact absurd (each '+' plus) (by decide)
  · rintro ⟨plain, unescaped⟩
    rw [decode_unescaped unescaped]
    apply Eq.trans _ (List.map_id text)
    apply List.map_congr_left
    intro c inside
    apply if_neg
    rintro rfl
    exact plain inside

end Losses

end Foundation.Query
