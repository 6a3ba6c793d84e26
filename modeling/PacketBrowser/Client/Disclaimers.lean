import PacketBrowser.Client.Reception
import PacketBrowser.Foundation.Lossy
import PacketBrowser.Server.Connection

/-!
# The disclaimer depends on its delivery

The handshake waits for two texts, the prompt for the callsign and the disclaimer. Each of
two loops collects events until it finds the word it waits for. What the event holds behind
the word belongs to that text, and what comes in later events to the next one. `Clean` says
for which texts every delivery gives the same disclaimer: the word has to end each of them,
and the disclaimer has to be ASCII.
-/

namespace PacketBrowser.Client

open Protocol Foundation Program

/-- What the prompt for the callsign is recognised by. -/
def asksCallsign (received : Text) : Bool :=
  containsText "callsign" received || containsText "AGREE" received

/-- What the end of the disclaimer is recognised by. -/
def asksAgreement (received : Text) : Bool := containsText "AGREE" (received.map Char.toUpper)

/-- The handshake from the prompt to the disclaimer. -/
def receiveTexts (manager : ManagerId) (localCallsign : Text) : Attempt Text := do
  bpqAwaitCallsignPromptAndSendCallsign manager localCallsign
  bpqAwaitDisclaimer manager

/-- The disclaimer comes to be known from these events, which end behind it or later. -/
def Discloses (manager : ManagerId) (localCallsign : Text) (chunks : List Bytes) (disclaimer : Text) :
    Prop :=
  ∃ later, Returns delivery (receiveTexts manager localCallsign).run chunks (.ok disclaimer) later

/-- The ways of cutting what the server sends into events. It sends the disclaimer in reply to
the callsign, so the two come in events of their own unless a node gives the callsign. -/
def Cutting (together : Bool) (prompt disclaimer : Text) (chunks : List Bytes) : Prop :=
  if together then chunks.flatten = Utf8.encode (prompt ++ disclaimer)
  else ∃ first second, chunks = first ++ second ∧ first.flatten = Utf8.encode prompt ∧
    second.flatten = Utf8.encode disclaimer

/-- Both deliveries disclose the same text, so consent to the one is consent to the other. -/
def SameDisclaimer (manager : ManagerId) (localCallsign : Text) (left right : List Bytes) : Prop :=
  ∃ stored text, Discloses manager localCallsign left stored ∧
    Discloses manager localCallsign right text ∧ text = stored ∧
    matchesStoredDisclaimer text (some stored) = true

/-- The text is recognised once it is complete, and no earlier. -/
def Completes (found : Text → Bool) (text : Text) : Prop :=
  found text = true ∧ found text.dropLast = false

/-- Texts whose delivery does not matter. -/
structure Clean (prompt disclaimer : Text) : Prop where
  prompted : Completes asksCallsign prompt
  agreed : Completes asksAgreement disclaimer
  ascii : ∀ c ∈ disclaimer, c.toNat < 0x80
  promptFits : Utf8.inflated (Utf8.encode prompt) ≤ maxHandshakeText
  disclaimerFits : disclaimer.length ≤ maxHandshakeText

section Words

/-- The words that the prompt is recognised by. -/
def callsignWord (word : Text) : Prop := word = "callsign".toList ∨ word = "AGREE".toList

/-- The word at the end of the disclaimer, in any case. -/
def agreementWord (word : Text) : Prop := word.map Char.toUpper = "AGREE".toList

/-- A word whose characters are tested one by one. -/
theorem ascii_word {word : Text} (all : word.all (fun c => decide (c.toNat < 0x80)) = true) :
    ∀ c ∈ word, c.toNat < 0x80 := fun c member =>
  of_decide_eq_true (List.all_eq_true.mp all c member)

/-- Whether the callsign is asked for is whether the word occurs, in any case of letters. -/
theorem asksCallsign_seeks : Utf8.Seeks asksCallsign callsignWord where
  finds text := by
    simp only [asksCallsign, containsText, Bool.or_eq_true, Search.occurs_iff, callsignWord]
    constructor
    · rintro (inside | inside)
      · exact ⟨_, Or.inl rfl, inside⟩
      · exact ⟨_, Or.inr rfl, inside⟩
    · rintro ⟨word, rfl | rfl, inside⟩
      · exact Or.inl inside
      · exact Or.inr inside
  some := by
    rintro word (rfl | rfl) <;> decide
  ascii := by
    rintro word (rfl | rfl)
    · exact ascii_word (by decide)
    · exact ascii_word (by decide)

/-- A character whose upper case is ASCII is ASCII. -/
theorem low_of_toUpper {c : Char} (upper : c.toUpper.toNat < 0x80) : c.toNat < 0x80 := by
  by_cases lower : 'a'.val ≤ c.val ∧ c.val ≤ 'z'.val
  · exact Nat.lt_of_le_of_lt (UInt32.le_iff_toNat_le.mp lower.2) (by decide)
  · have same : c.toUpper = c := dif_neg lower
    rwa [same] at upper

/-- Whether consent is asked for is whether the word occurs. -/
theorem asksAgreement_seeks : Utf8.Seeks asksAgreement agreementWord where
  finds text := by
    simp only [asksAgreement, containsText, Search.occurs_iff, agreementWord]
    constructor
    · rintro ⟨before, after, split⟩
      obtain ⟨front, back, rfl, first, _⟩ := List.map_eq_append_iff.mp split.symm
      obtain ⟨start, word, rfl, _, same⟩ := List.map_eq_append_iff.mp first
      exact ⟨word, same, start, back, rfl⟩
    · rintro ⟨word, same, inside⟩
      rw [← same]
      exact inside.map _
  some := by
    rintro word same rfl
    exact absurd (show ([] : Text) = "AGREE".toList from same) (by decide)
  ascii := by
    intro word same c member
    apply low_of_toUpper
    have upper : c.toUpper ∈ "AGREE".toList := by
      rw [← same]
      exact List.mem_map_of_mem member
    exact ascii_word (by decide) _ upper

end Words

section Gathering

/-! What one of the loops makes of the events that are delivered to it. -/

variable (found : Text → Bool)

/-- The text gathered from the events and the events left over; none while the text is not
found. -/
def gather (received : Text) : List Bytes → Option (Except AgwpeError Text × List Bytes)
  | [] => none
  | chunk :: later =>
    match collectText found received (.data chunk) with
    | .inl longer => gather longer later
    | .inr result => some (result, later)

variable {found} {received text : Text} {chunk : Bytes} {chunks later : List Bytes}

/-- A chunk that makes the text too long ends the handshake. -/
theorem collectText_full
    (full : maxHandshakeText < Utf8.byteLength (received ++ Utf8.lossy chunk)) :
    ∃ err, collectText found received (.data chunk) = .inr (.error err) := by
  rw [Utf8.byteLength_append] at full
  exact ⟨_, if_pos full⟩

/-- A chunk that completes the text ends the wait for it. -/
theorem collectText_found (fits : Utf8.byteLength (received ++ Utf8.lossy chunk) ≤ maxHandshakeText)
    (complete : found (received ++ Utf8.lossy chunk) = true) :
    collectText found received (.data chunk) = .inr (.ok (received ++ Utf8.lossy chunk)) := by
  rw [Utf8.byteLength_append] at fits
  exact (if_neg (Nat.not_lt.mpr fits)).trans (if_pos complete)

/-- Any other chunk is kept, and the wait goes on. -/
theorem collectText_waits (fits : Utf8.byteLength (received ++ Utf8.lossy chunk) ≤ maxHandshakeText)
    (incomplete : found (received ++ Utf8.lossy chunk) = false) :
    collectText found received (.data chunk) = .inl (received ++ Utf8.lossy chunk) := by
  rw [Utf8.byteLength_append] at fits
  exact (if_neg (Nat.not_lt.mpr fits)).trans (if_neg (by simp [incomplete]))

/-- A text that is gathered is found, not too long, and the text of the events used up. -/
theorem gather_ok (gathered : gather found received chunks = some (.ok text, later)) :
    ∃ front, chunks = front ++ later ∧ text = received ++ Utf8.lossyPieces front ∧
      found text = true ∧ Utf8.byteLength text ≤ maxHandshakeText := by
  induction chunks generalizing received with
  | nil => exact absurd gathered (by simp [gather])
  | cons chunk chunks inductionHypothesis =>
    unfold gather at gathered
    by_cases fits : Utf8.byteLength (received ++ Utf8.lossy chunk) ≤ maxHandshakeText
    · cases complete : found (received ++ Utf8.lossy chunk) with
      | true =>
        rw [collectText_found fits complete] at gathered
        obtain ⟨same, rfl⟩ := Prod.mk.inj (Option.some.inj gathered)
        obtain rfl := Except.ok.inj same
        exact ⟨[chunk], rfl, by simp [Utf8.lossyPieces], complete, fits⟩
      | false =>
        rw [collectText_waits fits complete] at gathered
        obtain ⟨front, rfl, rfl, holds⟩ := inductionHypothesis gathered
        refine ⟨chunk :: front, rfl, ?_, holds⟩
        simp [Utf8.lossyPieces]
    · obtain ⟨err, full⟩ : ∃ err, collectText found received (.data chunk) = .inr (.error err) :=
        collectText_full (Nat.lt_of_not_le fits)
      rw [full] at gathered
      exact absurd gathered (by simp)

/-- Events in front of the complete text are gathered. -/
theorem gather_waits {front : List Bytes}
    (fits : Utf8.byteLength (received ++ Utf8.lossyPieces front) ≤ maxHandshakeText)
    (incomplete : ∀ read, read <+: front → found (received ++ Utf8.lossyPieces read) = false) :
    gather found received (front ++ later) =
      gather found (received ++ Utf8.lossyPieces front) later := by
  induction front generalizing received with
  | nil => simp [Utf8.lossyPieces]
  | cons chunk front inductionHypothesis =>
    have shape : ∀ more : List Bytes, received ++ Utf8.lossyPieces (chunk :: more) =
        received ++ Utf8.lossy chunk ++ Utf8.lossyPieces more := fun more => by
      simp [Utf8.lossyPieces]
    have first : Utf8.byteLength (received ++ Utf8.lossy chunk) ≤ maxHandshakeText := by
      rw [shape, Utf8.byteLength_append] at fits
      omega
    have quiet := incomplete [chunk] ⟨front, rfl⟩
    rw [shape] at fits quiet ⊢
    rw [List.cons_append, gather, collectText_waits first (by simpa [Utf8.lossyPieces] using quiet)]
    apply inductionHypothesis fits
    intro read inside
    have longer := incomplete (chunk :: read) (List.cons_prefix_cons.mpr ⟨rfl, inside⟩)
    rwa [shape] at longer

/-- Behind the last event that is not empty come only empty ones. -/
theorem last_some (pieces : List Bytes) (some : pieces.flatten ≠ []) :
    ∃ front last rest, pieces = front ++ last :: rest ∧ last ≠ [] ∧ rest.flatten = [] := by
  induction pieces with
  | nil => exact absurd rfl some
  | cons piece pieces inductionHypothesis =>
    by_cases nothing : pieces.flatten = []
    · refine ⟨[], piece, pieces, rfl, ?_, nothing⟩
      rintro rfl
      exact some (by simpa using nothing)
    · obtain ⟨front, last, rest, rfl, holds⟩ := inductionHypothesis nothing
      exact ⟨piece :: front, last, rest, rfl, holds⟩

/-- A text that is complete only at its end is gathered whole, however it is cut. -/
theorem gather_completes {word : Text → Prop} (seeks : Utf8.Seeks found word)
    (completes : Completes found text)
    (fits : Utf8.inflated (Utf8.encode text) ≤ maxHandshakeText)
    (cut : chunks.flatten = Utf8.encode text) (later : List Bytes) :
    ∃ rest, rest.flatten = [] ∧
      gather found [] (chunks ++ later) = some (.ok (Utf8.lossyPieces chunks), rest ++ later) := by
  have whole : found (Utf8.lossyPieces chunks) = true := by
    have blurred := Utf8.blurred_pieces chunks
    rw [cut] at blurred
    rw [seeks.same blurred (Utf8.blurred_encode text)]
    exact completes.1
  have some : chunks.flatten ≠ [] := by
    intro nothing
    have empty := (Utf8.blurred_pieces chunks).nil_iff.mpr nothing
    obtain ⟨w, is, inside⟩ := (seeks.finds _).mp whole
    rw [empty] at inside
    exact seeks.some w is (List.eq_nil_of_infix_nil inside)
  obtain ⟨front, last, rest, rfl, more, nothing⟩ := last_some chunks some
  have shape : Utf8.lossyPieces (front ++ last :: rest) =
      Utf8.lossyPieces front ++ Utf8.lossy last := by
    have none : Utf8.lossyPieces rest = [] := (Utf8.blurred_pieces rest).nil_iff.mpr nothing
    have split : front ++ last :: rest = front ++ ([last] ++ rest) := rfl
    rw [split, Utf8.lossyPieces_append, Utf8.lossyPieces_append, none]
    simp [Utf8.lossyPieces]
  have sized : Utf8.byteLength (Utf8.lossyPieces (front ++ last :: rest)) ≤ maxHandshakeText := by
    have blurred := Utf8.blurred_pieces (front ++ last :: rest)
    rw [cut] at blurred
    exact blurred.byteLength_le.trans fits
  refine ⟨rest, nothing, ?_⟩
  rw [shape] at whole sized ⊢
  rw [List.append_assoc, gather_waits]
  · rw [List.nil_append, List.cons_append, gather, collectText_found sized whole]
  · rw [Utf8.byteLength_append] at sized
    rw [List.nil_append]
    omega
  · intro read inside
    obtain ⟨unread, rfl⟩ := inside
    by_contra early
    have bytes : read.flatten ++ (unread.flatten ++ last ++ rest.flatten) = Utf8.encode text := by
      rw [← cut]
      simp
    have blurred := Utf8.blurred_encode text
    rw [← bytes] at blurred
    have sooner := seeks.early blurred (by simp [more]) (Utf8.blurred_pieces read)
      (by simpa using early)
    rw [completes.2] at sooner
    exact absurd sooner (by decide)

/-- Conversely, if it is cut into bytes, nothing is found before its end. -/
theorem gather_single {word : Text → Prop} (seeks : Utf8.Seeks found word)
    (completes : Completes found text)
    (gathered : gather found [] (Utf8.single (Utf8.encode text) ++ chunks) = some (.ok received, later)) :
    ∃ front, received = Utf8.lossyPieces (Utf8.single (Utf8.encode text) ++ front) ∧
      chunks = front ++ later ∧ Utf8.byteLength received ≤ maxHandshakeText := by
  obtain ⟨read, split, rfl, complete, fits⟩ := gather_ok gathered
  rcases List.append_eq_append_iff.mp split with ⟨front, rfl, rest⟩ | ⟨unread, cut, rfl⟩
  · exact ⟨front, rfl, rest, fits⟩
  · obtain ⟨bytes, more, same, rfl, rfl⟩ := List.map_eq_append_iff.mp cut
    have none : more = [] := by
      by_contra some
      have blurred := Utf8.blurred_encode text
      rw [same] at blurred
      have first := Utf8.blurred_pieces (Utf8.single bytes)
      rw [Utf8.flatten_single] at first
      have sooner := seeks.early blurred some first complete
      rw [completes.2] at sooner
      exact absurd sooner (by decide)
    subst none
    rw [List.append_nil] at same
    exact ⟨[], by rw [same, List.append_nil]; rfl, rfl, fits⟩

end Gathering

section Runs

variable {manager : ManagerId} {localCallsign : Text} {found : Text → Bool}
variable {received text : Text} {chunks later : List Bytes}

/-- One round of a loop. -/
def awaitRound (manager : ManagerId) (found : Text → Bool) (received : Text) :
    Routine (Text ⊕ Except AgwpeError Text) := do
  let answer ← ask (.recv manager 30)
  return awaitStep found received answer

/-- It takes one event. -/
theorem awaitRound_returns (result : Text ⊕ Except AgwpeError Text) :
    Returns delivery (awaitRound manager found received) chunks result later ↔
      ∃ chunk, chunks = chunk :: later ∧ collectText found received (.data chunk) = result := by
  show Returns delivery ((ask (.recv manager 30)).bind _) chunks result later ↔ _
  rw [returns_bind]
  simp only [returns_ask]
  constructor
  · rintro ⟨answer, middle, executed, returned⟩
    cases chunks with
    | nil => exact absurd executed (by simp [delivery])
    | cons chunk remaining =>
      by_cases same : answer = .ok (.data chunk)
      · subst same
        obtain rfl : remaining = middle := by simpa [delivery] using executed
        obtain ⟨rfl, rfl⟩ := returns_done.mp returned
        exact ⟨chunk, rfl, rfl⟩
      · exact absurd executed (by simp [delivery, same])
  · rintro ⟨chunk, rfl, rfl⟩
    exact ⟨.ok (.data chunk), later, by simp [delivery], .done _ _⟩

/-- A loop returns what is gathered. -/
theorem awaitText_returns (result : Except AgwpeError Text) :
    Returns delivery (awaitText manager found).run chunks result later ↔
      gather found [] chunks = some (result, later) := by
  have rounds : (awaitText manager found).run = Program.loop (awaitRound manager found) [] :=
    awaitText_run manager found
  rw [rounds]
  generalize ([] : Text) = received
  induction chunks generalizing received with
  | nil =>
    unfold Program.loop
    rw [returns_iterate]
    simp [awaitRound_returns, gather]
  | cons chunk remaining inductionHypothesis =>
    unfold Program.loop at inductionHypothesis ⊢
    rw [returns_iterate]
    simp only [awaitRound_returns, List.cons.injEq, returns_done, gather]
    constructor
    · rintro (⟨next, middle, ⟨_, ⟨rfl, rfl⟩, stepped⟩, rest⟩ |
        ⟨ended, middle, ⟨_, ⟨rfl, rfl⟩, stepped⟩, rfl, rfl⟩)
      · rw [stepped]
        exact (inductionHypothesis next).mp rest
      · rw [stepped]
    · intro gathered
      cases stepped : collectText found received (.data chunk) with
      | inl next =>
        rw [stepped] at gathered
        exact Or.inl ⟨next, remaining, ⟨chunk, ⟨rfl, rfl⟩, stepped⟩,
          (inductionHypothesis next).mpr gathered⟩
      | inr ended =>
        rw [stepped] at gathered
        obtain ⟨rfl, rfl⟩ := Prod.mk.inj (Option.some.inj gathered)
        exact Or.inr ⟨ended, remaining, ⟨chunk, ⟨rfl, rfl⟩, stepped⟩, rfl, rfl⟩

/-- Every write succeeds. -/
theorem sendBytes_returns (purpose : Purpose) (data : Bytes) (result : Except AgwpeError Unit) :
    Returns delivery (sendBytes manager purpose data).run chunks result later ↔
      result = .ok () ∧ later = chunks := by
  show Returns delivery ((ask (.send manager purpose data)).bind _) chunks result later ↔ _
  rw [returns_bind]
  simp only [returns_ask]
  constructor
  · rintro ⟨answer, middle, executed, returned⟩
    by_cases fine : answer = .ok ()
    · subst fine
      obtain rfl : chunks = middle := by simpa [delivery] using executed
      exact returns_done.mp returned
    · exact absurd executed (by simp [delivery, fine])
  · rintro ⟨rfl, rfl⟩
    exact ⟨.ok (), later, by simp [delivery], .done _ _⟩

/-- The disclaimer is what the second loop gathers from the events that the first one leaves
over. -/
theorem discloses_iff : Discloses manager localCallsign chunks text ↔
    ∃ prompt middle later, gather asksCallsign [] chunks = some (.ok prompt, middle) ∧
      gather asksAgreement [] middle = some (.ok text, later) := by
  constructor
  · rintro ⟨later, returned⟩
    obtain ⟨sent, middle, prompted, rest⟩ := returns_attempt.mp returned
    obtain ⟨prompt, middle', waited, sending⟩ := returns_attempt.mp prompted
    cases prompt with
    | error err =>
      obtain ⟨rfl, rfl⟩ := sending
      exact absurd rest.1 (by simp)
    | ok prompt =>
      obtain ⟨rfl, rfl⟩ := (sendBytes_returns _ _ _).mp sending
      exact ⟨prompt, _, later, (awaitText_returns _).mp waited, (awaitText_returns _).mp rest⟩
  · rintro ⟨prompt, middle, later, waited, gathered⟩
    refine ⟨later, returns_attempt.mpr ⟨.ok (), middle, ?_, (awaitText_returns _).mpr gathered⟩⟩
    exact returns_attempt.mpr ⟨.ok prompt, middle, (awaitText_returns _).mpr waited,
      (sendBytes_returns _ _ _).mpr ⟨rfl, rfl⟩⟩

end Runs

section Deliveries

variable {manager : ManagerId} {localCallsign prompt disclaimer : Text} {chunks : List Bytes}

/-- Each of the texts in one event. -/
theorem cutting_whole : Cutting false prompt disclaimer [Utf8.encode prompt, Utf8.encode disclaimer] :=
  ⟨[_], [_], rfl, List.flatten_singleton, List.flatten_singleton⟩

/-- Clean texts are disclosed however they are cut. -/
theorem clean_discloses (clean : Clean prompt disclaimer) (cut : Cutting false prompt disclaimer chunks) :
    Discloses manager localCallsign chunks disclaimer := by
  obtain ⟨first, second, rfl, prompted, agreed⟩ := cut
  obtain ⟨rest, nothing, waited⟩ :=
    gather_completes asksCallsign_seeks clean.prompted clean.promptFits prompted second
  have cut : (rest ++ second).flatten = Utf8.encode disclaimer := by
    rw [List.flatten_append, nothing, agreed]
    rfl
  have fits : Utf8.inflated (Utf8.encode disclaimer) ≤ maxHandshakeText := by
    rw [Utf8.inflated_ascii disclaimer clean.ascii]
    exact clean.disclaimerFits
  obtain ⟨rest', _, gathered⟩ :=
    gather_completes asksAgreement_seeks clean.agreed fits cut []
  have same : Utf8.lossyPieces (rest ++ second) = disclaimer := by
    have blurred := Utf8.blurred_pieces (rest ++ second)
    rw [cut, ← List.append_nil (Utf8.encode disclaimer)] at blurred
    obtain ⟨after, whole, none⟩ := blurred.front_word clean.ascii
    rw [whole, none.nil_iff.mpr rfl, List.append_nil]
  rw [List.append_nil, same] at gathered
  exact discloses_iff.mpr ⟨_, _, _, waited, gathered⟩

/-- A text that one event completes is gathered from it. -/
theorem gather_first {found : Text → Bool} {text : Text} (complete : found text = true)
    (fits : Utf8.byteLength text ≤ maxHandshakeText) (later : List Bytes) :
    gather found [] (Utf8.encode text :: later) = some (.ok text, later) := by
  have whole : ([] : Text) ++ Utf8.lossy (Utf8.encode text) = text := Utf8.lossy_encode text
  rw [gather, collectText_found]
  · rw [whole]
  · rw [whole]
    exact fits
  · rw [whole]
    exact complete

/-- The word is longer than one character. -/
theorem agreement_long (c : Char) : asksAgreement [c] = false := by
  by_contra found
  rw [Bool.not_eq_false, asksAgreement_seeks.finds] at found
  obtain ⟨word, same, inside⟩ := found
  have five : word.length = 5 := by
    have lengths := congrArg List.length (show word.map Char.toUpper = "AGREE".toList from same)
    rwa [List.length_map] at lengths
  have short := inside.length_le
  rw [five] at short
  exact absurd short (by simp)

/-- Nothing is recognised in nothing. -/
theorem seeks_some {found : Text → Bool} {word : Text → Prop} (seeks : Utf8.Seeks found word)
    (complete : found [] = true) : False := by
  obtain ⟨w, is, inside⟩ := (seeks.finds _).mp complete
  exact seeks.some w is (List.eq_nil_of_infix_nil inside)

/-- The texts in one event each: the disclaimer is the second one. -/
theorem whole_discloses {text : Text}
    (discloses : Discloses manager localCallsign [Utf8.encode prompt, Utf8.encode disclaimer] text) :
    text = disclaimer ∧ asksCallsign prompt = true ∧ asksAgreement disclaimer = true ∧
      Utf8.byteLength prompt ≤ maxHandshakeText ∧ Utf8.byteLength disclaimer ≤ maxHandshakeText := by
  obtain ⟨first, middle, later, waited, gathered⟩ := discloses_iff.mp discloses
  obtain ⟨front, split, rfl, asked, fits⟩ := gather_ok waited
  obtain ⟨second, rfl, rfl, agreed, fits'⟩ := gather_ok gathered
  cases front with
  | nil => exact (seeks_some asksCallsign_seeks asked).elim
  | cons chunk front =>
    cases second with
    | nil => exact (seeks_some asksAgreement_seeks agreed).elim
    | cons chunk' second =>
      simp only [List.cons_append, List.cons.injEq] at split
      obtain ⟨rfl, split⟩ := split
      cases front with
      | cons other front => exact absurd (congrArg List.length split) (by simp)
      | nil =>
        obtain ⟨rfl, rest⟩ := List.cons.inj split
        obtain ⟨rfl, rfl⟩ := List.append_eq_nil_iff.mp rest.symm
        have one : ∀ text, ([] : Text) ++ Utf8.lossyPieces [Utf8.encode text] = text := fun text => by
          simp [Utf8.lossyPieces, Utf8.lossy_encode]
        rw [one] at asked fits agreed fits' ⊢
        exact ⟨rfl, asked, agreed, fits, fits'⟩

/-- If every delivery discloses the disclaimer, the prompt is recognised only at its end. -/
theorem prompted_of_disclosed
    (every : ∀ chunks, Cutting false prompt disclaimer chunks →
      Discloses manager localCallsign chunks disclaimer) : asksCallsign prompt.dropLast = false := by
  obtain ⟨_, asked, _, fits, _⟩ := whole_discloses (every _ cutting_whole)
  by_contra early
  rw [Bool.not_eq_false] at early
  rcases List.eq_nil_or_concat' prompt with rfl | ⟨front, c, rfl⟩
  · exact seeks_some asksCallsign_seeks asked
  rw [List.dropLast_concat] at early
  rw [Utf8.byteLength_append] at fits
  have split : Cutting false (front ++ [c]) disclaimer
      [Utf8.encode front, Utf8.encode [c], Utf8.encode disclaimer] :=
    ⟨[_, _], [_], rfl, by simp, by simp⟩
  obtain ⟨first, middle, later, waited, gathered⟩ := discloses_iff.mp (every _ split)
  rw [gather_first early (by omega)] at waited
  obtain ⟨_, rfl⟩ := Prod.mk.inj (Option.some.inj waited)
  -- the last character of the prompt is taken for the first of the disclaimer
  obtain ⟨read, whole, same, agreed, _⟩ := gather_ok gathered
  have own : Utf8.lossy (Utf8.encode [c]) = [c] := Utf8.lossy_encode [c]
  have inside : read <+: [Utf8.encode [c], Utf8.encode disclaimer] := ⟨later, whole.symm⟩
  rcases List.prefix_cons_iff.mp inside with rfl | ⟨more, rfl, deeper⟩
  · rw [same] at agreed
    exact seeks_some asksAgreement_seeks agreed
  rcases List.prefix_cons_iff.mp deeper with rfl | ⟨none, rfl, last⟩
  · have single : Utf8.lossyPieces [Utf8.encode [c]] = [c] := by
      rw [Utf8.lossyPieces, List.flatMap_singleton, own]
    rw [same, List.nil_append, single, agreement_long] at agreed
    exact absurd agreed (by decide)
  · obtain rfl := List.prefix_nil.mp last
    have lengths := congrArg List.length same
    simp only [Utf8.lossyPieces, List.flatMap_cons, Utf8.lossy_encode disclaimer, own,
      List.length_append, List.length_cons, List.length_nil] at lengths
    omega

/-- And so is the disclaimer. -/
theorem agreed_of_disclosed
    (every : ∀ chunks, Cutting false prompt disclaimer chunks →
      Discloses manager localCallsign chunks disclaimer) :
    asksAgreement disclaimer.dropLast = false := by
  obtain ⟨_, asked, agreed, fits, fits'⟩ := whole_discloses (every _ cutting_whole)
  by_contra early
  rw [Bool.not_eq_false] at early
  rcases List.eq_nil_or_concat' disclaimer with rfl | ⟨front, c, rfl⟩
  · exact seeks_some asksAgreement_seeks agreed
  rw [List.dropLast_concat] at early
  rw [Utf8.byteLength_append] at fits'
  have split : Cutting false prompt (front ++ [c])
      [Utf8.encode prompt, Utf8.encode front, Utf8.encode [c]] :=
    ⟨[_], [_, _], rfl, by simp, by simp⟩
  obtain ⟨first, middle, later, waited, gathered⟩ := discloses_iff.mp (every _ split)
  rw [gather_first asked fits] at waited
  obtain ⟨_, rfl⟩ := Prod.mk.inj (Option.some.inj waited)
  rw [gather_first early (by omega)] at gathered
  obtain ⟨same, _⟩ := Prod.mk.inj (Option.some.inj gathered)
  have lengths := congrArg List.length (Except.ok.inj same)
  simp at lengths

/-- Texts of which every delivery discloses the disclaimer are clean. -/
theorem clean_of_disclosed
    (every : ∀ chunks, Cutting false prompt disclaimer chunks →
      Discloses manager localCallsign chunks disclaimer) : Clean prompt disclaimer := by
  obtain ⟨_, asked, agreed, fits, fits'⟩ := whole_discloses (every _ cutting_whole)
  have prompted : Completes asksCallsign prompt := ⟨asked, prompted_of_disclosed every⟩
  have complete : Completes asksAgreement disclaimer := ⟨agreed, agreed_of_disclosed every⟩
  have promptFits : Utf8.inflated (Utf8.encode prompt) ≤ maxHandshakeText := by
    have split : Cutting false prompt disclaimer
        (Utf8.single (Utf8.encode prompt) ++ [Utf8.encode disclaimer]) :=
      ⟨_, [_], rfl, Utf8.flatten_single _, by simp⟩
    obtain ⟨first, middle, later, waited, _⟩ := discloses_iff.mp (every _ split)
    obtain ⟨front, rfl, _, sized⟩ := gather_single asksCallsign_seeks prompted waited
    rw [Utf8.lossyPieces_append, Utf8.byteLength_append, Utf8.byteLength_single] at sized
    omega
  have ascii : ∀ c ∈ disclaimer, c.toNat < 0x80 := by
    have split : Cutting false prompt disclaimer
        (Utf8.encode prompt :: Utf8.single (Utf8.encode disclaimer)) :=
      ⟨[_], _, rfl, by simp, Utf8.flatten_single _⟩
    obtain ⟨first, middle, later, waited, gathered⟩ := discloses_iff.mp (every _ split)
    rw [gather_first asked fits] at waited
    obtain ⟨_, rfl⟩ := Prod.mk.inj (Option.some.inj waited)
    rw [← List.append_nil (Utf8.single _)] at gathered
    obtain ⟨front, same, none, _⟩ := gather_single asksAgreement_seeks complete gathered
    obtain ⟨rfl, _⟩ := List.append_eq_nil_iff.mp none.symm
    rw [List.append_nil] at same
    apply Utf8.ascii_of_length
    rw [← Utf8.length_single, ← same]
  exact ⟨prompted, complete, ascii, promptFits, (Utf8.length_le_encode disclaimer).trans fits'⟩

/-- One event that holds both texts discloses nothing. -/
theorem together_discloses {text : Text} :
    ¬ Discloses manager localCallsign [Utf8.encode (prompt ++ disclaimer)] text := by
  intro discloses
  obtain ⟨first, middle, later, waited, gathered⟩ := discloses_iff.mp discloses
  obtain ⟨front, split, rfl, asked, _⟩ := gather_ok waited
  cases front with
  | nil => exact seeks_some asksCallsign_seeks asked
  | cons chunk front =>
    obtain ⟨_, rest⟩ := List.cons.inj split
    obtain ⟨_, rfl⟩ := List.append_eq_nil_iff.mp rest.symm
    exact absurd gathered (by simp [gather])

/-- If no delivery differs from another one, each discloses the disclaimer. -/
theorem disclosed_of_same (every : ∀ left right, Cutting false prompt disclaimer left →
      Cutting false prompt disclaimer right → SameDisclaimer manager localCallsign left right)
    (chunks : List Bytes) (cut : Cutting false prompt disclaimer chunks) :
    Discloses manager localCallsign chunks disclaimer := by
  obtain ⟨stored, text, first, second, rfl, _⟩ := every _ _ cutting_whole cut
  rwa [(whole_discloses first).1] at second

/-- Any two deliveries disclose the same disclaimer, which consent to the other one covers,
if and only if the disclaimer comes in events of its own, and the texts are clean.

A clean disclaimer is disclosed as it is, however it is cut. Conversely, a cutting into single
bytes and one in front of the last character disclose the same only of clean texts, and texts
that come together disclose nothing. -/
theorem same_disclaimer_iff_clean (manager : ManagerId) (localCallsign : Text) (together : Bool)
    (prompt disclaimer : Text) :
    (∀ left right, Cutting together prompt disclaimer left → Cutting together prompt disclaimer right →
      SameDisclaimer manager localCallsign left right) ↔ together = false ∧ Clean prompt disclaimer := by
  constructor
  · intro every
    cases together with
    | true =>
      have whole : Cutting true prompt disclaimer [Utf8.encode (prompt ++ disclaimer)] :=
        List.flatten_singleton
      obtain ⟨stored, _, discloses, _⟩ := every _ _ whole whole
      exact (together_discloses discloses).elim
    | false => exact ⟨rfl, clean_of_disclosed (disclosed_of_same every)⟩
  · rintro ⟨rfl, clean⟩ left right cutLeft cutRight
    exact ⟨disclaimer, disclaimer, clean_discloses clean cutLeft, clean_discloses clean cutRight, rfl,
      by simp [matchesStoredDisclaimer]⟩

/-- The prompt of the server comes in two pieces, and its disclaimer is another one. -/
theorem disclaimer_changes : ¬ ∀ (manager : ManagerId) (localCallsign : Text) (left right : List Bytes),
    Cutting false Server.callsignPrompt Server.termsPrompt left →
      Cutting false Server.callsignPrompt Server.termsPrompt right →
      SameDisclaimer manager localCallsign left right := by
  intro every
  have late := prompted_of_disclosed (disclosed_of_same (every 0 []))
  exact absurd late (by decide)

end Deliveries

end PacketBrowser.Client
