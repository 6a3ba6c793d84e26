import PacketBrowser.Foundation.Text
import PacketBrowser.Server.Reading

/-!
# Reading requests

The server has its own reader of requests: it trims the first line before it looks at
it, and fetches a body of the announced length behind it. `Parses` says, in terms of
bytes alone, when a request is read and what is left; arrivals do not matter to it as
long as the deadline is not reached.
-/

namespace PacketBrowser.Server

open Foundation Protocol

/-- The error about a request without a URL. -/
def emptyUrl : IoError := ⟨.invalidData, "Empty URL".toList⟩

/-- The error about anything else. -/
def invalidRequestFormat : IoError := ⟨.invalidData, "Invalid request format".toList⟩

/-- The error about a body that is too long. -/
def bodyTooLarge (bodyLen : Nat) : IoError :=
  ⟨.invalidData, "Body too large: ".toList ++ Decimal.printNat bodyLen ++ " bytes (max ".toList ++
    Decimal.printNat maxBodySize ++ ")".toList⟩

/-- How the line of a GET begins. -/
def getWord : Text := ['G', 'E', 'T', ' ']

/-- How the line of a POST begins. -/
def postWord : Text := ['P', 'O', 'S', 'T', ' ']

/-- What stands behind `GET `. -/
def readGet (rest : Text) : Except IoError Request :=
  if rest = [] then .error emptyUrl
  else match Search.splitOnce ifNoneMatchSentinel rest with
    | some (url, etag) => .ok (.get url (some etag))
    | none => .ok (.get rest none)

/-- The length and the body behind a `POST` line. -/
def readPost (deadline : Nat) (url : Text) (r : Reader) :
    Except IoError (Option Request) × Reader :=
  if url = [] then (.error emptyUrl, r)
  else match readExactUntil deadline 4 r with
    | (.error err, r) => (.error err, r)
    | (.ok lenBuf, r) =>
      if fromBeBytes lenBuf > maxBodySize then (.error (bodyTooLarge (fromBeBytes lenBuf)), r)
      else match readExactUntil deadline (fromBeBytes lenBuf) r with
        | (.error err, r) => (.error err, r)
        | (.ok body, r) => (.ok (some (.post url body)), r)

/-- The request of a trimmed first line. -/
def readTrimmed (deadline : Nat) (trimmed : Text) (r : Reader) :
    Except IoError (Option Request) × Reader :=
  if getWord <+: trimmed then ((readGet (trimmed.drop 4)).map some, r)
  else if postWord <+: trimmed then readPost deadline (trimmed.drop 5) r
  else (.error invalidRequestFormat, r)

/-- The next request, or none at the end of the input. -/
def readRequest (deadline : Nat) (r : Reader) : Except IoError (Option Request) × Reader :=
  match readBoundedLineUntil deadline r with
  | (.error err, r) => (.error err, r)
  | (.ok none, r) => (.ok none, r)
  | (.ok (some headerLine), r) => readTrimmed deadline (Text.trim headerLine) r

/-- No read fails, and all arrivals come before the deadline. -/
structure Undisturbed (deadline : Nat) (r : Reader) : Prop where
  steady : r.steady = true
  early : r.horizon < deadline

/-- A line that is text, and the bytes behind it. -/
inductive FirstLine (text : Text) (whole rest : Bytes) : Prop
  | line (line : Bytes) (fresh : lineFeed ∉ line) (fits : line.length ≤ maxLineLength)
      (split : line ++ lineFeed :: rest = whole) (decoded : Utf8.decode (line ++ [lineFeed]) = some text)

/-- The bytes begin with this request, and this is what is behind it. -/
inductive Parses : Request → Bytes → Bytes → Prop
  | get {text : Text} {request : Request} {whole rest : Bytes} (first : FirstLine text whole rest)
      (get : getWord <+: Text.trim text)
      (read : readGet ((Text.trim text).drop 4) = .ok request) : Parses request whole rest
  | post {text : Text} {whole rest : Bytes} (length body : Bytes)
      (first : FirstLine text whole (length ++ (body ++ rest)))
      (noGet : ¬ getWord <+: Text.trim text) (post : postWord <+: Text.trim text)
      (nonempty : (Text.trim text).drop 5 ≠ []) (four : length.length = 4)
      (announced : fromBeBytes length = body.length) (fits : body.length ≤ maxBodySize) :
      Parses (.post ((Text.trim text).drop 5) body) whole rest

section Reading

variable {deadline : Nat} {r : Reader}

/-- A reader that nothing disturbs is not disturbed later. -/
theorem Undisturbed.later {later : Reader} (calm : Undisturbed deadline r)
    (follows : r.Later later) : Undisturbed deadline later :=
  ⟨follows.steady calm.steady, follows.horizon ▸ calm.early⟩

/-- A line that is read is decoded. -/
theorem lineText_some {buf : Bytes} {text : Text} (decoded : lineText buf = .ok (some text)) :
    Utf8.decode buf = some text := by
  unfold lineText at decoded
  split at decoded
  · rename_i found
    obtain rfl := Option.some.inj (Except.ok.inj decoded)
    exact found
  · exact absurd decoded (by simp)

/-- A line that is returned is what the bytes begin with. -/
theorem readLine_some {text : Text} {later : Reader}
    (read : readBoundedLineUntil deadline r = (.ok (some text), later)) :
    FirstLine text r.pending later.pending ∧ r.Later later := by
  have spec := readBoundedLineUntil_read deadline r
  rw [read] at spec
  generalize same : (Except.ok (some text) : Except IoError (Option Text)) = outcome at spec
  cases spec with
  | line line later fresh fits kept follows =>
    exact ⟨⟨line, fresh, fits, kept, lineText_some same.symm⟩, follows⟩
  | _ => exact absurd same (by simp)

/-- What an undisturbed reader reads of bytes with a line feed in reach. -/
theorem readLine_of {line rest : Bytes} (calm : Undisturbed deadline r) (fresh : lineFeed ∉ line)
    (fits : line.length ≤ maxLineLength) (split : line ++ lineFeed :: rest = r.pending) :
    ∃ later, readBoundedLineUntil deadline r = (lineText (line ++ [lineFeed]), later) ∧
      later.pending = rest ∧ r.Later later := by
  have spec := readBoundedLineUntil_read deadline r
  generalize readBoundedLineUntil deadline r = result at spec
  obtain ⟨outcome, later⟩ := result
  have inside : lineFeed ∈ r.pending.take lineCap := by
    have front : (line ++ [lineFeed]) <+: r.pending := ⟨rest, by rw [← split]; simp⟩
    have reach : (line ++ [lineFeed]).length ≤ lineCap := by
      simp only [List.length_append, List.length_singleton, lineCap]
      omega
    exact (List.prefix_take_iff.mpr ⟨front, reach⟩).subset (by simp)
  have present : lineFeed ∈ r.pending := List.mem_of_mem_take inside
  cases spec with
  | line other later fresh' _ kept follows =>
    obtain ⟨rfl, tail⟩ := Search.split_unique fresh' fresh (kept.trans split.symm)
    exact ⟨later, rfl, tail, follows⟩
  | tooLong later absent long => exact absurd inside absent
  | ended later empty closes => exact absurd present (by simp [empty])
  | cut later absent short nonempty closes => exact absurd present absent
  | expired later late => exact absurd calm.early (Nat.not_lt.mpr late)
  | silent later absent short open' => exact absurd present absent
  | broken later message unsteady => exact absurd calm.steady (by simp [unsteady])

/-- A body that is read is the front of what was to come. -/
theorem readExact_ok {need : Nat} {body : Bytes} {later : Reader}
    (read : readExactUntil deadline need r = (.ok body, later)) :
    body.length = need ∧ body ++ later.pending = r.pending ∧ r.Later later := by
  have spec := readExactUntil_read deadline need r
  rw [read] at spec
  cases spec with
  | filled body later length kept follows => exact ⟨length, kept, follows⟩

/-- Where nothing disturbs the reader, a body that is there is read. -/
theorem readExact_of {body rest : Bytes} (calm : Undisturbed deadline r)
    (split : body ++ rest = r.pending) :
    ∃ later, readExactUntil deadline body.length r = (.ok body, later) ∧
      later.pending = rest ∧ r.Later later := by
  have spec := readExactUntil_read deadline body.length r
  generalize readExactUntil deadline body.length r = result at spec
  obtain ⟨outcome, later⟩ := result
  have enough : ¬ r.pending.length < body.length := by
    rw [← split, List.length_append]
    omega
  cases spec with
  | filled other later length kept follows =>
    obtain ⟨rfl, tail⟩ := List.append_inj (kept.trans split.symm) length
    exact ⟨later, rfl, tail, follows⟩
  | short later short closes => exact absurd short enough
  | expired later late => exact absurd calm.early (Nat.not_lt.mpr late)
  | silent later short open' => exact absurd short enough
  | broken later message unsteady => exact absurd calm.steady (by simp [unsteady])

/-- A request that is returned is what the bytes begin with, whatever the arrivals. -/
theorem readRequest_parses {request : Request} {later : Reader}
    (read : readRequest deadline r = (.ok (some request), later)) :
    Parses request r.pending later.pending ∧ r.Later later := by
  unfold readRequest at read
  split at read
  · exact absurd read (by simp)
  · exact absurd read (by simp)
  · rename_i text middle lineRead
    obtain ⟨first, follows⟩ := readLine_some lineRead
    unfold readTrimmed at read
    split at read
    · rename_i get
      obtain ⟨found, rfl⟩ := Prod.mk.inj read
      refine ⟨.get first get ?_, follows⟩
      cases rest : readGet ((Text.trim text).drop 4) with
      | error err => exact absurd found (by simp [rest, Except.map])
      | ok parsed =>
        rw [rest] at found
        rw [Option.some.inj (Except.ok.inj found)]
    · rename_i noGet
      split at read
      · rename_i post
        unfold readPost at read
        split at read
        · exact absurd read (by simp)
        · rename_i nonempty
          split at read
          · exact absurd read (by simp)
          · rename_i length second lengthRead
            obtain ⟨four, lengthKept, lengthFollows⟩ := readExact_ok lengthRead
            split at read
            · exact absurd read (by simp)
            · rename_i fits
              split at read
              · exact absurd read (by simp)
              · rename_i body last bodyRead
                obtain ⟨whole, bodyKept, bodyFollows⟩ := readExact_ok bodyRead
                obtain ⟨found, rfl⟩ := Prod.mk.inj read
                rw [← lengthKept, ← bodyKept] at first
                obtain rfl := Option.some.inj (Except.ok.inj found)
                exact ⟨.post length body first noGet post nonempty four whole.symm
                  (by rw [whole]; exact Nat.not_lt.mp fits),
                  follows.trans (lengthFollows.trans bodyFollows)⟩
      · exact absurd read (by simp)

/-- An undisturbed reader returns the request its bytes begin with. -/
theorem readRequest_of {request : Request} {rest : Bytes} (calm : Undisturbed deadline r)
    (parses : Parses request r.pending rest) :
    ∃ later, readRequest deadline r = (.ok (some request), later) ∧ later.pending = rest ∧
      r.Later later := by
  have firstLine : ∀ {text : Text} {rest : Bytes}, FirstLine text r.pending rest →
      ∃ later, readBoundedLineUntil deadline r = (.ok (some text), later) ∧
        later.pending = rest ∧ r.Later later := by
    rintro text rest ⟨line, fresh, fits, split, decoded⟩
    obtain ⟨later, read, tail, follows⟩ := readLine_of calm fresh fits split
    refine ⟨later, ?_, tail, follows⟩
    rw [read, lineText, decoded]
  cases parses with
  | get first get read =>
    obtain ⟨later, lineRead, tail, follows⟩ := firstLine first
    refine ⟨later, ?_, tail, follows⟩
    simp only [readRequest, lineRead, readTrimmed, if_pos get, read, Except.map]
  | @post text _ _ length body first noGet post nonempty four announced fits =>
    obtain ⟨second, lineRead, tail, follows⟩ := firstLine first
    obtain ⟨third, lengthRead, lengthTail, lengthFollows⟩ :=
      readExact_of (calm.later follows) tail.symm
    obtain ⟨last, bodyRead, bodyTail, bodyFollows⟩ :=
      readExact_of ((calm.later follows).later lengthFollows) lengthTail.symm
    refine ⟨last, ?_, bodyTail, follows.trans (lengthFollows.trans bodyFollows)⟩
    rw [four] at lengthRead
    have small : ¬ body.length > maxBodySize := Nat.not_lt.mpr fits
    simp only [readRequest, lineRead, readTrimmed, if_neg noGet, if_pos post, readPost,
      if_neg nonempty, lengthRead, announced, if_neg small, bodyRead]

/-- At the end of the input there is no further request. -/
theorem readRequest_end (calm : Undisturbed deadline r) (empty : r.pending = [])
    (closes : r.closes = true) : (readRequest deadline r).1 = .ok none := by
  have spec := readBoundedLineUntil_read deadline r
  generalize lineRead : readBoundedLineUntil deadline r = result at spec
  obtain ⟨outcome, later⟩ := result
  rw [empty] at spec
  cases spec with
  | line line later fresh fits kept follows => exact absurd kept (by simp)
  | tooLong later absent long => exact absurd long (by decide)
  | ended later _ _ => rw [readRequest, lineRead]
  | cut later absent short nonempty _ => exact absurd rfl nonempty
  | expired later late => exact absurd calm.early (Nat.not_lt.mpr late)
  | silent later absent short open' => exact absurd closes (by simp [open'])
  | broken later message unsteady => exact absurd calm.steady (by simp [unsteady])

/-- There is one first line. -/
theorem FirstLine.unique {text other : Text} {whole rest behind : Bytes}
    (first : FirstLine text whole rest) (second : FirstLine other whole behind) :
    text = other ∧ rest = behind := by
  obtain ⟨line, fresh, _, split, decoded⟩ := first
  obtain ⟨line', fresh', _, split', decoded'⟩ := second
  obtain ⟨rfl, same⟩ := Search.split_unique fresh fresh' (split.trans split'.symm)
  exact ⟨Option.some.inj (decoded.symm.trans decoded'), same⟩

/-- Bytes begin with one request at most. -/
theorem Parses.unique {request other : Request} {whole rest behind : Bytes}
    (first : Parses request whole rest) (second : Parses other whole behind) :
    request = other ∧ rest = behind := by
  cases first with
  | get line get read =>
    cases second with
    | get line' get' read' =>
      obtain ⟨rfl, same⟩ := line.unique line'
      exact ⟨Except.ok.inj (read.symm.trans read'), same⟩
    | post length body line' noGet' =>
      obtain ⟨rfl, _⟩ := line.unique line'
      exact absurd get noGet'
  | post length body line noGet post nonempty four announced fits =>
    cases second with
    | get line' get' read' =>
      obtain ⟨rfl, _⟩ := line.unique line'
      exact absurd get' noGet
    | post length' body' line' noGet' post' nonempty' four' announced' fits' =>
      obtain ⟨rfl, behindLine⟩ := line.unique line'
      obtain ⟨sameLength, behindLength⟩ := List.append_inj behindLine (four.trans four'.symm)
      subst sameLength
      obtain ⟨sameBody, same⟩ := List.append_inj behindLength (announced.symm.trans announced')
      exact ⟨by rw [sameBody], same⟩

/-- There is no line in nothing. -/
theorem FirstLine.nonempty {text : Text} {rest : Bytes} : ¬ FirstLine text [] rest := by
  rintro ⟨line, _, _, split, _⟩
  exact absurd split (by simp)

/-- There is no request in nothing. -/
theorem Parses.nonempty {request : Request} {rest : Bytes} : ¬ Parses request [] rest := by
  rintro (⟨line, _, _⟩ | ⟨_, _, line, _, _, _, _, _, _⟩)
  · exact line.nonempty
  · exact line.nonempty

end Reading

end PacketBrowser.Server
