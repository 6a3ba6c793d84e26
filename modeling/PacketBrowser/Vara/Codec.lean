import PacketBrowser.Client.State
import PacketBrowser.Foundation.Decimal
import PacketBrowser.Foundation.Lines
import PacketBrowser.Foundation.Text

/-!
# The command port of a VARA modem

Commands and responses are lines of text. A line ends with a carriage return or a line
feed; a line feed right behind the end of a line belongs to it, if it has already come.
-/

namespace PacketBrowser.Vara

open Protocol Client Foundation

/-- What a line of the modem says. -/
inductive VaraResponse where
  | ok
  | pending
  | connected (localCall remote : Text)
  | disconnected
  | busyDetected
  | linkRegistered
  | buffer (count : Nat)
  | missing (field : Text)
  | unknown (line : Text)
  deriving DecidableEq, Repr

/-- How a response shows in the text of an error. -/
def VaraResponse.debug : VaraResponse → Text
  | .ok => "Ok".toList
  | .pending => "Pending".toList
  | .connected localCall remote => "Connected \x7b local: ".toList ++ debugText localCall ++
      ", remote: ".toList ++ debugText remote ++ " \x7d".toList
  | .disconnected => "Disconnected".toList
  | .busyDetected => "BusyDetected".toList
  | .linkRegistered => "LinkRegistered".toList
  | .buffer count => "Buffer(".toList ++ Decimal.printNat count ++ ")".toList
  | .missing field => "Missing(".toList ++ debugText field ++ ")".toList
  | .unknown line => "Unknown(".toList ++ debugText line ++ ")".toList

/-- A line ends with a carriage return or with a line feed. -/
def terminator (c : Char) : Bool := c == '\r' || c == '\n'

/-- The two callsigns of a connection. -/
def parseConnected (rest : Text) : Option VaraResponse :=
  match Text.words rest with
  | localCall :: remote :: _ => some (.connected localCall remote)
  | _ => none

/-- How many bytes the modem still has to send, where this is a number. -/
def parseBuffer (rest : Text) : Option VaraResponse :=
  (Decimal.parseUnsigned UInt32.size (Text.trim rest)).map .buffer

/-- What the modem misses. -/
def parseMissing (rest : Text) : Option VaraResponse := some (.missing (Text.trim rest))

/-- What a line says, without its terminators. The modem writes capital letters. -/
def parseLine (raw : Text) : VaraResponse :=
  let s := raw.rdropWhile terminator
  if s = "OK".toList then .ok
  else if s = "PENDING".toList then .pending
  else if s = "DISCONNECTED".toList then .disconnected
  else if s = "BUSY DETECTED".toList then .busyDetected
  else if s = "LINK REGISTERED".toList then .linkRegistered
  else
    (((Text.stripPrefix "CONNECTED ".toList s).bind parseConnected).or <|
      ((Text.stripPrefix "BUFFER ".toList s).bind parseBuffer).or <|
      (Text.stripPrefix "MISSING ".toList s).bind parseMissing).getD (.unknown s)

/-- The bandwidths, of HF and of FM. -/
inductive VaraBandwidth where
  | vNarrow
  | vWide
  | bw250
  | bw500
  | bw2300
  | bw2750
  deriving DecidableEq, Repr

/-- The command that sets a bandwidth. -/
def bandwidthWireCommand : VaraBandwidth → Text
  | .vNarrow => "VNARROW".toList
  | .vWide => "VWIDE".toList
  | .bw250 => "BW250".toList
  | .bw500 => "BW500".toList
  | .bw2300 => "BW2300".toList
  | .bw2750 => "BW2750".toList

/-- The commands that are sent to a modem at first. -/
def setupCommands (localCallsign : Text) (bandwidth : VaraBandwidth) : List Text :=
  ["MYCALL ".toList ++ localCallsign, "LISTEN OFF".toList, "COMPRESSION OFF".toList,
    bandwidthWireCommand bandwidth]

/-- A line feed behind the end of a line. -/
def stripNewline : Text → Text
  | '\n' :: rest => rest
  | rest => rest

/-- The first line that is over, without its end, and what stays in the buffer. -/
def takeLine (cmdLineBuf : Text) : Option (Text × Text) :=
  (Lines.first terminator cmdLineBuf).map fun found => (found.1, stripNewline found.2)

/-- The modem has reported the end of the session in a line that is over. -/
def holdsDisconnect (cmdLineBuf : Text) : Bool :=
  (Lines.complete terminator cmdLineBuf).any fun line => parseLine line == .disconnected

/-- An empty line says nothing that is known. -/
theorem parseLine_nil : parseLine [] = .unknown [] := by decide

section Buffer

variable {cmdLineBuf line rest : Text}

/-- Dropping a line feed in front loses no line that matters, and no unfinished one. -/
theorem stripNewline_keeps (text : Text) :
    holdsDisconnect (stripNewline text) = holdsDisconnect text ∧
      Lines.unfinished terminator (stripNewline text) = Lines.unfinished terminator text ∧
      (stripNewline text).length ≤ text.length := by
  unfold stripNewline
  split
  · rename_i rest
    have ending : terminator '\n' = true := by decide
    refine ⟨?_, (Lines.unfinished_terminator ending rest).symm, Nat.le_succ _⟩
    unfold holdsDisconnect
    rw [Lines.complete_terminator ending, List.any_cons, parseLine_nil]
    rfl
  · exact ⟨rfl, rfl, Nat.le_refl _⟩

/-- What is taken off is the first line, and nothing else changes. -/
theorem takeLine_some (taken : takeLine cmdLineBuf = some (line, rest)) :
    holdsDisconnect cmdLineBuf =
        ((parseLine line == .disconnected) || holdsDisconnect rest) ∧
      Lines.unfinished terminator cmdLineBuf = Lines.unfinished terminator rest ∧
      rest.length < cmdLineBuf.length := by
  obtain ⟨⟨line', behind⟩, found, same⟩ := Option.map_eq_some_iff.mp taken
  obtain ⟨rfl, rfl⟩ := Prod.mk.inj same
  obtain ⟨holds, unfinished, length⟩ := stripNewline_keeps behind
  refine ⟨?_, ?_, Nat.lt_of_le_of_lt length (Lines.first_shorter found)⟩
  · rw [holds, holdsDisconnect, Lines.complete_first found, List.any_cons]
    rfl
  · rw [unfinished, Lines.unfinished_first found]

/-- If no line can be taken, then all of the buffer is one unfinished line. -/
theorem takeLine_none (nothing : takeLine cmdLineBuf = none) :
    holdsDisconnect cmdLineBuf = false ∧ Lines.unfinished terminator cmdLineBuf = cmdLineBuf := by
  obtain ⟨complete, unfinished⟩ := Lines.of_first_none (Option.map_eq_none_iff.mp nothing)
  exact ⟨by simp [holdsDisconnect, complete], unfinished⟩

end Buffer

end PacketBrowser.Vara
