import PacketBrowser.Client.Fragmentation
import PacketBrowser.Foundation.Alone
import PacketBrowser.Foundation.Lossy

/-!
# A conversation over a link that loses nothing

The client shakes hands with the server and sends its requests one after the other. The
peer answers everything that is written to it with certain bytes; the link delivers them in
order, cut into pieces in any way and as late as it likes. The operator accepts and does
not disconnect.

Whatever the cutting, the conversation ends, and the reply to each request decodes to the
response the peer gave to that request. A reply is returned as soon as its payload is
complete, so the line feed behind a frame may be left over; it is noise in front of the
next one.
-/

namespace PacketBrowser.Client

open Protocol Foundation Program

/-- The other end of the link: the bytes on their way to the client, the bytes it answers
each further write with, everything that was written to it, and the texts that were shown
to the operator for consent. -/
structure Peer where
  inflight : Bytes
  answers : List Bytes
  heard : Bytes
  shown : List Text
  deriving DecidableEq

/-- A piece of what is on its way arrives. -/
def Peer.delivers (peer : Peer) : Except TransportError TransportEvent → Bool
  | .ok (.data bytes) => !bytes.isEmpty && bytes.isPrefixOf peer.inflight
  | _ => false

/-- The peer, the link and the operator can give this answer. -/
def Peer.gives (app : AppConfig) (peer : Peer) : (op : Op) → Answer op → Bool
  | .send _ _ _, answer => answer == .ok ()
  | .recv _ _, answer => peer.delivers answer
  | .loadAbort _, answer => !answer
  | .awaitConsent _, answer => answer == .decided true
  | .readConfig, answer => answer == app
  | _, _ => true

/-- The peer has heard these bytes, and answers them. -/
def Peer.told (peer : Peer) (data : Bytes) : Peer :=
  { peer with
    inflight := peer.inflight ++ peer.answers.headD []
    answers := peer.answers.tail
    heard := peer.heard ++ data }

/-- The link after an answered operation. -/
def Peer.apply (peer : Peer) : (op : Op) → Answer op → Peer
  | .send _ _ data, _ => peer.told data
  | .recv _ _, .ok (.data bytes) => { peer with inflight := peer.inflight.drop bytes.length }
  | .parkConsent disclaimer, _ => { peer with shown := peer.shown ++ [disclaimer] }
  | _, _ => peer

/-- An operation is carried out against the peer, which answers as it is scripted. -/
def Peer.exec (app : AppConfig) (op : Op) (answer : Answer op) (peer : Peer) : Option Peer :=
  if peer.gives app op answer then some (peer.apply op answer) else none

/-- An operation occurs exactly if the peer gives the answer, and then the peer goes on. -/
theorem Peer.exec_iff {app : AppConfig} {op : Op} {answer : Answer op} {peer after : Peer} :
    Peer.exec app op answer peer = some after ↔
      peer.gives app op answer = true ∧ after = peer.apply op answer := by
  unfold Peer.exec
  by_cases possible : peer.gives app op answer = true
  · simp only [possible, if_true, Option.some.injEq, true_and]
    exact eq_comm
  · simp [possible]

/-- A moment of a conversation. -/
abbrev PeerMoment := Snapshot Peer Unit Answer

/-- Whatever the cutting and the delays, the program ends, and this holds then. -/
abbrev Concludes (app : AppConfig) {α : Type} (post : α → PeerMoment → Prop)
    (program : Routine α) (now : PeerMoment) : Prop :=
  Settles (Peer.exec app) (fun _ _ => True) post program now

/-- The requests are sent one after the other, each once the reply to the one before it is
there. -/
def sendEach (manager : ManagerId) (timeoutSecs : Nat) : List Request → Attempt (List Bytes)
  | [] => return []
  | request :: later => do
    let reply ← handleSendRequest manager timeoutSecs request.encode
    let replies ← sendEach manager timeoutSecs later
    return reply :: replies

/-- The handshake and the requests. -/
def converse (manager : ManagerId) (timeoutSecs : Nat) (localCallsign : Text)
    (requests : List Request) : Attempt (List Bytes) := do
  performBpqHandshake manager localCallsign
  sendEach manager timeoutSecs requests

section Operations

variable {app : AppConfig} {manager : ManagerId} {now : PeerMoment}

end Operations

section Handshake

variable {app : AppConfig} {manager : ManagerId} {now : PeerMoment}

/-- The peer when the link has come up. A node in between sends its prompt in answer to
the application command. -/
def Peer.meeting (app : AppConfig) (prompt terms : Text) (answers : List Bytes) : Peer :=
  if app.skipBpqApp then ⟨Utf8.encode prompt, Utf8.encode terms :: [] :: answers, [], []⟩
  else ⟨[], Utf8.encode prompt :: Utf8.encode terms :: [] :: answers, [], []⟩

/-- The application command, if there is one. -/
def commandBytes (app : AppConfig) : Bytes :=
  if app.skipBpqApp then [] else Utf8.encode (app.bpqCommand ++ ['\n'])

/-- The prompt asks for the callsign, and the terms for the word. -/
structure Questions (prompt terms : Text) : Prop where
  promptAscii : ∀ c ∈ prompt, c.toNat < 0x80
  termsAscii : ∀ c ∈ terms, c.toNat < 0x80
  small : Utf8.byteLength prompt + Utf8.byteLength terms ≤ maxHandshakeText
  asks : (containsText "callsign" prompt || containsText "AGREE" prompt) = true
  demands : containsText "AGREE" (terms.map Char.toUpper) = true

/-- The operator was shown a text that begins in the prompt, in front of what of it was not
read for the callsign, and ends in the terms, behind the word. -/
structure ShowsTerms (prompt terms text back : Text) : Prop where
  begins : ∃ front rest, prompt = front ++ rest ∧ rest ++ terms = text ++ back
  demands : containsText "AGREE" (text.map Char.toUpper) = true

/-- A text contains a pattern exactly if it occurs in it. -/
theorem containsText_iff (pattern : String) (text : Text) :
    containsText pattern text = true ↔ pattern.toList <:+: text := Search.occurs_iff _ _

end Handshake

section Requests

variable {app : AppConfig} {manager : ManagerId} {now : PeerMoment} {timeoutSecs : Nat}

/-- Bytes in front of a frame that neither begin one nor look like a lost session. -/
structure Noise (noise : Bytes) : Prop where
  absent : ¬ Response.magic <:+: noise
  alive : isSessionDeadPayload noise = false
  short : noise.length ≤ 32 * 1024 - 3

/-- A part of noise is noise. -/
theorem Noise.part {noise part : Bytes} (harmless : Noise noise) (inside : part <:+: noise) :
    Noise part := by
  obtain ⟨absent, alive, short⟩ := harmless
  refine ⟨fun begins => absent (begins.trans inside), ?_, inside.length_le.trans short⟩
  rw [← Bool.not_eq_true, isSessionDeadPayload_iff] at alive ⊢
  rintro (marker | marker)
  · exact alive (Or.inl (marker.trans inside))
  · exact alive (Or.inr (marker.trans inside))

/-- The reply holds this response, however it is cut out of the stream. -/
def Bears (data : Bytes) (response : Response) : Prop :=
  decoded data = .ok (response.status, response.etag, response.maxAge, .ok response.payload)

/-- A response that can be read behind noise of this length. -/
structure Receivable (length : Nat) (response : Response) : Prop where
  named : response.Named
  small : length + response.encode.length ≤ maxResponseSize

/-- A response that can be received is a valid one. -/
theorem Receivable.valid {length : Nat} {response : Response} (fits : Receivable length response) :
    response.Valid := by
  obtain ⟨named, small⟩ := fits
  refine ⟨named, ?_⟩
  have size := congrArg List.length (encode_split response)
  have limit : maxResponseSize = 10485760 := rfl
  have word : UInt32.size = 4294967296 := rfl
  simp only [List.length_append] at size
  omega

/-- A response that can be received behind much can be received behind less. -/
theorem Receivable.less {length fewer : Nat} {response : Response}
    (fits : Receivable length response)
    (less : fewer ≤ length) : Receivable fewer response :=
  ⟨fits.named, by have small := fits.small; omega⟩

end Requests

section Conversation

variable {app : AppConfig} (manager : ManagerId) (timeoutSecs : Nat)

end Conversation

end PacketBrowser.Client
