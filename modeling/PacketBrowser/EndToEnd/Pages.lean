import PacketBrowser.Browse.Conditional
import PacketBrowser.Client.Conversation
import PacketBrowser.Server.Greeting

/-!
# From the loaded page to the page shown

A client and a server, connected by links that lose nothing. The server reads what the
client writes, perhaps behind lines that a node in between has sent for it; the client
reads what the server writes, perhaps behind a greeting of the node. Both links cut and
delay the bytes as they like.

The two sides are put together by what passes between them: a run of the server is given
what the client writes, and the client is given what that run has written. The reply to
each request then carries the response to that very request, and a page that the client
decodes is the one that the server has loaded for it.
-/

namespace PacketBrowser.EndToEnd

open Protocol Foundation Program

section Output

/-- A write succeeds. -/
def succeeds (event : Server.SessionEvent) : Bool :=
  match event.op, event.answer with
  | .write _, answer => answer.result.result == .ok ()
  | _, _ => true

end Output

section Pages

open Client (Bears Concludes Peer ShowsTerms)

variable {sha256 : Bytes → Bytes} {config : Server.Config} {turn : Server.Turn}

/-- If the response is a page, the client decodes from the reply the text that was loaded
for the request, with its etag and its maximal age. -/
def ShowsPage (sha256 : Bytes → Bytes) (config : Server.Config) (libraries : Browse.Libraries)
    (reply : Bytes) (turn : Server.Turn) : Prop :=
  turn.response.status = .ok → Browse.RoundTrips libraries.decompressor turn.events →
    ∃ (url : Text) (ifNoneMatch : Option Text) (html : Text) (maxAge : Int32) (body : Bytes),
      turn.request = .get url ifNoneMatch ∧ Server.Loaded config turn.events url html maxAge ∧
      Client.decoded reply =
        .ok (.ok, Server.sanitizedHtmlEtag sha256 html, maxAge, .ok body) ∧
      ∀ invalidUtf8, Browse.decodeHtml libraries invalidUtf8 body = .ok html

section Server

variable {casing : Text.Casing} {node : List Text} {localCallsign : Text}
variable {requests : List Request} {reader : Reader}

/-- The text a node may put in front of the prompts: nothing in it looks like a frame or a
lost session. -/
structure Greets (greeting : Text) : Prop where
  ascii : ∀ c ∈ greeting, c.toNat < 0x80
  harmless : Client.Noise
    (Utf8.encode (greeting ++ Server.callsignPrompt ++ Server.termsPrompt))

/-- Behind a greeting the prompts are still asked. -/
theorem Greets.prompts {greeting : Text} (greets : Greets greeting) :
    Client.Questions (greeting ++ Server.callsignPrompt) Server.termsPrompt := by
  refine ⟨?_, ?_, ?_, ?_, by decide⟩
  · intro c member
    rcases List.mem_append.mp member with front | back
    · exact greets.ascii c front
    · exact of_decide_eq_true (List.all_eq_true.mp (by decide :
        Server.callsignPrompt.all fun c => decide (c.toNat < 0x80)) c back)
  · intro c member
    exact of_decide_eq_true (List.all_eq_true.mp (by decide :
      Server.termsPrompt.all fun c => decide (c.toNat < 0x80)) c member)
  · have short := greets.harmless.short
    have limit : Client.maxHandshakeText = 65536 := rfl
    simp only [Utf8.encode_append, List.length_append] at short
    simp only [Utf8.byteLength, Utf8.encode_append, List.length_append]
    omega
  · have asked : Client.containsText "callsign" Server.callsignPrompt = true := by decide
    have inside := (Client.containsText_iff _ _).mp asked
    have whole : Client.containsText "callsign" (greeting ++ Server.callsignPrompt) = true :=
      (Client.containsText_iff _ _).mpr (inside.trans (List.suffix_append _ _).isInfix)
    rw [whole]
    rfl

/-- The replies that a client gets if its link carries these responses. -/
def Replied (app : Client.AppConfig) (localCallsign greeting : Text) (turns : List Server.Turn)
    (post : List Bytes → Prop) : Prop :=
  ∀ (manager : Client.ManagerId) (timeoutSecs : Nat) (now : Client.PeerMoment),
    now.world = Peer.meeting app (greeting ++ Server.callsignPrompt) Server.termsPrompt
      (turns.map fun turn => turn.response.encode) →
    Concludes app (fun result later => ∃ replies, result = .ok replies ∧ post replies ∧
      later.world.heard = Client.commandBytes app ++ Utf8.encode (localCallsign ++ ['\n']) ++
        Client.agreeBytes ++ (turns.map Server.Turn.request).flatMap Request.encode ∧
      ∃ text back, ShowsTerms (greeting ++ Server.callsignPrompt) Server.termsPrompt text back ∧
        later.world.shown = [text])
      (Client.converse manager timeoutSecs localCallsign (turns.map Server.Turn.request)).run now

/-- The output answers the requests in their order, with nothing left out. A client that is
sent these responses writes what the server was given, and the conversation ends: each reply
carries the response to its own request, and where that is a page it shows the page that the
server has loaded for that request. -/
def Conveys (sha256 : Bytes → Bytes) (config : Server.Config) (localCallsign : Text)
    (requests : List Request) (output : Bytes) : Prop :=
  ∃ (turns : List Server.Turn) (rest : List (Sigma Server.Answer)),
    (∀ turn ∈ turns, turn.Sound sha256 config) ∧
    turns.map Server.Turn.request ++ Server.received rest <+: requests ∧
    Server.Rest turns rest ∧ output =
      Utf8.encode Server.callsignPrompt ++ Utf8.encode Server.termsPrompt ++
        turns.flatMap (fun turn => turn.response.encode) ++ (Server.offered rest).flatten ∧
    ∀ (app : Client.AppConfig) (libraries : Browse.Libraries) (greeting : Text), Greets greeting →
      (∀ turn ∈ turns, Utf8.byteLength (greeting ++ Server.callsignPrompt ++ Server.termsPrompt) +
        1 + turn.response.encode.length ≤ Client.maxResponseSize) →
      Replied app localCallsign greeting turns (List.Forall₂ (fun reply turn =>
        Bears reply turn.response ∧ ShowsPage sha256 config libraries reply turn) · turns)

end Server

section Sample

/-- A digest of 32 bytes, the same for all data. -/
def zeroHash (_ : Bytes) : Bytes := List.replicate 32 0

end Sample

end Pages

end PacketBrowser.EndToEnd
