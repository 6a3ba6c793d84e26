import PacketBrowser.Agwpe.Stream
import PacketBrowser.Client.Session

/-!
# Receiving events

`recv` reads one frame and turns it into an event by its kind alone. The addresses of the
frame and its port are not looked at, although `openSession` stores those of the session.

A transport delivers frames if they are what its socket still gives, however it is cut,
with silence behind them. Each `recv` then returns the event of the next frame, and in the
silence it runs into its deadline.
-/

namespace PacketBrowser.Agwpe

open Protocol Client Foundation

/-- An error of the protocol as an error of a transport. -/
def agwpeToTransportErr : AgwpeError → TransportError
  | .timeout => .timeout
  | .notConnected => .notConnected
  | .io message => .io message
  | other => .modemError other.display

/-- The event a frame is turned into. -/
def AgwpeFrame.event (frame : AgwpeFrame) : TransportEvent :=
  match frame.frameType with
  | .disconnect => .disconnected (Utf8.lossy frame.data)
  | .sendData =>
    if isSessionDeadPayload frame.data then .disconnected (Utf8.lossy frame.data)
    else .data frame.data
  | .connected => .data []
  | .connect => .data frame.data
  | .connectionRejected =>
    .disconnected ("connection rejected by peer: ".toList ++ Utf8.lossy frame.data)
  | _ => .data []

namespace AgwpeTransport

/-- Only the target is recorded. -/
def openSession (t : AgwpeTransport) (config : SessionConfig) : AgwpeTransport :=
  { t with
    remoteCallsign := config.remoteCallsign
    agwpePort := config.agwpePort
    localCallsign := config.localCallsign }

/-- One event. A call that is still waiting runs into its deadline. -/
def recv (t : AgwpeTransport) : Except TransportError TransportEvent × AgwpeTransport :=
  match t.readFrameFromStream with
  | (none, later) => (.error .timeout, later)
  | (some (.error err), later) => (.error (agwpeToTransportErr err), later)
  | (some (.ok frame), later) => (.ok frame.event, later)

/-- The socket is not closed by the modem. -/
def StaysOpen (t : AgwpeTransport) : Prop :=
  ∃ stream, t.stream = some stream ∧ stream.closes = false

/-- A byte string that is decoded to the frame. -/
structure Carried (raw : Bytes) (frame : AgwpeFrame) : Prop where
  delimited : Delimited raw
  decoded : AgwpeFrame.decode raw = .ok frame

/-- These frames are still to come, and silence behind them. -/
def Delivers (t : AgwpeTransport) (frames : List AgwpeFrame) : Prop :=
  t.StaysOpen ∧ ∃ raws, List.Forall₂ Carried raws frames ∧ t.Holds raws.flatten

end AgwpeTransport

section Delivery

open AgwpeTransport

/-- Reading does not close the socket. The induction is on the rounds. -/
theorem frameRounds_open (rounds : Nat) {t : AgwpeTransport} {stream : Reader}
    (connected : t.stream = some stream) (steady : stream.steady = true)
    (open' : stream.closes = false) : (frameRounds rounds t).2.StaysOpen := by
  induction rounds generalizing t stream with
  | zero => exact ⟨stream, connected, open'⟩
  | succ rounds inductionHypothesis =>
    unfold frameRounds
    split
    · exact ⟨stream, connected, open'⟩
    · exact ⟨stream, connected, open'⟩
    · have took := stream.read_took readSize (by decide)
      simp only [connected]
      generalize stream.read readSize = result at took ⊢
      obtain ⟨outcome, later⟩ := result
      cases took with
      | some taken later nonempty _ _ follows _ =>
        simp only [nonempty, if_false]
        exact inductionHypothesis rfl (follows.steady steady) (follows.closes.trans open')
      | finished later _ _ _ closes => exact absurd closes (by simp [open'])
      | woken later _ follows _ =>
        exact inductionHypothesis rfl (follows.steady steady) (follows.closes.trans open')
      | broken later message _ unsteady => exact absurd steady (by simp [unsteady])
      | silent _ _ => exact ⟨_, rfl, open'⟩

/-- Without bytes on an open socket, the call keeps waiting. -/
theorem frameRounds_waits (rounds : Nat) {t : AgwpeTransport} {stream : Reader}
    (connected : t.stream = some stream) (steady : stream.steady = true)
    (open' : stream.closes = false) (nothing : t.readBuf ++ stream.pending = []) :
    (frameRounds rounds t).1 = none := by
  induction rounds generalizing t stream with
  | zero => rfl
  | succ rounds inductionHypothesis =>
    obtain ⟨later, follows, left, round⟩ := frameRounds_idle rounds connected steady nothing
    rcases round with ⟨closes, _⟩ | goesOn | waits
    · exact absurd closes (by simp [open'])
    · rw [goesOn]
      exact inductionHypothesis rfl (follows.steady steady) (follows.closes.trans open') left
    · rw [waits]

variable {t : AgwpeTransport} {frame : AgwpeFrame} {frames : List AgwpeFrame}

/-- A transport whose peer does not close stays so behind a read. -/
theorem readFrameFromStream_open (holds : ∃ bytes, t.Holds bytes) (open' : t.StaysOpen) :
    t.readFrameFromStream.2.StaysOpen := by
  obtain ⟨_, stream, connected, steady, _⟩ := holds
  obtain ⟨other, connected', closes⟩ := open'
  obtain rfl := Option.some.inj (connected.symm.trans connected')
  exact frameRounds_open _ connected steady closes

/-- Each call returns the event of the next frame. -/
theorem recv_frame (delivers : t.Delivers (frame :: frames)) :
    t.recv.1 = .ok frame.event ∧ t.recv.2.Delivers frames := by
  obtain ⟨open', raws, carried, holds⟩ := delivers
  cases carried with
  | @cons raw _ raws _ first others =>
    obtain ⟨result, behind⟩ := readFrame_next first.delimited holds
    have later := readFrameFromStream_open ⟨_, holds⟩ open'
    simp only [leftBehind, first.decoded] at result behind
    unfold recv
    generalize t.readFrameFromStream = read at result behind later ⊢
    obtain ⟨outcome, rest⟩ := read
    obtain rfl : outcome = _ := result
    exact ⟨rfl, later, raws, others, behind⟩

/-- Behind the last frame each call runs into its deadline. -/
theorem recv_silence (delivers : t.Delivers []) :
    t.recv.1 = .error .timeout ∧ t.recv.2.Delivers [] := by
  obtain ⟨open', raws, carried, holds⟩ := delivers
  cases carried
  have later := readFrameFromStream_open ⟨_, holds⟩ open'
  have behind : t.readFrameFromStream.2.Holds [] := (frameRounds_nothing _ holds).2
  obtain ⟨stream, connected, steady, nothing⟩ := holds
  obtain ⟨other, connected', closes⟩ := open'
  obtain rfl := Option.some.inj (connected.symm.trans connected')
  have result : t.readFrameFromStream.1 = none := frameRounds_waits _ connected steady closes nothing
  unfold recv
  generalize t.readFrameFromStream = read at result behind later ⊢
  obtain ⟨outcome, rest⟩ := read
  obtain rfl : outcome = _ := result
  exact ⟨rfl, later, [], .nil, behind⟩

/-- Frames can be delivered, whoever they are for. -/
theorem delivers_openSession (config : SessionConfig) (delivers : t.Delivers frames) :
    (t.openSession config).Delivers frames := delivers

end Delivery

end PacketBrowser.Agwpe
