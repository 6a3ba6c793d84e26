import PacketBrowser.Agwpe.Link
import PacketBrowser.Foundation.Alone

/-!
# Whose confirmation brings the link up

While the link is awaited, frames are read until one of them decides: a confirmation of
either kind, or a rejection. The sender of a confirmation is not looked at, nor what else its
text says. So the link is believed for the right reason exactly if the first frame that
decides is a rejection, or comes from the station that was called and announces no
disconnection.
-/

namespace PacketBrowser.Agwpe

open Protocol Client Foundation Program Setting

/-- A moment of a run of the transport alone. -/
abbrev AgwpeMoment := Snapshot AgwpeWorld Unit AgwpeAnswer

/-- An operation of the transport and its answer. -/
abbrev AgwpeEvent := Event Unit AgwpeAnswer

/-- The transport alone with its modem. -/
def agwpeExec (op : AgwpeOp) (answer : AgwpeAnswer op) (world : AgwpeWorld) : Option AgwpeWorld :=
  if world.gives op answer then some (world.apply op answer) else none

/-- The frame that is read, if one is. -/
def frameRead (event : AgwpeEvent) : Option AgwpeFrame :=
  match event.op, event.answer with
  | .readFrame, .ok frame => some frame
  | _, _ => none

/-- The frames that were read, in order. -/
def heard (history : List AgwpeEvent) : List AgwpeFrame := (history.filterMap frameRead).reverse

/-- What is read are these frames, as far as they reach. -/
def ReadsFrom (frames : List AgwpeFrame) (now : AgwpeMoment) (event : AgwpeEvent) : Prop :=
  heard (event :: now.history) <+: frames

/-- A frame that ends the wait. -/
def AgwpeFrame.decides (frame : AgwpeFrame) : Bool :=
  frame.confirms || frame.frameType == .connectionRejected

/-- The station that was called announces a connection, and no disconnection. -/
structure LinkUp (called : Text) (frame : AgwpeFrame) : Prop where
  station : frame.callFrom = called
  announced : frame.frameType = .connected ∨ frame.frameType = .connect ∧
    ascii "***" <+: frame.data ∧ containsSlice frame.data (ascii "CONNECTED") = true
  alive : isSessionDeadPayload frame.data = false

/-- Of these frames, the link is believed only on one of the station that was called: whatever
else happens, a call that succeeds has read such a frame last. -/
def BelievesCalled (called : Text) (frames : List AgwpeFrame) : Prop :=
  ∀ world now left, world.target.remoteCallsign = called →
    Leads agwpeExec (ReadsFrom frames) openAx25Link.run ⟨world, []⟩ now left → left.Ends (.ok ()) →
    ∃ earlier frame, heard now.history = earlier ++ [frame] ∧ LinkUp called frame

/-- If the first frame that decides is a confirmation, it comes from the station that was
called and is no notice of a disconnection. -/
def FirstConfirmed (called : Text) (frames : List AgwpeFrame) : Prop :=
  ∀ earlier frame later, frames = earlier ++ frame :: later →
    (∀ other ∈ earlier, other.decides = false) → frame.confirms = true →
    frame.callFrom = called ∧ isSessionDeadPayload frame.data = false

section Hearing

variable {now later : AgwpeMoment} {op : AgwpeOp} {answer : AgwpeAnswer op}
variable {frames : List AgwpeFrame}

/-- The frames heard, with the latest event. -/
theorem heard_cons (event : AgwpeEvent) (history : List AgwpeEvent) :
    heard (event :: history) = heard history ++ (frameRead event).toList := by
  unfold heard
  cases read : frameRead event with
  | none => rw [List.filterMap_cons_none read, Option.toList_none, List.append_nil]
  | some frame => rw [List.filterMap_cons_some read, List.reverse_cons, Option.toList_some]

/-- Either kind of confirmation, written out. -/
theorem confirms_iff (frame : AgwpeFrame) : frame.confirms = true ↔
    frame.frameType = .connected ∨ frame.frameType = .connect ∧
      ascii "***" <+: frame.data ∧ containsSlice frame.data (ascii "CONNECTED") = true := by
  unfold AgwpeFrame.confirms
  cases frame.frameType <;> simp

/-- The link is still awaited: nothing that was read decides. -/
structure Awaited (frames : List AgwpeFrame) (now : AgwpeMoment) : Prop where
  listening : heard now.history <+: frames
  undecided : ∀ frame ∈ heard now.history, frame.decides = false

/-- Every operation but one reads no frame. -/
theorem frameRead_other (other : op ≠ .readFrame) (answer : AgwpeAnswer op) :
    frameRead ⟨(), op, answer⟩ = none := by
  cases op <;> first | rfl | exact absurd rfl other

/-- Only reading a frame hears one. -/
theorem heard_other (other : op ≠ .readFrame)
    (grown : later.history = ⟨(), op, answer⟩ :: now.history) :
    heard later.history = heard now.history := by
  rw [grown, heard_cons, frameRead_other other, Option.toList_none, List.append_nil]

/-- A frame that is read is the last one heard. -/
theorem heard_frame {frame : AgwpeFrame}
    (grown : later.history = ⟨(), .readFrame, .ok frame⟩ :: now.history) :
    heard later.history = heard now.history ++ [frame] := by
  rw [grown, heard_cons]
  rfl

/-- Whoever awaits a confirmation goes on so behind an operation that reads no frame. -/
theorem Awaited.other (waiting : Awaited frames now) (other : op ≠ .readFrame)
    (grown : later.history = ⟨(), op, answer⟩ :: now.history) : Awaited frames later := by
  have same := heard_other other grown
  exact ⟨same ▸ waiting.listening, same ▸ waiting.undecided⟩

/-- What a frame means while the link is awaited. -/
theorem linkStep_ok (frame : AgwpeFrame) : linkStep (.ok frame) =
    if frame.confirms then .inr (.ok ())
    else if frame.frameType = .connectionRejected then
      .inr (.error (.sessionRejected
        ("connection rejected by peer: ".toList ++ Utf8.lossy frame.data)))
    else .inl () := rfl

/-- The frames that decide about a link are confirmations and rejections. -/
theorem decides_iff (frame : AgwpeFrame) : frame.decides = true ↔
    frame.confirms = true ∨ frame.frameType = .connectionRejected := by
  simp [AgwpeFrame.decides]

end Hearing

section Sound

/-! A call that succeeds has read a confirmation last, and nothing decisive before. -/

variable {frames : List AgwpeFrame}

/-- A call to which these frames are read. -/
def hearing (frames : List AgwpeFrame) : Setting AgwpeWorld Unit AgwpeAnswer where
  exec := agwpeExec
  meets := ReadsFrom frames
  inv := fun _ => True

/-- The last frame read confirms the link, and no earlier one decides. -/
def Confirmed (frames : List AgwpeFrame) (now : AgwpeMoment) : Prop :=
  ∃ earlier frame, heard now.history = earlier ++ [frame] ∧ earlier ++ [frame] <+: frames ∧
    (∀ other ∈ earlier, other.decides = false) ∧ frame.confirms = true

/-- The wait goes on, or is over. -/
def Judged (frames : List AgwpeFrame) : Unit ⊕ Except TransportError Unit → AgwpeMoment → Prop :=
  Sum.elim (fun _ => Awaited frames) fun result now => result = .ok () → Confirmed frames now

/-- Without reading a frame, nothing is decided. -/
theorem undecided_stays {α : Type} {program : AgwpeRoutine α}
    (silent : program.Only fun op => op ≠ .readFrame) :
    (hearing frames).Triple () (Awaited frames) program fun _ => Awaited frames :=
  triple_only (stable_alone _) silent fun _ other _ _ _ waiting moves =>
    ⟨trivial, waiting.other other moves.occurs.2⟩

/-- One frame is read and judged. -/
theorem readFrame_triple : (hearing frames).Triple () (Awaited frames)
    (perform .readFrame) fun result now => Judged frames (linkStep result) now := by
  apply triple_ask (stable_alone _) (fun _ => stable_alone _)
  intro now result later waiting moves
  constructor
  · trivial
  · have met : heard (⟨(), .readFrame, result⟩ :: now.history) <+: frames := moves.met
    rw [← moves.occurs.2] at met
    cases result with
    | error err => exact fun impossible => absurd impossible (by simp)
    | ok frame =>
      have grown := heard_frame moves.occurs.2
      rw [linkStep_ok]
      split
      · rename_i confirms
        exact fun _ => ⟨_, frame, grown, grown ▸ met, waiting.undecided, confirms⟩
      · split
        · exact fun impossible => absurd impossible (by simp)
        · rename_i silent accepted
          constructor
          · exact met
          · rw [grown]
            intro other member
            rcases List.mem_append.mp member with before | last
            · exact waiting.undecided other before
            · rw [List.mem_singleton.mp last, ← Bool.not_eq_true, decides_iff]
              exact not_or.mpr ⟨silent, accepted⟩

/-- One round of waiting judges the frame that it reads. -/
theorem linkRound_triple (deadline : Nat) : (hearing frames).Triple () (Awaited frames)
    (linkRound deadline) (Judged frames) := by
  have clock : (hearing frames).Triple () (Awaited frames) (perform .clock)
      fun _ => Awaited frames := undecided_stays (only_ask _ (by simp))
  apply triple_bind fun result now => Judged frames (linkStep result) now
  · apply triple_bind _ clock
    intro now
    split
    · exact triple_done (stable_alone _) fun _ _ impossible => absurd impossible (by simp)
    · exact readFrame_triple
  · exact fun result => triple_done (stable_alone _) fun _ => id

/-- Waiting ends well only with a confirmation. -/
theorem awaitLink_triple : (hearing frames).Triple () (Awaited frames) awaitLink.run
    fun result now => result = .ok () → Confirmed frames now := by
  have clock : (hearing frames).Triple () (Awaited frames) (perform .clock)
      fun _ => Awaited frames := undecided_stays (only_ask _ (by simp))
  apply triple_bind _ clock
  intro now
  exact triple_loop (fun _ => Awaited frames) (fun _ => stable_alone _) (fun _ => stable_alone _)
    (fun _ => linkRound_triple (now + 30000)) ()

/-- What comes before the wait reads no frame. -/
theorem requireConnected_silent {ε : Type} (notConnected : ε) :
    (requireConnected notConnected).run.Only fun op => op ≠ .readFrame := by
  apply only_bind _ (only_ask _ (by simp))
  intro connected
  trivial

/-- Sending a frame reads none. -/
theorem sendFrameInternal_silent (frame : AgwpeFrame) :
    (mapTransportErr (sendFrameInternal frame)).run.Only fun op => op ≠ .readFrame := by
  have sends : (sendFrameInternal frame).run.Only fun op => op ≠ .readFrame := by
    apply only_attempt _ (requireConnected_silent _)
    intro _
    apply only_attempt _
    · apply only_bind _ (only_ask _ (by simp))
      intro written
      trivial
    · intro _
      apply only_bind _ (only_ask _ (by simp))
      intro flushed
      trivial
  apply only_bind _ sends
  intro result
  trivial

/-- A part that reads no frame, in front of the wait. -/
theorem silent_first {α : Type} {first : AgwpeAttempt TransportError α}
    {after : α → AgwpeAttempt TransportError Unit}
    (silent : first.run.Only fun op => op ≠ .readFrame)
    (rest : ∀ value, (hearing frames).Triple () (Awaited frames) (after value).run
      fun result now => result = .ok () → Confirmed frames now) :
    (hearing frames).Triple () (Awaited frames) (first >>= after).run
      fun result now => result = .ok () → Confirmed frames now :=
  triple_attempt_only (stable_alone _) silent
    (fun _ other _ _ _ waiting moves => ⟨trivial, waiting.other other moves.occurs.2⟩)
    (fun _ => stable_alone _) (fun _ _ _ impossible => absurd impossible (by simp)) rest

/-- A link is opened only by a confirmation. -/
theorem openAx25Link_triple : (hearing frames).Triple () (Awaited frames) openAx25Link.run
    fun result now => result = .ok () → Confirmed frames now := by
  apply silent_first (requireConnected_silent _)
  intro _
  apply silent_first (only_lift _ (only_ask _ (by simp)))
  intro target
  apply silent_first (sendFrameInternal_silent _)
  intro _
  exact awaitLink_triple

/-- The first confirmation is believed for the right reason if it comes from the station. -/
theorem believes_of_first {called : Text} (first : FirstConfirmed called frames) :
    BelievesCalled called frames := by
  intro world now left _ leads ends
  have start : Awaited frames ⟨world, []⟩ := ⟨List.nil_prefix, by simp [heard]⟩
  have safe := openAx25Link_triple ⟨world, []⟩ start
  obtain ⟨earlier, frame, last, ⟨later, whole⟩, undecided, confirms⟩ :=
    (alone leads trivial safe).2.ends ends rfl
  rw [List.append_assoc] at whole
  obtain ⟨station, alive⟩ := first earlier frame later whole.symm undecided confirms
  exact ⟨earlier, frame, last, station, (confirms_iff frame).mp confirms, alive⟩

end Sound

section Reached

/-! A modem that answers every operation and delivers the frames brings the call to the first
frame that decides. -/

variable {frames earlier behind : List AgwpeFrame} {frame : AgwpeFrame} {now : AgwpeMoment}

/-- Writes succeed, no time passes, and frames are read. -/
def obliges : (op : AgwpeOp) → AgwpeAnswer op → Prop
  | .clock, time => time = 0
  | .writeFrame _, result => result = .ok ()
  | .flush, result => result = .ok ()
  | .readFrame, result => ∃ frame, result = .ok frame
  | _, _ => True

/-- The frames come in this order, and everything else succeeds. -/
def Obliging (frames : List AgwpeFrame) (now : AgwpeMoment) (event : AgwpeEvent) : Prop :=
  ReadsFrom frames now event ∧ obliges event.op event.answer

/-- A link to the station is awaited, and nothing was heard yet. -/
structure Calling (now : AgwpeMoment) : Prop where
  connected : now.world.connected = true
  silence : heard now.history = []

/-- An operation that reads no frame and changes nothing. -/
theorem silent_settles (op : AgwpeOp) (other : op ≠ .readFrame)
    (possible : ∃ answer, now.world.gives op answer = true ∧ obliges op answer)
    (calling : Calling now) (same : ∀ answer, now.world.apply op answer = now.world) :
    Settles agwpeExec (Obliging frames) (fun answer later =>
      now.world.gives op answer = true ∧ obliges op answer ∧ Calling later) (perform op) now := by
  obtain ⟨answer, given, obliging⟩ := possible
  apply settles_ask
  · refine ⟨answer, ⟨_, _⟩, ⟨if_pos given, rfl⟩, ?_, obliging⟩
    show heard _ <+: frames
    rw [heard_cons, frameRead_other other, calling.silence]
    exact List.nil_prefix
  · rintro answer after ⟨executed, grown⟩ ⟨_, obliging⟩
    obtain ⟨given, world⟩ := Option.ite_some_none_eq_some.mp executed
    refine ⟨given, obliging, ?_, ?_⟩
    · rw [← world, same]
      exact calling.connected
    · rw [heard_other other grown]
      exact calling.silence

/-- A transport that is connected passes the check. -/
theorem requireConnected_settles {ε : Type} (notConnected : ε) (calling : Calling now) :
    Settles agwpeExec (Obliging frames) (fun result later => ∃ value, result = .ok value ∧
      Calling later) (requireConnected notConnected).run now := by
  apply (silent_settles .isConnected (by simp) ⟨now.world.connected, beq_self_eq_true _, trivial⟩
    calling fun _ => rfl).bind
  rintro connected later ⟨given, _, calling'⟩
  have up : connected = true := (beq_iff_eq.mp given).trans calling.connected
  exact .ended (.done _) ⟨(), by rw [up]; rfl, calling'⟩

/-- Sending the request for the link succeeds. -/
theorem sendFrameInternal_settles (request : AgwpeFrame) (calling : Calling now) :
    Settles agwpeExec (Obliging frames) (fun result later => ∃ value, result = .ok value ∧
      Calling later) (mapTransportErr (sendFrameInternal request)).run now := by
  have sends : Settles agwpeExec (Obliging frames) (fun result later => ∃ value, result = .ok value ∧
      Calling later) (sendFrameInternal request).run now := by
    apply settles_attempt (requireConnected_settles _ calling)
    intro _ later calling
    have written : Settles agwpeExec (Obliging frames) (fun result later => ∃ value,
        result = .ok value ∧ Calling later) (writeFrame request).run later := by
      apply (silent_settles (.writeFrame request) (by simp) ⟨.ok (), rfl, rfl⟩ calling
        fun _ => rfl).bind
      rintro _ last ⟨_, rfl, calling⟩
      exact .ended (.done _) ⟨(), rfl, calling⟩
    apply settles_attempt written
    intro _ later calling
    apply (silent_settles .flush (by simp) ⟨.ok (), rfl, rfl⟩ calling fun _ => rfl).bind
    rintro _ last ⟨_, rfl, calling⟩
    exact .ended (.done _) ⟨(), rfl, calling⟩
  apply sends.bind
  rintro _ later ⟨value, rfl, calling⟩
  exact .ended (.done _) ⟨value, rfl, calling⟩

/-- The clock stands still, and is not heard. -/
theorem clock_settles (listening : heard now.history <+: frames) :
    Settles agwpeExec (Obliging frames) (fun time later => time = 0 ∧
      heard later.history = heard now.history) (perform .clock) now := by
  apply settles_ask
  · refine ⟨(0 : Nat), ⟨now.world, ⟨(), .clock, (0 : Nat)⟩ :: now.history⟩, ⟨rfl, rfl⟩, ?_, rfl⟩
    show heard _ <+: frames
    rw [heard_cons, frameRead_other (by simp), Option.toList_none, List.append_nil]
    exact listening
  · rintro time after ⟨_, grown⟩ ⟨_, still⟩
    exact ⟨still, heard_other (by simp) grown⟩

/-- The next frame is read. -/
theorem readFrame_settles (next : AgwpeFrame)
    (listening : heard now.history ++ next :: behind = frames) :
    Settles agwpeExec (Obliging frames) (fun result later => result = .ok next ∧
      heard later.history = heard now.history ++ [next]) (perform .readFrame) now := by
  have onto : heard now.history ++ [next] <+: frames := ⟨behind, by rw [← listening]; simp⟩
  apply settles_ask
  · refine ⟨.ok next, ⟨now.world, ⟨(), .readFrame, .ok next⟩ :: now.history⟩, ⟨rfl, rfl⟩, ?_,
      next, rfl⟩
    show heard _ <+: frames
    rw [heard_cons]
    exact onto
  · rintro result after ⟨_, grown⟩ ⟨met, other, rfl⟩
    have read : heard (⟨(), .readFrame, .ok other⟩ :: now.history) <+: frames := met
    rw [heard_cons, ← listening] at read
    obtain rfl : other = next := by
      have tails := (List.prefix_append_right_inj _).mp read
      exact (List.cons_prefix_cons.mp tails).1
    exact ⟨rfl, heard_frame grown⟩

/-- One round: the next frame is judged. -/
theorem linkRound_settles (next : AgwpeFrame)
    (listening : heard now.history ++ next :: behind = frames) :
    Settles agwpeExec (Obliging frames) (fun result later => result = linkStep (.ok next) ∧
      heard later.history = heard now.history ++ [next]) (linkRound 30000) now := by
  have reads : Settles agwpeExec (Obliging frames) (fun result later => result = .ok next ∧
      heard later.history = heard now.history ++ [next]) (readFrameWithTimeoutDeadline 30000) now := by
    apply (clock_settles ⟨_, listening⟩).bind
    rintro _ later ⟨rfl, same⟩
    rw [← same]
    exact readFrame_settles next (same ▸ listening)
  apply reads.bind
  rintro _ later ⟨rfl, grown⟩
  exact .ended (.done _) ⟨rfl, grown⟩

/-- A frame that decides nothing leads to the next round. -/
theorem linkStep_undecided (silent : frame.decides = false) : linkStep (.ok frame) = .inl () := by
  rw [← Bool.not_eq_true, decides_iff] at silent
  obtain ⟨unconfirmed, accepted⟩ := not_or.mp silent
  rw [linkStep_ok, if_neg unconfirmed, if_neg accepted]

/-- The frames before the confirmation are passed over. The induction is on those that are
still to come. -/
theorem awaitLoop_settles (undecided : ∀ other ∈ earlier, other.decides = false)
    (confirms : frame.confirms = true)
    (listening : heard now.history ++ (earlier ++ frame :: behind) = frames) :
    Settles agwpeExec (Obliging frames) (fun result later => result = .ok () ∧
        heard later.history = heard now.history ++ (earlier ++ [frame]))
      (Program.loop (fun _ => linkRound 30000) ()) now := by
  induction earlier generalizing now with
  | nil =>
    apply Settles.unroll
    apply (linkRound_settles frame listening).bind
    rintro _ later ⟨rfl, grown⟩
    rw [linkStep_ok, if_pos confirms]
    exact .ended (.done _) ⟨rfl, grown⟩
  | cons next others inductionHypothesis =>
    obtain ⟨first, rest⟩ := List.forall_mem_cons.mp undecided
    apply Settles.unroll
    apply (linkRound_settles next listening).bind
    rintro _ later ⟨rfl, grown⟩
    rw [linkStep_undecided first]
    have left : heard later.history ++ (others ++ frame :: behind) = frames := by
      rw [grown, ← listening]
      simp
    apply (inductionHypothesis rest left).mono
    rintro result last ⟨ok, whole⟩
    exact ⟨ok, by rw [whole, grown]; simp⟩

/-- The call succeeds on the first frame that decides, if that is a confirmation. -/
theorem openAx25Link_settles (behind : List AgwpeFrame)
    (undecided : ∀ other ∈ earlier, other.decides = false)
    (confirms : frame.confirms = true) (calling : Calling now) :
    Settles agwpeExec (Obliging (earlier ++ frame :: behind)) (fun result later => result = .ok () ∧
      heard later.history = earlier ++ [frame]) openAx25Link.run now := by
  apply settles_attempt (requireConnected_settles _ calling)
  intro _ later calling
  apply settles_attempt (settles_lift (silent_settles .target (by simp)
    ⟨later.world.target, beq_self_eq_true _, trivial⟩ calling fun _ => rfl))
  rintro target later ⟨_, _, calling⟩
  apply settles_attempt (sendFrameInternal_settles _ calling)
  intro _ later calling
  apply (clock_settles (by rw [calling.silence]; exact List.nil_prefix)).bind
  rintro _ last ⟨rfl, same⟩
  have silence : heard last.history = [] := same.trans calling.silence
  apply (awaitLoop_settles undecided confirms (by rw [silence]; rfl)).mono
  rintro result final ⟨ok, whole⟩
  exact ⟨ok, by rw [whole, silence]; rfl⟩

/-- What is believed at all is believed on the first frame that decides. -/
theorem BelievesCalled.first {called : Text} (believes : BelievesCalled called frames) :
    FirstConfirmed called frames := by
  rintro earlier frame behind rfl undecided confirms
  have calling : Calling (⟨⟨true, true, ⟨0, [], called⟩⟩, []⟩ : AgwpeMoment) := ⟨rfl, rfl⟩
  obtain ⟨later, left, _, leads, ends, rfl, whole⟩ :=
    (openAx25Link_settles behind undecided confirms calling).reached
  have heeds : Leads agwpeExec (ReadsFrom _) openAx25Link.run _ later left :=
    leads.mono fun _ _ met => met.1
  obtain ⟨others, last, same, up⟩ := believes _ later left rfl heeds ends
  rw [whole] at same
  obtain ⟨-, rfl⟩ := List.append_singleton_inj.mp same
  exact ⟨up.station, up.alive⟩

end Reached

/-- The link is believed only on a frame of the station that was called exactly if the first
frame that decides, where it is a confirmation, is one of that station and no notice of a
disconnection.

Whatever frames come, the wait is decided by the first one that decides. -/
theorem link_believed_iff (called : Text) (frames : List AgwpeFrame) :
    BelievesCalled called frames ↔ FirstConfirmed called frames :=
  ⟨BelievesCalled.first, believes_of_first⟩

/-- The station that was called has disconnected, and the call succeeds; another station
connects, and the call succeeds. -/
theorem link_misbelieved :
    ¬ BelievesCalled "NODE1".toList [.new 0 .connect "NODE1".toList "N0CALL".toList
      (ascii "*** DISCONNECTED FROM Station NODE1")] ∧
    ¬ BelievesCalled "NODE1".toList [.new 0 .connected "OTHER".toList "N0CALL".toList []] := by
  constructor
  · intro believes
    have first := believes.first [] _ [] rfl (by simp) (by decide)
    exact absurd first.2 (by decide)
  · intro believes
    have first := believes.first [] _ [] rfl (by simp) (by decide)
    exact absurd first.1 (by decide)

end PacketBrowser.Agwpe
