import PacketBrowser.Client.Links
import PacketBrowser.Client.Proxy

/-!
# What the connect page makes of an error

The connect page writes the error of a request into its message area as markup. Elsewhere
the page escapes what it shows. An error may contain what the remote station has sent, since
the reason of a disconnect and of a rejection are the text of a frame.

A request is taken through all its layers here: the handler queues commands, the background
task serves them over the transport, the transport reads frames or lines, and the result
comes back with the texts of all these layers around it. Other requests may do anything to
the shared state meanwhile.
-/

namespace PacketBrowser.Client

open Protocol Foundation Program Setting Agwpe Vara

section Page

/-- The characters that mean something in markup. -/
def isMarkup (c : Char) : Bool := c == '&' || c == '<' || c == '>'

/-- What is markup in a text, as it stands. -/
def marks (text : Text) : Text := text.filter isMarkup

/-- What the script of the page writes for a character. -/
def escapeChar (c : Char) : Text :=
  if c = '&' then "&amp;".toList
  else if c = '<' then "&lt;".toList
  else if c = '>' then "&gt;".toList
  else [c]

/-- The markup that shows a text. A no-break space looks the same as it stands. -/
def escapeHtml (text : Text) : Text := text.flatMap escapeChar

/-- The markup of the message area. -/
def showMsg (text : Text) (isError : Bool) : Text :=
  "<div class=\"msg ".toList ++ (if isError then "msg-error".toList else "msg-success".toList) ++
    "\">".toList ++ text ++ "</div>".toList

/-- A text, or another one where it is empty. -/
def orElse (text otherwise : Text) : Text := if text = [] then otherwise else text

/-- The requests the page makes whose errors are shown. -/
inductive PageRequest where
  | ax25Connect (target : Text) (portNum : UInt8)
  | submitConsent (decision : Decision)

/-- The message about a failed request. -/
def PageRequest.message (error : Text) : PageRequest → Text
  | .ax25Connect _ _ => orElse error "Connection failed".toList
  | .submitConsent _ => orElse error "Consent submission failed".toList

/-- What the page inserts. -/
def PageRequest.inserted (request : PageRequest) (error : Text) : Text :=
  showMsg (request.message error) true

/-- What it would insert, had it escaped the message. -/
def PageRequest.escaped (request : PageRequest) (error : Text) : Text :=
  showMsg (escapeHtml (request.message error)) true

/-- The markup of two texts. -/
theorem marks_append (left right : Text) : marks (left ++ right) = marks left ++ marks right :=
  List.filter_append ..

/-- The markup of a text, with its first character. -/
theorem marks_cons (c : Char) (text : Text) : marks (c :: text) = marks [c] ++ marks text :=
  marks_append [c] text

/-- Texts that the program puts around others contain no markup. -/
theorem marks_around {text : Text} (front back : Text) (first : marks front = [])
    (last : marks back = []) : marks (front ++ text ++ back) = marks text := by
  rw [marks_append, marks_append, first, last, List.nil_append, List.append_nil]

/-- Text without markup in front adds none. -/
theorem marks_behind {text : Text} (front : Text) (first : marks front = []) :
    marks (front ++ text) = marks text := by
  rw [marks_append, first, List.nil_append]

/-- A character takes one character exactly if it is no markup. -/
theorem escapeChar_length (c : Char) :
    (escapeChar c).length = 1 ↔ isMarkup c = false := by
  unfold escapeChar isMarkup
  by_cases ampersand : c = '&'
  · subst ampersand
    decide
  · by_cases less : c = '<'
    · subst less
      decide
    · by_cases greater : c = '>'
      · subst greater
        decide
      · simp [ampersand, less, greater]

/-- Every character is written as something. -/
theorem escapeChar_nonempty (c : Char) : 1 ≤ (escapeChar c).length := by
  unfold escapeChar
  split
  · decide
  · split
    · decide
    · split
      · decide
      · exact Nat.le_refl 1

/-- Escaping goes character by character. -/
theorem escapeHtml_cons (c : Char) (text : Text) :
    escapeHtml (c :: text) = escapeChar c ++ escapeHtml text := List.flatMap_cons

/-- Escaped text is no shorter. -/
theorem escapeHtml_length (text : Text) : text.length ≤ (escapeHtml text).length := by
  induction text with
  | nil => exact Nat.le_refl _
  | cons c text inductionHypothesis =>
    have head := escapeChar_nonempty c
    rw [escapeHtml_cons, List.length_append, List.length_cons]
    omega

/-- Escaping leaves exactly those texts as they are that contain no markup. -/
theorem escapeHtml_fixed_iff (text : Text) : escapeHtml text = text ↔ marks text = [] := by
  induction text with
  | nil => exact ⟨fun _ => rfl, fun _ => rfl⟩
  | cons c text inductionHypothesis =>
    rw [escapeHtml_cons, marks_cons, List.append_eq_nil_iff, ← inductionHypothesis]
    have single : marks [c] = [] ↔ isMarkup c = false := by
      cases plain : isMarkup c <;> simp [marks, plain]
    rw [single]
    constructor
    · intro same
      have lengths := congrArg List.length same
      rw [List.length_append, List.length_cons] at lengths
      have head := escapeChar_nonempty c
      have tail := escapeHtml_length text
      have one : (escapeChar c).length = 1 := by omega
      have plain := (escapeChar_length c).mp one
      obtain ⟨d, alone⟩ := List.length_eq_one_iff.mp one
      rw [alone] at same
      exact ⟨plain, (List.cons.inj same).2⟩
    · rintro ⟨plain, rest⟩
      have kept : escapeChar c = [c] := by
        simp only [isMarkup, Bool.or_eq_false_iff, beq_eq_false_iff_ne] at plain
        simp [escapeChar, plain.1.1, plain.1.2, plain.2]
      rw [kept, rest, List.singleton_append]

/-- The page inserts the escaped message where there was nothing to escape. -/
theorem inserted_escaped_iff (request : PageRequest) (error : Text) :
    request.inserted error = request.escaped error ↔ marks error = [] := by
  have message : marks (request.message error) = marks error := by
    cases request <;>
    · simp only [PageRequest.message, orElse]
      split
      · rename_i empty
        rw [empty]
        decide
      · rfl
  rw [← message, ← escapeHtml_fixed_iff]
  unfold PageRequest.inserted PageRequest.escaped showMsg
  rw [List.append_left_inj, List.append_right_inj]
  exact eq_comm

end Page

section Requests

variable (transport : ManagerId → TransportKind) (bandwidth : VaraBandwidth) (timeoutSecs : Nat)
variable (remembered : ManagerId → Text)

/-- The background task serves the command, if it takes it. -/
def serveTaken (manager : ManagerId) (ticket : TicketId) (command : Command)
    (next : Option (TicketId × Command)) : LinkRoutine Unit :=
  if next = some (ticket, command) then do
    let _ ← (serve manager timeoutSecs (remembered manager) ticket command).expand
      (method (transport manager) bandwidth)
    return ()
  else return ()

/-- A command that is queued is served before the handler goes on to wait for the reply. -/
def submitServed (manager : ManagerId) (ticket : TicketId) (command : Command) :
    LinkRoutine Bool := do
  let queued ← Program.ask (LinkOp.shared (.submit manager ticket command))
  if queued then
    let next ← Program.ask (LinkOp.shared (.nextCommand manager))
    serveTaken transport bandwidth timeoutSecs remembered manager ticket command next
    return true
  else return false

/-- What an operation of a handler is, with the work of the background task. -/
def served : (op : Op) → LinkRoutine (Answer op)
  | .submit manager ticket command =>
    submitServed transport bandwidth timeoutSecs remembered manager ticket command
  | op => Program.ask (LinkOp.shared op)

/-- The error in a response. -/
def reported {α : Type} : Except Text α → Option Text
  | .ok _ => none
  | .error message => some message

/-- The error that a request is answered with, if it fails. The page names no transport. -/
def PageRequest.failure : PageRequest → LinkRoutine (Option Text)
  | .ax25Connect target portNum => do
    let response ← (apiConnectHandler ⟨target, portNum, none⟩).expand
      (served transport bandwidth timeoutSecs remembered)
    return reported response
  | .submitConsent decision => do
    let response ← (apiConsentPost decision).expand
      (served transport bandwidth timeoutSecs remembered)
    return reported response

/-- Reply channels are fresh, and bring the reply that was sent if one was sent; a new
manager has the transport it was made with. -/
def deliversIn (world : World) : (op : LinkOp) → LinkAnswer op → Bool
  | .shared .newReply, ticket => world.replies ticket == none
  | .shared (.awaitReply _ ticket), answer => world.replies ticket == answer
  | .shared (.spawnManager impl), manager => (transport manager).impl == impl
  | _, _ => true

/-- The event is one that the transport of its manager can deliver. -/
def delivers (now : LinkMoment) (event : LinkEvent) : Prop :=
  deliversIn transport now.world.client event.op event.answer = true

end Requests

section Words

/-! What came from outside with an answer, as far as it may show in an error. -/

/-- The text of an error of a transport that came from elsewhere. -/
def TransportError.words : TransportError → Text
  | .io message => message
  | .modemError message => message
  | .sessionRejected message => message
  | .notConnected => []
  | .timeout => []

/-- What an event says in words. -/
def TransportEvent.words : TransportEvent → Text
  | .data _ => []
  | .disconnected reason => reason

/-- The words of a result with an event. -/
def recvWords : Except TransportError TransportEvent → Text
  | .ok event => event.words
  | .error err => err.words

/-- The words of a result with a frame. -/
def frameWords : Except AgwpeError AgwpeFrame → Text
  | .ok frame => frame.event.words
  | .error err => err.display

/-- What the answer of this modem says in words. -/
def agwpeWords : (op : AgwpeOp) → AgwpeAnswer op → Text
  | .connectTcp, .error message => message
  | .writeFrame _, .error message => message
  | .flush, .error message => message
  | .readFrame, result => frameWords result
  | _, _ => []

/-- What a line of the other modem says in words. -/
def responseWords : VaraResponse → Text
  | .connected localCall remote => localCall ++ remote
  | .missing field => field
  | .unknown line => line
  | _ => []

/-- The words of a result with a line. -/
def lineWords : Except TransportError Text → Text
  | .ok line => responseWords (parseLine line)
  | .error err => err.words

/-- What the answer of the other modem says in words. -/
def varaWords : (op : VaraOp) → VaraAnswer op → Text
  | .connect _, .error message => message
  | .write _ _, .error message => message
  | .flush _, .error message => message
  | .readCmd, .failed message => message
  | .select, .data (.error message) => message
  | .takeLine, some line => responseWords (parseLine line)
  | _, _ => []

/-- The words of an answer of the transport. -/
def heard (event : LinkEvent) : Option Text :=
  match event.op, event.answer with
  | .agwpe op, answer => some (agwpeWords op answer)
  | .vara op, answer => some (varaWords op answer)
  | _, _ => none

/-- The words of the latest answer of the transport. -/
def lastWords (history : List LinkEvent) : Text := (history.findSome? heard).getD []

/-- A text of characters that are no markup has none. -/
theorem marks_eq_nil {text : Text} (plain : ∀ c ∈ text, isMarkup c = false) : marks text = [] :=
  List.filter_eq_nil_iff.mpr fun c member => by simp [plain c member]

/-- A printed number has no markup. -/
theorem printNat_marks (n : Nat) : marks (Decimal.printNat n) = [] := by
  apply marks_eq_nil
  intro c member
  have digit := Decimal.print_digit n c member
  unfold isMarkup
  by_contra markup
  simp only [Bool.not_eq_false, Bool.or_eq_true, beq_iff_eq] at markup
  rcases markup with (rfl | rfl) | rfl <;> exact absurd digit (by decide)

/-- The number of a character that is not shown is no markup, and neither is the character. -/
theorem hidden_marks {c : Char} (hides : Unicode.shown c = false) :
    marks (Unicode.escape c) = marks [c] := by
  have digits : marks (Nat.toDigits 16 c.toNat) = [] := by
    apply List.filter_eq_nil_iff.mpr
    intro d member
    obtain ⟨digit, small, rfl⟩ := Unicode.digitChar_of_mem_toDigits (by decide) member
    have every : ∀ digit < 16, ¬ isMarkup (Nat.digitChar digit) = true := by decide
    exact every digit small
  have plain : isMarkup c = false := by
    unfold isMarkup
    by_contra markup
    simp only [Bool.not_eq_false, Bool.or_eq_true, beq_iff_eq] at markup
    rcases markup with (rfl | rfl) | rfl <;> exact absurd hides (by decide)
  have front : marks "\\u\x7b".toList = [] := by decide
  have back : marks "\x7d".toList = [] := by decide
  rw [Unicode.escape, marks_around _ _ front back, digits]
  simp [marks, plain]

/-- A character keeps its markup in debug output. -/
theorem escapeDebug_marks (c : Char) : marks (escapeDebug c) = marks [c] := by
  unfold escapeDebug
  split
  · subst c
    decide
  · split
    · subst c
      decide
    · split
      · subst c
        decide
      · split
        · subst c
          decide
        · split
          · subst c
            decide
          · split
            · rename_i zero
              obtain rfl : c = Char.ofNat 0 := by rw [← zero, Char.ofNat_toNat]
              decide
            · split
              · rfl
              · rename_i hides
                exact hidden_marks (Bool.eq_false_iff.mpr hides)

/-- Quoted text contains the markup of the text. -/
theorem debugText_marks (text : Text) : marks (debugText text) = marks text := by
  have body : marks (text.flatMap escapeDebug) = marks text := by
    induction text with
    | nil => rfl
    | cons c text inductionHypothesis =>
      rw [List.flatMap_cons, marks_append, inductionHypothesis, escapeDebug_marks, ← marks_cons]
  rw [← body]
  exact marks_around ['"'] ['"'] (by decide) (by decide)

/-- A line of the modem keeps its markup in debug output. -/
theorem debug_marks (response : VaraResponse) :
    marks response.debug = marks (responseWords response) := by
  cases response with
  | connected localCall remote =>
    have front : marks "Connected \x7b local: ".toList = [] := by decide
    have middle : marks ", remote: ".toList = [] := by decide
    have back : marks " \x7d".toList = [] := by decide
    show marks ("Connected \x7b local: ".toList ++ debugText localCall ++
      ", remote: ".toList ++ debugText remote ++ " \x7d".toList) = marks (localCall ++ remote)
    simp only [marks_append, debugText_marks, front, middle, back, List.nil_append,
      List.append_nil]
  | buffer count =>
    show marks ("Buffer(".toList ++ Decimal.printNat count ++ ")".toList) = marks []
    rw [marks_around _ _ (by decide) (by decide), printNat_marks]
    rfl
  | missing field =>
    show marks ("Missing(".toList ++ debugText field ++ ")".toList) = marks field
    rw [marks_around _ _ (by decide) (by decide), debugText_marks]
  | unknown line =>
    show marks ("Unknown(".toList ++ debugText line ++ ")".toList) = marks line
    rw [marks_around _ _ (by decide) (by decide), debugText_marks]
  | _ => decide

/-- An error shows the words of the error of the transport. -/
theorem transportErr_marks (err : TransportError) :
    marks (transportErrToAgwpe err).display = marks err.words := by
  cases err with
  | notConnected => decide
  | timeout => decide
  | io message => exact marks_behind _ (by decide)
  | modemError message => exact marks_behind _ (by decide)
  | sessionRejected message => exact marks_behind _ (by decide)

/-- An error keeps its markup when it becomes an error of a transport. -/
theorem agwpeErr_marks (err : AgwpeError) :
    marks (agwpeToTransportErr err).words = marks err.display := by
  cases err with
  | io message => exact (marks_behind _ (by decide)).symm
  | timeout => decide
  | notConnected => decide
  | _ => rfl

end Words

section Hearing

variable (transport : ManagerId → TransportKind)

/-- A run of a request, among whatever else is done to the shared state. -/
def hearing : Setting LinkWorld Unit LinkAnswer where
  exec := linkExec
  meets := delivers transport
  inv := fun _ => True

variable {transport}

/-- The latest answer of the transport has the markup of the text. -/
def Says (text : Text) (now : LinkMoment) : Prop := marks (lastWords now.history) = marks text

/-- The latest answer of the transport has no markup, where that matters. -/
def Calm (matters : Prop) (now : LinkMoment) : Prop := matters → Says [] now

/-- A success leaves calm, and a failure shows what the transport has answered. -/
def Tells {α ε : Type} (words : ε → Text) (calm : Prop) : Except ε α → LinkMoment → Prop :=
  outcome (fun _ => Calm calm) fun err => Says (words err)

/-- The result of an operation shows the words of its answer. -/
def Conveys {α ε : Type} (words : ε → Text) (text : Text) : Except ε α → Prop
  | .ok _ => marks text = []
  | .error err => marks text = marks (words err)

variable {α β ε : Type} {pre : LinkMoment → Prop} {matters : Prop} {words : ε → Text}

/-- Where nothing is asked, every moment is calm. -/
theorem calm_false (now : LinkMoment) : Calm False now := False.elim

/-- An operation of this modem says what its answer says. -/
theorem hear_agwpe {op : AgwpeOp} :
    (hearing transport).Triple () pre (Program.ask (LinkOp.agwpe op))
      fun answer => Says (agwpeWords op answer) := by
  apply triple_ask (stable_alone _) (fun _ => stable_alone _)
  intro now answer later _ moves
  refine ⟨trivial, ?_⟩
  unfold Says
  rw [moves.occurs.2]
  rfl

/-- An operation of the other modem says what its answer says. -/
theorem hear_vara {op : VaraOp} :
    (hearing transport).Triple () pre (Program.ask (LinkOp.vara op))
      fun answer => Says (varaWords op answer) := by
  apply triple_ask (stable_alone _) (fun _ => stable_alone _)
  intro now answer later _ moves
  refine ⟨trivial, ?_⟩
  unfold Says
  rw [moves.occurs.2]
  rfl

/-- The shared state says nothing of the transport. -/
def LinkOp.isShared : LinkOp → Prop
  | .shared _ => True
  | _ => False

/-- What only the client does changes nothing about the last words. -/
theorem shared_kept {program : LinkRoutine α} (only : program.Only LinkOp.isShared)
    (assertion : Text → Prop) :
    (hearing transport).Triple () (fun now => assertion (lastWords now.history)) program
      fun _ now => assertion (lastWords now.history) := by
  apply triple_only (stable_alone _) only
  intro op shared now answer later holds moves
  refine ⟨trivial, ?_⟩
  rw [moves.occurs.2]
  cases op with
  | shared op => exact holds
  | _ => exact shared.elim

/-- Nothing is promised of any program. -/
theorem anything (program : LinkRoutine α) :
    (hearing transport).Triple () pre program fun _ _ => True :=
  triple_only (stable_const True) (only_any program) (fun _ _ _ _ _ _ _ => ⟨trivial, trivial⟩)
    |>.consequence (fun _ _ => trivial) fun _ _ _ => trivial

/-- What the last round of a loop leaves. -/
theorem hear_loop {σ : Type} {body : σ → LinkRoutine (σ ⊕ α)} {post : α → LinkMoment → Prop}
    (each : ∀ state, (hearing transport).Triple () (fun _ => True) (body state)
      (Sum.elim (fun _ _ => True) post)) (state : σ) :
    (hearing transport).Triple () pre (Program.loop body state) post :=
  (triple_loop (fun _ _ => True) (fun _ => stable_alone _) (fun _ => stable_alone _) each
    state).consequence (fun _ _ => trivial) fun _ _ => id

section Attempts

variable {Inner : Type} {InnerAnswer : Inner → Type}
variable {inner : (op : Inner) → LinkRoutine (InnerAnswer op)}

/-- One part after the other. -/
theorem tells_attempt {first : ExceptT ε (Program Inner InnerAnswer) α}
    {after : α → ExceptT ε (Program Inner InnerAnswer) β} (between : Prop)
    (one : (hearing transport).Triple () pre (first.run.expand inner) (Tells words between))
    (two : ∀ value, (hearing transport).Triple () (Calm between)
      ((after value).run.expand inner) (Tells words matters)) :
    (hearing transport).Triple () pre ((first >>= after).run.expand inner)
      (Tells words matters) :=
  triple_expand_attempt (fun _ => Calm between) (fun _ => stable_alone _) one two

/-- A part that does not fail. -/
theorem tells_lift (program : Program Inner InnerAnswer α) :
    (hearing transport).Triple () pre
      ((ExceptT.lift program : ExceptT ε (Program Inner InnerAnswer) α).run.expand inner)
      (Tells words False) :=
  triple_expand_bind (fun _ _ => True) (anything _) fun _ =>
    triple_done (stable_alone _) fun now _ => calm_false now

end Attempts

end Hearing

section Transports

variable {transport : ManagerId → TransportKind} {α ε : Type} {pre : LinkMoment → Prop}
variable {matters : Prop} {words : ε → Text}

/-- A result that conveys what was said tells it. -/
theorem conveys_tells {result : Except ε α} {text : Text} (conveys : Conveys words text result)
    (now : LinkMoment) (spoken : Says text now) : Tells words matters result now := by
  cases result with
  | ok value => exact fun _ => spoken.trans conveys
  | error err => exact spoken.trans conveys

/-- One operation decides the result. -/
theorem agwpe_tells {op : AgwpeOp} {result : AgwpeAnswer op → Except ε α}
    (conveys : ∀ answer, Conveys words (agwpeWords op answer) (result answer)) :
    (hearing transport).Triple () pre
      (onAgwpe (Program.ask op >>= fun answer => pure (result answer))) (Tells words matters) :=
  triple_bind (fun answer => Says (agwpeWords op answer)) hear_agwpe fun answer =>
    triple_done (stable_alone _) (conveys_tells (conveys answer))

/-- An operation of the modem whose result conveys its answer tells it. -/
theorem vara_tells {op : VaraOp} {result : VaraAnswer op → Except ε α}
    (conveys : ∀ answer, Conveys words (varaWords op answer) (result answer)) :
    (hearing transport).Triple () pre
      (onVara (Program.ask op >>= fun answer => pure (result answer))) (Tells words matters) :=
  triple_bind (fun answer => Says (varaWords op answer)) hear_vara fun answer =>
    triple_done (stable_alone _) (conveys_tells (conveys answer))

/-- An error in the words of the trait shows the same. -/
theorem mapTransportErr_tells {attempt : AgwpeAttempt AgwpeError α}
    (tells : (hearing transport).Triple () pre (onAgwpe attempt.run)
      (Tells AgwpeError.display matters)) :
    (hearing transport).Triple () pre (onAgwpe (mapTransportErr attempt).run)
      (Tells TransportError.words matters) := by
  apply triple_expand_bind _ tells
  intro result
  apply triple_done (stable_alone _)
  intro now holds
  cases result with
  | ok value => exact holds
  | error err => exact holds.trans (agwpeErr_marks err).symm

/-- The error that there is no connection tells no words. -/
theorem requireConnected_tells {notConnected : ε} (plain : marks (words notConnected) = []) :
    (hearing transport).Triple () pre (onAgwpe (requireConnected notConnected).run)
      (Tells words matters) := by
  apply agwpe_tells
  intro connected
  cases connected with
  | true => rfl
  | false => exact plain.symm

/-- Writing a frame tells what the connection says. -/
theorem writeFrame_tells (frame : AgwpeFrame) :
    (hearing transport).Triple () pre (onAgwpe (writeFrame frame).run)
      (Tells AgwpeError.display matters) := by
  apply agwpe_tells
  intro answer
  cases answer with
  | ok written => rfl
  | error message => exact (marks_behind _ (by decide)).symm

/-- Flushing tells what the connection says. -/
theorem flush_tells :
    (hearing transport).Triple () pre (onAgwpe Agwpe.flush.run)
      (Tells AgwpeError.display matters) := by
  apply agwpe_tells
  intro answer
  cases answer with
  | ok written => rfl
  | error message => exact (marks_behind _ (by decide)).symm

/-- Sending a frame tells what the connection says. -/
theorem sendFrameInternal_tells (frame : AgwpeFrame) :
    (hearing transport).Triple () pre (onAgwpe (sendFrameInternal frame).run)
      (Tells AgwpeError.display matters) := by
  apply tells_attempt False (requireConnected_tells (by decide))
  intro _
  apply tells_attempt False (writeFrame_tells frame)
  exact fun _ => flush_tells

/-- Sending pieces tells what the connection said last. -/
theorem sendChunks_tells (pieces : List Bytes) :
    (hearing transport).Triple () (Calm False) (onAgwpe (sendChunks pieces).run)
      (Tells AgwpeError.display False) := by
  induction pieces with
  | nil => exact triple_done (stable_alone _) fun _ => id
  | cons chunk others inductionHypothesis =>
    apply tells_attempt False (tells_lift _)
    intro target
    apply tells_attempt False (writeFrame_tells _)
    exact fun _ => inductionHypothesis

/-- Sending data tells what the connection said last. -/
theorem send_tells (data : Bytes) :
    (hearing transport).Triple () pre (onAgwpe (Agwpe.send data).run)
      (Tells TransportError.words False) := by
  apply tells_attempt False (requireConnected_tells (by decide))
  intro _
  apply mapTransportErr_tells
  apply tells_attempt False (sendChunks_tells _)
  exact fun _ => flush_tells

/-- Reading a frame tells what the frame says. -/
theorem readFrame_tells (deadline : Nat) :
    (hearing transport).Triple () pre (onAgwpe (readFrameWithTimeoutDeadline deadline))
      fun result => Says (frameWords result) := by
  apply triple_expand_bind (fun _ => Says [])
  · exact hear_agwpe
  · intro now
    split
    · exact triple_done (stable_alone _) fun _ => id
    · exact hear_agwpe

/-- Waiting for an event tells what the frame says. -/
theorem recv_tells (timeoutSecs : Nat) :
    (hearing transport).Triple () pre (onAgwpe (agwpeRecv timeoutSecs))
      fun result => Says (recvWords result) := by
  apply triple_expand_bind (fun _ _ => True) (anything _)
  intro now
  apply triple_expand_attempt (fun frame => Says frame.event.words) (fun _ => stable_alone _)
  · apply triple_expand_bind _ (readFrame_tells _)
    intro result
    apply triple_done (stable_alone _)
    intro now spoken
    cases result with
    | ok frame => exact spoken
    | error err => exact spoken.trans (agwpeErr_marks err).symm
  · exact fun frame => triple_done (stable_alone _) fun _ => id

/-- A frame decides what it means while the link is awaited: a rejection shows the text of
the frame. -/
theorem linkStep_tells (result : Except AgwpeError AgwpeFrame) (now : LinkMoment)
    (spoken : Says (frameWords result) now) :
    Sum.elim (fun _ _ => True) (Tells TransportError.words False) (linkStep result) now := by
  cases result with
  | error err => exact spoken.trans (agwpeErr_marks err).symm
  | ok frame =>
    unfold linkStep
    dsimp only
    split
    · exact calm_false now
    · split
      · rename_i rejected
        have words : frame.event.words =
            "connection rejected by peer: ".toList ++ Utf8.lossy frame.data := by
          unfold AgwpeFrame.event
          rw [rejected]
          rfl
        show Says _ now
        rw [← words]
        exact spoken
      · trivial

/-- Waiting for a link tells what the last frame says. -/
theorem awaitLink_tells :
    (hearing transport).Triple () pre (onAgwpe awaitLink.run)
      (Tells TransportError.words False) := by
  apply triple_expand_bind (fun _ _ => True) (anything _)
  intro now
  apply hear_loop
  intro _
  apply triple_expand_bind _ (readFrame_tells _)
  exact fun result => triple_done (stable_alone _) (linkStep_tells result)

/-- Opening a link tells what was said last. -/
theorem openAx25Link_tells :
    (hearing transport).Triple () pre (onAgwpe Agwpe.openAx25Link.run)
      (Tells TransportError.words False) := by
  apply tells_attempt False (requireConnected_tells (by decide))
  intro _
  apply tells_attempt False (tells_lift _)
  intro target
  apply tells_attempt False (mapTransportErr_tells (sendFrameInternal_tells _))
  exact fun _ => awaitLink_tells

/-- An operation whose answer has no words. -/
theorem vara_wordless {op : VaraOp} (wordless : ∀ answer, varaWords op answer = []) :
    (hearing transport).Triple () pre (onVara (Vara.perform op).run)
      (Tells TransportError.words matters) := by
  apply triple_bind (fun answer => Says (varaWords op answer)) hear_vara
  intro answer
  apply triple_done (stable_alone _)
  intro now spoken _
  rw [wordless answer] at spoken
  exact spoken

/-- The error that a port is closed tells no words. -/
theorem requireOpen_tells (port : Port) :
    (hearing transport).Triple () pre (onVara (requireOpen port).run)
      (Tells TransportError.words matters) := by
  apply vara_tells
  intro connected
  cases connected <;> rfl

/-- Connecting a port tells what it says. -/
theorem connectPort_tells (port : Port) :
    (hearing transport).Triple () pre (onVara (Vara.connect port).run)
      (Tells TransportError.words matters) := by
  apply vara_tells
  intro answer
  cases answer <;> rfl

/-- Writing to a port tells what it says. -/
theorem writePort_tells (port : Port) (bytes : Bytes) :
    (hearing transport).Triple () pre (onVara (Vara.write port bytes).run)
      (Tells TransportError.words matters) := by
  apply vara_tells
  intro answer
  cases answer <;> rfl

/-- Flushing a port tells what it says. -/
theorem flushPort_tells (port : Port) :
    (hearing transport).Triple () pre (onVara (Vara.flush port).run)
      (Tells TransportError.words matters) := by
  apply vara_tells
  intro answer
  cases answer <;> rfl

/-- Sending a command tells what the port says. -/
theorem sendCmd_tells (line : Text) :
    (hearing transport).Triple () pre (onVara (sendCmd line).run)
      (Tells TransportError.words matters) := by
  apply tells_attempt False (requireOpen_tells _)
  intro _
  apply tells_attempt False (writePort_tells _ _)
  intro _
  apply tells_attempt False (writePort_tells _ _)
  exact fun _ => flushPort_tells _

/-- A round of the reader ends with what the port has brought. -/
theorem readLineRound_tells (deadline : Nat) :
    (hearing transport).Triple () pre (onVara (readLineRound deadline))
      (Sum.elim (fun _ _ => True) fun result => Says (lineWords result)) := by
  apply triple_expand_bind (fun taken => Says (varaWords .takeLine taken)) hear_vara
  intro taken
  cases taken with
  | some line => exact triple_done (stable_alone _) fun _ => id
  | none =>
    apply triple_expand_bind (fun _ => Says []) hear_vara
    intro now
    split
    · exact triple_done (stable_alone _) fun _ => id
    · apply triple_expand_bind (fun _ => Says []) hear_vara
      intro connected
      split
      · apply triple_expand_bind (fun answer => Says (varaWords .readCmd answer)) hear_vara
        intro answer
        apply triple_done (stable_alone _)
        intro now spoken
        cases answer with
        | bytes batch => trivial
        | _ => exact spoken
      · exact triple_done (stable_alone _) fun _ => id

/-- Reading a line tells what the line says. -/
theorem readCmdLine_tells (deadline : Nat) :
    (hearing transport).Triple () pre (onVara (readCmdLine deadline))
      fun result => Says (lineWords result) := by
  apply hear_loop
  exact fun _ => readLineRound_tells deadline

/-- The outcome of a command conveys what the line says. -/
theorem okOutcome_conveys (response : VaraResponse) :
    Conveys TransportError.words (responseWords response) (okOutcome response) := by
  have shown := debug_marks response
  cases response with
  | ok => rfl
  | missing field => exact (marks_behind _ (by decide)).symm
  | _ => exact shown.symm.trans (marks_behind _ (by decide)).symm

/-- Waiting for an acknowledgement tells what the line says. -/
theorem awaitOk_tells :
    (hearing transport).Triple () pre (onVara awaitOk.run)
      (Tells TransportError.words matters) := by
  apply tells_attempt False (tells_lift _)
  intro now
  apply triple_expand_attempt (fun line => Says (responseWords (parseLine line)))
    (fun _ => stable_alone _)
  · apply (readCmdLine_tells _).consequence (fun _ => id)
    intro result now spoken
    cases result with
    | ok line => exact spoken
    | error err => exact spoken
  · intro line
    exact triple_done (stable_alone _) (conveys_tells (okOutcome_conveys _))

/-- Sending commands tells what was said last. -/
theorem sendAll_tells (lines : List Text) :
    (hearing transport).Triple () (Calm True) (onVara (sendAll lines).run)
      (Tells TransportError.words True) := by
  induction lines with
  | nil => exact triple_done (stable_alone _) fun _ => id
  | cons line lines inductionHypothesis =>
    apply tells_attempt False (sendCmd_tells line)
    intro _
    apply tells_attempt True awaitOk_tells
    exact fun _ => inductionHypothesis

/-- The calls to connect the modem begin while all is calm. -/
theorem connectVaraModem_tells (config : TransportConfig) (bandwidth : VaraBandwidth) :
    (hearing transport).Triple () (Calm True) (onVara (Vara.connectModem config bandwidth).run)
      (Tells TransportError.words True) := by
  unfold Vara.connectModem
  split
  · exact triple_done (stable_alone _) fun now calm => calm trivial
  · apply tells_attempt False (connectPort_tells _)
    intro arriving
    apply tells_attempt False (connectPort_tells _)
    intro _
    apply tells_attempt True
    · exact vara_wordless fun _ => rfl
    · exact fun _ => sendAll_tells _

/-- The outcome of a call conveys what the line says. -/
theorem connectOutcome_tells (response : VaraResponse) (now : LinkMoment)
    (spoken : Says (responseWords response) now) :
    Sum.elim (fun _ _ => True) (Tells TransportError.words False) (connectOutcome response)
      now := by
  have shown := debug_marks response
  cases response with
  | pending => trivial
  | connected localCall remote => exact calm_false now
  | disconnected => exact spoken
  | busyDetected => exact spoken
  | unknown line => trivial
  | _ => exact spoken.trans (shown.symm.trans (marks_behind _ (by decide)).symm)

/-- Opening a session tells what the modem said last. -/
theorem openVaraSession_tells (config : SessionConfig) :
    (hearing transport).Triple () pre (onVara (Vara.openSession config).run)
      (Tells TransportError.words False) := by
  apply tells_attempt False (sendCmd_tells _)
  intro _
  apply tells_attempt False awaitOk_tells
  intro _
  apply tells_attempt False (sendCmd_tells _)
  intro _
  apply tells_attempt False (tells_lift _)
  intro now
  apply hear_loop
  intro _
  apply triple_expand_bind _ (readCmdLine_tells _)
  intro result
  cases result with
  | error err => exact triple_done (stable_alone _) fun _ => id
  | ok line => exact triple_done (stable_alone _) (connectOutcome_tells _)

/-- Sending data tells what the modem said last. -/
theorem sendVara_tells (data : Bytes) :
    (hearing transport).Triple () pre (onVara (Vara.send data).run)
      (Tells TransportError.words False) := by
  apply tells_attempt False (requireOpen_tells _)
  intro _
  apply tells_attempt False (writePort_tells _ _)
  exact fun _ => flushPort_tells _

/-- The outcome of a line conveys what the line says. -/
theorem lineOutcome_tells (result : Except TransportError Text) (now : LinkMoment)
    (spoken : Says (lineWords result) now) :
    Sum.elim (fun _ _ => True) (fun result => Says (recvWords result)) (lineOutcome result)
      now := by
  cases result with
  | error err =>
    cases err with
    | timeout => trivial
    | _ => exact spoken
  | ok line =>
    unfold lineOutcome
    dsimp only
    split
    · rename_i ended
      have words : Says (responseWords (parseLine line)) now := spoken
      rw [ended] at words
      exact words
    · trivial

/-- A round of waiting tells what was said last. -/
theorem recvRound_tells (deadline : Nat) :
    (hearing transport).Triple () pre (onVara (recvRound deadline))
      (Sum.elim (fun _ _ => True) fun result => Says (recvWords result)) := by
  apply triple_expand_bind (fun _ => Says []) hear_vara
  intro now
  split
  · exact triple_done (stable_alone _) fun _ => id
  · apply triple_expand_bind (fun _ => Says []) hear_vara
    intro data
    split
    · apply triple_expand_bind (fun _ => Says []) hear_vara
      intro cmd
      split
      · apply triple_expand_bind (fun selected => Says (varaWords .select selected)) hear_vara
        intro selected
        cases selected with
        | slept => exact triple_done (stable_alone _) fun _ _ => trivial
        | data result =>
          apply triple_done (stable_alone _)
          intro now spoken
          rcases result with message | bytes
          · exact spoken
          · cases bytes with
            | nil => exact spoken
            | cons byte bytes => exact spoken
        | cmdReady =>
          apply triple_expand_bind (fun _ => Says []) hear_vara
          intro now
          apply triple_expand_bind _ (readCmdLine_tells _)
          exact fun result => triple_done (stable_alone _) (lineOutcome_tells result)
      · exact triple_done (stable_alone _) fun _ => id
    · exact triple_done (stable_alone _) fun _ => id

/-- Waiting for an event tells what the modem said last. -/
theorem recvVara_tells (timeoutSecs : Nat) :
    (hearing transport).Triple () pre (onVara (varaRecv timeoutSecs))
      fun result => Says (recvWords result) := by
  apply triple_expand_bind (fun _ _ => True) (anything _)
  intro now
  apply hear_loop
  exact fun _ => recvRound_tells _

end Transports

section Driver

variable {transport : ManagerId → TransportKind} {kind : TransportKind} {bandwidth : VaraBandwidth}
variable {manager : ManagerId} {pre : LinkMoment → Prop} {α ε : Type} {matters : Prop}
variable {words : ε → Text}

/-- What a method says is what the operation of the transport says. -/
theorem hear_method {inner : (op : Op) → LinkRoutine (Answer op)} {op : Op}
    {post : Answer op → LinkMoment → Prop}
    (triple : (hearing transport).Triple () pre (inner op) post) :
    (hearing transport).Triple () pre ((Program.ask op : Routine _).expand inner) post :=
  triple_bind post triple fun _ => triple_done (stable_alone _) fun _ => id

/-- An error of a transport says the same as one of the protocol. -/
theorem mapErr_tells {result : Except TransportError α} {now : LinkMoment}
    (tells : Tells TransportError.words matters result now) :
    Tells AgwpeError.display matters (mapErr result) now := by
  cases result with
  | ok value => exact tells
  | error err => exact tells.trans (transportErr_marks err).symm

/-- A call of the modem tells what its method does. -/
theorem callModem_tells {call : ModemCall}
    (tells : (hearing transport).Triple () pre (modemMethod kind bandwidth call)
      (Tells TransportError.words matters)) :
    (hearing transport).Triple () pre
      ((callModem manager call).run.expand (method kind bandwidth))
      (Tells AgwpeError.display matters) := by
  have answered : (hearing transport).Triple () pre
      (method kind bandwidth (.modem manager call))
      fun answer => Tells TransportError.words matters answer.result :=
    triple_bind _ tells fun _ => triple_done (stable_alone _) fun _ => id
  apply triple_expand_bind _ (hear_method answered)
  exact fun answer => triple_done (stable_alone _) fun _ => mapErr_tells

/-- Sending bytes tells what the transport said last. -/
theorem sendBytes_tells (purpose : Purpose) (data : Bytes) :
    (hearing transport).Triple () pre
      ((sendBytes manager purpose data).run.expand (method kind bandwidth))
      (Tells AgwpeError.display False) := by
  have answered : (hearing transport).Triple () pre
      (method kind bandwidth (.send manager purpose data))
      (Tells TransportError.words False) := by
    cases kind with
    | ax25 => exact send_tells data
    | varaFm => exact sendVara_tells data
    | varaHf => exact sendVara_tells data
  apply triple_expand_bind _ (hear_method answered)
  exact fun answer => triple_done (stable_alone _) fun _ => mapErr_tells

/-- Receiving tells what the event says. -/
theorem recv_method_tells (timeoutSecs : Nat) :
    (hearing transport).Triple () pre (method kind bandwidth (.recv manager timeoutSecs))
      fun result => Says (recvWords result) := by
  cases kind with
  | ax25 => exact recv_tells timeoutSecs
  | varaFm => exact recvVara_tells timeoutSecs
  | varaHf => exact recvVara_tells timeoutSecs

/-- A disconnect while text is collected shows its reason; the text itself does not show. -/
theorem awaitStep_tells (found : Text → Bool) (received : Text)
    (answer : Except TransportError TransportEvent) (now : LinkMoment)
    (spoken : Says (recvWords answer) now) :
    Sum.elim (fun _ _ => True) (Tells AgwpeError.display True) (awaitStep found received answer)
      now := by
  cases answer with
  | error err => exact spoken.trans (transportErr_marks err).symm
  | ok event =>
    cases event with
    | disconnected reason =>
      exact spoken.trans ((marks_behind _ (by decide)).trans (marks_behind _ (by decide))).symm
    | data bytes =>
      unfold awaitStep collectText
      dsimp only
      split
      · exact spoken
      · split
        · exact fun _ => spoken
        · trivial

/-- Waiting for a text tells what the event says that ends it. -/
theorem awaitText_tells (found : Text → Bool) :
    (hearing transport).Triple () pre
      ((awaitText manager found).run.expand (method kind bandwidth))
      (Tells AgwpeError.display True) := by
  rw [awaitText_run]
  apply hear_loop
  intro received
  apply triple_expand_bind _ (hear_method (recv_method_tells 30))
  exact fun answer => triple_done (stable_alone _) (awaitStep_tells found received answer)

/-- The shared state is looked at and changed while all stays as it is said. -/
theorem shared_calm {program : Routine α}
    (only : (program.expand (method kind bandwidth)).Only LinkOp.isShared) :
    (hearing transport).Triple () (Calm matters) (program.expand (method kind bandwidth))
      fun _ => Calm matters :=
  shared_kept only fun words => matters → marks words = []

/-- Putting a state on display says nothing. -/
theorem setState_silent (state : ConnectionState) :
    ((setState state).expand (method kind bandwidth)).Only LinkOp.isShared := only_ask _ trivial

/-- Sending the command to the node tells what the transport said last. -/
theorem bpqSendAppCommand_tells :
    (hearing transport).Triple () pre
      ((bpqSendAppCommand manager).run.expand (method kind bandwidth))
      (Tells AgwpeError.display False) := by
  apply tells_attempt False (tells_lift _)
  exact fun _ => sendBytes_tells _ _

/-- Entering the application tells what the transport said last. -/
theorem enterApplication_tells (skipBpqApp : Bool) :
    (hearing transport).Triple () pre
      ((enterApplication manager skipBpqApp).run.expand (method kind bandwidth))
      (Tells AgwpeError.display False) := by
  cases skipBpqApp with
  | true => exact triple_done (stable_alone _) fun now _ => calm_false now
  | false => exact bpqSendAppCommand_tells

/-- The handshake up to the disclaimer tells what the transport said last. -/
theorem receiveDisclaimer_tells (localCallsign : Text) :
    (hearing transport).Triple () pre
      ((receiveDisclaimer manager localCallsign).run.expand (method kind bandwidth))
      (Tells AgwpeError.display True) := by
  apply tells_attempt False (tells_lift _)
  intro config
  apply tells_attempt False (enterApplication_tells _)
  intro _
  apply tells_attempt False
  · apply tells_attempt True (awaitText_tells _)
    exact fun _ => sendBytes_tells _ _
  · exact fun _ => awaitText_tells _

/-- The prompt fails without the transport. -/
theorem askOperator_tells (receivedText : Text) :
    (hearing transport).Triple () (Calm True)
      ((askOperator receivedText).run.expand (method kind bandwidth))
      (Tells AgwpeError.display False) := by
  apply triple_expand_attempt (fun _ => Calm True) (fun _ => stable_alone _)
  · apply triple_expand_bind (fun _ => Calm True) (shared_calm (only_ask _ trivial))
    exact fun consent => triple_done (stable_alone _) fun _ => id
  · intro consent
    apply tells_attempt True
    · apply triple_expand_bind (fun _ => Calm True) (shared_calm (only_ask _ trivial))
      intro waited
      cases waited with
      | decided accepted => exact triple_done (stable_alone _) fun _ => id
      | senderDropped => exact triple_done (stable_alone _) fun _ => id
      | timedOut =>
        apply triple_expand_bind (fun _ => Calm True) (shared_calm (only_ask _ trivial))
        exact fun _ => triple_done (stable_alone _) fun now calm => calm trivial
    · intro accepted
      cases accepted with
      | true => exact triple_done (stable_alone _) fun now _ => calm_false now
      | false => exact triple_done (stable_alone _) fun now calm => calm trivial

/-- The handshake tells what the transport said last. -/
theorem performBpqHandshake_tells (localCallsign : Text) :
    (hearing transport).Triple () pre
      ((performBpqHandshake manager localCallsign).run.expand (method kind bandwidth))
      (Tells AgwpeError.display False) := by
  apply tells_attempt True (receiveDisclaimer_tells localCallsign)
  intro receivedText
  apply tells_attempt False (askOperator_tells receivedText)
  exact fun _ => sendBytes_tells _ _

/-- The error of a handshake is shown within another one. -/
theorem handshakeAndReport_tells (localCallsign : Text) :
    (hearing transport).Triple () pre
      ((handshakeAndReport manager localCallsign).run.expand (method kind bandwidth))
      (Tells AgwpeError.display False) := by
  apply triple_expand_bind _ (performBpqHandshake_tells localCallsign)
  intro result
  cases result with
  | ok done =>
    apply triple_expand_bind (fun _ => Calm False) (shared_calm (setState_silent _))
    exact fun _ => triple_done (stable_alone _) fun _ => id
  | error err =>
    apply triple_expand_bind (fun _ => Says err.display)
    · exact shared_kept (setState_silent _) fun words => marks words = marks err.display
    · intro _
      apply triple_done (stable_alone _)
      intro now spoken
      exact spoken.trans ((marks_behind _ (by decide)).trans (marks_behind _ (by decide))).symm

/-- Opening a link tells what the transport said last. -/
theorem openLink_tells (target : Text) (portNum : UInt8) (localCallsign : Text) :
    (hearing transport).Triple () pre
      ((openLink manager target portNum localCallsign).run.expand (method kind bandwidth))
      (Tells AgwpeError.display False) := by
  apply tells_attempt False (tells_lift _)
  intro first
  apply tells_attempt False (tells_lift _)
  intro second
  apply tells_attempt False
  · apply callModem_tells
    cases kind with
    | ax25 =>
      apply triple_expand_bind (fun _ _ => True) (anything _)
      exact fun _ => triple_done (stable_alone _) fun now _ => calm_false now
    | varaFm => exact openVaraSession_tells _
    | varaHf => exact openVaraSession_tells _
  · intro _
    apply tells_attempt False (tells_lift _)
    intro _
    apply callModem_tells
    cases kind with
    | ax25 => exact openAx25Link_tells
    | varaFm => exact triple_done (stable_alone _) fun now _ => calm_false now
    | varaHf => exact triple_done (stable_alone _) fun now _ => calm_false now

/-- Opening a session tells what the transport said last. -/
theorem handleOpenSession_tells (target : Text) (portNum : UInt8) (localCallsign : Text) :
    (hearing transport).Triple () pre
      ((handleOpenSession manager target portNum localCallsign).run.expand
        (method kind bandwidth)) (Tells AgwpeError.display False) := by
  apply tells_attempt False (tells_lift _)
  intro _
  apply tells_attempt False (openLink_tells target portNum localCallsign)
  exact fun _ => handshakeAndReport_tells localCallsign

/-- Connecting the modem tells what the transport said last. -/
theorem handleConnectModem_tells (config : TransportConfig) (vara : kind ≠ .ax25) :
    (hearing transport).Triple () (Calm True)
      ((handleConnectModem manager config).run.expand (method kind bandwidth))
      (Tells AgwpeError.display True) := by
  apply callModem_tells
  cases kind with
  | ax25 => exact absurd rfl vara
  | varaFm => exact connectVaraModem_tells config bandwidth
  | varaHf => exact connectVaraModem_tells config bandwidth

end Driver

section Serving

variable {transport : ManagerId → TransportKind} {bandwidth : VaraBandwidth} {timeoutSecs : Nat}
variable {remembered : ManagerId → Text} {manager : ManagerId} {matters : Prop} {α : Type}

/-- A result without a value tells the same as a reply. -/
theorem unitReply_tells {result : Except AgwpeError Unit} {now : LinkMoment}
    (tells : Tells AgwpeError.display matters result now) :
    Tells AgwpeError.display matters (unitReply result) now := by
  cases result with
  | ok done => exact tells
  | error err => exact tells

variable (transport bandwidth timeoutSecs manager matters) in
/-- The reply to a command tells what the transport has answered. -/
def RepliesTell (command : Command) : Prop :=
  ∀ localCallsign, (hearing transport).Triple () (Calm True)
    ((runCommand manager timeoutSecs localCallsign command).expand
      (method (transport manager) bandwidth))
    fun result => Tells AgwpeError.display matters result.1

/-- The reply to opening a session tells what was said last. -/
theorem openSession_replies (target : Text) (portNum : UInt8) :
    RepliesTell transport bandwidth timeoutSecs manager False (.openSession target portNum) := by
  intro localCallsign
  apply triple_expand_bind _ (handleOpenSession_tells target portNum localCallsign)
  exact fun result => triple_done (stable_alone _) fun _ => unitReply_tells

/-- The reply to connecting the modem tells what was said last. -/
theorem connectModem_replies (config : TransportConfig) (vara : transport manager ≠ .ax25) :
    RepliesTell transport bandwidth timeoutSecs manager True (.connectModem config) := by
  intro localCallsign
  apply triple_expand_bind (fun _ => Calm True) (shared_calm (only_ask _ trivial))
  intro _
  apply triple_expand_bind _ (handleConnectModem_tells config vara)
  exact fun result => triple_done (stable_alone _) fun _ => unitReply_tells

/-- No reply has been sent yet, and all is calm. -/
def Unanswered (ticket : TicketId) (now : LinkMoment) : Prop :=
  Calm True now ∧ now.world.client.replies ticket = none

/-- The reply tells what the transport has answered, if one was sent. -/
def Owed (matters : Prop) (ticket : TicketId) (now : LinkMoment) : Prop :=
  match now.world.client.replies ticket with
  | none => Calm True now
  | some result => Tells AgwpeError.display matters result now

/-- A call that is not answered owes nothing yet. -/
theorem unanswered_owed {ticket : TicketId} {now : LinkMoment} (waits : Unanswered ticket now) :
    Owed matters ticket now := by
  unfold Owed
  rw [waits.2]
  exact waits.1

/-- An operation on the shared state, as it changes it. -/
theorem shared_moves {op : Op} {answer : Answer op} {now later : LinkMoment}
    (moves : (hearing transport).Moves now ⟨(), .shared op, answer⟩ later) :
    later.world.client = now.world.client.apply op answer ∧
      lastWords later.history = lastWords now.history := by
  obtain ⟨executed, grown⟩ := moves.occurs
  constructor
  · exact (congrArg LinkWorld.client (Option.some.inj executed)).symm
  · rw [grown]
    rfl

/-- An operation that sends no reply. -/
theorem unanswered_kept {op : Op} {ticket : TicketId}
    (replies : ∀ (world : World) answer, (world.apply op answer).replies = world.replies) :
    (hearing transport).Triple () (Unanswered ticket) (Program.ask (LinkOp.shared op))
      fun _ => Unanswered ticket := by
  apply triple_ask (stable_alone _) (fun _ => stable_alone _)
  intro now answer later waits moves
  obtain ⟨client, words⟩ := shared_moves moves
  refine ⟨trivial, fun given => ?_, ?_⟩
  · unfold Says
    rw [words]
    exact waits.1 given
  · rw [client, replies]
    exact waits.2

/-- A new reply channel has no answer. -/
theorem newReply_unanswered :
    (hearing transport).Triple () (Calm True) (Program.ask (LinkOp.shared .newReply))
      Unanswered := by
  apply triple_ask (stable_alone _) (fun _ => stable_alone _)
  intro now ticket later calm moves
  obtain ⟨client, words⟩ := shared_moves moves
  refine ⟨trivial, fun given => ?_, ?_⟩
  · unfold Says
    rw [words]
    exact calm given
  · rw [client]
    exact beq_iff_eq.mp moves.met

/-- The reply is sent. -/
theorem reply_owed (ticket : TicketId) (result : Reply) :
    (hearing transport).Triple () (Tells AgwpeError.display matters result)
      (Program.ask (LinkOp.shared (.reply ticket result))) fun _ => Owed matters ticket := by
  apply triple_ask (stable_alone _) (fun _ => stable_alone _)
  intro now answer later tells moves
  obtain ⟨client, words⟩ := shared_moves moves
  have sent : later.world.client.replies ticket = some result := by
    rw [client]
    exact assign_self _ _ _
  refine ⟨trivial, ?_⟩
  unfold Owed
  rw [sent]
  cases result with
  | ok value =>
    intro given
    unfold Says
    rw [words]
    exact tells given
  | error err =>
    show Says _ later
    unfold Says
    rw [words]
    exact tells

variable {ticket : TicketId} {command : Command}

/-- A command that is queued may have been served. -/
def Offered (matters : Prop) (ticket : TicketId) : Bool → LinkMoment → Prop
  | true => Owed matters ticket
  | false => Unanswered ticket

/-- Serving the command that was taken leaves a reply that tells what was said last. -/
theorem serveTaken_owed (next : Option (TicketId × Command))
    (replies : RepliesTell transport bandwidth timeoutSecs manager matters command) :
    (hearing transport).Triple () (Unanswered ticket)
      (serveTaken transport bandwidth timeoutSecs remembered manager ticket command next)
      fun _ => Owed matters ticket := by
  unfold serveTaken
  split
  · apply triple_bind (fun _ => Owed matters ticket)
    · apply triple_expand_bind (fun result => Tells AgwpeError.display matters result.1)
      · exact (replies _).consequence (fun _ waits => waits.1) fun _ _ => id
      · intro result
        apply triple_expand_bind (fun _ => Owed matters ticket) (reply_owed ticket result.1)
        exact fun _ => triple_done (stable_alone _) fun _ => id
    · exact fun _ => triple_done (stable_alone _) fun _ => id
  · exact triple_done (stable_alone _) fun _ => unanswered_owed

/-- A command that is submitted is served, or refused. -/
theorem submitServed_offered
    (replies : RepliesTell transport bandwidth timeoutSecs manager matters command) :
    (hearing transport).Triple () (Unanswered ticket)
      (submitServed transport bandwidth timeoutSecs remembered manager ticket command)
      (Offered matters ticket) := by
  have submitted : ∀ (world : World) queued,
      (world.apply (.submit manager ticket command) queued).replies = world.replies := by
    intro world queued
    cases queued <;> rfl
  have taken : ∀ (world : World) next,
      (world.apply (.nextCommand manager) next).replies = world.replies := by
    intro world next
    cases next <;> rfl
  apply triple_bind (fun _ => Unanswered ticket) (unanswered_kept submitted)
  intro queued
  cases queued with
  | false => exact triple_done (stable_alone _) fun _ => id
  | true =>
    apply triple_bind (fun _ => Unanswered ticket) (unanswered_kept taken)
    intro next
    apply triple_bind (fun _ => Owed matters ticket) (serveTaken_owed next replies)
    exact fun _ => triple_done (stable_alone _) fun _ => id

/-- The reply is waited for. -/
theorem awaitReply_tells :
    (hearing transport).Triple () (Owed matters ticket)
      (Program.ask (LinkOp.shared (.awaitReply manager ticket)))
      fun answered => Tells AgwpeError.display matters (answered.getD (.error .taskStopped)) := by
  apply triple_ask (stable_alone _) (fun _ => stable_alone _)
  intro now answered later owed moves
  obtain ⟨client, words⟩ := shared_moves moves
  have delivered : now.world.client.replies ticket = answered := beq_iff_eq.mp moves.met
  refine ⟨trivial, ?_⟩
  unfold Owed at owed
  rw [delivered] at owed
  cases answered with
  | none =>
    show Says _ later
    unfold Says
    rw [words]
    exact owed trivial
  | some result =>
    cases result with
    | ok value =>
      intro given
      unfold Says
      rw [words]
      exact owed given
    | error err =>
      show Says _ later
      unfold Says
      rw [words]
      exact owed

/-- A command that is sent from where all is calm. -/
theorem call_tells
    (replies : RepliesTell transport bandwidth timeoutSecs manager matters command) :
    (hearing transport).Triple () (Calm True)
      ((call manager command).expand (served transport bandwidth timeoutSecs remembered))
      (Tells AgwpeError.display matters) := by
  apply triple_expand_bind _ (hear_method newReply_unanswered)
  intro ticket
  apply triple_expand_bind _ (hear_method (submitServed_offered replies))
  intro queued
  cases queued with
  | false => exact triple_done (stable_alone _) fun _ waits => waits.1 trivial
  | true =>
    apply triple_expand_bind _ (hear_method awaitReply_tells)
    exact fun answered => triple_done (stable_alone _) fun _ => id

/-- The error of a response shows what the transport has answered. -/
def Shows {β : Type} : Except Text β → LinkMoment → Prop
  | .ok _ => fun _ => True
  | .error message => Says message

/-- Opening a session through a manager shows what was said last. -/
theorem openThrough_shows (request : ConnectRequest) :
    (hearing transport).Triple () (Calm True)
      ((openThrough request manager).expand (served transport bandwidth timeoutSecs remembered))
      Shows := by
  apply triple_expand_bind _ (call_tells (openSession_replies _ _))
  intro result
  cases result with
  | error err => exact triple_done (stable_alone _) fun _ => id
  | ok value =>
    apply triple_expand_bind (fun _ _ => True) (anything _)
    exact fun _ => triple_done (stable_alone _) fun _ _ => trivial

/-- An operation of a handler that leaves all calm. -/
theorem served_calm {op : Op}
    (only : (served transport bandwidth timeoutSecs remembered op).Only LinkOp.isShared) :
    (hearing transport).Triple () (Calm True)
      ((Program.ask op : Routine _).expand (served transport bandwidth timeoutSecs remembered))
      fun _ => Calm True :=
  hear_method (shared_kept only fun words => True → marks words = [])

/-- A new manager has a transport over a VARA modem. -/
theorem spawnManager_vara :
    (hearing transport).Triple () (Calm True)
      (Program.ask (LinkOp.shared (.spawnManager .varaTransport)))
      fun manager now => transport manager ≠ .ax25 ∧ Calm True now := by
  apply triple_ask (stable_alone _) (fun _ => stable_alone _)
  intro now manager later calm moves
  refine ⟨trivial, ?_, fun given => ?_⟩
  · have made : (transport manager).impl = .varaTransport := beq_iff_eq.mp moves.met
    intro ax25
    rw [ax25] at made
    exact absurd made (by decide)
  · unfold Says
    rw [(shared_moves moves).2]
    exact calm given

/-- Connecting by VARA shows what was said last. -/
theorem connectVara_shows (request : ConnectRequest) (kind : TransportKind) :
    (hearing transport).Triple () (Calm True)
      ((connectVara request kind).expand (served transport bandwidth timeoutSecs remembered))
      Shows := by
  apply triple_expand_bind _ (served_calm (only_ask _ trivial))
  intro localCallsign
  apply triple_expand_bind _ (hear_method spawnManager_vara)
  intro manager now spawned
  apply (triple_expand_bind _ (call_tells (connectModem_replies _ spawned.1)) _) now spawned.2
  intro connected
  cases connected with
  | error err =>
    apply triple_done (stable_alone _)
    intro now spoken
    exact spoken.trans (marks_behind _ (by decide)).symm
  | ok value =>
    apply triple_expand_bind (fun _ => Calm True)
    · exact (served_calm (only_ask _ trivial)).consequence (fun _ calm => calm) fun _ _ => id
    · exact fun _ => openThrough_shows request

/-- Connecting by either kind shows what was said last. -/
theorem connectBy_shows (request : ConnectRequest) (kind : TransportKind) :
    (hearing transport).Triple () (Calm True)
      ((connectBy request kind).expand (served transport bandwidth timeoutSecs remembered))
      Shows := by
  cases kind with
  | varaFm => exact connectVara_shows request _
  | varaHf => exact connectVara_shows request _
  | ax25 =>
    apply triple_expand_bind _ (served_calm (only_ask _ trivial))
    exact fun _ => openThrough_shows request

/-- The connect request shows what was said last. -/
theorem apiConnectHandler_shows (target : Text) (portNum : UInt8) :
    (hearing transport).Triple () (Calm True)
      ((apiConnectHandler ⟨target, portNum, none⟩).expand
        (served transport bandwidth timeoutSecs remembered)) Shows := by
  unfold apiConnectHandler
  split
  · apply triple_expand_bind (fun resolved now => (∃ kind, resolved = .ok kind) ∧ Calm True now)
    · apply triple_expand_bind _ (served_calm (only_ask _ trivial))
      exact fun configured => triple_done (stable_alone _) fun _ calm => ⟨⟨_, rfl⟩, calm⟩
    · rintro resolved now ⟨⟨kind, rfl⟩, calm⟩
      exact connectBy_shows _ kind now calm
  · exact triple_done (stable_alone _) fun _ calm => calm trivial

/-- The errors about a consent decision are texts of the program. -/
theorem apiConsentPost_shows (decision : Decision) :
    (hearing transport).Triple () (Calm True)
      ((apiConsentPost decision).expand (served transport bandwidth timeoutSecs remembered))
      Shows := by
  apply triple_expand_bind _ (served_calm (only_ask _ trivial))
  intro sender
  cases sender with
  | none => exact triple_done (stable_alone _) fun _ calm => calm trivial
  | some consent =>
    apply triple_expand_bind (fun _ => Calm True)
    · unfold recordIfAccepted
      split
      · apply triple_expand_bind _ (served_calm (only_ask _ trivial))
        intro awaited
        cases awaited with
        | none => exact triple_done (stable_alone _) fun _ => id
        | some text => exact served_calm (only_ask _ trivial)
      · exact triple_done (stable_alone _) fun _ => id
    · intro _
      apply triple_expand_bind _ (served_calm (only_ask _ trivial))
      intro sent
      cases sent with
      | true => exact triple_done (stable_alone _) fun _ _ => trivial
      | false => exact triple_done (stable_alone _) fun _ calm => calm trivial

/-- An error that the page shows says what was said last. -/
theorem failure_escapes (request : PageRequest) :
    (hearing transport).Triple () (Calm True)
      (request.failure transport bandwidth timeoutSecs remembered)
      fun error now => ∀ message, error = some message → Says message now := by
  have reports : ∀ {β : Type} (response : Except Text β) (now : LinkMoment), Shows response now →
      ∀ message, reported response = some message → Says message now := by
    intro β response now shows message failed
    cases response with
    | ok value => exact absurd failed (by simp [reported])
    | error error =>
      obtain rfl := Option.some.inj failed
      exact shows
  cases request with
  | ax25Connect target portNum =>
    apply triple_bind _ (apiConnectHandler_shows target portNum)
    exact fun response => triple_done (stable_alone _) (reports response)
  | submitConsent decision =>
    apply triple_bind _ (apiConsentPost_shows decision)
    exact fun response => triple_done (stable_alone _) (reports response)

/-- Whatever fails, the page inserts the escaped error if and only if what the transport has
answered last contains no markup.

What a page reports is the text of an error, with the last answer of the transport in it and no
other markup. So escaping changes it exactly if that answer has markup. -/
theorem errors_escaped_iff (request : PageRequest) {world : LinkWorld} {now : LinkMoment}
    {left : LinkRoutine (Option Text)} {error : Text}
    (leads : Leads linkExec (delivers transport)
      (request.failure transport bandwidth timeoutSecs remembered) ⟨world, []⟩ now left)
    (ends : left.Ends (some error)) :
    request.inserted error = request.escaped error ↔ marks (lastWords now.history) = [] := by
  have calm : Calm True (⟨world, []⟩ : LinkMoment) := fun _ => rfl
  have shown : Says error now :=
    (alone (S := hearing transport) leads trivial (failure_escapes request _ calm)).2.ends ends
      error rfl
  rw [inserted_escaped_iff, ← shown]

end Serving

section Course

/-- Every manager has a transport over an AGWPE modem. -/
def overAgwpe (_ : ManagerId) : TransportKind := .ax25

/-- The modem is connected. -/
def agwpeModem : LinkWorld :=
  ⟨.initial, ⟨true, true, ⟨0, "W1TEST".toList, []⟩⟩, ⟨false, [], [], 0⟩⟩

/-- The stations of the runs below. -/
def peerTarget : AgwpeTarget := ⟨0, "W1TEST".toList, "N0CALL".toList⟩

/-- A connect request for AX.25. -/
def peerRequest : PageRequest := .ax25Connect "N0CALL".toList 0

/-- How this request fails. -/
def peerFailure : LinkRoutine (Option Text) :=
  peerRequest.failure overAgwpe .vWide 30 fun _ => "W1TEST".toList

/-- An event of the client. -/
def sharedEvent (op : Op) (answer : Answer op) : Sigma LinkAnswer := ⟨.shared op, answer⟩

/-- An event of the modem. -/
def agwpeEvent (op : AgwpeOp) (answer : AgwpeAnswer op) : Sigma LinkAnswer := ⟨.agwpe op, answer⟩

/-- A frame from the station that is called. -/
def peerFrame (kind : FrameType) (data : Bytes) : AgwpeFrame :=
  .new 0 kind "N0CALL".toList "W1TEST".toList data

/-- What the handler and the background task make of a disconnect during the handshake. -/
def disconnectError (reason : Text) : AgwpeError :=
  .connectionFailed ("BPQ handshake failed: ".toList ++
    (AgwpeError.connectionFailed
      ("Peer disconnected during BPQ handshake: ".toList ++ reason)).display)

/-- The link comes up, and the station disconnects in the handshake with this frame. -/
def disconnectEvents (data : Bytes) : List (Sigma LinkAnswer) :=
  [sharedEvent .readTransportDefault .ax25, sharedEvent .activeManager 0, sharedEvent .newReply 0,
    sharedEvent (.submit 0 0 (.openSession "N0CALL".toList 0)) true,
    sharedEvent (.nextCommand 0) (some (0, .openSession "N0CALL".toList 0)),
    sharedEvent (.storeAbort 0 false) (), sharedEvent .readConfig ⟨"WEB".toList, true⟩,
    sharedEvent .readConfig ⟨"WEB".toList, true⟩, agwpeEvent (.recordTarget peerTarget) (),
    sharedEvent (.setConnectionState .connecting) (), agwpeEvent .isConnected true,
    agwpeEvent .target peerTarget, agwpeEvent .isConnected true,
    agwpeEvent (.writeFrame (connectFrame peerTarget)) (.ok ()), agwpeEvent .flush (.ok ()),
    agwpeEvent .clock 0, agwpeEvent .clock 0, agwpeEvent .readFrame (.ok (peerFrame .connected [])),
    sharedEvent .readConfig ⟨"WEB".toList, true⟩, agwpeEvent .clock 0, agwpeEvent .clock 0,
    agwpeEvent .readFrame (.ok (peerFrame .disconnect data)),
    sharedEvent (.setConnectionState (.error ("BPQ handshake failed: ".toList ++
      (AgwpeError.connectionFailed ("Peer disconnected during BPQ handshake: ".toList ++
        Utf8.lossy data)).display))) (),
    sharedEvent (.reply 0 (.error (disconnectError (Utf8.lossy data)))) (),
    sharedEvent (.awaitReply 0 0) (some (.error (disconnectError (Utf8.lossy data))))]

/-- Only what is delivered. -/
def delivering (transport : ManagerId → TransportKind) (op : LinkOp) (answer : LinkAnswer op)
    (world : LinkWorld) : Option LinkWorld :=
  if deliversIn transport world.client op answer then linkExec op answer world else none

/-- What can be delivered is an operation that occurs, and delivers. -/
theorem delivering_delivers {transport : ManagerId → TransportKind} (moment : LinkMoment)
    (event : LinkEvent) (after : LinkMoment)
    (occurs : Occurs (delivering transport) moment event after) :
    Occurs linkExec moment event after ∧ delivers transport moment event := by
  obtain ⟨executed, grown⟩ := occurs
  unfold delivering at executed
  split at executed
  · exact ⟨⟨executed, grown⟩, ‹_›⟩
  · exact absurd executed (by simp)

/-- The request fails with an error behind a disconnect with this frame. -/
def failsBehind (data : Bytes) : Bool :=
  match peerFailure.follow (delivering overAgwpe) 3 ⟨agwpeModem, []⟩ (disconnectEvents data) with
  | none => false
  | some (now, left) =>
    (left.expose 3).value? == some (some (disconnectError (Utf8.lossy data)).display) &&
      (lastWords now.history == Utf8.lossy data)

/-- A run that fails behind some data shows it. -/
theorem failsBehind_run {data : Bytes} (fails : failsBehind data = true) :
    ∃ now left, Leads linkExec (delivers overAgwpe) peerFailure ⟨agwpeModem, []⟩ now left ∧
      left.Ends (some (disconnectError (Utf8.lossy data)).display) ∧
      lastWords now.history = Utf8.lossy data := by
  unfold failsBehind at fails
  split at fails
  · exact absurd fails (by simp)
  · rename_i now left followed
    obtain ⟨finished, words⟩ := Bool.and_eq_true_iff.mp fails
    have strict : Leads (delivering overAgwpe) anyLink peerFailure ⟨agwpeModem, []⟩ now left :=
      (follow_leads 3 _ (fun _ _ => trivial) followed).1
    exact ⟨now, left, strict.within delivering_delivers,
      ends_of_expose 3 left _ (beq_iff_eq.mp finished), beq_iff_eq.mp words⟩

/-- A reason without markup is shown as the text it is. -/
theorem errors_escaped_plain : ∃ now left,
    Leads linkExec (delivers overAgwpe) peerFailure ⟨agwpeModem, []⟩ now left ∧
    left.Ends (some (disconnectError "*** DISCONNECTED".toList).display) ∧
    peerRequest.inserted (disconnectError "*** DISCONNECTED".toList).display =
      peerRequest.escaped (disconnectError "*** DISCONNECTED".toList).display := by
  have fails : failsBehind (ascii "*** DISCONNECTED") = true := by decide
  have text : Utf8.lossy (ascii "*** DISCONNECTED") = "*** DISCONNECTED".toList := by decide
  obtain ⟨now, left, leads, ends, words⟩ := failsBehind_run fails
  rw [text] at ends words
  refine ⟨now, left, leads, ends, (errors_escaped_iff peerRequest leads ends).mpr ?_⟩
  rw [words]
  decide

/-- A station that disconnects with markup puts it into the page. -/
theorem errors_inserted_raw : ¬ ∀ (transport : ManagerId → TransportKind)
    (bandwidth : VaraBandwidth) (timeoutSecs : Nat) (remembered : ManagerId → Text)
    (request : PageRequest) (world : LinkWorld) (now : LinkMoment)
    (left : LinkRoutine (Option Text)) (error : Text),
    Leads linkExec (delivers transport)
      (request.failure transport bandwidth timeoutSecs remembered) ⟨world, []⟩ now left →
    left.Ends (some error) → request.inserted error = request.escaped error := by
  intro every
  have fails : failsBehind (ascii "<img src=x onerror=alert(1)>") = true := by decide
  obtain ⟨now, left, leads, ends, _⟩ := failsBehind_run fails
  have raw := every _ _ _ _ peerRequest _ now left _ leads ends
  rw [inserted_escaped_iff] at raw
  exact absurd raw (by decide)

end Course

end PacketBrowser.Client
