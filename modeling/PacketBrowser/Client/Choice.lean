import PacketBrowser.Client.Prompts

/-!
# Which transport a session is opened on

A request to connect resolves to a kind of transport, and asks some manager to open its
session. `Chosen` says that this is a manager with a transport of that kind, `Taken` that
the request is carried out by the background task of this manager and no other.

A request for VARA makes its own manager, so its choice is honoured whatever happened
before. A request for AX.25 takes the manager installed at the moment, which is one with
an AGWPE modem only until the first VARA modem is connected.
-/

namespace PacketBrowser.Client

open Protocol Foundation Program Setting

/-- The default transport a task has read from the configuration. -/
def configuredKind : List ClientEvent → Option TransportKind
  | [] => none
  | event :: earlier =>
    match event.op, event.answer with
    | .readTransportDefault, kind => some kind
    | _, _ => configuredKind earlier

/-- The kind of transport a task that handles a request to connect has resolved it to. -/
def resolvedKind (entries : Nat → Entry) (task : Task) (history : List ClientEvent) :
    Option TransportKind :=
  match task with
  | .handler index =>
    match entries index with
    | .connect request =>
      match request.transport with
      | some text => (TransportKind.parse text).toOption
      | none => configuredKind (own task history)
    | _ => none
  | _ => none

/-- The transport a manager was made with. The first manager has an AGWPE modem. -/
def transportOf (m : ManagerId) : List ClientEvent → TransportImpl
  | [] => .agwpeTransport
  | event :: earlier =>
    match event.op, event.answer with
    | .spawnManager transport, manager => if manager = m then transport else transportOf m earlier
    | _, _ => transportOf m earlier

/-- A request to connect asks a manager with a transport of the kind it resolved to. -/
def Chosen (entries : Nat → Entry) (event : ClientEvent) (earlier : List ClientEvent) : Prop :=
  ∀ m ticket target portNum, event.op = .submit m ticket (.openSession target portNum) →
    ∀ kind, resolvedKind entries event.thread earlier = some kind →
      transportOf m earlier = kind.impl

/-- What is done with the transport and the queue of a manager is done by its background
task, which takes the commands submitted to this manager. -/
def Taken (event : ClientEvent) (earlier : List ClientEvent) : Prop :=
  ∀ m, event.op.owner = some m → event.thread = .actor m ∧
    ∀ ticket command, event = event.thread.does (.nextCommand m) (some (ticket, command)) →
      ∃ task : Task, task.does (.submit m ticket command) true ∈ earlier

/-- The operation installs a manager. -/
def Op.installs : Op → Bool
  | .installManager _ => true
  | _ => false

/-- Requests for AX.25 take the manager before a VARA modem has been connected. -/
def findsAgwpe (entries : Nat → Entry) (now : Moment) (event : ClientEvent) : Bool :=
  event.op != .activeManager || resolvedKind entries event.thread now.history != some .ax25 ||
    now.history.all fun event => !event.op.installs

/-- What is known of the managers and their queues. -/
structure ChoiceKept (entries : Nat → Entry) (now : Moment) : Prop where
  started : 0 < now.world.managerCount ∧ now.world.transports 0 = .agwpeTransport
  original : (∀ event ∈ now.history, event.op.installs = false) → now.world.active = 0
  made : ∀ m, transportOf m now.history = now.world.transports m
  queued : ∀ m ticket command, (ticket, command) ∈ now.world.queue m →
    ∃ task : Task, task.does (.submit m ticket command) true ∈ now.history
  chosen : Throughout (Chosen entries) now.history
  taken : Throughout Taken now.history

/-- Runs in which requests for AX.25 come before any VARA modem. -/
def choiceSetting (entries : Nat → Entry) : Setting World Task Answer where
  exec := exec
  meets now event := findsAgwpe entries now event = true ∧ event.thread.allowed event.op
  inv := ChoiceKept entries

section Proof

variable {entries : Nat → Entry}

section World

variable (world : World) (op : Op) (answer : Answer op)

/-- Only an installation changes the manager installed. -/
theorem apply_active (other : ∀ m, op ≠ .installManager m) :
    (world.apply op answer).active = world.active := by
  cases op with
  | installManager m => exact absurd rfl (other m)
  | modem => simp only [World.apply]; split <;> rfl
  | nextCommand => cases answer <;> rfl
  | submit => simp only [World.apply]; split <;> rfl
  | answerConsent => simp only [World.apply]; split <;> rfl
  | parkConsent =>
    simp only [World.apply, World.park, World.dropPending]
    split <;> (try split) <;> rfl
  | withdrawConsent =>
    simp only [World.apply, World.dropPending]
    split <;> (try split) <;> rfl
  | _ => rfl

/-- Only the making of a manager changes the managers there are. -/
theorem apply_managers (other : ∀ transport, op ≠ .spawnManager transport) :
    (world.apply op answer).transports = world.transports ∧
      (world.apply op answer).managerCount = world.managerCount := by
  cases op with
  | spawnManager transport => exact absurd rfl (other transport)
  | modem => simp only [World.apply]; split <;> exact ⟨rfl, rfl⟩
  | nextCommand => cases answer <;> exact ⟨rfl, rfl⟩
  | submit => simp only [World.apply]; split <;> exact ⟨rfl, rfl⟩
  | answerConsent => simp only [World.apply]; split <;> exact ⟨rfl, rfl⟩
  | parkConsent =>
    simp only [World.apply, World.park, World.dropPending]
    split <;> (try split) <;> exact ⟨rfl, rfl⟩
  | withdrawConsent =>
    simp only [World.apply, World.dropPending]
    split <;> (try split) <;> exact ⟨rfl, rfl⟩
  | _ => exact ⟨rfl, rfl⟩

/-- Only the making of a manager adds to what is known of the managers made. -/
theorem transportOf_cons {op : Op} (other : ∀ transport, op ≠ .spawnManager transport)
    (thread : Task) (answer : Answer op) (m : ManagerId) (earlier : List ClientEvent) :
    transportOf m (⟨thread, op, answer⟩ :: earlier) = transportOf m earlier := by
  cases op with
  | spawnManager transport => exact absurd rfl (other transport)
  | _ => rfl

end World

section Steps

variable {now later : Moment} {thread : Task} {op : Op} {answer : Answer op}

/-- A step keeps what is known if a session is opened on a transport of the kind asked for. -/
theorem choice_kept (moves : (choiceSetting entries).Moves now ⟨thread, op, answer⟩ later)
    (opens : ∀ m ticket target portNum, op = .submit m ticket (.openSession target portNum) →
      ∀ kind, resolvedKind entries thread now.history = some kind →
        now.world.transports m = kind.impl) : ChoiceKept entries later := by
  obtain ⟨world, history⟩ := later
  obtain ⟨⟨executed, grown⟩, ⟨_, permitted⟩, inv⟩ := moves
  obtain ⟨given, rfl⟩ := exec_iff.mp executed
  obtain rfl : history = _ := grown
  obtain ⟨started, original, made, queued, chosen, taken⟩ :
    ChoiceKept entries now := inv
  have managers : (∀ m, transportOf m (⟨thread, op, answer⟩ :: now.history) =
      (now.world.apply op answer).transports m) ∧ 0 < (now.world.apply op answer).managerCount ∧
      (now.world.apply op answer).transports 0 = .agwpeTransport := by
    by_cases spawns : ∃ transport, op = .spawnManager transport
    · obtain ⟨transport, rfl⟩ := spawns
      obtain rfl : answer = now.world.managerCount := by simpa [World.gives] using given
      refine ⟨fun m => ?_, Nat.succ_pos _, ?_⟩
      · by_cases same : m = now.world.managerCount
        · simp [transportOf, World.apply, same]
        · simp [transportOf, World.apply, assign_other _ _ _ _ same, Ne.symm same, made]
      · simp [World.apply, assign_other _ _ _ _ (Nat.ne_of_lt started.1), started.2]
    · have other : ∀ transport, op ≠ .spawnManager transport :=
        fun transport same => spawns ⟨transport, same⟩
      obtain ⟨transports, count⟩ := apply_managers now.world op answer other
      rw [transports, count]
      exact ⟨fun m => (transportOf_cons other thread answer m _).trans (made m), started⟩
  constructor
  · exact managers.2
  · intro none
    have before := original fun event member => none event (List.mem_cons_of_mem _ member)
    have here := none _ (List.mem_cons_self ..)
    rw [← before]
    apply apply_active
    rintro m rfl
    exact absurd here (by simp [Op.installs])
  · exact managers.1
  · intro m ticket command member
    by_cases added : (⟨op, answer⟩ : Sigma Answer) = ⟨.submit m ticket command, true⟩
    · cases added
      exact ⟨thread, List.mem_cons_self ..⟩
    · obtain ⟨task, submitted⟩ := queued m ticket command (apply_queue _ _ _ m member added)
      exact ⟨task, List.mem_cons_of_mem _ submitted⟩
  · refine ⟨fun m ticket target portNum same kind resolved => ?_, chosen⟩
    exact (made m).trans (opens m ticket target portNum same kind resolved)
  · refine ⟨fun m owned => ⟨owner_performs owned permitted, ?_⟩, taken⟩
    rintro ticket command same
    obtain ⟨_, rfl, sameAnswer⟩ := Event.mk.inj same
    obtain rfl := eq_of_heq sameAnswer
    have head : some (ticket, command) = (now.world.queue m).head? := by
      simpa [World.gives] using given
    exact queued m ticket command (List.mem_of_mem_head? head.symm)

/-- What opens no session keeps what is known. -/
theorem choice_unopened (moves : (choiceSetting entries).Moves now ⟨thread, op, answer⟩ later)
    (other : ∀ m ticket target portNum, op ≠ .submit m ticket (.openSession target portNum)) :
    ChoiceKept entries later :=
  choice_kept moves fun m ticket target portNum same => absurd same (other m ticket target portNum)

/-- A task that handles no request to connect opens what it likes. -/
theorem choice_unresolved (moves : (choiceSetting entries).Moves now ⟨thread, op, answer⟩ later)
    (unresolved : ∀ history, resolvedKind entries thread history = none) :
    ChoiceKept entries later :=
  choice_kept moves fun _ _ _ _ _ kind resolved =>
    absurd (resolved.symm.trans (unresolved _)) (by simp)

end Steps

section Connecting

variable {index : Nat} {request : ConnectRequest} (connects : entries index = .connect request)

/-- The request has been resolved to this kind. -/
def Resolved (entries : Nat → Entry) (index : Nat) (kind : TransportKind) (now : Moment) : Prop :=
  resolvedKind entries (.handler index) now.history = some kind

/-- The manager has been made, with this transport. -/
def Made (m : ManagerId) (transport : TransportImpl) (now : Moment) : Prop :=
  m < now.world.managerCount ∧ now.world.transports m = transport

/-- A manager keeps the transport it was made with. -/
theorem made_kept {m : ManagerId} {transport : TransportImpl} {now later : Moment}
    {event : ClientEvent} (moves : (choiceSetting entries).Moves now event later)
    (made : Made m transport now) : Made m transport later := by
  obtain ⟨thread, op, answer⟩ := event
  have executed : exec op answer now.world = some later.world := moves.occurs.1
  rw [Made, (exec_iff.mp executed).2]
  by_cases spawns : ∃ transport, op = .spawnManager transport
  · obtain ⟨other, rfl⟩ := spawns
    obtain rfl : answer = now.world.managerCount := by
      simpa [World.gives] using (exec_iff.mp executed).1
    refine ⟨Nat.lt_succ_of_lt made.1, ?_⟩
    simp [World.apply, assign_other _ _ _ _ (Nat.ne_of_lt made.1), made.2]
  · have other : ∀ transport, op ≠ .spawnManager transport :=
      fun transport same => spawns ⟨transport, same⟩
    obtain ⟨transports, count⟩ := apply_managers now.world op answer other
    rw [transports, count]
    exact made

/-- Other tasks leave a manager its transport. -/
theorem made_stable (thread : Task) (m : ManagerId) (transport : TransportImpl) :
    (choiceSetting entries).Stable thread (Made m transport) := by
  rintro before after made ⟨event, _, moves, _⟩
  exact made_kept moves made

include connects

/-- What kind a request has resolved is decided by its own reading of the default. -/
theorem resolved_own (history : List ClientEvent) (event : ClientEvent)
    (other : event.thread = .handler index → event.op ≠ .readTransportDefault) :
    resolvedKind entries (.handler index) (event :: history) =
      resolvedKind entries (.handler index) history := by
  unfold resolvedKind
  simp only [connects]
  split
  · rfl
  · by_cases same : event.thread = .handler index
    · obtain ⟨thread, op, answer⟩ := event
      obtain rfl : thread = .handler index := same
      rw [own_self]
      cases op with
      | readTransportDefault => exact absurd rfl (other rfl)
      | _ => rfl
    · rw [own_foreign same]

/-- Other tasks leave the kind that was resolved. -/
theorem resolved_stable (kind : TransportKind) :
    (choiceSetting entries).Stable (.handler index) (Resolved entries index kind) := by
  rintro before after resolved ⟨event, foreign, moves, _⟩
  rw [Resolved, moves.occurs.2, resolved_own connects _ _ fun same => absurd same foreign]
  exact resolved

/-- A manager with a transport of the kind asked for is known. -/
def Fits (entries : Nat → Entry) (index : Nat) (kind : TransportKind) (m : ManagerId)
    (now : Moment) : Prop := Resolved entries index kind now ∧ Made m kind.impl now

/-- Other tasks leave a manager that fits. -/
theorem fits_stable (kind : TransportKind) (m : ManagerId) :
    (choiceSetting entries).Stable (.handler index) (Fits entries index kind m) :=
  (resolved_stable connects kind).and (made_stable _ m _)

/-- A step that does not read the default leaves the kind. -/
theorem resolved_kept {kind : TransportKind} {op : Op} {now later : Moment} {answer : Answer op}
    (other : op ≠ .readTransportDefault) (resolved : Resolved entries index kind now)
    (moves : (choiceSetting entries).Moves now ⟨.handler index, op, answer⟩ later) :
    Resolved entries index kind later := by
  rw [Resolved, moves.occurs.2, resolved_own connects _ _ fun _ => other]
  exact resolved

/-- A command other than the opening of a session, or one on a fitting manager. -/
theorem call_chosen (kind : TransportKind) (m : ManagerId) (command : Command) :
    (choiceSetting entries).Triple (.handler index) (Fits entries index kind m) (call m command)
      fun _ => Fits entries index kind m := by
  have kept : ∀ op : Op, op ≠ .readTransportDefault →
      (∀ n ticket target portNum, op = .submit n ticket (.openSession target portNum) → n = m) →
      ∀ now answer later, Fits entries index kind m now →
        (choiceSetting entries).Moves now ⟨.handler index, op, answer⟩ later →
        (choiceSetting entries).inv later ∧ Fits entries index kind m later := by
    intro op other aimed now answer later fits moves
    refine ⟨choice_kept moves ?_, resolved_kept connects other fits.1 moves, made_kept moves fits.2⟩
    rintro n ticket target portNum same found resolved
    obtain rfl := aimed n ticket target portNum same
    obtain rfl := Option.some.inj (fits.1.symm.trans resolved)
    exact fits.2.2
  apply triple_only (fits_stable connects kind m) _ fun op (allowed : op ≠ .readTransportDefault ∧
    ∀ n ticket target portNum, op = .submit n ticket (.openSession target portNum) → n = m) =>
      kept op allowed.1 allowed.2
  apply only_bind _ (only_ask _ (by simp))
  intro ticket
  apply only_bind _ (only_ask _ ?_)
  · intro queued
    cases queued with
    | true => exact only_bind _ (only_ask _ (by simp)) fun _ => trivial
    | false => trivial
  · refine ⟨by simp, fun n other target portNum same => ?_⟩
    exact (Op.submit.inj same).1.symm

/-- A session is opened through the manager that fits. -/
theorem openThrough_chosen (kind : TransportKind) (m : ManagerId) :
    (choiceSetting entries).Triple (.handler index) (Fits entries index kind m)
      (openThrough request m) fun _ _ => True := by
  apply triple_bind _ (call_chosen connects kind m _)
  intro result
  cases result with
  | error err => exact triple_done (stable_const _) fun _ _ => trivial
  | ok data =>
    apply triple_bind (fun _ _ => True)
    · exact triple_ask (fits_stable connects kind m) (fun _ => stable_const _)
        fun now state later _ moves => ⟨choice_unopened moves (by simp), trivial⟩
    · exact fun _ => triple_done (stable_const _) fun _ => id

/-- The manager made for the request has the transport it asks for. -/
theorem connectVara_chosen (kind : TransportKind) (vara : kind.impl = .varaTransport) :
    (choiceSetting entries).Triple (.handler index) (Resolved entries index kind)
      (connectVara request kind) fun _ _ => True := by
  have resolved := resolved_stable connects kind
  apply triple_bind (fun _ => Resolved entries index kind)
  · exact triple_ask resolved (fun _ => resolved) fun now answer later known moves =>
      ⟨choice_unopened moves (by simp), resolved_kept connects (by simp) known moves⟩
  intro localCallsign
  apply triple_bind (fun m => Fits entries index kind m)
  · apply triple_ask resolved (fits_stable connects kind)
    intro now m later known moves
    refine ⟨choice_unopened moves (by simp), resolved_kept connects (by simp) known moves, ?_⟩
    have executed : exec (.spawnManager .varaTransport) m now.world = some later.world :=
      moves.occurs.1
    obtain ⟨given, same⟩ := exec_iff.mp executed
    obtain rfl : m = now.world.managerCount := by simpa [World.gives] using given
    rw [Made, same]
    exact ⟨Nat.lt_succ_self _, by simp [World.apply, vara]⟩
  intro m
  apply triple_bind _ (call_chosen connects kind m _)
  intro connected
  cases connected with
  | error err => exact triple_done (stable_const _) fun _ _ => trivial
  | ok data =>
    apply triple_bind (fun _ => Fits entries index kind m)
    · exact triple_ask (fits_stable connects kind m) (fun _ => fits_stable connects kind m)
        fun now answer later fits moves => ⟨choice_unopened moves (by simp),
          resolved_kept connects (by simp) fits.1 moves, made_kept moves fits.2⟩
    · exact fun _ => openThrough_chosen connects kind m

/-- The manager found is the first one. -/
theorem connectAx25_chosen :
    (choiceSetting entries).Triple (.handler index) (Resolved entries index .ax25)
      (connectAx25 request) fun _ _ => True := by
  apply triple_bind (fun m => Fits entries index .ax25 m)
  · apply triple_ask (resolved_stable connects .ax25) (fits_stable connects .ax25)
    intro now m later known moves
    refine ⟨choice_unopened moves (by simp), resolved_kept connects (by simp) known moves,
      made_kept moves ?_⟩
    obtain ⟨started, original, _, _, _, _⟩ : ChoiceKept entries now := moves.inv
    have finds := moves.met.1
    have uninstalled : ∀ event ∈ now.history, event.op.installs = false := by
      have resolved : resolvedKind entries (.handler index) now.history = some .ax25 := known
      simpa [findsAgwpe, resolved] using finds
    have executed : exec .activeManager m now.world = some later.world := moves.occurs.1
    obtain rfl : m = 0 := by
      rw [← original uninstalled]
      simpa [World.gives] using (exec_iff.mp executed).1
    exact started
  · exact fun m => openThrough_chosen connects .ax25 m

/-- A request connects by the kind it has resolved. -/
theorem connectBy_chosen (kind : TransportKind) :
    (choiceSetting entries).Triple (.handler index) (Resolved entries index kind)
      (connectBy request kind) fun _ _ => True := by
  cases kind with
  | ax25 => exact connectAx25_chosen connects
  | varaFm => exact connectVara_chosen connects _ rfl
  | varaHf => exact connectVara_chosen connects _ rfl

/-- The kind a request is resolved to is the one it names, or the configured one. -/
theorem resolveTransport_chosen :
    (choiceSetting entries).Triple (.handler index) (fun _ => True)
      (resolveTransport request.transport)
      (outcome (fun kind => Resolved entries index kind) fun _ _ => True) := by
  have final : ∀ resolved : Except Text TransportKind, (choiceSetting entries).Stable (.handler index)
      (outcome (fun kind => Resolved entries index kind) (fun _ _ => True) resolved) :=
    stable_outcome (resolved_stable connects) fun _ => stable_const _
  cases named : request.transport with
  | some text =>
    apply triple_done (final _)
    intro now _
    cases parsed : TransportKind.parse text with
    | error message => trivial
    | ok kind =>
      show resolvedKind entries (.handler index) now.history = some kind
      simp [resolvedKind, connects, named, parsed, Except.toOption]
  | none =>
    apply triple_bind (fun kind => Resolved entries index kind)
    · apply triple_ask (stable_const _) (resolved_stable connects)
      intro now kind later _ moves
      refine ⟨choice_unopened moves (by simp), ?_⟩
      rw [Resolved, moves.occurs.2]
      simp [resolvedKind, connects, named, configuredKind]
    · exact fun kind => triple_done (final (.ok kind)) fun _ => id

/-- A connect request keeps the choice. -/
theorem apiConnectHandler_chosen :
    (choiceSetting entries).Triple (.handler index) (fun _ => True) (apiConnectHandler request)
      fun _ _ => True := by
  unfold apiConnectHandler
  split
  · apply triple_bind _ (resolveTransport_chosen connects)
    intro resolved
    cases resolved with
    | error message => exact triple_done (stable_const _) fun _ _ => trivial
    | ok kind => exact connectBy_chosen connects kind
  · exact triple_done (stable_const _) fun _ => id

end Connecting

/-- The other tasks handle no request to connect. -/
theorem client_chosen (configuredTimeout : ManagerId → Nat) (task : Task) (now : Moment) :
    (choiceSetting entries).Safe task ((client entries configuredTimeout).threads task)
      (fun _ _ => True) now := by
  have other : (∀ history, resolvedKind entries task history = none) →
      (choiceSetting entries).Safe task ((client entries configuredTimeout).threads task)
        (fun _ _ => True) now := fun unresolved =>
    safe_only (client_only entries configuredTimeout task)
      (fun op _ now answer later moves => choice_unresolved moves unresolved) now
  cases task with
  | actor m => exact other fun _ => rfl
  | peer m => exact other fun _ => rfl
  | handler index =>
    cases entry : entries index with
    | connect request =>
      show (choiceSetting entries).Safe _ (entries index).routine _ _
      rw [entry]
      exact triple_bind (fun _ _ => True) (apiConnectHandler_chosen entry)
        (fun _ => triple_done (stable_const _) fun _ => id) now trivial
    | _ => exact other fun _ => by simp [resolvedKind, entry]

/-- At the start nothing has been chosen. -/
theorem initial_chosen : ChoiceKept entries ⟨World.initial, []⟩ where
  started := ⟨by decide, rfl⟩
  original := fun _ => rfl
  made := fun _ => rfl
  queued := fun _ _ _ member => absurd member (by simp [World.initial])
  chosen := trivial
  taken := trivial

end Proof

/-- In a run in which requests for AX.25 take the manager before a VARA modem has been
connected, every request to connect opens its session on a manager with a transport of the
kind it resolved to, and the background task of this manager alone carries it out.

The invariant knows of which kind each manager is, and from whom each command in its queue came.
A request that found a manager for AX.25 found the one that was there from the beginning. -/
theorem transport_chosen (entries : Nat → Entry) (configuredTimeout : ManagerId → Nat)
    (pool : Pool World Task Answer)
    (reaches : Reaches exec (fun now event => findsAgwpe entries now event = true)
      (client entries configuredTimeout) pool) :
    Throughout (Chosen entries) pool.now.history ∧ Throughout Taken pool.now.history := by
  have kept : (choiceSetting entries).inv pool.now ∧ _ :=
    sound (client_roles reaches) initial_chosen fun task => client_chosen configuredTimeout task _
  exact ⟨kept.1.chosen, kept.1.taken⟩

section Runs

/-- A request to connect over the given transport, or the configured one. -/
def connecting (transport : Option Text) : Entry := .connect ⟨"N0CALL".toList, 0, transport⟩

/-- A session is asked for, and the background task takes the command. -/
def asksFor (index manager ticket : Nat) : List ClientEvent :=
  let command := Command.openSession "N0CALL".toList 0
  [ (Task.handler index).does .newReply ticket,
    (Task.handler index).does (.submit manager ticket command) true,
    (Task.actor manager).does (.nextCommand manager) (some (ticket, command)) ]

/-- The configured transport is AX.25. -/
theorem transport_chosen_sample : ∃ pool : Pool World Task Answer,
    pool.now.history = ([ (Task.handler 0).does .readTransportDefault .ax25,
      (Task.handler 0).does .activeManager 0 ] ++ asksFor 0 0 0).reverse ∧
    Throughout (Chosen fun _ => connecting none) pool.now.history ∧
    Throughout Taken pool.now.history := by
  obtain ⟨pool, reaches, history⟩ := client_replays (findsAgwpe fun _ => connecting none)
    (fun _ => connecting none) (fun _ => 30)
    ([ (Task.handler 0).does .readTransportDefault .ax25,
      (Task.handler 0).does .activeManager 0 ] ++ asksFor 0 0 0) (by decide)
  exact ⟨pool, history, transport_chosen _ _ pool reaches⟩

/-- A VARA modem is connected and its manager installed, and opening the session on it
fails. -/
def varaFails (index ticket : Nat) : List ClientEvent :=
  let config : TransportConfig := ⟨.varaFm, "N0CALL".toList⟩
  let background := Task.actor 1
  let web := Task.handler index
  [ web.does .readMyCallsign "N0CALL".toList,
    web.does (.spawnManager .varaTransport) 1,
    web.does .newReply ticket,
    web.does (.submit 1 ticket (.connectModem config)) true,
    background.does (.nextCommand 1) (some (ticket, .connectModem config)),
    background.does (.storeAbort 1 false) (),
    background.does (.modem 1 (.connectModem config)) ⟨.ok (), none, .replaced⟩,
    background.does (.reply ticket (.ok [])) (),
    web.does (.awaitReply 1 ticket) (some (.ok [])),
    web.does (.installManager 1) () ] ++ asksFor index 1 (ticket + 1) ++
  [ background.does (.storeAbort 1 false) (),
    background.does .readConfig ⟨[], true⟩,
    background.does .readConfig ⟨[], true⟩,
    background.does (.modem 1 (.openSession ⟨"N0CALL".toList, "N0CALL".toList, [], true, 0⟩))
      ⟨.error .timeout, none, .kept⟩,
    background.does (.reply (ticket + 1) (.error .timeout)) (),
    web.does (.awaitReply 1 (ticket + 1)) (some (.error .timeout)) ]

/-- One request over VARA, the next over AX.25. -/
def alternating : Nat → Option Text
  | 0 => some "vara_fm".toList
  | _ => some "ax25".toList

/-- A request for AX.25 opens its session on the VARA modem of the request before it. -/
theorem transport_ignored : ¬ ∀ (transports : Nat → Option Text)
    (configuredTimeout : ManagerId → Nat) (pool : Pool World Task Answer),
    Reaches exec (fun _ _ => True) (client (connecting ∘ transports) configuredTimeout) pool →
      Throughout (Chosen (connecting ∘ transports)) pool.now.history ∧
        Throughout Taken pool.now.history := by
  intro every
  obtain ⟨pool, reaches, history⟩ := client_replays (fun _ _ => true) (connecting ∘ alternating)
    (fun _ => 30) (varaFails 0 0 ++ [(Task.handler 1).does .activeManager 1,
      (Task.handler 1).does .newReply 2,
      (Task.handler 1).does (.submit 1 2 (.openSession "N0CALL".toList 0)) true])
    (by decide)
  have chosen := (every alternating _ pool (reaches.mono fun _ _ _ => trivial)).1
  rw [history, List.reverse_append] at chosen
  exact absurd (chosen.1 1 2 "N0CALL".toList 0 rfl .ax25 (by decide)) (by decide)

end Runs

end PacketBrowser.Client
