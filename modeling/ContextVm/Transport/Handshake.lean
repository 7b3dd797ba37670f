import ContextVm.Transport.Cleanup
import ContextVm.Transport.Client

/-! The handshake of a transfer: a client waits for an accept frame, and a server issues one. -/

namespace ContextVm

open ClientSession OversizedFrame SendPhase ServerState

/-- Whether an event says that its sender takes transfers. -/
def ReceivedEvent.advertises (event : ReceivedEvent) : Bool :=
  hasSingleTag event.innerTags supportOversizedTransfer

/-- A client and the server it sends to. -/
structure Handshaking where
  client : ClientState
  serving : Serving
  -- Everything that the client has published, in order, and how much of it the server has taken.
  sent : List PublishedEvent
  delivered : Nat

/-- What can happen to a client and its server. -/
inductive HandshakeAction where
  | client (action : ClientAction)
  -- The server takes the next event of the client.
  | deliver (now : Nat)
  -- Something else happens to the server, events of other clients included.
  | serve (action : ServerAction)

/-- Whether an action of the server is no event of the given client. -/
def ServerAction.isForeign (publicKey : String) : ServerAction → Bool
  | .receive _ event => event.senderPubkey ≠ publicKey
  | _ => true

/-- What the two sides are configured with, and the authors of events. -/
structure HandshakeSetting where
  authorOf : String → Option String
  client : ClientConfig
  server : ServerConfig

namespace Handshaking

/-- One thing that happens to a client and its server. -/
def step (setting : HandshakeSetting) (state : Handshaking) :
    HandshakeAction → Option Handshaking
  | .client action =>
    match state.client.step setting.client action with
    | none => none
    | some (client, none) => some { state with client }
    | some (client, some published) =>
      -- An event of the client's has the client for its author.
      if setting.authorOf published.event.eventId = some setting.client.publicKey then
        some { state with client, sent := state.sent ++ [published] }
      else none
  | .deliver now =>
    match state.sent[state.delivered]? with
    | none => none
    | some published =>
      (state.serving.step setting.authorOf setting.server (.receive now published.event)).map
        fun serving => { state with serving, delivered := state.delivered + 1 }
  | .serve action =>
    if action.isForeign setting.client.publicKey then
      (state.serving.step setting.authorOf setting.server action).map
        fun serving => { state with serving }
    else none

end Handshaking

/-- Whether the server takes an event, and the receiver for its sender admits the frame in it. -/
def ServerState.admits (config : ServerConfig) (now : Nat) (state : ServerState)
    (event : ReceivedEvent) : Bool :=
  config.authorizes event && (state.receive config now event).2.isSome &&
    match event.message with
    | .notification frame =>
      let receiver := (state.oversizedReceivers.peek event.senderPubkey).getD
        (.withPolicy config.transferPolicy)
      match (receiver.processFrame config.primitives now frame).1 with
      | .ok none => true
      | _ => false
    | _ => false

/-- The two sides agree about the handshake. -/
structure Handshaking.Agrees (setting : HandshakeSetting) (state : Handshaking) : Prop where
  -- An opening frame for which an accept frame is awaited gets one, if it is admitted.
  accepted : ∀ now published token, state.sent[state.delivered]? = some published →
    published.role = .opening (some token) →
    state.serving.server.admits setting.server now published.event = true →
    ∃ effects, (state.serving.server.receive setting.server now published.event).2 =
        some effects ∧
      .accepted published.event.senderPubkey published.event.eventId token ∈ effects
  -- A send that waits has been told of its accept frame, or has its waiter in place.
  enlisted : ∀ index task transfer, state.client.tasks[index]? = some task →
    task.phase = .waiting transfer →
    index ∈ state.client.signalled ∨
      state.client.acceptWaiters.lookup transfer.token = some index
  -- The accept frame for a send that waits ends the wait when it reaches the client.
  signals : ∀ index task transfer now event progress text,
    state.client.tasks[index]? = some task → task.phase = .waiting transfer →
    setting.client.takes event = true → event.pubkey = setting.client.serverPubkey →
    progressNotification setting.client.primitives.serde event.content =
      some (OversizedFrame.accept.intoProgressNotification transfer.token progress text) →
    index ∈ (state.client.handleNotification setting.client now event).1.signalled

/-- The token under which a send has a waiter to drop. -/
def SendPhase.awaiting : SendPhase → Option String
  | .enlisted true transfer | .waiting transfer | .streaming true transfer _ => some transfer.token
  | .failing true token | .ended true token _ => some token
  | _ => none

/-- The token under which a send still needs its waiter. -/
def SendPhase.enlists : SendPhase → Option String
  | .enlisted true transfer | .waiting transfer => some transfer.token
  | _ => none

/--
A client asks for an accept frame only before the server can know that it takes transfers, and
never for two sends of one token at a time.
-/
def Handshaking.AsksFirst (state : Handshaking) : HandshakeAction → Prop
  | .client (.advance index met) =>
    ∀ task, state.client.tasks[index]? = some task →
      match task.phase with
      -- It is about to enlist a waiter.
      | .resolved true transfer => ∀ other task', other ≠ index →
          state.client.tasks[other]? = some task' → task'.phase.awaiting ≠ some transfer.token
      -- It is about to publish the opening frame.
      | .enlisted true _ => met.ok = true →
          ∀ earlier ∈ state.sent, earlier.event.advertises = false
      | _ => True
  | _ => True

/-! The server's side. -/

namespace ServerState

section

variable (session : ClientSession) (innerTags : List (List String)) (method : Option String)

theorem negotiate_notification (supportsExplicitGating : Bool) :
    (session.negotiatePaymentInteraction innerTags method false supportsExplicitGating).2 =
      .proceed := by
  unfold negotiatePaymentInteraction
  simp only
  split
  · rfl
  · split <;> rfl

theorem negotiate_supports (isRequest supportsExplicitGating : Bool) :
    (session.negotiatePaymentInteraction innerTags method isRequest
      supportsExplicitGating).1.supportsOversizedTransfer = session.supportsOversizedTransfer := by
  grind [applyEffective, negotiatePaymentInteraction]

end

theorem isOversizedFrame_intoProgressNotification (frame : OversizedFrame) (token : String)
    (progress : UInt64) (text : Option String) :
    isOversizedFrame (frame.intoProgressNotification token progress text) = true := by
  obtain ⟨params, present, cvm, -⟩ := frame.params_intoProgressNotification token progress text
  rw [isOversizedFrame, cvmValue, present, Option.bind_some, cvm, Option.any_some]
  -- Whatever the kind of the frame, it has the type and its kind in it.
  cases frame with
  | abort reason =>
    cases reason <;> simp [isFrameValue, OversizedFrame.toCvmValue, OversizedFrame.frameType,
      Fields.present, Fields.lookup_insert, Json.get, Json.asStr]
  | _ => simp [isFrameValue, OversizedFrame.toCvmValue, OversizedFrame.frameType, Fields.present,
      Fields.lookup_insert, Json.get, Json.asStr]

/-- The server accepts an opening frame of a sender that it does not know to take transfers. -/
theorem accepted_receive {config : ServerConfig} {now : Nat} {state : ServerState}
    {event : ReceivedEvent} {effects : List LoopEffect} {digest token : String}
    {totalBytes totalChunks progress : UInt64} {text : Option String}
    (enabled : config.oversizedEnabled = true) (authorized : config.authorizes event = true)
    (opening : event.message = .notification ((OversizedFrame.start digest totalBytes
      totalChunks).intoProgressNotification token progress text))
    (unknown : state.sessions.All fun client session => client = event.senderPubkey →
      session.supportsOversizedTransfer = false)
    (handled : (receive config now state event).2 = some effects) :
    .accepted event.senderPubkey event.eventId token ∈ effects := by
  unfold receive at handled
  rw [if_pos authorized] at handled
  have ensured := unknown.ensureSession (fun _ _ _ _ => rfl) event.senderPubkey event.isEncrypted
    state.held.eventRoutes now
  simp only at handled
  split at handled
  · cases handled
  · -- The session is an old one, of which this was known, or a new one.
    rename_i session found
    have supports := ensured _ session found rfl
    have frame := isOversizedFrame_intoProgressNotification
      (.start digest totalBytes totalChunks) token progress text
    simp only [opening, JsonRpcMessage.isRequest, negotiate_notification, route, supports, enabled,
      frame, and_self, if_true, Option.some.injEq] at handled
    subst handled
    refine List.mem_append_right _ ?_
    unfold handleOversizedFrame
    obtain ⟨params, present, cvm, tokens, -⟩ := params_intoProgressNotification
      (.start digest totalBytes totalChunks) token progress text
    simp only [issuedAccept, cvmValue, present, cvm, tokens, fromCvmValue_toCvmValue,
      progressTokenString, contextOf, Option.bind_some]
    split
    · exact List.mem_append_left _ (List.mem_singleton.mpr rfl)
    · exact List.mem_singleton.mpr rfl

end ServerState

/-! The client's side. -/

/-- A deed that leaves the waiters alone. -/
def Deed.KeepsWaiters : Deed → Prop
  | .enlist _ | .delist _ => False
  | _ => True

/-- No two sends of one token have waiters to drop, and a waiter is in place while it is needed. -/
structure ClientState.Orderly (client : ClientState) : Prop where
  sole : ∀ (first second : Nat) (one other : SendTask) (token : String),
    client.tasks[first]? = some one → client.tasks[second]? = some other →
    one.phase.awaiting = some token → other.phase.awaiting = some token → first = second
  waiters : ∀ (index : Nat) (task : SendTask) (token : String),
    client.tasks[index]? = some task → task.phase.enlists = some token →
    index ∈ client.signalled ∨ client.acceptWaiters.lookup token = some index

section Waiters

variable {config : ClientConfig} {client : ClientState} {index : Nat} {task : SendTask}
  {met : Circumstances} {before after : SendPhase} {deed : Deed}
variable {token : String}

theorem Deed.keepsWaiters_registering (now : Nat) (eventId : String) (message : JsonRpcMessage) :
    (Deed.registering now eventId message).KeepsWaiters := by
  cases message <;> exact trivial

theorem SendPhase.awaiting_of_transferring {phase : SendPhase}
    (under : phase.transferring = some (true, token)) : phase.awaiting = some token := by
  grind [SendPhase, transferring, awaiting]

/-- A step of a send enlists a waiter, drops it, or leaves the waiters alone. -/
theorem SendTask.Moves.waiters (moves : task.Moves config met before after deed) :
    (∃ transfer, before = .resolved true transfer ∧ after = .enlisted true transfer ∧
        deed = .enlist transfer.token) ∨
      (∃ token, before.awaiting = some token ∧ after.awaiting = none ∧ after.enlists = none ∧
        deed = .delist token) ∨
      (deed.KeepsWaiters ∧ (∀ token, after.awaiting = some token → before.awaiting = some token) ∧
        ∀ token, after.enlists = some token → before.enlists = some token) := by
  -- A step that keeps the waiters has nothing to wait for that it had not before.
  have keeps {before after : SendPhase} {deed : Deed} (kept : deed.KeepsWaiters)
      (awaiting : after.awaiting = none ∨ after.awaiting = before.awaiting)
      (enlists : after.enlists = none ∨ after.enlists = before.enlists) :
      deed.KeepsWaiters ∧ (∀ token, after.awaiting = some token → before.awaiting = some token) ∧
        ∀ token, after.enlists = some token → before.enlists = some token := by
    refine ⟨kept, ?_, ?_⟩
    · grind
    · grind
  cases moves with
  | note eventId | pend endId =>
    exact .inr (.inr (keeps (Deed.keepsWaiters_registering _ _ _) (.inl rfl) (.inl rfl)))
  | publish | miss | forget | resolve | refuse | skip | enter | latch =>
    exact .inr (.inr (keeps trivial (.inl rfl) (.inl rfl)))
  | enlist transfer => exact .inl ⟨transfer, rfl, rfl, rfl⟩
  | knock transfer ok => exact .inr (.inr (keeps trivial (.inr rfl) (.inr rfl)))
  | resume transfer => exact .inr (.inr (keeps trivial (.inr rfl) (.inl rfl)))
  | piece needsAccept transfer chunk left | close needsAccept transfer =>
    cases needsAccept <;> exact .inr (.inr (keeps trivial (.inr rfl) (.inl rfl)))
  | fail needsAccept token under =>
    -- What fails has the waiter it had, if it had one.
    refine .inr (.inr (keeps trivial ?_ (by cases needsAccept <;> exact .inl rfl)))
    cases needsAccept with
    | false => exact .inl rfl
    | true => exact .inr (awaiting_of_transferring under).symm
  | abandon needsAccept token | leave needsAccept token endId =>
    cases needsAccept with
    | true => exact .inr (.inl ⟨token, rfl, rfl, rfl, rfl⟩)
    | false => exact .inr (.inr (keeps trivial (.inl rfl) (.inl rfl)))

theorem SendPhase.awaiting_of_enlists {phase : SendPhase} (enlists : phase.enlists = some token) :
    phase.awaiting = some token := by
  cases phase with
  | enlisted needsAccept transfer => cases needsAccept <;> simp_all [SendPhase.enlists,
      SendPhase.awaiting]
  | waiting transfer => exact enlists
  | _ => cases enlists

theorem ClientState.acceptWaiters_perform (kept : deed.KeepsWaiters) :
    (client.perform index task deed).acceptWaiters = client.acceptWaiters := by
  cases deed with
  | enlist token | delist token => cases kept
  | _ => rfl

theorem ClientState.signalled_perform :
    (client.perform index task deed).signalled = client.signalled := by
  cases deed <;> rfl

/-- Two clients with the same sends and the same waiters. -/
structure ClientState.SameWaiters (first second : ClientState) : Prop where
  tasks : second.tasks = first.tasks
  acceptWaiters : second.acceptWaiters = first.acceptWaiters
  signalled : second.signalled = first.signalled

theorem ClientState.sameWaiters_consume (client : ClientState) (correlatedId : Option String)
    (message : JsonRpcMessage) :
    client.SameWaiters (client.consumeTerminalResponse correlatedId message).1 := by
  unfold consumeTerminalResponse
  split <;> exact ⟨rfl, rfl, rfl⟩

theorem ClientState.sameWaiters_correlate (config : ClientConfig) (now : Nat)
    (client : ClientState) (event : InboundEvent) :
    client.SameWaiters (client.correlate config now event).1 := by
  unfold correlate
  simp only
  split
  · exact ⟨rfl, rfl, rfl⟩
  · split
    · exact ⟨rfl, rfl, rfl⟩
    · exact ⟨rfl, rfl, rfl⟩
    · split <;> exact ⟨rfl, rfl, rfl⟩
    · split
      · exact ⟨rfl, rfl, rfl⟩
      · exact client.sameWaiters_consume _ _

section

variable (orderly : client.Orderly)
include orderly

theorem ClientState.Orderly.signal {told : Nat}
    (found : client.acceptWaiters.lookup token = some told) :
    Orderly
      { client with
        acceptWaiters := client.acceptWaiters.erase token
        signalled := told :: client.signalled } := by
  refine ⟨orderly.sole, ?_⟩
  intro index task wanted read enlists
  rcases orderly.waiters index task wanted read enlists with signalled | waiter
  · exact .inl (List.mem_cons_of_mem told signalled)
  · by_cases same : wanted = token
    · -- The send that is told is the one that has the waiter.
      subst same
      rw [found] at waiter
      cases waiter
      exact .inl List.mem_cons_self
    · simp_all

theorem ClientState.Orderly.congr {other : ClientState}
    (same : client.SameWaiters other) : other.Orderly := by
  grind [ClientState.Orderly, ClientState.SameWaiters]

theorem ClientState.Orderly.handle (config : ClientConfig) (now : Nat)
    (event : InboundEvent) : (client.handleNotification config now event).1.Orderly := by
  have learned : (client.learnServerDiscovery event).Orderly := orderly.congr ⟨rfl, rfl, rfl⟩
  unfold handleNotification
  split
  · split
    · rename_i frame _
      split
      · exact learned.congr ⟨rfl, rfl, rfl⟩
      · split
        · simp only [handleOversizedFrame]
          split
          · -- An accept frame ends one wait, and any other frame leaves the sends alone.
            split
            · exact learned.congr ⟨rfl, rfl, rfl⟩
            · split
              · exact learned.congr ⟨rfl, rfl, rfl⟩
              · rename_i index found
                exact learned.signal found
          · split
            · exact learned.congr ⟨rfl, rfl, rfl⟩
            · obtain ⟨tasks, waiters, signalled⟩ := sameWaiters_consume _ event.correlatedId _
              exact learned.congr ⟨tasks, waiters, signalled⟩
            · exact learned.congr ⟨rfl, rfl, rfl⟩
        · exact learned.congr (sameWaiters_correlate config now _ event)
    · exact learned.congr (sameWaiters_correlate config now _ event)
  · exact orderly

theorem ClientState.Orderly.begin (new : task.phase = .composed) :
    Orderly { client with tasks := client.tasks ++ [task] } := by
  -- The new send has no waiter.
  have idle (token : String) : task.phase.awaiting ≠ some token := by
    rw [new]
    exact nofun
  refine ⟨?_, ?_⟩
  · intro first second one other token readFirst readSecond here there
    rcases getElem?_append_singleton readFirst with oldFirst | ⟨-, newFirst⟩
    · rcases getElem?_append_singleton readSecond with oldSecond | ⟨-, newSecond⟩
      · exact orderly.sole first second one other token oldFirst oldSecond here there
      · grind
    · grind
  · intro index found token read enlists
    rcases getElem?_append_singleton read with old | ⟨-, same⟩
    · exact orderly.waiters index found token old enlists
    · grind [awaiting_of_enlists]

section

variable (found : client.tasks[index]? = some task)
include found

/-- The sends stay in order when one enlists a waiter under a token that no other send has. -/
theorem ClientState.Orderly.enlist {transfer : OutboundTransfer}
    (alone : ∀ other task', other ≠ index → client.tasks[other]? = some task' →
      task'.phase.awaiting ≠ some transfer.token) :
    Orderly { client.perform index task (.enlist transfer.token) with
      tasks := client.tasks.set index { task with phase := .enlisted true transfer } } := by
  refine ⟨?_, ?_⟩
  · intro first second one other token readFirst readSecond here there
    rcases getElem?_set_cases found readFirst with ⟨first', new⟩ | ⟨first', old⟩
    · rcases getElem?_set_cases found readSecond with ⟨second', -⟩ | ⟨second', old⟩
      · rw [first', second']
      · subst new
        cases here
        exact absurd there (alone second other second' old)
    · rcases getElem?_set_cases found readSecond with ⟨second', new⟩ | ⟨second', old'⟩
      · subst new
        cases there
        exact absurd here (alone first one first' old)
      · exact orderly.sole first second one other token old old' here there
  · intro other row token read wants
    rcases getElem?_set_cases found read with ⟨same, new⟩ | ⟨different, old⟩
    · subst new
      cases wants
      right
      rw [same]
      exact AList.lookup_insert _
    · rcases orderly.waiters other row token old wants with signalled | waiter
      · exact .inl signalled
      · -- The waiter of another send is under another token.
        right
        have apart : token ≠ transfer.token := by grind [awaiting_of_enlists]
        exact (AList.lookup_insert_ne apart).trans waiter

theorem ClientState.Orderly.sole_set
    (awaiting : ∀ token, after.awaiting = some token → task.phase.awaiting = some token)
    (first second : Nat) (one other : SendTask) (token : String)
    (readFirst : (client.tasks.set index { task with phase := after })[first]? = some one)
    (readSecond : (client.tasks.set index { task with phase := after })[second]? = some other)
    (here : one.phase.awaiting = some token) (there : other.phase.awaiting = some token) :
    first = second := by
  have before (place : Nat) (row : SendTask)
      (read : (client.tasks.set index { task with phase := after })[place]? = some row)
      (wants : row.phase.awaiting = some token) :
      ∃ row', client.tasks[place]? = some row' ∧ row'.phase.awaiting = some token := by
    rcases getElem?_set_cases found read with ⟨same, new⟩ | ⟨-, old⟩
    · grind
    · exact ⟨row, old, wants⟩
  obtain ⟨one', old, wants⟩ := before first one readFirst here
  obtain ⟨other', old', wants'⟩ := before second other readSecond there
  exact orderly.sole first second one' other' token old old' wants wants'

theorem ClientState.Orderly.delist (had : task.phase.awaiting = some token)
    (idle : after.awaiting = none) (content : after.enlists = none) :
    Orderly { client.perform index task (.delist token) with
      tasks := client.tasks.set index { task with phase := after } } := by
  refine ⟨orderly.sole_set found (fun _ wants => by rw [idle] at wants; cases wants), ?_⟩
  intro other row wanted read wants
  rcases getElem?_set_cases found read with ⟨-, new⟩ | ⟨different, old⟩
  · grind
  · rcases orderly.waiters other row wanted old wants with signalled | waiter
    · exact .inl signalled
    · -- The waiter that is dropped is the send's own.
      right
      have apart : wanted ≠ token := by
        rintro rfl
        exact different (orderly.sole other index row task wanted old found
          (awaiting_of_enlists wants) had)
      exact (AList.lookup_erase_ne apart).trans waiter

theorem ClientState.Orderly.advance (moves : task.Moves config met task.phase after deed)
    (alone : ∀ transfer, task.phase = .resolved true transfer → ∀ other task', other ≠ index →
      client.tasks[other]? = some task' → task'.phase.awaiting ≠ some transfer.token) :
    Orderly { client.perform index task deed with
      tasks := client.tasks.set index { task with phase := after } } := by
  rcases moves.waiters with ⟨transfer, here, there, enlist⟩ | ⟨token, had, idle, content, drop⟩ |
    ⟨kept, awaiting, enlists⟩
  · subst enlist there
    exact orderly.enlist found (alone transfer here)
  · subst drop
    exact orderly.delist found had idle content
  · -- The waiters stay, and the send wants none that it had not.
    refine ⟨orderly.sole_set found awaiting, ?_⟩
    intro other row wanted read wants
    simp only [signalled_perform, acceptWaiters_perform kept]
    rcases getElem?_set_cases found read with ⟨same, new⟩ | ⟨-, old⟩
    · subst new
      exact orderly.waiters other task wanted (same ▸ found) (enlists wanted wants)
    · exact orderly.waiters other row wanted old wants

end

end

theorem isOpenStreamFrame_accept (token : String) (progress : UInt64) (text : Option String) :
    isOpenStreamFrame (OversizedFrame.accept.intoProgressNotification token progress text) =
      false := by
  obtain ⟨params, present, cvm, -⟩ := accept.params_intoProgressNotification token progress text
  rw [isOpenStreamFrame, cvmValue, present, Option.bind_some, cvm, Option.any_some]
  simp [isFrameValue, OversizedFrame.toCvmValue, OversizedFrame.frameType, Fields.present,
    Fields.lookup_insert, Json.get, Json.asStr, oversizedTransferType]

theorem SendTask.Moves.opening {published : PublishedEvent}
    (moves : task.Moves config met before after (.publish published))
    (role : published.role = .opening (some token)) :
    ∃ transfer : OutboundTransfer, before = .enlisted true transfer ∧ transfer.token = token ∧
      met.ok = true ∧ published.event.message = .notification transfer.frames.start ∧
      published.event.senderPubkey = config.publicKey := by
  generalize made : Deed.publish published = deed at moves
  cases moves with
  | knock transfer ok =>
    cases made
    cases role
    exact ⟨transfer, rfl, rfl, ok, rfl, rfl⟩
  | publish | enter | piece | close =>
    -- These events are published for something else.
    cases made
    cases role
  | note eventId | pend endId => exact absurd made.symm (Deed.registering_ne_publish _ _ _ _)
  | abandon needsAccept | leave needsAccept => cases needsAccept <;> cases made
  | _ => cases made

end Waiters

namespace Handshaking

variable {setting : HandshakeSetting} {state : Handshaking}
variable {after : Handshaking}

/-- The client and the server that have just been started. -/
def start (setting : HandshakeSetting) (maxPending : Nat) (pmis : List String)
    (requested : Option PaymentInteractionMode) (maxSessions : Nat) (listening : Bool) :
    Handshaking where
  client := .start setting.client maxPending pmis requested
  serving := .start maxSessions listening
  sent := []
  delivered := 0

/-- The client asks first, and the server knows only what it was told. -/
structure Sound (setting : HandshakeSetting) (state : Handshaking) : Prop where
  orderly : state.client.Orderly
  -- What the client waits behind are opening frames of its own.
  opening : ∀ published ∈ state.sent, ∀ token, published.role = .opening (some token) →
    ∃ transfer : OutboundTransfer, transfer.token = token ∧
      published.event.message = .notification transfer.frames.start ∧
      published.event.senderPubkey = setting.client.publicKey
  first : state.sent.Pairwise fun earlier later =>
    ∀ token, later.role = .opening (some token) → earlier.event.advertises = false
  known : state.serving.server.sessions.All fun client session =>
    client = setting.client.publicKey → session.supportsOversizedTransfer = true →
      ∃ earlier ∈ state.sent.take state.delivered, earlier.event.advertises = true

/-- What the client publishes goes with what it has published before. -/
theorem Sound.publish (sound : state.Sound setting) {client : ClientState}
    {published : PublishedEvent} (orderly : client.Orderly)
    (opening : ∀ token, published.role = .opening (some token) →
      (∃ transfer : OutboundTransfer, transfer.token = token ∧
        published.event.message = .notification transfer.frames.start ∧
        published.event.senderPubkey = setting.client.publicKey) ∧
      ∀ earlier ∈ state.sent, earlier.event.advertises = false) :
    Sound setting { state with client, sent := state.sent ++ [published] } := by
  refine ⟨orderly, ?_, ?_, ?_⟩
  · intro other member token role
    rcases List.mem_append.mp member with old | new
    · exact sound.opening other old token role
    · grind
  · refine List.pairwise_append.mpr ⟨sound.first, List.pairwise_singleton _ _, ?_⟩
    intro earlier old later new token role
    cases List.mem_singleton.mp new
    exact (opening token role).2 earlier old
  · -- The server has taken none of the new event.
    intro other session found same supports
    obtain ⟨earlier, taken, told⟩ := sound.known other session found same supports
    refine ⟨earlier, ?_, told⟩
    rw [List.take_append]
    exact List.mem_append_left _ taken

/-- Whatever happens to the client, it is kept if the client asks first. -/
theorem Sound.client (sound : state.Sound setting) {action : ClientAction}
    (asks : state.AsksFirst (.client action))
    (taken : state.step setting (.client action) = some after) : after.Sound setting := by
  -- A client that publishes nothing leaves the events and the server as they are.
  have silent {client : ClientState} (orderly : client.Orderly) :
      Sound setting { state with client } := ⟨orderly, sound.opening, sound.first, sound.known⟩
  cases action with
  | send message =>
    by_cases emulated : setting.client.emulates message = true
    · simp only [step, ClientState.step, emulated, if_true] at taken
      cases taken
      exact silent sound.orderly
    · simp only [step, ClientState.step, if_neg emulated] at taken
      cases taken
      exact silent (sound.orderly.begin rfl)
  | advance index met =>
    simp only [step] at taken
    cases stepped : state.client.step setting.client (.advance index met) with
    | none => simp [stepped] at taken
    | some result =>
      obtain ⟨task, phase, deed, found, advanced, made⟩ := ClientState.step_advance stepped
      subst made
      simp only [stepped] at taken
      have moves := SendTask.moves_of_advance advanced
      have asked := asks task found
      have orderly := sound.orderly.advance found moves fun transfer here => by
        simp only [here] at asked
        exact asked
      cases deed with
      | publish published =>
        obtain ⟨-, rfl⟩ := Option.ite_some_none_eq_some.mp taken
        refine sound.publish orderly ?_
        intro token role
        obtain ⟨transfer, here, same, ok, message, sender⟩ := moves.opening role
        simp only [here] at asked
        exact ⟨⟨transfer, same, message, sender⟩, asked ok⟩
      | _ =>
        cases taken
        exact silent orderly
  | handle now event =>
    cases taken
    exact silent (sound.orderly.handle setting.client now event)
  | sweep now timeout | touch now eventId =>
    cases taken
    exact silent (sound.orderly.congr ⟨rfl, rfl, rfl⟩)

theorem supports_rules (own : String) (told : Prop) :
    ServerState.SessionRules fun client session =>
      client = own → session.supportsOversizedTransfer = true → told where
  fresh _ _ _ _ supports := by cases supports
  told _ _ kept := kept
  ready _ _ kept := kept

/-- The server learns from an event of the client's what it advertises, and nothing else. -/
theorem Sound.deliver (sound : state.Sound setting) {now : Nat}
    (taken : state.step setting (.deliver now) = some after) : after.Sound setting := by
  simp only [step] at taken
  split at taken
  · cases taken
  · rename_i published next
    obtain ⟨serving, served, same⟩ := Option.map_eq_some_iff.mp taken
    subst same
    refine ⟨sound.orderly, sound.opening, sound.first, ?_⟩
    -- What the server knew is still among what it was told.
    have more : state.sent.take (state.delivered + 1) =
        state.sent.take state.delivered ++ [published] := by
      rw [List.take_add_one, next]
      rfl
    refine Serving.all_step (supports_rules _ _) (fun _ _ _ _ kept => kept) ?_ ?_ served
    · intro now event received _
      cases received
      refine ⟨?_, ?_⟩
      · intro now session kept same supports
        rw [negotiate_supports] at supports
        simp only [learn, Bool.or_eq_true, Bool.and_eq_true] at supports
        rcases supports with knew | ⟨-, told⟩
        · exact kept same knew
        · refine ⟨published, ?_, told⟩
          rw [more]
          exact List.mem_append_right _ (List.mem_singleton.mpr rfl)
      · intro request session _ kept same supports
        refine kept same ?_
        rw [← supports]
        unfold pend
        split <;> rfl
    · intro client session found same supports
      obtain ⟨earlier, known, told⟩ := sound.known client session found same supports
      exact ⟨earlier, by rw [more]; exact List.mem_append_left _ known, told⟩

theorem Sound.serve (sound : state.Sound setting) {action : ServerAction}
    (taken : state.step setting (.serve action) = some after) : after.Sound setting := by
  obtain ⟨foreign, taken⟩ := Option.ite_none_right_eq_some.mp taken
  obtain ⟨serving, served, same⟩ := Option.map_eq_some_iff.mp taken
  subst same
  refine ⟨sound.orderly, sound.opening, sound.first, ?_⟩
  refine Serving.all_step (supports_rules _ _) (fun _ _ _ _ kept => kept) ?_ sound.known served
  -- An event of another client is not about this one's session.
  intro now event received _
  subst received
  have other : event.senderPubkey ≠ setting.client.publicKey := of_decide_eq_true foreign
  exact ⟨fun _ _ _ same => absurd same other, fun _ _ _ _ same => absurd same other⟩

theorem Sound.reached {maxPending maxSessions : Nat} {pmis : List String}
    {requested : Option PaymentInteractionMode} {listening : Bool}
    (reached : Reaches (step setting) AsksFirst
      (start setting maxPending pmis requested maxSessions listening) state) :
    state.Sound setting := by
  refine Reaches.invariant reached ?_ ?_
  · refine ⟨⟨?_, ?_⟩, ?_, List.Pairwise.nil, ?_⟩
    · intro first second one other token read
      cases read
    · intro index task token read
      cases read
    · intro published member
      cases member
    · intro client session found
      cases found
  · intro before action after _ sound asks taken
    cases action with
    | client action => exact sound.client asks taken
    | deliver now => exact sound.deliver taken
    | serve action => exact sound.serve taken

/-- Where the client has asked first, the two sides agree. -/
theorem Sound.agrees (sound : state.Sound setting)
    (enabled : setting.server.oversizedEnabled = true) : state.Agrees setting := by
  refine ⟨?_, ?_, ?_⟩
  · intro now published token next role admitted
    simp only [admits, Bool.and_eq_true] at admitted
    obtain ⟨effects, handled⟩ := Option.isSome_iff_exists.mp admitted.1.2
    refine ⟨effects, handled, ?_⟩
    obtain ⟨transfer, same, message, sender⟩ :=
      sound.opening published (List.mem_of_getElem? next) token role
    obtain ⟨digest, totalBytes, totalChunks, progress, text, opening⟩ := transfer.opening
    rw [opening, same] at message
    refine accepted_receive enabled admitted.1.1 message ?_ handled
    -- Nothing that the server has taken says that the client takes transfers.
    intro client session found own
    by_contra supports
    rw [Bool.not_eq_false] at supports
    obtain ⟨earlier, taken, told⟩ := sound.known client session found (own.trans sender) supports
    obtain ⟨below, here⟩ := List.getElem?_eq_some_iff.mp next
    have rest : published ∈ state.sent.drop state.delivered := by
      rw [List.drop_eq_getElem_cons below, here]
      exact List.mem_cons_self
    have before := sound.first
    rw [← List.take_append_drop state.delivered state.sent] at before
    have untold := (List.pairwise_append.mp before).2.2 earlier taken published rest token role
    simp [told] at untold
  · intro index task transfer read waiting
    exact sound.orderly.waiters index task transfer.token read (by rw [waiting]; rfl)
  · intro index task transfer now event progress text read waiting takes server accept
    obtain ⟨params, present, cvm, tokens, -⟩ :=
      OversizedFrame.accept.params_intoProgressNotification transfer.token progress text
    have frame := isOversizedFrame_intoProgressNotification .accept transfer.token progress text
    simp only [ClientState.handleNotification, takes, server, and_self, if_true, accept,
      isOpenStreamFrame_accept, Bool.false_eq_true, and_false, if_false, frame,
      ClientState.handleOversizedFrame, cvmValue, present, Option.bind_some, cvm,
      OversizedFrame.fromCvmValue_toCvmValue, tokens, progressTokenString]
    rcases sound.orderly.waiters index task transfer.token read (by rw [waiting]; rfl) with
      signalled | found
    · -- The send has been told before, and stays so.
      split
      · exact signalled
      · exact List.mem_cons_of_mem _ signalled
    · rw [show (state.client.learnServerDiscovery event).acceptWaiters.lookup transfer.token =
        some index from found]
      exact List.mem_cons_self

end Handshaking

/--
In every run in which the client asks for an accept frame only before it has said that it takes
transfers, and never for two sends of one token at a time, the two sides agree about the handshake.
-/
theorem handshake_agrees_of_asksFirst (setting : HandshakeSetting)
    (enabled : setting.server.oversizedEnabled = true) (maxPending : Nat) (pmis : List String)
    (requested : Option PaymentInteractionMode) (maxSessions : Nat) (listening : Bool)
    (state : Handshaking)
    (reached : Reaches (Handshaking.step setting) Handshaking.AsksFirst
      (.start setting maxPending pmis requested maxSessions listening) state) :
    state.Agrees setting :=
  (Handshaking.Sound.reached reached).agrees enabled

/-- Alice, and a server that is open to everybody. -/
def aliceSetting : HandshakeSetting where
  authorOf := aliceAndBob
  client := callingClient
  server := .public callPrimitives

/-- A request is sent in frames, up to the opening frame. -/
def knocks (index : Nat) (eventId : String) : List HandshakeAction :=
  [.client (.send (toolCallWith 2 "7")), .client (.advance index ⟨0, "", true⟩),
    .client (.advance index ⟨0, "", true⟩), .client (.advance index ⟨0, eventId, true⟩)]

/-- A small request is sent, and the server takes it. -/
def sendsSmall (eventId : String) : List HandshakeAction :=
  [.client (.send (.request ⟨"2.0", .ofU64 1, "tools/list", none⟩)),
    .client (.advance 0 ⟨0, eventId, true⟩), .client (.advance 0 ⟨0, "", true⟩),
    .client (.advance 0 ⟨0, "", true⟩), .deliver 0]

/-- The next event is an opening frame for which an accept frame is awaited, and is admitted. -/
def Handshaking.knocked (state : Handshaking) : Bool :=
  state.sent[state.delivered]?.any fun published =>
    published.role = .opening (some "7") ∧
      state.serving.server.admits aliceSetting.server 0 published.event

/-- The server issues an accept frame for the next event. -/
def Handshaking.answered (state : Handshaking) : Bool :=
  state.sent[state.delivered]?.any fun published =>
    (state.serving.server.receive aliceSetting.server 0 published.event).2.any fun effects =>
      .accepted "alice" published.event.eventId "7" ∈ effects

theorem asksFirst_of_alone {state : Handshaking} (action : HandshakeAction)
    (sole : state.client.tasks.length ≤ 1) (silent : state.sent = []) :
    state.AsksFirst action := by
  cases action with
  | client action =>
    cases action with
    | advance index met =>
      intro task found
      have first := (List.getElem?_eq_some_iff.mp found).1
      split
      · -- There is no other send.
        intro other task' different read
        have second := (List.getElem?_eq_some_iff.mp read).1
        omega
      · simp_all
      · trivial
    | _ => trivial
  | _ => trivial

/-- A client whose first request is sent in frames gets its accept frame. -/
theorem handshake_agrees_of_asksFirst_alone :
    ∃ state, Reaches (Handshaking.step aliceSetting) Handshaking.AsksFirst
        (.start aliceSetting 10 [] none 10 false) state ∧
      state.knocked = true ∧ state.Agrees aliceSetting := by
  have ensures (state : Handshaking) (action : HandshakeAction)
      (passed : decide (state.client.tasks.length ≤ 1 ∧ state.sent = []) = true) :
      state.AsksFirst action :=
    asksFirst_of_alone action (of_decide_eq_true passed).1 (of_decide_eq_true passed).2
  refine Reaches.exists_of_any ensures (knocks 0 "alice-1") (Handshaking.knocked ·)
    (by decide +kernel) ?_
  intro state reached knocked
  exact ⟨knocked, handshake_agrees_of_asksFirst aliceSetting rfl 10 [] none 10 false state reached⟩

/-- A client that has sent a small request before waits for an accept frame in vain. -/
theorem admitted_start_gets_no_accept :
    ∃ state, Reaches (Handshaking.step aliceSetting) Unrestricted
        (.start aliceSetting 10 [] none 10 false) state ∧
      state.knocked = true ∧ state.answered = false := by
  exact Reaches.of_run (sendsSmall "alice-1" ++ knocks 1 "alice-2") _ (by decide +kernel)

end ContextVm
