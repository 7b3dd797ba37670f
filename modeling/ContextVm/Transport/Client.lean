import ContextVm.Transport.EventLoop

/-! A client: the requests it sends, in steps that interleave, and the events it takes in. -/

namespace ContextVm

/-! The requests that wait for a response. -/

/-- A request that a client has sent and has no response to. -/
structure PendingRequest where
  originalId : Json
  isInitialize : Bool
  registeredAt : Nat
  progressToken : Option Json
  deriving DecidableEq

/-- The pending requests, by the event that the response will refer to. -/
structure ClientCorrelationStore where
  pendingRequests : Lru String PendingRequest

namespace ClientCorrelationStore

/-- An empty store for so many requests. -/
def withMaxPending (maxPending : Nat) : ClientCorrelationStore := ⟨.withCapacity maxPending⟩

/-- Note a request, at the cost of the least recently used one in a full store. -/
def register (store : ClientCorrelationStore) (now : Nat) (eventId : String) (originalId : Json)
    (isInitialize : Bool) (progressToken : Option Json) : ClientCorrelationStore :=
  ⟨store.pendingRequests.put eventId ⟨originalId, isInitialize, now, progressToken⟩⟩

/-- Whether a request is pending under an event. -/
def contains (store : ClientCorrelationStore) (eventId : String) : Bool :=
  (store.pendingRequests.peek eventId).isSome

/-- Remove a pending request and return it. -/
def remove (store : ClientCorrelationStore) (eventId : String) :
    Option PendingRequest × ClientCorrelationStore :=
  (store.pendingRequests.peek eventId, ⟨store.pendingRequests.pop eventId⟩)

/-- Count a pending request as registered now. -/
def touch (store : ClientCorrelationStore) (now : Nat) (eventId : String) :
    ClientCorrelationStore :=
  match store.pendingRequests.peek eventId with
  | some entry => ⟨store.pendingRequests.put eventId { entry with registeredAt := now }⟩
  | none => store

/-- The events whose requests have been pending for at least a timeout. -/
def expiredKeys (store : ClientCorrelationStore) (now timeout : Nat) : List String :=
  (store.pendingRequests.iter.filter fun item => timeout ≤ now - item.2.registeredAt).map Prod.fst

/-- Remove the requests that have been pending for at least a timeout. -/
def sweepExpired (store : ClientCorrelationStore) (now timeout : Nat) : ClientCorrelationStore :=
  ⟨(store.expiredKeys now timeout).foldl Lru.pop store.pendingRequests⟩

end ClientCorrelationStore

/-! What a client is and does. -/

/-- What a client is configured with, and what it takes as given. -/
structure ClientConfig where
  publicKey : String
  serverPubkey : String
  isStateless : Bool
  encryptionMode : EncryptionMode
  giftWrapMode : GiftWrapMode
  oversizedEnabled : Bool
  -- The size from which on a request is sent in frames.
  threshold : Nat
  transferPolicy : TransferPolicy
  openStreamEnabled : Bool
  primitives : TransferPrimitives
  -- The text of a message.
  toText : JsonRpcMessage → String
  -- The size of the event that would be published for a message; none if it cannot be built.
  publishedSize : JsonRpcMessage → List (List String) → Option Nat
  -- The size of pieces with which every frame is small enough, if there is one.
  safeChunkSize : Option Nat

/-- What a client has asked for and was told about payments. -/
structure ClientNegotiationState where
  pmis : List String
  requested : Option PaymentInteractionMode
  effective : Option PaymentInteractionMode
  lastSent : Option PaymentInteractionMode
  deriving DecidableEq

/-- A request on its way out in frames. -/
structure OutboundTransfer where
  token : String
  frames : BuiltOversizedFrames
  wrapKind : Option Nat
  -- The opening frame carries the token.
  opening : ∃ digest totalBytes totalChunks progress text, frames.start =
    (OversizedFrame.start digest totalBytes totalChunks).intoProgressNotification token progress
      text

/-- How far a message has come on its way out. -/
inductive SendPhase where
  -- The tags are composed.
  | composed
  -- As one event: a request is noted as pending, and then published.
  | registered (eventId : String)
  | unpublished (eventId : String)
  -- In frames: it is settled whether to wait for an accept frame, and a waiter is enlisted.
  | resolved (needsAccept : Bool) (transfer : OutboundTransfer)
  | enlisted (needsAccept : Bool) (transfer : OutboundTransfer)
  | waiting (transfer : OutboundTransfer)
  | streaming (needsAccept : Bool) (transfer : OutboundTransfer) (left : List JsonRpcNotification)
  | failing (needsAccept : Bool) (token : String)
  -- All frames are published; the waiter is dropped, and then the request is noted as pending.
  | ended (needsAccept : Bool) (token endId : String)
  | delisted (endId : String)
  -- Only the latches are left to be flipped.
  | latching
  | finished (sent : Bool)

/-- A message on its way out. -/
structure SendTask where
  message : JsonRpcMessage
  -- The token its frames would go under; without one it is not sent in frames.
  token : Option String
  tags : List (List String)
  discoverySent : Bool
  paymentInteraction : Option PaymentInteractionMode
  wrapKind : Option Nat
  phase : SendPhase

/-- What a client keeps. -/
structure ClientState where
  hasSentDiscoveryTags : Bool
  discovered : PeerCapabilities
  serverSupportsEphemeral : Bool
  negotiation : ClientNegotiationState
  pending : ClientCorrelationStore
  -- The sends that wait for an accept frame, by their tokens.
  acceptWaiters : AList fun _ : String => Nat
  -- The sends that have been told of theirs.
  signalled : List Nat
  oversizedReceiver : OversizedTransferReceiver
  tasks : List SendTask

/-- A client that has just been started. -/
def ClientState.start (config : ClientConfig) (maxPending : Nat) (pmis : List String)
    (requested : Option PaymentInteractionMode) : ClientState where
  hasSentDiscoveryTags := false
  discovered := ⟨false, false, false, false⟩
  serverSupportsEphemeral := false
  negotiation := ⟨pmis, requested, none, none⟩
  pending := .withMaxPending maxPending
  acceptWaiters := ∅
  signalled := []
  oversizedReceiver := .withPolicy config.transferPolicy
  tasks := []

/-! Sending. -/

/-- The tags that say what a client can do. -/
def ClientConfig.capabilityTags (config : ClientConfig) : List (List String) :=
  (if config.encryptionMode ≠ .disabled then
    ["support_encryption"] ::
      (if config.giftWrapMode ≠ .persistent then [["support_encryption_ephemeral"]] else [])
  else []) ++
  (if config.oversizedEnabled then [[supportOversizedTransfer]] else []) ++
  (if config.openStreamEnabled then [["support_open_stream"]] else [])

/-- The tags that every event for the server has. -/
def ClientConfig.recipientTags (config : ClientConfig) : List (List String) :=
  [["p", config.serverPubkey]]

/-- A payment lifecycle as it is written in a tag. -/
def paymentInteractionTag : PaymentInteractionMode → List String
  | .transparent => ["payment_interaction", "transparent"]
  | .explicitGating => ["payment_interaction", "explicit_gating"]

/-- The tags about payments, and the lifecycle they ask for if it was not asked for before. -/
def ClientNegotiationState.pendingTags (state : ClientNegotiationState) :
    List (List String) × Option PaymentInteractionMode :=
  let pendingMode := if state.requested ≠ state.lastSent then state.requested else none
  ((state.pmis.map fun pmi => ["pmi", pmi]) ++ pendingMode.toList.map paymentInteractionTag,
    pendingMode)

/-- The kind of gift wrap that a client uses. -/
def outboundGiftWrapKind (mode : GiftWrapMode) (serverSupportsEphemeral : Bool) : Nat :=
  match mode with
  | .persistent => giftWrapKind
  | .ephemeral => ephemeralGiftWrapKind
  | .optional => if serverSupportsEphemeral then ephemeralGiftWrapKind else giftWrapKind

/-- The gift wrap around what a client publishes now; without encryption there is none. -/
def ClientState.outboundWrap (config : ClientConfig) (client : ClientState) : Option Nat :=
  if config.encryptionMode.shouldEncrypt true then
    some (outboundGiftWrapKind config.giftWrapMode client.serverSupportsEphemeral)
  else none

/-- The progress token of a request, as it was sent. -/
def originalProgressToken (request : JsonRpcRequest) : Option Json :=
  (request.params.bind fun params => params.get "_meta").bind fun fields =>
    fields.get "progressToken"

/-- Begin to send a message: the tags are composed from what is known now. -/
def ClientState.compose (config : ClientConfig) (client : ClientState) (message : JsonRpcMessage) :
    SendTask :=
  let discoveryTags :=
    if message.isRequest ∧ client.hasSentDiscoveryTags = false then config.capabilityTags else []
  let (negotiationTags, paymentInteraction) :=
    if message.isRequest then client.negotiation.pendingTags else ([], none)
  { message
    token := match message with
      | .request request =>
        if config.oversizedEnabled then
          (originalProgressToken request).bind (progressTokenString config.primitives.serde)
        else none
      | _ => none
    tags := config.recipientTags ++ discoveryTags ++ negotiationTags
    discoverySent := discoveryTags ≠ []
    paymentInteraction
    wrapKind := client.outboundWrap config
    phase := .composed }

/-- Whether a client without a handshake answers a message itself. -/
def ClientConfig.emulates (config : ClientConfig) (message : JsonRpcMessage) : Bool :=
  config.isStateless && match message with
    | .request request => request.method = "initialize"
    | .notification notification => notification.method = "notifications/initialized"
    | _ => false

/-- Whether a message is sent in frames. -/
def SendTask.isOversized (config : ClientConfig) (task : SendTask) : Bool :=
  config.threshold ≤ (config.toText task.message).utf8ByteSize ∨
    -- The size of the text is only a lower bound for that of the event.
    (config.publishedSize task.message task.tags).all fun size => config.threshold < size

/-- The frames of a message. -/
def SendTask.buildTransfer (config : ClientConfig) (task : SendTask) (token : String)
    (needsAccept : Bool) (wrapKind : Option Nat) : Option OutboundTransfer :=
  match config.safeChunkSize with
  | none => none
  | some chunkSize =>
    match built : buildOversizedFrames config.primitives (config.toText task.message)
        ⟨token, chunkSize, needsAccept⟩ with
    | .error _ => none
    | .ok frames =>
      some
        { token, frames, wrapKind
          opening := by
            obtain ⟨_, _, start, _⟩ := buildOversizedFrames_ok built
            exact ⟨_, _, _, _, _, start⟩ }

/-- What an event is published for. -/
inductive PublishRole where
  | single
  -- The opening frame, with the token for which an accept frame is awaited.
  | opening (awaited : Option String)
  | piece
  | closing
  deriving DecidableEq

/-- An event that a client publishes. -/
structure PublishedEvent where
  event : ReceivedEvent
  role : PublishRole
  deriving DecidableEq

/-- What a step of a send does to what the sends share. -/
inductive Deed where
  | nothing
  | register (now : Nat) (eventId : String) (request : JsonRpcRequest)
  | remove (eventId : String)
  | enlist (token : String)
  | delist (token : String)
  | publish (published : PublishedEvent)
  | latch

/-- What a step of a send meets with: the time, the id of an event, and whether it succeeds. -/
structure Circumstances where
  now : Nat
  eventId : String
  ok : Bool

/-- Note a request as pending; only a request is. -/
def Deed.registering (now : Nat) (eventId : String) : JsonRpcMessage → Deed
  | .request request => .register now eventId request
  | _ => .nothing

/-- Publish a message of a client. -/
def Deed.publishing (config : ClientConfig) (eventId : String) (tags : List (List String))
    (wrapKind : Option Nat) (message : JsonRpcMessage) (role : PublishRole) : Deed :=
  .publish ⟨⟨eventId, config.publicKey, tags, wrapKind, message⟩, role⟩

/-- Drop the waiter for an accept frame, if there was to be one. -/
def Deed.delisting (needsAccept : Bool) (token : String) : Deed :=
  if needsAccept then .delist token else .nothing

/-- The event that a step of a send publishes. -/
def Deed.published : Deed → Option PublishedEvent
  | .publish published => some published
  | _ => none

/-- The next step of a send. -/
def SendTask.advance (config : ClientConfig) (client : ClientState) (index : Nat) (task : SendTask)
    (met : Circumstances) : Option (SendPhase × Deed) :=
  match task.phase with
  | .composed =>
    match task.token.filter fun _ => task.isOversized config with
    | some token =>
      -- The handshake is left out once the server is known to take transfers.
      let needsAccept := !client.discovered.supportsOversizedTransfer
      match task.buildTransfer config token needsAccept (client.outboundWrap config) with
      | some transfer => some (.resolved needsAccept transfer, .nothing)
      | none => some (.finished false, .nothing)
    | none =>
      if (config.publishedSize task.message task.tags).isSome then
        some (.registered met.eventId, .registering met.now met.eventId task.message)
      else some (.finished false, .nothing)
  | .registered eventId =>
    if met.ok then
      some (.latching, .publishing config eventId task.tags task.wrapKind task.message .single)
    else some (.unpublished eventId, .nothing)
  | .unpublished eventId => some (.finished false, .remove eventId)
  | .resolved needsAccept transfer =>
    some (.enlisted needsAccept transfer,
      if needsAccept then .enlist transfer.token else .nothing)
  | .enlisted needsAccept transfer =>
    if met.ok then
      some (if needsAccept then .waiting transfer
          else .streaming false transfer transfer.frames.chunks,
        -- Only the opening frame has more than the recipient's tag.
        .publishing config met.eventId task.tags transfer.wrapKind
          (.notification transfer.frames.start)
          (.opening (if needsAccept then some transfer.token else none)))
    else some (.failing needsAccept transfer.token, .nothing)
  | .waiting transfer =>
    if index ∈ client.signalled then
      some (.streaming true transfer transfer.frames.chunks, .nothing)
    -- The time is up, or the waiter was dropped.
    else some (.failing true transfer.token, .nothing)
  | .streaming needsAccept transfer (chunk :: left) =>
    if met.ok then
      some (.streaming needsAccept transfer left,
        .publishing config met.eventId config.recipientTags transfer.wrapKind
          (.notification chunk) .piece)
    else some (.failing needsAccept transfer.token, .nothing)
  | .streaming needsAccept transfer [] =>
    if met.ok then
      some (.ended needsAccept transfer.token met.eventId,
        .publishing config met.eventId config.recipientTags transfer.wrapKind
          (.notification transfer.frames.end_) .closing)
    else some (.failing needsAccept transfer.token, .nothing)
  | .failing needsAccept token => some (.finished false, .delisting needsAccept token)
  | .ended needsAccept token endId => some (.delisted endId, .delisting needsAccept token)
  | .delisted endId => some (.latching, .registering met.now endId task.message)
  | .latching => some (.finished true, .latch)
  | .finished _ => none

/-- What a step of a send leaves of what the sends share. -/
def ClientState.perform (client : ClientState) (index : Nat) (task : SendTask) :
    Deed → ClientState
  | .nothing | .publish _ => client
  | .register now eventId request =>
    { client with
      pending := client.pending.register now eventId request.id (request.method = "initialize")
        (originalProgressToken request) }
  | .remove eventId => { client with pending := (client.pending.remove eventId).2 }
  -- A waiter under the same token is dropped.
  | .enlist token => { client with acceptWaiters := client.acceptWaiters.insert token index }
  | .delist token => { client with acceptWaiters := client.acceptWaiters.erase token }
  | .latch =>
    { client with
      hasSentDiscoveryTags := client.hasSentDiscoveryTags || task.discoverySent
      negotiation :=
        { client.negotiation with
          lastSent := task.paymentInteraction <|> client.negotiation.lastSent } }

/-! Taking events in. -/

/-- An event from the relays, decrypted if it was wrapped. -/
structure InboundEvent where
  giftWrapKind : Option Nat
  pubkey : String
  tags : List (List String)
  content : String
  deriving DecidableEq

/-- What becomes of an event. -/
inductive Handled where
  -- It is none that the client takes.
  | skipped
  -- A frame of a stream is handed to the streams.
  | streamed
  -- An accept frame, for a send that waits for it or for none.
  | accepted (index : Option Nat)
  -- A frame of a transfer that goes on, or one that failed.
  | reassembling
  | transferFailed (error : OversizedTransferError)
  -- It refers to a request that is not pending.
  | unknown
  | dropped
  -- A response is handed to the payments or to the consumer, with the request it was pending for.
  | answered (entry : Option PendingRequest) (message : JsonRpcMessage)
  -- Another message is handed to the payments or to the consumer.
  | forwarded (message : JsonRpcMessage)
  deriving DecidableEq

/-- Whether an event is of a kind that a client takes. -/
def ClientConfig.takes (config : ClientConfig) (event : InboundEvent) : Bool :=
  match event.giftWrapKind with
  | some kind => config.encryptionMode ≠ .disabled ∧ config.giftWrapMode.allowsKind kind
  | none => config.encryptionMode ≠ .required

/-- The event that an event refers to. -/
def InboundEvent.correlatedId (event : InboundEvent) : Option String :=
  event.tags.findSome? (tagValue "e")

/-- The lifecycle that a tag names. -/
def parsePaymentInteractionValue (value : String) : Option PaymentInteractionMode :=
  if value = "transparent" then some .transparent
  else if value = "explicit_gating" then some .explicitGating
  else none

/-- What a client learns from the tags of an event of the server's. -/
def ClientState.learnServerDiscovery (client : ClientState) (event : InboundEvent) : ClientState :=
  let learned := learnPeerCapabilities event.tags
  { client with
    discovered :=
      { supportsEncryption := client.discovered.supportsEncryption || learned.supportsEncryption
        supportsEphemeralEncryption :=
          client.discovered.supportsEphemeralEncryption || learned.supportsEphemeralEncryption
        supportsOversizedTransfer :=
          client.discovered.supportsOversizedTransfer || learned.supportsOversizedTransfer
        supportsOpenStream := client.discovered.supportsOpenStream || learned.supportsOpenStream }
    negotiation :=
      { client.negotiation with
        -- Only a client that asked for it takes the tag for an answer.
        effective := if client.negotiation.requested = some .explicitGating then
            (extractPaymentInteraction event.tags).bind parsePaymentInteractionValue <|>
              client.negotiation.effective
          else client.negotiation.effective }
    serverSupportsEphemeral := client.serverSupportsEphemeral ||
      event.giftWrapKind = some ephemeralGiftWrapKind ||
      event.tags.any fun tag => tag.head? = some "support_encryption_ephemeral" }

/-- Keep the request pending that an event refers to. -/
def ClientState.touch (client : ClientState) (now : Nat) (eventId : Option String) : ClientState :=
  { client with pending := match eventId with
      | some eventId => client.pending.touch now eventId
      | none => client.pending }

/-- Hand a message over for good; a response ends the request it refers to. -/
def ClientState.consumeTerminalResponse (client : ClientState) (correlatedId : Option String)
    (message : JsonRpcMessage) : ClientState × Handled :=
  match message, correlatedId with
  | .response _, some eventId | .errorResponse _, some eventId =>
    let (entry, pending) := client.pending.remove eventId
    ({ client with pending }, .answered entry message)
  | _, _ => (client, .answered none message)

/-- A frame of a transfer that the server sent. -/
def ClientState.handleOversizedFrame (config : ClientConfig) (now : Nat) (client : ClientState)
    (correlatedId : Option String) (frame : JsonRpcNotification) : ClientState × Handled :=
  match (cvmValue frame).bind OversizedFrame.fromCvmValue with
  | some .accept =>
    -- An accept frame finds the send that waits for it by its token.
    match (frame.params.bind fun params => params.get "progressToken").bind
        (progressTokenString config.primitives.serde) with
    | none => (client, .accepted none)
    | some token =>
      match client.acceptWaiters.lookup token with
      | none => (client, .accepted none)
      | some index =>
        ({ client with
            acceptWaiters := client.acceptWaiters.erase token
            signalled := index :: client.signalled },
          .accepted (some index))
  | _ =>
    let client := client.touch now correlatedId
    let (outcome, oversizedReceiver) :=
      client.oversizedReceiver.processFrame config.primitives now frame
    let client := { client with oversizedReceiver }
    match outcome with
    | .ok none => (client, .reassembling)
    -- The message is handed over whether or not its request is pending.
    | .ok (some message) => client.consumeTerminalResponse correlatedId message
    | .error error => (client, .transferFailed error)

/-- The largest message that a single event carries. -/
def maxMessageSize : Nat := 1024 * 1024

/-- The message that the text of a single event holds. -/
def validateAndParse (serde : SerdeJson) (content : String) : Option JsonRpcMessage :=
  validateAndParseOversized serde content maxMessageSize

/-- The method of the notification that asks for a payment. -/
def paymentRequiredMethod : String := "notifications/payment_required"

/-- An event that is no frame: it has to refer to a pending request, or to none. -/
def ClientState.correlate (config : ClientConfig) (now : Nat) (client : ClientState)
    (event : InboundEvent) : ClientState × Handled :=
  let correlatedId := event.correlatedId
  if correlatedId.any fun eventId => client.pending.contains eventId = false then (client, .unknown)
  else match validateAndParse config.primitives.serde event.content with
    | none => (client, .dropped)
    | some (.request _) => (client, .dropped)
    | some (.notification body) =>
      (if body.method = paymentRequiredMethod then client.touch now correlatedId else client,
        .forwarded (.notification body))
    | some message =>
      if correlatedId = none then (client, .dropped)
      else client.consumeTerminalResponse correlatedId message

/-- The progress notification that a text holds. -/
def progressNotification (serde : SerdeJson) (content : String) : Option JsonRpcNotification :=
  ((serde.fromStr content).bind parseNotification).filter fun notification =>
    notification.method = notificationsProgressMethod

/-- One event in the client's event loop. -/
def ClientState.handleNotification (config : ClientConfig) (now : Nat) (client : ClientState)
    (event : InboundEvent) : ClientState × Handled :=
  if config.takes event ∧ event.pubkey = config.serverPubkey then
    let client := client.learnServerDiscovery event
    match progressNotification config.primitives.serde event.content with
    | some frame =>
      if config.openStreamEnabled ∧ isOpenStreamFrame frame then
        (client.touch now event.correlatedId, .streamed)
      else if isOversizedFrame frame then
        client.handleOversizedFrame config now event.correlatedId frame
      else client.correlate config now event
    | none => client.correlate config now event
  else (client, .skipped)

/-! The client at work. -/

/-- What can happen to a client. -/
inductive ClientAction where
  | send (message : JsonRpcMessage)
  -- A send takes its next step.
  | advance (index : Nat) (met : Circumstances)
  | handle (now : Nat) (event : InboundEvent)
  -- The event loop's timer, and the payments that keep a request pending.
  | sweep (now timeout : Nat)
  | touch (now : Nat) (eventId : String)

/-- One thing that happens to a client, and what it publishes. -/
def ClientState.step (config : ClientConfig) (client : ClientState) :
    ClientAction → Option (ClientState × Option PublishedEvent)
  | .send message =>
    if config.emulates message then some (client, none)
    else some ({ client with tasks := client.tasks ++ [client.compose config message] }, none)
  | .advance index met =>
    match client.tasks[index]? with
    | none => none
    | some task =>
      match task.advance config client index met with
      | none => none
      | some (phase, deed) =>
        let done := client.perform index task deed
        some ({ done with tasks := client.tasks.set index { task with phase } }, deed.published)
  | .handle now event => some ((client.handleNotification config now event).1, none)
  | .sweep now timeout =>
    some ({ client with
        pending := client.pending.sweepExpired now timeout
        oversizedReceiver :=
          if config.oversizedEnabled then client.oversizedReceiver.removeExpired now
          else client.oversizedReceiver }, none)
  | .touch now eventId => some (client.touch now (some eventId), none)

/-- A send moves on by one phase and its deed. -/
theorem ClientState.step_advance {config : ClientConfig} {client : ClientState} {index : Nat}
    {met : Circumstances} {result : ClientState × Option PublishedEvent}
    (taken : client.step config (.advance index met) = some result) :
    ∃ task phase deed, client.tasks[index]? = some task ∧
      task.advance config client index met = some (phase, deed) ∧
      result = ({ client.perform index task deed with
        tasks := client.tasks.set index { task with phase } }, deed.published) := by
  simp only [step] at taken
  split at taken
  · cases taken
  · grind

/-! What a step of a send can do. -/

/-- Whether the frames under way are to be accepted first, and their token. -/
def SendPhase.transferring : SendPhase → Option (Bool × String)
  | .enlisted needsAccept transfer | .streaming needsAccept transfer _ =>
    some (needsAccept, transfer.token)
  | .waiting transfer => some (true, transfer.token)
  | _ => none

/-- The steps a send can take, with what each does to what the sends share. -/
inductive SendTask.Moves (config : ClientConfig) (task : SendTask) (met : Circumstances) :
    SendPhase → SendPhase → Deed → Prop
  -- As one event.
  | note (eventId : String) : Moves config task met .composed (.registered eventId)
      (.registering met.now eventId task.message)
  | publish (eventId : String) : Moves config task met (.registered eventId) .latching
      (.publishing config eventId task.tags task.wrapKind task.message .single)
  | miss (eventId : String) : Moves config task met (.registered eventId) (.unpublished eventId)
      .nothing
  | forget (eventId : String) : Moves config task met (.unpublished eventId) (.finished false)
      (.remove eventId)
  -- In frames.
  | resolve (needsAccept : Bool) (transfer : OutboundTransfer) (token : task.token.isSome = true) :
      Moves config task met .composed (.resolved needsAccept transfer) .nothing
  | refuse : Moves config task met .composed (.finished false) .nothing
  | enlist (transfer : OutboundTransfer) : Moves config task met (.resolved true transfer)
      (.enlisted true transfer) (.enlist transfer.token)
  | skip (transfer : OutboundTransfer) : Moves config task met (.resolved false transfer)
      (.enlisted false transfer) .nothing
  | knock (transfer : OutboundTransfer) (ok : met.ok = true) :
      Moves config task met (.enlisted true transfer) (.waiting transfer)
      (.publishing config met.eventId task.tags transfer.wrapKind
        (.notification transfer.frames.start) (.opening (some transfer.token)))
  | enter (transfer : OutboundTransfer) : Moves config task met (.enlisted false transfer)
      (.streaming false transfer transfer.frames.chunks)
      (.publishing config met.eventId task.tags transfer.wrapKind
        (.notification transfer.frames.start) (.opening none))
  | resume (transfer : OutboundTransfer) : Moves config task met (.waiting transfer)
      (.streaming true transfer transfer.frames.chunks) .nothing
  | piece (needsAccept : Bool) (transfer : OutboundTransfer) (chunk : JsonRpcNotification)
      (left : List JsonRpcNotification) :
      Moves config task met (.streaming needsAccept transfer (chunk :: left))
      (.streaming needsAccept transfer left)
      (.publishing config met.eventId config.recipientTags transfer.wrapKind (.notification chunk)
        .piece)
  | close (needsAccept : Bool) (transfer : OutboundTransfer) :
      Moves config task met (.streaming needsAccept transfer [])
      (.ended needsAccept transfer.token met.eventId)
      (.publishing config met.eventId config.recipientTags transfer.wrapKind
        (.notification transfer.frames.end_) .closing)
  | fail {before : SendPhase} (needsAccept : Bool) (token : String)
      (under : before.transferring = some (needsAccept, token)) :
      Moves config task met before (.failing needsAccept token) .nothing
  | abandon (needsAccept : Bool) (token : String) :
      Moves config task met (.failing needsAccept token) (.finished false)
      (.delisting needsAccept token)
  | leave (needsAccept : Bool) (token endId : String) :
      Moves config task met (.ended needsAccept token endId) (.delisted endId)
      (.delisting needsAccept token)
  | pend (endId : String) : Moves config task met (.delisted endId) .latching
      (.registering met.now endId task.message)
  -- Either way.
  | latch : Moves config task met .latching (.finished true) .latch

/-- Registering is no publication. -/
theorem Deed.registering_ne_publish (now : Nat) (eventId : String) (message : JsonRpcMessage)
    (published : PublishedEvent) : Deed.registering now eventId message ≠ .publish published := by
  cases message <;> exact nofun

/-- The next step of a send is one of these. -/
theorem SendTask.moves_of_advance {config : ClientConfig} {client : ClientState} {index : Nat}
    {task : SendTask} {met : Circumstances} {phase : SendPhase} {deed : Deed}
    (advanced : task.advance config client index met = some (phase, deed)) :
    task.Moves config met task.phase phase deed := by
  unfold SendTask.advance at advanced
  -- One case for each phase, in which the step succeeds or does not.
  cases here : task.phase with
  | composed =>
    simp only [here] at advanced
    split at advanced
    · rename_i framed
      split at advanced
      · cases advanced
        refine .resolve _ _ ?_
        rw [(Option.filter_eq_some_iff.mp framed).1]
        rfl
      · cases advanced
        exact .refuse
    · split at advanced
      · cases advanced
        exact .note met.eventId
      · cases advanced
        exact .refuse
  | registered eventId =>
    simp only [here] at advanced
    split at advanced
    · cases advanced
      exact .publish eventId
    · cases advanced
      exact .miss eventId
  | unpublished eventId =>
    simp only [here] at advanced
    cases advanced
    exact .forget eventId
  | resolved needsAccept transfer =>
    simp only [here] at advanced
    cases needsAccept with
    | true =>
      cases advanced
      exact .enlist transfer
    | false =>
      cases advanced
      exact .skip transfer
  | enlisted needsAccept transfer =>
    simp only [here] at advanced
    split at advanced
    · rename_i ok
      cases needsAccept with
      | true =>
        cases advanced
        exact .knock transfer ok
      | false =>
        cases advanced
        exact .enter transfer
    · cases advanced
      exact .fail needsAccept transfer.token rfl
  | waiting transfer =>
    simp only [here] at advanced
    split at advanced
    · cases advanced
      exact .resume transfer
    · cases advanced
      exact .fail true transfer.token rfl
  | streaming needsAccept transfer left =>
    cases left with
    | nil =>
      simp only [here] at advanced
      split at advanced
      · cases advanced
        exact .close needsAccept transfer
      · cases advanced
        exact .fail needsAccept transfer.token rfl
    | cons chunk left =>
      simp only [here] at advanced
      split at advanced
      · cases advanced
        exact .piece needsAccept transfer chunk left
      · cases advanced
        exact .fail needsAccept transfer.token rfl
  | failing needsAccept token =>
    simp only [here] at advanced
    cases advanced
    exact .abandon needsAccept token
  | ended needsAccept token endId =>
    simp only [here] at advanced
    cases advanced
    exact .leave needsAccept token endId
  | delisted endId =>
    simp only [here] at advanced
    cases advanced
    exact .pend endId
  | latching =>
    simp only [here] at advanced
    cases advanced
    exact .latch
  | finished sent => grind

/-- The text of a tool call with the token 7. -/
def callText : String :=
  "\x7b\"jsonrpc\":\"2.0\",\"id\":2,\"method\":\"tools/call\"," ++
    "\"params\":\x7b\"_meta\":\x7b\"progressToken\":\"7\"\x7d\x7d\x7d"

/-- The text of a response to it. -/
def replyText : String := "\x7b\"jsonrpc\":\"2.0\",\"id\":2,\"result\":\x7b\x7d\x7d"

/-- A JSON library and a hash that know these texts. -/
def callPrimitives : TransferPrimitives where
  serde :=
    { fromStr := fun text =>
        if text = callText then
          some (.object [("jsonrpc", .string "2.0"), ("id", .ofU64 2),
            ("method", .string "tools/call"),
            ("params", .object [("_meta", .object [("progressToken", .string "7")])])])
        else if text = replyText then
          some (.object [("jsonrpc", .string "2.0"), ("id", .ofU64 2), ("result", .object [])])
        else none
      floatText := fun _ => ""
      fromStr_empty := rfl }
  sha256 := fun text =>
    if text = callText then
      [7, 180, 249, 7, 203, 246, 87, 48, 205, 106, 227, 138, 68, 197, 26, 240, 17, 117,
        230, 31, 82, 115, 18, 12, 126, 189, 223, 242, 18, 236, 184, 217]
    else if text = replyText then
      [65, 227, 248, 119, 207, 205, 88, 204, 180, 254, 105, 26, 32, 4, 230, 74, 180, 161,
        102, 136, 123, 13, 59, 65, 245, 91, 120, 185, 19, 62, 126, 53]
    else []

/-- A client that makes this call in frames, and sends what has no progress token in one event. -/
def callingClient : ClientConfig where
  publicKey := "alice"
  serverPubkey := "server"
  isStateless := false
  encryptionMode := .disabled
  giftWrapMode := .optional
  oversizedEnabled := true
  threshold := 50
  transferPolicy := .default
  openStreamEnabled := false
  primitives := callPrimitives
  toText := fun _ => callText
  publishedSize := fun _ _ => some 400
  safeChunkSize := some 100

end ContextVm
