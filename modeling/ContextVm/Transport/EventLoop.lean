import ContextVm.Oversized.Receiver
import ContextVm.Transport.InboundChain
import ContextVm.Transport.SessionStore

/-! One inbound event in the event loop of a server: what it changes, and what it sets off. -/

namespace ContextVm

/-! How messages are wrapped. -/

/-- The kind of a gift wrap that relays keep. -/
def giftWrapKind : Nat := 1059

/-- The kind of a gift wrap that relays do not keep. -/
def ephemeralGiftWrapKind : Nat := 21059

/-- Which gift wraps are used. -/
inductive GiftWrapMode where
  | optional
  | ephemeral
  | persistent
  deriving DecidableEq

/-- Whether a mode goes with a kind of gift wrap. -/
def GiftWrapMode.allowsKind : GiftWrapMode → Nat → Bool
  | .optional, kind => kind = giftWrapKind ∨ kind = ephemeralGiftWrapKind
  | .ephemeral, kind => kind = ephemeralGiftWrapKind
  | .persistent, kind => kind = giftWrapKind

/-- Whether a mode goes with gift wraps that relays do not keep. -/
def GiftWrapMode.supportsEphemeral : GiftWrapMode → Bool
  | .persistent => false
  | _ => true

/-- When messages are encrypted. -/
inductive EncryptionMode where
  | optional
  | required
  | disabled
  deriving DecidableEq

/-- Whether a message is encrypted for a peer that does or does not encrypt its own. -/
def EncryptionMode.shouldEncrypt : EncryptionMode → Bool → Bool
  | .disabled, _ => false
  | .required, _ => true
  | .optional, isEncrypted => isEncrypted

/-! What the tags of an event say about its sender. -/

/-- Whether a tag that is a bare name is among the tags, each a list of a name and values. -/
def hasSingleTag (tags : List (List String)) (name : String) : Bool :=
  tags.any fun tag => tag = [name]

/-- The capabilities a peer advertises. -/
structure PeerCapabilities where
  supportsEncryption : Bool
  supportsEphemeralEncryption : Bool
  supportsOversizedTransfer : Bool
  supportsOpenStream : Bool
  deriving DecidableEq

/-- The bare tag that advertises transfers in frames. -/
def supportOversizedTransfer : String := "support_oversized_transfer"

/-- The capabilities that tags advertise. -/
def learnPeerCapabilities (tags : List (List String)) : PeerCapabilities where
  supportsEncryption := hasSingleTag tags "support_encryption"
  supportsEphemeralEncryption := hasSingleTag tags "support_encryption_ephemeral"
  supportsOversizedTransfer := hasSingleTag tags supportOversizedTransfer
  supportsOpenStream := hasSingleTag tags "support_open_stream"

/-- The first value of a tag of the given name. -/
def tagValue (name : String) : List String → Option String
  | first :: value :: _ => if first = name then some value else none
  | _ => none

/-- The payment methods a client offers, in its order of preference. -/
def extractPmis (tags : List (List String)) : List String := tags.filterMap (tagValue "pmi")

/-- The lifecycle a client asks for, as it wrote it. -/
def extractPaymentInteraction (tags : List (List String)) : Option String :=
  tags.findSome? (tagValue "payment_interaction")

/-! The payment lifecycle of a session. -/

/-- Whether a message may go on after its sender's session was negotiated. -/
inductive NegotiationOutcome where
  | proceed
  | rejectUnsupported (requested : PaymentInteractionMode)
  deriving DecidableEq

namespace ClientSession

/-- Put a lifecycle in force, which is to be disclosed again if it is another one. -/
def applyEffective (session : ClientSession) (prevEffective : Option PaymentInteractionMode)
    (next : PaymentInteractionMode) : ClientSession :=
  if some next ≠ prevEffective then
    { session with
      effectivePaymentInteraction := some next
      hasDisclosedPaymentInteraction := false }
  else session

/-- Settle which lifecycle is in force after a message with these tags. -/
def negotiatePaymentInteraction (session : ClientSession) (innerTags : List (List String))
    (method : Option String) (isRequest supportsExplicitGating : Bool) :
    ClientSession × NegotiationOutcome :=
  -- A new handshake starts over.
  let session := if isRequest ∧ method = some "initialize" then
      { session with
        requestedPaymentInteraction := none
        effectivePaymentInteraction := none
        hasDisclosedPaymentInteraction := false }
    else session
  match extractPaymentInteraction innerTags with
  | none => (session, .proceed)
  | some raw =>
    let prevEffective := session.effectivePaymentInteraction
    if raw = "explicit_gating" ∧ supportsExplicitGating = false then
      let downgraded := { session with
        requestedPaymentInteraction := some .explicitGating }.applyEffective prevEffective
          .transparent
      -- Only a request can be answered with an error.
      (downgraded, if isRequest then .rejectUnsupported .explicitGating else .proceed)
    else
      -- A value nobody knows asks for the default.
      let mode : PaymentInteractionMode :=
        if raw = "explicit_gating" then .explicitGating else .transparent
      ({ session with requestedPaymentInteraction := some mode }.applyEffective prevEffective mode,
        .proceed)

end ClientSession

/-! The loop's own data. -/

/-- A capability that is open to clients that are not on the list. -/
structure CapabilityExclusion where
  method : String
  name : Option String
  deriving DecidableEq

/-- What the event loop is configured with. -/
structure ServerConfig where
  allowedPubkeys : List String
  excludedCapabilities : List CapabilityExclusion
  isAnnouncedServer : Bool
  oversizedEnabled : Bool
  transferPolicy : TransferPolicy
  openStreamEnabled : Bool
  supportsExplicitGating : Bool
  primitives : TransferPrimitives

/-- A server that is open to everybody and does transfers in frames. -/
def ServerConfig.public (primitives : TransferPrimitives) : ServerConfig where
  allowedPubkeys := []
  excludedCapabilities := []
  isAnnouncedServer := false
  oversizedEnabled := true
  transferPolicy := .default
  openStreamEnabled := false
  supportsExplicitGating := false
  primitives := primitives

/-- An event that was decrypted, verified and parsed. -/
structure ReceivedEvent where
  eventId : String
  senderPubkey : String
  innerTags : List (List String)
  -- The kind of the gift wrap it came in; a plain event has none.
  giftWrapKind : Option Nat
  message : JsonRpcMessage
  deriving DecidableEq

/-- Whether an event came encrypted, which is to say in a gift wrap. -/
def ReceivedEvent.isEncrypted (event : ReceivedEvent) : Bool := event.giftWrapKind.isSome

/-- What the event loop keeps from event to event. -/
structure ServerState where
  sessions : SessionStore
  held : Correlation
  oversizedReceivers : Lru String OversizedTransferReceiver

/-- Something that an event sets off. -/
inductive LoopEffect where
  -- A response is published that refuses the request.
  | refused (clientPubkey eventId : String) (response : JsonRpcErrorResponse)
  -- An accept frame is published for an opening frame.
  | accepted (clientPubkey eventId token : String)
  -- The listener for evictions is told of a client.
  | evicted (clientPubkey : String)
  -- A frame of a stream is handed to the streams.
  | streamed (clientPubkey : String) (frame : JsonRpcNotification)
  -- A message enters the inbound chain.
  | dispatched (ctx : InboundContext) (message : JsonRpcMessage)
  deriving DecidableEq

/-- The message that an effect lets into the chain, with its context. -/
def LoopEffect.dispatch : LoopEffect → Option (InboundContext × JsonRpcMessage)
  | .dispatched ctx message => some (ctx, message)
  | _ => none

theorem LoopEffect.dispatch_evicted (clients : List String) :
    (clients.map LoopEffect.evicted).filterMap LoopEffect.dispatch = [] := by
  rw [List.filterMap_eq_nil_iff]
  intro effect member
  obtain ⟨client, -, rfl⟩ := List.mem_map.mp member
  rfl

/-- The extension object of a notification. -/
def cvmValue (notification : JsonRpcNotification) : Option Json :=
  notification.params.bind fun params => params.get "cvm"

/-- Whether an extension object is a frame of the given type. -/
def isFrameValue (type : String) (value : Json) : Bool :=
  (value.get "type").bind Json.asStr = some type ∧
    ((value.get "frameType").bind Json.asStr).isSome

/-- Whether a notification carries a frame of a transfer. -/
def isOversizedFrame (notification : JsonRpcNotification) : Bool :=
  (cvmValue notification).any (isFrameValue oversizedTransferType)

/-- Whether a notification carries a frame of a stream. -/
def isOpenStreamFrame (notification : JsonRpcNotification) : Bool :=
  (cvmValue notification).any (isFrameValue "open-stream")

/-! Authorization. -/

/-- Whether a capability is open to everybody. -/
def isCapabilityExcluded (excluded : List CapabilityExclusion) (method : String)
    (name : Option String) : Bool :=
  -- Nobody is kept from the handshake.
  if method = "initialize" ∨ method = "notifications/initialized" then true
  else excluded.any fun exclusion =>
    -- An exclusion without a name is about the whole method.
    exclusion.method = method ∧ (exclusion.name = none ∨ exclusion.name = name)

/-- Whether the sender of an event may have it handled. -/
def ServerConfig.authorizes (config : ServerConfig) (event : ReceivedEvent) : Bool :=
  let name := match event.message with
    | .request request => (request.params.bind fun params => params.get "name").bind Json.asStr
    | _ => none
  config.allowedPubkeys = [] ∨ event.senderPubkey ∈ config.allowedPubkeys ∨
    isCapabilityExcluded config.excludedCapabilities (event.message.method.getD "") name

namespace ServerState

/-- What an event of a client that is not authorized comes to. -/
def refuse (config : ServerConfig) (state : ServerState) (event : ReceivedEvent) :
    ServerState × List LoopEffect :=
  match event.message with
  | .request request =>
    if config.isAnnouncedServer then
      -- The first response carries the common tags, which is noted once.
      let hasSent := (state.sessions.sessions.peek event.senderPubkey).any (·.hasSentCommonTags)
      ({ state with
          sessions := if hasSent then state.sessions
            else state.sessions.markCommonTagsSent event.senderPubkey },
        [.refused event.senderPubkey event.eventId
          ⟨"2.0", request.id, ⟨-32000, "Unauthorized", none⟩⟩])
    else (state, [])
  | _ => (state, [])

/-- Tell a client that the lifecycle it asked for is not offered. -/
def unsupportedPaymentInteractionError (id : Json) : JsonRpcErrorResponse where
  jsonrpc := "2.0"
  id := id
  error :=
    ⟨-32602, "Unsupported payment_interaction mode: explicit_gating",
      some (.object [("requested", .string "explicit_gating"),
        ("supported", .array [.string "transparent"])])⟩

/-- What a session learns from an event, before its lifecycle is negotiated. -/
def learn (config : ServerConfig) (now : Nat) (event : ReceivedEvent) (session : ClientSession) :
    ClientSession :=
  let discovered := learnPeerCapabilities event.innerTags
  { session.updateActivity now with
    isEncrypted := event.isEncrypted
    supportsEphemeralGiftWrap :=
      session.supportsEphemeralGiftWrap || event.giftWrapKind = some ephemeralGiftWrapKind
    supportsEncryption := session.supportsEncryption || discovered.supportsEncryption
    supportsEphemeralEncryption :=
      session.supportsEphemeralEncryption || discovered.supportsEphemeralEncryption
    -- What this server does not do itself is not learned.
    supportsOversizedTransfer := session.supportsOversizedTransfer ||
      (config.oversizedEnabled && discovered.supportsOversizedTransfer)
    supportsOpenStream := session.supportsOpenStream ||
      (config.openStreamEnabled && discovered.supportsOpenStream) }

/-- What a session keeps of a request in flight. -/
def pend (serde : SerdeJson) (eventId : String) (request : JsonRpcRequest)
    (session : ClientSession) : ClientSession :=
  let pending := session.pendingRequests.insert eventId request.id
  match Correlation.requestProgressToken serde request with
  | none => { session with pendingRequests := pending }
  | some token =>
    { session with
      -- The token is put into the same map as the event ids.
      pendingRequests := pending.insert token (.string eventId)
      eventToProgressToken := session.eventToProgressToken.insert eventId token }

/-- The place in a transfer that is kept for an accept frame. -/
def acceptProgress : UInt64 := 2

/-- Whether an opening frame is to be answered with an accept frame, and for which token. -/
def issuedAccept (config : ServerConfig) (frame : JsonRpcNotification)
    (clientAlreadySupported : Bool) : Option String :=
  match (cvmValue frame).bind OversizedFrame.fromCvmValue with
  | some (.start ..) =>
    if clientAlreadySupported then none
    else (frame.params.bind fun params => params.get "progressToken").bind
      (progressTokenString config.primitives.serde)
  | _ => none

/-- A frame of a transfer, fed to the reassembly of its sender. -/
def feedFrame (config : ServerConfig) (now : Nat) (frame : JsonRpcNotification)
    (accept : Option String) (receiver : OversizedTransferReceiver) :
    FrameOutcome × OversizedTransferReceiver :=
  let (outcome, fed) := receiver.processFrame config.primitives now frame
  match outcome, accept with
  -- The sender leaves a place for the accept frame, so the receiver is shown one as well.
  | .ok none, some token =>
    (.ok none, (fed.processFrame config.primitives now
      (OversizedFrame.accept.intoProgressNotification token acceptProgress none)).2)
  | _, _ => (outcome, fed)

/-- A frame of a transfer: accepted, fed, and its message dispatched when it is complete. -/
def handleOversizedFrame (config : ServerConfig) (now : Nat) (state : ServerState)
    (frame : JsonRpcNotification) (ctx : InboundContext) (clientAlreadySupported : Bool) :
    ServerState × List LoopEffect :=
  let accept := issuedAccept config frame clientAlreadySupported
  let receiver := (state.oversizedReceivers.peek ctx.clientPubkey).getD
    (.withPolicy config.transferPolicy)
  let (outcome, fed) := feedFrame config now frame accept receiver
  let state :=
    { state with oversizedReceivers := state.oversizedReceivers.put ctx.clientPubkey fed }
  let accepted := accept.toList.map (.accepted ctx.clientPubkey ctx.requestEventId ·)
  match outcome with
  | .ok (some message) =>
    let token := (frame.params.bind fun params => params.get "progressToken").bind
      (progressTokenString config.primitives.serde)
    ({ state with held :=
        { state.held with
          requestWrapKinds :=
            state.held.requestWrapKinds.insert ctx.requestEventId ctx.mirroredWrapKind
          eventRoutes := state.held.eventRoutes.register now ctx.requestEventId ctx.clientPubkey
            (message.id.getD .null) token } },
      accepted ++ [.dispatched ctx message])
  | _ => (state, accepted)

/-- What is done with a message once its sender's session is up to date. -/
def route (config : ServerConfig) (now : Nat) (state : ServerState) (ctx : InboundContext)
    (clientAlreadySupported : Bool) (message : JsonRpcMessage) : ServerState × List LoopEffect :=
  match message with
  | .notification body =>
    if config.oversizedEnabled ∧ isOversizedFrame body then
      handleOversizedFrame config now state body ctx clientAlreadySupported
    else if config.openStreamEnabled ∧ isOpenStreamFrame body then
      (state, [.streamed ctx.clientPubkey body])
    else if body.method = "notifications/initialized" then
      ({ state with sessions := state.sessions.markInitialized ctx.clientPubkey },
        [.dispatched ctx message])
    else (state, [.dispatched ctx message])
  | .request request =>
    let pended := state.sessions.getMut ctx.clientPubkey
      (pend config.primitives.serde ctx.requestEventId request)
    ({ state with
        sessions := pended.getD state.sessions
        held := state.held.track config.primitives.serde now ctx message },
      [.dispatched ctx message])
  | _ => (state, [.dispatched ctx message])

/-- What the inbound chain is told about an event, with the lifecycle of its sender's session. -/
def contextOf (event : ReceivedEvent) (session : ClientSession) : InboundContext where
  clientPubkey := event.senderPubkey
  requestEventId := event.eventId
  mirroredWrapKind := event.giftWrapKind
  clientPmis := if extractPmis event.innerTags = [] then none
    else some (extractPmis event.innerTags)
  paymentInteraction := some (session.effectivePaymentInteraction.getD .transparent)

/--
One event in the loop.

The loop panics, and sets nothing off, when the session it asked for is not there.
-/
def receive (config : ServerConfig) (now : Nat) (state : ServerState) (event : ReceivedEvent) :
    ServerState × Option (List LoopEffect) :=
  if config.authorizes event then
    let (ensured, told) := state.sessions.ensureSession event.senderPubkey event.isEncrypted
      state.held.eventRoutes now
    match ensured.sessions.peek event.senderPubkey with
    | none => ({ state with sessions := ensured }, none)
    | some session =>
      let (negotiated, outcome) := (learn config now event session).negotiatePaymentInteraction
        event.innerTags event.message.method event.message.isRequest config.supportsExplicitGating
      let state := { state with sessions :=
        { ensured with sessions := ensured.sessions.put event.senderPubkey negotiated } }
      let (after, effects) : ServerState × List LoopEffect := match outcome with
        | .rejectUnsupported _ =>
          (state, [.refused event.senderPubkey event.eventId
            (unsupportedPaymentInteractionError (event.message.id.getD .null))])
        -- What was known of the sender before this event decides about an accept frame.
        | .proceed => route config now state (contextOf event negotiated)
            session.supportsOversizedTransfer event.message
      (after, some (told.map LoopEffect.evicted ++ effects))
  else
    let (after, effects) := refuse config state event
    (after, some effects)

end ServerState

/-! What an event leaves of the sessions and of the routes. -/

namespace SessionStore

/-- Something holds of every session of a store. -/
def All (holds : String → ClientSession → Prop) (store : SessionStore) : Prop :=
  ∀ client session, store.sessions.peek client = some session → holds client session

variable {holds : String → ClientSession → Prop} {store : SessionStore}

theorem All.put (all : store.All holds) {client : String} {session : ClientSession}
    (written : holds client session) :
    { store with sessions := store.sessions.put client session }.All holds := by
  grind [All, Lru.peek_put]

theorem All.getMut (all : store.All holds) {client : String}
    {change : ClientSession → ClientSession}
    (kept : ∀ session, holds client session → holds client (change session)) :
    ((store.getMut client change).getD store).All holds := by
  unfold SessionStore.getMut
  cases found : store.sessions.peek client with
  | none => exact all
  | some session => exact all.put (kept session (all client session found))

theorem All.ensureSession (all : store.All holds)
    (fresh : ∀ client now isEncrypted, holds client (.new now isEncrypted)) (client : String)
    (isEncrypted : Bool) (eventRoutes : RouteStore) (now : Nat) :
    (store.ensureSession client isEncrypted eventRoutes now).1.All holds := by
  unfold SessionStore.ensureSession
  split
  · exact all
  · rename_i absent
    rw [Bool.not_eq_true] at absent
    have inserted := all.put (fresh client now isEncrypted)
    cases given : store.sessions.victim client with
    | none =>
      rw [insertSession_of_fits _ _ _ absent given]
      exact inserted
    | some oldest =>
      obtain ⟨encrypted, both⟩ := insertSession_of_victim isEncrypted eventRoutes now absent given
      rw [both]
      split
      · exact inserted.put (fresh oldest now encrypted)
      · exact inserted

end SessionStore

namespace ServerState

theorem negotiate_pending (session : ClientSession) (innerTags : List (List String))
    (method : Option String) (isRequest supportsExplicitGating : Bool) :
    let negotiated := (session.negotiatePaymentInteraction innerTags method isRequest
      supportsExplicitGating).1
    negotiated.pendingRequests = session.pendingRequests ∧
      negotiated.eventToProgressToken = session.eventToProgressToken := by
  -- A lifecycle put into force touches neither map, and nor does a new handshake.
  have effective (session : ClientSession) (prev : Option PaymentInteractionMode)
      (next : PaymentInteractionMode) :
      (session.applyEffective prev next).pendingRequests = session.pendingRequests ∧
        (session.applyEffective prev next).eventToProgressToken =
          session.eventToProgressToken := by grind [ClientSession.applyEffective]
  unfold ClientSession.negotiatePaymentInteraction
  simp only
  split
  · split <;> exact ⟨rfl, rfl⟩
  · grind

/-- What a session keeps once a request was noted: what it kept, and two entries for the request. -/
theorem lookup_pend {serde : SerdeJson} {eventId key : String} {request : JsonRpcRequest}
    {session : ClientSession} {value : Json}
    (read : (pend serde eventId request session).pendingRequests.lookup key = some value) :
    session.pendingRequests.lookup key = some value ∨ key = eventId ∨
      (Correlation.requestProgressToken serde request = some key ∧ value = .string eventId) := by
  have first (read : (session.pendingRequests.insert eventId request.id).lookup key = some value) :
      session.pendingRequests.lookup key = some value ∨ key = eventId :=
    (lookup_insert_cases read).symm.imp_right And.left
  unfold pend at read
  split at read
  · exact (first read).imp_right .inl
  · rename_i token asked
    rcases lookup_insert_cases read with ⟨rfl, rfl⟩ | old
    · -- The token's entry names the event.
      exact .inr (.inr ⟨asked, rfl⟩)
    · exact (first old).imp_right .inl

theorem lookup_pend_token {serde : SerdeJson} {eventId key token : String}
    {request : JsonRpcRequest} {session : ClientSession}
    (read : (pend serde eventId request session).eventToProgressToken.lookup key = some token) :
    session.eventToProgressToken.lookup key = some token ∨ key = eventId := by
  grind [pend, lookup_insert_cases]

section Sessions

/-! A condition on sessions, which what is done to them is to keep. -/

/-- A condition that new sessions meet, and that the server's own notes about a session keep. -/
structure SessionRules (holds : String → ClientSession → Prop) : Prop where
  fresh : ∀ client now isEncrypted, holds client (.new now isEncrypted)
  told : ∀ client session, holds client session →
    holds client { session with hasSentCommonTags := true }
  ready : ∀ client session, holds client session →
    holds client { session with isInitialized := true }

/-- A condition that is kept by what the sender's session takes from an event. -/
structure EventRules (config : ServerConfig) (event : ReceivedEvent)
    (holds : String → ClientSession → Prop) : Prop where
  learned : ∀ now session, holds event.senderPubkey session → holds event.senderPubkey
    ((learn config now event session).negotiatePaymentInteraction event.innerTags
      event.message.method event.message.isRequest config.supportsExplicitGating).1
  pended : ∀ request session, event.message = .request request →
    holds event.senderPubkey session →
    holds event.senderPubkey (pend config.primitives.serde event.eventId request session)

variable {holds : String → ClientSession → Prop}

/-- A frame is not noted in its sender's session, not even the last one of its transfer. -/
theorem sessions_handleOversizedFrame (config : ServerConfig) (now : Nat) (state : ServerState)
    (frame : JsonRpcNotification) (ctx : InboundContext) (known : Bool) :
    (handleOversizedFrame config now state frame ctx known).1.sessions = state.sessions := by
  unfold handleOversizedFrame
  simp only
  split <;> rfl

section

variable (rules : SessionRules holds)
include rules

/-- What is done with a message keeps such a condition, if noting a request does. -/
theorem all_route {state : ServerState} (all : state.sessions.All holds)
    (config : ServerConfig) (now : Nat) (ctx : InboundContext) (known : Bool)
    {message : JsonRpcMessage}
    (pended : ∀ request session, message = .request request → holds ctx.clientPubkey session →
      holds ctx.clientPubkey (pend config.primitives.serde ctx.requestEventId request session)) :
    (route config now state ctx known message).1.sessions.All holds := by
  cases message with
  | request request => exact all.getMut fun session kept => pended request session rfl kept
  | notification body =>
    unfold route
    simp only
    split
    · rw [sessions_handleOversizedFrame]
      exact all
    · split
      · exact all
      · split
        · exact all.getMut fun session kept => rules.ready _ session kept
        · exact all
  | response body | errorResponse body => exact all

/-- An event keeps such a condition, if noting a request does when the event is let in. -/
theorem all_receive_of_dispatch {state : ServerState} {config : ServerConfig} {now : Nat}
    {event : ReceivedEvent}
    (learned : ∀ session, holds event.senderPubkey session → holds event.senderPubkey
      ((learn config now event session).negotiatePaymentInteraction event.innerTags
        event.message.method event.message.isRequest config.supportsExplicitGating).1)
    (pended : ((receive config now state event).2.getD []).filterMap LoopEffect.dispatch ≠ [] →
      ∀ request session, event.message = .request request → holds event.senderPubkey session →
      holds event.senderPubkey (pend config.primitives.serde event.eventId request session))
    (all : state.sessions.All holds) :
    (receive config now state event).1.sessions.All holds := by
  unfold receive at pended ⊢
  by_cases authorized : config.authorizes event = true
  · rw [if_pos authorized] at pended ⊢
    have ensured := all.ensureSession rules.fresh event.senderPubkey event.isEncrypted
      state.held.eventRoutes now
    simp only at pended ⊢
    split
    · exact ensured
    · -- The session of the sender learns from the event and is negotiated.
      rename_i session found
      simp only [found] at pended
      have known := ensured.put (learned session (ensured _ session found))
      split
      · exact known
      · rename_i decided
        simp only [decided] at pended
        apply all_route rules known config now (contextOf event _)
        intro request session set kept
        -- A request that gets this far is let in.
        exact pended (by simp [set, route, LoopEffect.dispatch]) request session set kept
  · rw [if_neg authorized]
    show (refuse config state event).1.sessions.All holds
    unfold refuse
    split
    · split
      · simp only
        split
        · exact all
        · exact all.getMut fun session kept => rules.told _ session kept
      · exact all
    · exact all

end

end Sessions

/-- The routes and wrap kinds after an event: those before it, or its own in addition. -/
def Tracks (now : Nat) (eventId senderPubkey : String) (before after : Correlation) : Prop :=
  after = before ∨ ∃ kind original token, after =
    { before with
      requestWrapKinds := before.requestWrapKinds.insert eventId kind
      eventRoutes := before.eventRoutes.register now eventId senderPubkey original token }

theorem held_refuse (config : ServerConfig) (state : ServerState) (event : ReceivedEvent) :
    (refuse config state event).1.held = state.held := by
  unfold refuse
  split
  · split <;> rfl
  · rfl

theorem tracks_receive (config : ServerConfig) (now : Nat) (state : ServerState)
    (event : ReceivedEvent) :
    Tracks now event.eventId event.senderPubkey state.held
      (receive config now state event).1.held := by
  by_cases authorized : config.authorizes event = true
  · unfold receive
    rw [if_pos authorized]
    simp only
    split
    · exact .inl rfl
    · split
      · exact .inl rfl
      · cases event.message with
        | request request => exact .inr ⟨_, _, _, rfl⟩
        | notification body =>
          simp only [route]
          split
          · -- The last frame of a transfer is tracked like a request.
            simp only [handleOversizedFrame]
            split
            · exact .inr ⟨_, _, _, rfl⟩
            · exact .inl rfl
          · split
            · exact .inl rfl
            · split <;> exact .inl rfl
        | response body | errorResponse body => exact .inl rfl
  · unfold receive
    rw [if_neg authorized]
    exact .inl (held_refuse config state event)

/-- A message that is let into the chain goes under the context it was routed with. -/
theorem dispatched_route {config : ServerConfig} {now : Nat} {state : ServerState}
    {ctx other : InboundContext} {known : Bool} {message sent : JsonRpcMessage}
    (member : .dispatched other sent ∈ (route config now state ctx known message).2) :
    other = ctx := by
  cases message with
  | request request =>
    cases List.mem_singleton.mp member
    rfl
  | notification body =>
    unfold route at member
    simp only at member
    split at member
    · -- A frame lets its message in when it completes one, after any accept frame.
      unfold handleOversizedFrame at member
      simp only at member
      split at member
      · grind
      · simp at member
    · grind
  | response body | errorResponse body =>
    cases List.mem_singleton.mp member
    rfl

section Dispatched

variable {config : ServerConfig} {now : Nat} {state : ServerState} {event : ReceivedEvent}
  {effects : List LoopEffect} {ctx : InboundContext} {sent : JsonRpcMessage}

section

variable (handled : (receive config now state event).2 = some effects)
  (member : .dispatched ctx sent ∈ effects)
include handled member

/-- What an event lets into the chain comes of routing it, once its sender has a session. -/
theorem routed_of_dispatched :
    config.authorizes event = true ∧ ∃ session sessions,
      (state.sessions.ensureSession event.senderPubkey event.isEncrypted state.held.eventRoutes
        now).1.sessions.peek event.senderPubkey = some session ∧
      .dispatched ctx sent ∈ (route config now { state with sessions }
        (contextOf event ((learn config now event session).negotiatePaymentInteraction
          event.innerTags event.message.method event.message.isRequest
          config.supportsExplicitGating).1) session.supportsOversizedTransfer event.message).2 := by
  unfold receive at handled
  by_cases authorized : config.authorizes event = true
  · rw [if_pos authorized] at handled
    simp only at handled
    split at handled
    · cases handled
    · rename_i session found
      cases handled
      -- Telling of an eviction lets nothing in, and nor does a refusal.
      rcases List.mem_append.mp member with told | set
      · simp at told
      · grind
  · rw [if_neg authorized] at handled
    simp only [Option.some.injEq] at handled
    subst handled
    unfold refuse at member
    split at member
    · split at member <;> simp at member
    · simp at member

theorem dispatched_receive :
    ctx.clientPubkey = event.senderPubkey ∧ ctx.requestEventId = event.eventId := by
  obtain ⟨-, session, sessions, -, routed⟩ := routed_of_dispatched handled member
  rw [dispatched_route routed]
  exact ⟨rfl, rfl⟩

end

end Dispatched

end ServerState

end ContextVm
