import ContextVm.Transport.Authorization
import ContextVm.Transport.OpenStream

/-! What a server makes of a request that comes as one event, or in frames. -/

namespace ContextVm

open ClientSession JsonRpcMessage LoopEffect ReceivedEvent ServerState SessionStore

/-! The negotiation of a session, as a value. -/

/-- What a session has settled about its lifecycle: asked for, in force, and disclosed. -/
structure Settlement where
  requested : Option PaymentInteractionMode
  effective : Option PaymentInteractionMode
  disclosed : Bool
  deriving DecidableEq

/-- Nothing is settled. -/
def Settlement.unsettled : Settlement := ⟨none, none, false⟩

/-- What a session has settled. -/
def ClientSession.settlement (session : ClientSession) : Settlement where
  requested := session.requestedPaymentInteraction
  effective := session.effectivePaymentInteraction
  disclosed := session.hasDisclosedPaymentInteraction

/-- What the session of a client has settled, if there is one. -/
def SessionStore.settlement (store : SessionStore) (client : String) : Option Settlement :=
  (store.sessions.peek client).map ClientSession.settlement

/-- What a session has settled after a message with these tags, from where that leaves it. -/
def Settlement.negotiate (settled : Settlement) (supportsExplicitGating : Bool)
    (innerTags : List (List String)) : Settlement :=
  match extractPaymentInteraction innerTags with
  | none => settled
  | some raw =>
    let next := ClientSession.grantedMode supportsExplicitGating raw
    { requested := some (ClientSession.namedMode raw)
      effective := some next
      disclosed := settled.effective = some next ∧ settled.disclosed }

/-- A session settles what the tags of an event say, and starts over at a handshake. -/
theorem settlement_hear (config : ServerConfig) (now : Nat) (event : ReceivedEvent)
    (session : ClientSession) :
    (session.hear config now event).1.settlement =
      (if event.reopens then .unsettled else session.settlement).negotiate
        config.supportsExplicitGating event.innerTags := by
  unfold hear Settlement.negotiate
  -- The handshake comes first, whatever the tags say.
  have base : ((learn config now event session).reopened event.message.method
      event.message.isRequest).settlement =
        if event.reopens then .unsettled else session.settlement := by
    simp only [reopened, reopens, decide_eq_true_eq]
    split <;> rfl
  rw [← base]
  cases tagged : extractPaymentInteraction event.innerTags with
  | none => rw [negotiate_untagged _ _ _ _ _ tagged]
  | some raw =>
    rw [negotiate_tagged _ _ _ _ _ tagged]
    rw [Settlement.mk.injEq]
    refine ⟨requested_applyEffective _ _ _, effective_applyEffective _ _, Bool.eq_iff_iff.mpr ?_⟩
    exact (disclosed_applyEffective _ _).trans decide_eq_true_iff.symm

/-! A request in frames. -/

/-- A frame as it comes in: when, and in which event. -/
structure TimedFrame where
  now : Nat
  eventId : String
  frame : JsonRpcNotification

namespace TimedFrame

/-- The token that a frame is addressed by. -/
def token (item : TimedFrame) (serde : SerdeJson) : Option String :=
  (item.frame.params.bind fun params => params.get "progressToken").bind (progressTokenString serde)

/-- Whether a frame opens a transfer. -/
def isStart (item : TimedFrame) : Bool :=
  match (cvmValue item.frame).bind OversizedFrame.fromCvmValue with
  | some (.start ..) => true
  | _ => false

/-- The message that frames complete at a reassembly, the last of them and none before. -/
def completes (config : ServerConfig) :
    OversizedTransferReceiver → List TimedFrame → Option JsonRpcMessage
  | _, [] => none
  | receiver, item :: later =>
    match receiver.processFrame config.primitives item.now item.frame, later with
    | (.ok completed, _), [] => completed
    | (.ok none, fed), later => completes config fed later
    | _, _ => none

variable {config : ServerConfig} {receiver : OversizedTransferReceiver} {item : TimedFrame}
  {message : JsonRpcMessage}

theorem completes_last (complete : completes config receiver [item] = some message) :
    ∃ fed, receiver.processFrame config.primitives item.now item.frame =
      (.ok (some message), fed) := by
  unfold completes at complete
  generalize receiver.processFrame config.primitives item.now item.frame = step at complete ⊢
  obtain ⟨outcome, fed⟩ := step
  cases outcome with
  | ok completed => exact ⟨fed, by rw [show completed = some message from complete]⟩
  | error => cases complete

theorem completes_more {next : TimedFrame} {rest : List TimedFrame}
    (complete : completes config receiver (item :: next :: rest) = some message) :
    ∃ fed, receiver.processFrame config.primitives item.now item.frame = (.ok none, fed) ∧
      completes config fed (next :: rest) = some message := by
  unfold completes at complete
  generalize receiver.processFrame config.primitives item.now item.frame = step at complete ⊢
  obtain ⟨outcome, fed⟩ := step
  cases outcome with
  | ok completed => grind
  | error => cases complete

end TimedFrame

namespace ReceivedEvent

/-- The event of a frame that the sender of an event sends in its place. -/
def inFrame (event : ReceivedEvent) (innerTags : List (List String)) (item : TimedFrame) :
    Nat × ReceivedEvent :=
  (item.now, { event with
    eventId := item.eventId, innerTags, message := .notification item.frame })

/-- The tags of a message that say no more than whom it is for. -/
def recipientTags (serverPubkey : String) : List (List String) := [["p", serverPubkey]]

/-- The frames in place of an event, of which the first one has the tags. -/
def inFrames (event : ReceivedEvent) (serverPubkey : String) (start : TimedFrame)
    (later : List TimedFrame) : List (Nat × ReceivedEvent) :=
  event.inFrame event.innerTags start :: later.map (event.inFrame (recipientTags serverPubkey))

end ReceivedEvent

namespace ServerState

/-- The reassembly of a client, which starts out empty. -/
def reassembly (config : ServerConfig) (state : ServerState) (client : String) :
    OversizedTransferReceiver :=
  (state.oversizedReceivers.peek client).getD (.withPolicy config.transferPolicy)

/--
Frames carry the request of an event into a server.

They are progress notifications for the token of the request, and what they complete is the request.
The last one has the event's own id.
-/
structure Carries (config : ServerConfig) (state : ServerState) (event : ReceivedEvent)
    (request : JsonRpcRequest) (start : TimedFrame) (later : List TimedFrame) : Prop where
  enabled : config.oversizedEnabled = true
  framed : ∀ item ∈ start :: later, isOversizedFrame item.frame = true
  method : ∀ item ∈ start :: later, item.frame.method = notificationsProgressMethod
  keyed : ∀ item ∈ start :: later, item.token config.primitives.serde =
    Correlation.requestProgressToken config.primitives.serde request
  once : ∀ item ∈ later, item.isStart = false
  last : later.getLast?.map TimedFrame.eventId = some event.eventId
  complete :
    let known := (state.sessions.sessions.peek event.senderPubkey).any (·.supportsOversizedTransfer)
    let opened := feedFrame config start.now start.frame (issuedAccept config start.frame known)
      (state.reassembly config event.senderPubkey)
    opened.1 = .ok none ∧ TimedFrame.completes config opened.2 later = some (.request request)

/-- Events one after the other, with all that they set off; none if the loop panics. -/
def receiveAll (config : ServerConfig) :
    ServerState → List (Nat × ReceivedEvent) → Option (ServerState × List LoopEffect)
  | state, [] => some (state, [])
  | state, (now, event) :: later =>
    match receive config now state event with
    | (_, none) => none
    | (next, some effects) =>
      (receiveAll config next later).map fun (after, more) => (after, effects ++ more)

end ServerState

/-! What is left of a request. -/

/-- What is left of a request of some event. -/
structure Reception where
  dispatched : List (InboundContext × JsonRpcMessage)
  -- The client, the original id and the token of the route.
  route : Option (String × Json × Option String)
  wrapKind : Option (Option Nat)
  slot : Option OpenStreamSlot
  settlement : Option Settlement
  deriving DecidableEq

/-- What is left of a request, in a server with these streams. -/
def Reception.of (forms : HexForms) (config : ServerConfig) (openStream : ServerOpenStreamState)
    (event : ReceivedEvent) (received : ServerState × List LoopEffect) : Reception :=
  let dispatched := received.2.filterMap LoopEffect.dispatch
  { dispatched
    route := (received.1.held.eventRoutes.getRoute event.eventId).map fun route =>
      (route.clientPubkey, route.originalRequestId, route.progressToken)
    wrapKind := received.1.held.requestWrapKinds.lookup event.eventId
    slot := (dispatched.foldl (fun streams item => streams.reserve forms config item.1 item.2)
      openStream).slots.lookup event.eventId
    settlement := received.1.sessions.settlement event.senderPubkey }

/-- Whether the frames of a client are let through. -/
def ServerConfig.takesFrames (config : ServerConfig) (client : String) : Bool :=
  config.allowedPubkeys = [] ∨ client ∈ config.allowedPubkeys ∨
    isCapabilityExcluded config.excludedCapabilities notificationsProgressMethod none

namespace ServerState

/-- Whether a request for a handshake would start over what its frames do not. -/
def startsOver (config : ServerConfig) (state : ServerState) (event : ReceivedEvent) : Bool :=
  let settled := (state.sessions.settlement event.senderPubkey).getD .unsettled
  match extractPaymentInteraction event.innerTags with
  -- What the tag asks for has been disclosed, and would have to be again.
  | some raw => settled.effective =
      some (ClientSession.grantedMode config.supportsExplicitGating raw) ∧ settled.disclosed
  | none => settled ≠ .unsettled

/--
When a request in frames comes to the same as in one event.

Either neither is let through, or both are. In that case the loop panics for want of a session, or
the tags offer no payment methods and the request starts no handshake over.
-/
def reassemblesAlike (config : ServerConfig) (state : ServerState) (now : Nat)
    (event : ReceivedEvent) (request : JsonRpcRequest) : Bool :=
  config.authorizes event = config.takesFrames event.senderPubkey ∧
    (config.authorizes event = true → state.crowdsOut now event = true ∨
      extractPmis event.innerTags = [] ∧
        (request.method = "initialize" → state.startsOver config event = false))

/-- What the chain is told of a request, with the payment methods and lifecycle of its client. -/
def contextWith (event : ReceivedEvent) (clientPmis : Option (List String))
    (settled : Settlement) : InboundContext where
  clientPubkey := event.senderPubkey
  requestEventId := event.eventId
  mirroredWrapKind := event.giftWrapKind
  clientPmis := clientPmis
  paymentInteraction := some (settled.effective.getD .transparent)

/-- What is held once the request of an event is tracked. -/
def trackedAt (held : Correlation) (now : Nat) (event : ReceivedEvent) (original : Json)
    (token : Option String) : Correlation :=
  { held with
    requestWrapKinds := held.requestWrapKinds.insert event.eventId event.giftWrapKind
    eventRoutes := held.eventRoutes.register now event.eventId event.senderPubkey original token }

/-- A request was let in: dispatched with these payment methods, tracked, and this is settled. -/
structure LetsIn (held : Correlation) (event : ReceivedEvent) (message : JsonRpcMessage)
    (token : Option String) (clientPmis : Option (List String)) (settled : Settlement)
    (received : ServerState × List LoopEffect) : Prop where
  dispatched : received.2.filterMap LoopEffect.dispatch =
    [(contextWith event clientPmis settled, message)]
  tracked : ∃ now, received.1.held = trackedAt held now event (message.id.getD .null) token
  settles : received.1.sessions.settlement event.senderPubkey = some settled

/-! Frames in the loop. -/

section Frames

variable {config : ServerConfig} {now : Nat} {state : ServerState} {event : ReceivedEvent}
variable {item : TimedFrame} {session : ClientSession} {fed receiver : OversizedTransferReceiver}
  {message : JsonRpcMessage}

theorem authorizes_inFrame (method : item.frame.method = notificationsProgressMethod)
    (innerTags : List (List String)) :
    config.authorizes (event.inFrame innerTags item).2 = config.takesFrames event.senderPubkey := by
  rw [Bool.eq_iff_iff, ServerConfig.authorizes_iff]
  simp [ServerConfig.takesFrames, ReceivedEvent.inFrame, ServerConfig.opens, method,
    JsonRpcMessage.method, JsonRpcMessage.capabilityName]

/-- A frame that is let through is handled under what is then in force. -/
theorem receive_inFrame {innerTags : List (List String)}
    (authorized : config.authorizes (event.inFrame innerTags item).2 = true)
    (enabled : config.oversizedEnabled = true) (framed : isOversizedFrame item.frame = true)
    (found : (state.sessions.ensureSession event.senderPubkey event.isEncrypted
      state.held.eventRoutes item.now).1.sessions.peek event.senderPubkey = some session) :
    receive config item.now state (event.inFrame innerTags item).2 =
      let ensured := state.sessions.ensureSession event.senderPubkey event.isEncrypted
        state.held.eventRoutes item.now
      let heard := (session.hear config item.now (event.inFrame innerTags item).2).1
      let handled := handleOversizedFrame config item.now
        { state with sessions :=
          { ensured.1 with sessions := ensured.1.sessions.put event.senderPubkey heard } }
        item.frame (contextOf (event.inFrame innerTags item).2 heard)
        session.supportsOversizedTransfer
      (handled.1, some (ensured.2.map evicted ++ handled.2)) := by
  have proceeds (session : ClientSession) :
      (session.hear config item.now (event.inFrame innerTags item).2).2 = .proceed := by
    rw [outcome_hear]
    simp [inFrame, isRequest]
  rw [receive_proceeds authorized proceeds]
  simp only
  rw [show (event.inFrame innerTags item).2.senderPubkey = event.senderPubkey from rfl,
    show (event.inFrame innerTags item).2.isEncrypted = event.isEncrypted from rfl, found]
  simp only [route, inFrame, enabled, framed, and_self, if_true]

theorem issuedAccept_of_not_isStart (later : item.isStart = false) (known : Bool) :
    issuedAccept config item.frame known = none := by
  unfold TimedFrame.isStart at later
  unfold issuedAccept
  split
  · grind
  · rfl

theorem handleOversizedFrame_more {frame : JsonRpcNotification} {ctx : InboundContext}
    {known : Bool} (more : feedFrame config now frame (issuedAccept config frame known)
      (state.reassembly config ctx.clientPubkey) = (.ok none, fed)) :
    handleOversizedFrame config now state frame ctx known =
      ({ state with oversizedReceivers := state.oversizedReceivers.put ctx.clientPubkey fed },
        (issuedAccept config frame known).toList.map
          (.accepted ctx.clientPubkey ctx.requestEventId ·)) := by
  unfold reassembly at more
  unfold handleOversizedFrame
  simp only [more]

theorem receiveAll_cons {item : Nat × ReceivedEvent} {next : ServerState}
    {effects : List LoopEffect} (step : receive config item.1 state item.2 = (next, some effects))
    (later : List (Nat × ReceivedEvent)) :
    state.receiveAll config (item :: later) =
      (next.receiveAll config later).map fun after => (after.1, effects ++ after.2) := by
  rw [receiveAll, step]

section

variable (taken : config.takesFrames event.senderPubkey = true)
include taken

section

variable (enabled : config.oversizedEnabled = true) (framed : isOversizedFrame item.frame = true)
  (method : item.frame.method = notificationsProgressMethod)
include enabled framed method

theorem receive_bare (serverPubkey : String)
    (found : state.sessions.sessions.peek event.senderPubkey = some session) :
    ∃ sessions, sessions.settlement event.senderPubkey = some session.settlement ∧
      let handled := handleOversizedFrame config item.now { state with sessions } item.frame
        (contextWith { event with eventId := item.eventId } none session.settlement)
        session.supportsOversizedTransfer
      receive config item.now state
          (event.inFrame (ReceivedEvent.recipientTags serverPubkey) item).2 =
        (handled.1, some handled.2) := by
  have authorized := (authorizes_inFrame method (recipientTags serverPubkey)).trans taken
  have ensured : state.sessions.ensureSession event.senderPubkey event.isEncrypted
      state.held.eventRoutes item.now = (state.sessions, []) := by
    simp [ensureSession, contains, found]
  have same : (session.hear config item.now
      (event.inFrame (recipientTags serverPubkey) item).2).1.settlement = session.settlement :=
    settlement_hear _ _ _ _
  rw [receive_inFrame authorized enabled framed (by rw [ensured]; exact found), ensured, ← same]
  exact ⟨_, by simp [SessionStore.settlement], rfl⟩

/-- A frame between the first and the last only gets the transfer on. -/
theorem receive_more (later : item.isStart = false)
    (serverPubkey : String) (found : state.sessions.sessions.peek event.senderPubkey = some session)
    (started : state.oversizedReceivers.peek event.senderPubkey = some receiver)
    (more : receiver.processFrame config.primitives item.now item.frame = (.ok none, fed)) :
    ∃ after still,
      receive config item.now state
        (event.inFrame (ReceivedEvent.recipientTags serverPubkey) item).2 = (after, some []) ∧
      after.held = state.held ∧
      after.sessions.sessions.peek event.senderPubkey = some still ∧
      still.settlement = session.settlement ∧
      after.oversizedReceivers.peek event.senderPubkey = some fed := by
  obtain ⟨sessions, settles, step⟩ := receive_bare taken enabled framed method serverPubkey found
  obtain ⟨still, present, same⟩ := Option.map_eq_some_iff.mp settles
  -- No accept frame is shown to the receiver.
  have shown : feedFrame config item.now item.frame
      (issuedAccept config item.frame session.supportsOversizedTransfer)
      (reassembly config { state with sessions } event.senderPubkey) = (.ok none, fed) := by
    rw [issuedAccept_of_not_isStart later, feedFrame]
    simp [reassembly, started, more]
  rw [handleOversizedFrame_more shown, issuedAccept_of_not_isStart later] at step
  rw [step]
  exact ⟨_, still, rfl, rfl, present, same, Lru.peek_put_self _ _ _⟩

end

end

/-- The frames after the first let the request in, under what the first one settled. -/
theorem receiveAll_later {later : List TimedFrame} {token : Option String} (serverPubkey : String)
    (taken : config.takesFrames event.senderPubkey = true)
    (enabled : config.oversizedEnabled = true)
    (framed : ∀ item ∈ later, isOversizedFrame item.frame = true)
    (method : ∀ item ∈ later, item.frame.method = notificationsProgressMethod)
    (keyed : ∀ item ∈ later, item.token config.primitives.serde = token)
    (once : ∀ item ∈ later, item.isStart = false)
    (last : later.getLast?.map TimedFrame.eventId = some event.eventId)
    (found : state.sessions.sessions.peek event.senderPubkey = some session)
    (started : state.oversizedReceivers.peek event.senderPubkey = some receiver)
    (complete : TimedFrame.completes config receiver later = some message) :
    ∃ received, state.receiveAll config
        (later.map (event.inFrame (ReceivedEvent.recipientTags serverPubkey))) = some received ∧
      LetsIn state.held event message token none session.settlement received := by
  -- Each frame but the last leaves the session settled as it is, and a fuller reassembly.
  induction later generalizing state session receiver with
  | nil => cases complete
  | cons item rest ih =>
    have first := List.mem_cons_self (a := item) (l := rest)
    rw [List.map_cons]
    cases rest with
    | nil =>
      obtain ⟨fed, done⟩ := TimedFrame.completes_last complete
      obtain ⟨sessions, settles, step⟩ := receive_bare taken enabled (framed item first)
        (method item first) serverPubkey found
      have named : item.eventId = event.eventId := by simpa using last
      refine ⟨_, by rw [List.map_nil, receiveAll_cons step, receiveAll, Option.map_some], ?_⟩
      unfold handleOversizedFrame
      simp only [issuedAccept_of_not_isStart (once item first), feedFrame, contextWith, started,
        Option.getD_some, done, named, List.append_nil]
      exact keyed item first ▸ ⟨rfl, ⟨item.now, rfl⟩, settles⟩
    | cons next others =>
      obtain ⟨fed, more, complete⟩ := TimedFrame.completes_more complete
      obtain ⟨after, still, step, held, present, same, kept⟩ := receive_more taken enabled
        (framed item first) (method item first) (once item first) serverPubkey found started more
      obtain ⟨received, run, letsIn⟩ := ih (fun other member => framed other (.tail _ member))
        (fun other member => method other (.tail _ member))
        (fun other member => keyed other (.tail _ member))
        (fun other member => once other (.tail _ member)) (by simpa using last) present kept
        complete
      rw [held, same] at letsIn
      refine ⟨received, ?_, letsIn⟩
      rw [receiveAll_cons step, run]
      rfl

theorem exists_ensured (roomy : state.crowdsOut now event = false) :
    ∃ session, (state.sessions.ensureSession event.senderPubkey event.isEncrypted
        state.held.eventRoutes now).1.sessions.peek event.senderPubkey = some session ∧
      session.settlement = (state.sessions.settlement event.senderPubkey).getD .unsettled ∧
      session.supportsOversizedTransfer =
        (state.sessions.sessions.peek event.senderPubkey).any (·.supportsOversizedTransfer) := by
  unfold SessionStore.settlement
  rw [SessionStore.peek_ensureSession_self]
  cases state.sessions.sessions.peek event.senderPubkey with
  | some session => exact ⟨session, rfl, rfl, rfl⟩
  | none =>
    simp only [if_neg (of_decide_eq_false roomy)]
    exact ⟨_, rfl, rfl, rfl⟩

/-- The opening frame settles what its tags say, and gets a transfer started. -/
theorem receive_start (taken : config.takesFrames event.senderPubkey = true)
    (enabled : config.oversizedEnabled = true) (framed : isOversizedFrame item.frame = true)
    (method : item.frame.method = notificationsProgressMethod)
    (roomy : state.crowdsOut item.now event = false)
    (opened : feedFrame config item.now item.frame (issuedAccept config item.frame
        ((state.sessions.sessions.peek event.senderPubkey).any (·.supportsOversizedTransfer)))
      (state.reassembly config event.senderPubkey) = (.ok none, fed)) :
    ∃ after heard effects,
      receive config item.now state (event.inFrame event.innerTags item).2 = (after, some effects) ∧
      effects.filterMap LoopEffect.dispatch = [] ∧
      after.held = state.held ∧
      after.sessions.sessions.peek event.senderPubkey = some heard ∧
      heard.settlement = ((state.sessions.settlement event.senderPubkey).getD .unsettled).negotiate
        config.supportsExplicitGating event.innerTags ∧
      after.oversizedReceivers.peek event.senderPubkey = some fed := by
  obtain ⟨session, found, settled, known⟩ := exists_ensured roomy
  have authorized := (authorizes_inFrame method event.innerTags).trans taken
  have step := receive_inFrame authorized enabled framed found
  simp only at step
  rw [← known] at opened
  rw [handleOversizedFrame_more opened] at step
  refine ⟨_, _, _, step, ?_, rfl, Lru.peek_put_self _ _ _, ?_, Lru.peek_put_self _ _ _⟩
  · -- Nothing is let in by telling of an eviction, nor by an accept frame.
    simp [dispatch]
  · rw [settlement_hear, settled]
    rfl

/-- Frames that are let through let their request in, under what their tags settle. -/
theorem receiveAll_inFrames {request : JsonRpcRequest} {start : TimedFrame}
    {later : List TimedFrame} (carries : state.Carries config event request start later)
    (taken : config.takesFrames event.senderPubkey = true)
    (roomy : state.crowdsOut start.now event = false) (serverPubkey : String) :
    ∃ received, state.receiveAll config (event.inFrames serverPubkey start later) = some received ∧
      LetsIn state.held event (.request request)
        (Correlation.requestProgressToken config.primitives.serde request) none
        (((state.sessions.settlement event.senderPubkey).getD .unsettled).negotiate
          config.supportsExplicitGating event.innerTags) received := by
  have first := List.mem_cons_self (a := start) (l := later)
  obtain ⟨opened, complete⟩ := carries.complete
  obtain ⟨after, heard, effects, step, silent, held, found, settled, started⟩ := receive_start taken
    carries.enabled (carries.framed start first) (carries.method start first) roomy
    (Prod.ext opened rfl)
  obtain ⟨received, run, letsIn⟩ := receiveAll_later serverPubkey taken carries.enabled
    (fun item member => carries.framed item (.tail _ member))
    (fun item member => carries.method item (.tail _ member))
    (fun item member => carries.keyed item (.tail _ member)) carries.once carries.last found started
    complete
  rw [held, settled] at letsIn
  refine ⟨(received.1, effects ++ received.2), ?_, ?_⟩
  · rw [inFrames, receiveAll_cons step, run, Option.map_some]
  · refine ⟨?_, letsIn.tracked, letsIn.settles⟩
    rw [List.filterMap_append, silent, List.nil_append]
    exact letsIn.dispatched

theorem settlement_pend (serde : SerdeJson) (eventId : String) (request : JsonRpcRequest)
    (session : ClientSession) :
    (pend serde eventId request session).settlement = session.settlement := by
  unfold pend
  split <;> rfl

/-- A request that is let through in one event is let in, with all that its tags say. -/
theorem receive_request {request : JsonRpcRequest} (asked : event.message = .request request)
    (authorized : config.authorizes event = true)
    (supported : extractPaymentInteraction event.innerTags = some "explicit_gating" →
      config.supportsExplicitGating = true)
    (roomy : state.crowdsOut now event = false) :
    ∃ received, state.receiveAll config [(now, event)] = some received ∧
      LetsIn state.held event (.request request)
        (Correlation.requestProgressToken config.primitives.serde request)
        (if extractPmis event.innerTags = [] then none else some (extractPmis event.innerTags))
        ((if event.reopens then .unsettled
            else (state.sessions.settlement event.senderPubkey).getD .unsettled).negotiate
          config.supportsExplicitGating event.innerTags) received := by
  obtain ⟨session, found, settled, -⟩ := exists_ensured roomy
  have proceeds (session : ClientSession) : (session.hear config now event).2 = .proceed := by
    grind [outcome_hear]
  have settles := settlement_hear config now event session
  rw [settled] at settles
  rw [receiveAll, receive_proceeds authorized proceeds]
  simp only [found, asked, route, receiveAll, Option.map_some, List.append_nil]
  refine ⟨_, rfl, ?_, ⟨now, rfl⟩, ?_⟩
  · -- Telling of an eviction lets nothing in.
    rw [← settles, List.filterMap_append, dispatch_evicted]
    rfl
  · -- Noting the request in the session settles nothing.
    rw [SessionStore.settlement, SessionStore.peek_getMut]
    simp [contextOf, settlement_pend, settles]

theorem refuse_spec (config : ServerConfig) (state : ServerState) (event : ReceivedEvent) :
    (refuse config state event).2.filterMap LoopEffect.dispatch = [] ∧
      ∀ client, (refuse config state event).1.sessions.settlement client =
        state.sessions.settlement client := by
  unfold refuse
  split
  · split
    · refine ⟨rfl, fun client => ?_⟩
      simp only
      split
      · rfl
      · -- All that is noted is that the common tags were sent.
        unfold SessionStore.settlement SessionStore.markCommonTagsSent
        rw [SessionStore.peek_getMut]
        split
        · rename_i same
          rw [same, Option.map_map]
          rfl
        · rfl
    · exact ⟨rfl, fun _ => rfl⟩
  · exact ⟨rfl, fun _ => rfl⟩

theorem receiveAll_refused {items : List (Nat × ReceivedEvent)}
    (closed : ∀ item ∈ items, config.authorizes item.2 = false) :
    ∃ received, state.receiveAll config items = some received ∧
      received.2.filterMap LoopEffect.dispatch = [] ∧ received.1.held = state.held ∧
      ∀ client, received.1.sessions.settlement client = state.sessions.settlement client := by
  induction items generalizing state with
  | nil => exact ⟨(state, []), rfl, rfl, rfl, fun _ => rfl⟩
  | cons item later ih =>
    have unauthorized : ¬ config.authorizes item.2 = true := by
      simp [closed item List.mem_cons_self]
    obtain ⟨received, run, silent, held, settled⟩ := @ih (refuse config state item.2).1
      fun other member => closed other (.tail _ member)
    obtain ⟨quiet, same⟩ := refuse_spec config state item.2
    have step : receive config item.1 state item.2 =
        ((refuse config state item.2).1, some (refuse config state item.2).2) := by
      rw [receive, if_neg unauthorized]
    refine ⟨(received.1, (refuse config state item.2).2 ++ received.2),
      by rw [receiveAll_cons step, run, Option.map_some], ?_,
      held.trans (held_refuse config state item.2), ?_⟩
    · rw [List.filterMap_append, quiet, silent, List.append_nil]
    · exact fun client => (settled client).trans (same client)

theorem reception_refused {items : List (Nat × ReceivedEvent)}
    (closed : ∀ item ∈ items, config.authorizes item.2 = false) (forms : HexForms)
    (openStream : ServerOpenStreamState) :
    (state.receiveAll config items).map (Reception.of forms config openStream event) =
      some (Reception.of forms config openStream event (state, [])) := by
  obtain ⟨received, run, silent, held, settled⟩ := @receiveAll_refused config state items closed
  rw [run, Option.map_some, Reception.of, Reception.of, silent, held, settled]
  rfl

theorem receiveAll_crowded (authorized : config.authorizes event = true)
    (crowded : state.crowdsOut now event = true) (later : List (Nat × ReceivedEvent)) :
    state.receiveAll config ((now, event) :: later) = none := by
  rw [receiveAll, receive, if_pos authorized]
  simp only [ensured_eq_none_iff.mpr crowded]

theorem reception_of_letsIn {held : Correlation} {token : Option String}
    {clientPmis : Option (List String)} {settled : Settlement}
    {received : ServerState × List LoopEffect}
    (letsIn : LetsIn held event message token clientPmis settled received) (forms : HexForms)
    (openStream : ServerOpenStreamState) :
    Reception.of forms config openStream event received =
      { dispatched := [(contextWith event clientPmis settled, message)]
        route := some (event.senderPubkey, message.id.getD .null, token)
        wrapKind := some event.giftWrapKind
        -- The slot of a stream does not depend on how the request is to be paid.
        slot := (openStream.reserve forms config (contextWith event none .unsettled)
          message).slots.lookup event.eventId
        settlement := some settled } := by
  obtain ⟨dispatched, ⟨now, tracked⟩, settles⟩ := letsIn
  rw [Reception.of, dispatched, tracked, settles]
  simp only [trackedAt, RouteStore.getRoute_register, if_true, Option.map_some,
    AList.lookup_insert, List.foldl_cons, List.foldl_nil]
  rfl

end Frames

end ServerState

theorem negotiate_unsettled_iff (config : ServerConfig) (state : ServerState)
    (event : ReceivedEvent) :
    Settlement.unsettled.negotiate config.supportsExplicitGating event.innerTags =
        ((state.sessions.settlement event.senderPubkey).getD .unsettled).negotiate
          config.supportsExplicitGating event.innerTags ↔
      state.startsOver config event = false := by
  grind [Settlement.negotiate, Settlement.unsettled, startsOver]

/-- What a request is dispatched with and settles is the same under the condition given. -/
theorem letIn_alike_iff {config : ServerConfig} {state : ServerState} {event : ReceivedEvent}
    {request : JsonRpcRequest} (asked : event.message = .request request) :
    let settled := (state.sessions.settlement event.senderPubkey).getD .unsettled
    let whole := (if event.reopens then .unsettled else settled).negotiate
      config.supportsExplicitGating event.innerTags
    let parts := settled.negotiate config.supportsExplicitGating event.innerTags
    (ServerState.contextWith event
        (if extractPmis event.innerTags = [] then none else some (extractPmis event.innerTags))
        whole = ServerState.contextWith event none parts ∧ whole = parts) ↔
      extractPmis event.innerTags = [] ∧
        (request.method = "initialize" → state.startsOver config event = false) := by
  intro settled whole parts
  have reopens : event.reopens = true ↔ request.method = "initialize" := by
    simp [reopens, asked, isRequest, method]
  have same : whole = parts ↔
      (request.method = "initialize" → state.startsOver config event = false) := by
    rw [← negotiate_unsettled_iff, ← reopens]
    cases again : event.reopens <;> simp [whole, parts, settled, again]
  constructor
  · rintro ⟨contexts, settles⟩
    refine ⟨?_, same.mp settles⟩
    have pmis := congrArg InboundContext.clientPmis contexts
    simpa [contextWith] using pmis
  · rintro ⟨none, kept⟩
    rw [same.mpr kept, if_pos none]
    exact ⟨rfl, rfl⟩

/--
A request in frames comes to the same as in one event, under the condition given.

The payment methods are read from the tags of the last frame, which has none, and a frame never
starts a handshake over. Whether an event is let through is asked of the frames themselves.
-/
theorem reassembly_alike_iff (forms : HexForms) (config : ServerConfig)
    (openStream : ServerOpenStreamState) (state : ServerState) (now : Nat) (event : ReceivedEvent)
    (request : JsonRpcRequest) (serverPubkey : String) (start : TimedFrame)
    (later : List TimedFrame) (asked : event.message = .request request)
    (supported : extractPaymentInteraction event.innerTags = some "explicit_gating" →
      config.supportsExplicitGating = true)
    (carries : state.Carries config event request start later) :
    (state.receiveAll config [(now, event)]).map (Reception.of forms config openStream event) =
        (state.receiveAll config (event.inFrames serverPubkey start later)).map
          (Reception.of forms config openStream event) ↔
      state.reassemblesAlike config now event request = true := by
  have first := List.mem_cons_self (a := start) (l := later)
  -- All frames are let through, or none.
  have frames (item : Nat × ReceivedEvent)
      (member : item ∈ event.inFrames serverPubkey start later) :
      config.authorizes item.2 = config.takesFrames event.senderPubkey := by
    rcases List.mem_cons.mp member with rfl | rest
    · exact authorizes_inFrame (carries.method start first) _
    · obtain ⟨other, inside, rfl⟩ := List.mem_map.mp rest
      exact authorizes_inFrame (carries.method other (.tail _ inside)) _
  have crowds : state.crowdsOut start.now event = state.crowdsOut now event := by
    -- The clock is no part of who has to make room.
    have same (oldest : String) := state.sessions.sessions.victim_put event.senderPubkey oldest
      (.new start.now event.isEncrypted) (.new now event.isEncrypted)
    refine decide_eq_decide.mpr ?_
    simp only [displaced, same]
  have panics (taken : config.takesFrames event.senderPubkey = true)
      (crowded : state.crowdsOut start.now event = true) :
      state.receiveAll config (event.inFrames serverPubkey start later) = none :=
    receiveAll_crowded ((frames _ List.mem_cons_self).trans taken) crowded _
  -- Something that is let in leaves more than something that is not.
  have differs {message token pmis settled received}
      (letsIn : ServerState.LetsIn state.held event message token pmis settled received) :
      some (Reception.of forms config openStream event received) ≠
        some (Reception.of forms config openStream event (state, [])) := by
    rw [reception_of_letsIn letsIn]
    simp [Reception.of]
  unfold reassemblesAlike
  rw [decide_eq_true_eq]
  cases direct : config.authorizes event with
  | false =>
    rw [reception_refused (by simpa using direct)]
    cases taken : config.takesFrames event.senderPubkey with
    | false =>
      rw [reception_refused fun item member => (frames item member).trans taken]
      simp
    | true =>
      -- The frames panic, or get the request in.
      simp only [Bool.false_eq_true, false_and, iff_false]
      cases crowded : state.crowdsOut start.now event with
      | true =>
        rw [panics taken crowded]
        simp
      | false =>
        obtain ⟨received, run, letsIn⟩ := receiveAll_inFrames carries taken crowded serverPubkey
        rw [run]
        exact (differs letsIn).symm
  | true =>
    cases crowded : state.crowdsOut now event with
    | true =>
      rw [receiveAll_crowded direct crowded]
      cases taken : config.takesFrames event.senderPubkey with
      | false =>
        rw [reception_refused fun item member => (frames item member).trans taken]
        simp
      | true =>
        rw [panics taken (crowds.trans crowded)]
        simp
    | false =>
      obtain ⟨whole, run, letsIn⟩ := receive_request asked direct supported crowded
      rw [run]
      cases taken : config.takesFrames event.senderPubkey with
      | false =>
        rw [reception_refused fun item member => (frames item member).trans taken]
        simpa using differs letsIn
      | true =>
        obtain ⟨parts, runParts, letsInParts⟩ := receiveAll_inFrames carries taken
          (crowds.trans crowded) serverPubkey
        rw [runParts, Option.map_some, Option.map_some, reception_of_letsIn letsIn,
          reception_of_letsIn letsInParts]
        simpa using letIn_alike_iff asked

/-- The frames of a tool call as they come in, the last one in the event of the plain call. -/
def timedCall : List TimedFrame :=
  callFrames.mapIdx fun index frame => ⟨index, toString index, frame⟩

/-- The opening frame of the tool call. -/
def callStart : TimedFrame := timedCall.headD ⟨0, "", ⟨"2.0", notificationsProgressMethod, none⟩⟩

/-- The tool call, with payment methods or without. -/
def callWith (innerTags : List (List String)) : ReceivedEvent :=
  { plainCall with innerTags }

/-- The request of the tool call. -/
def callRequest : JsonRpcRequest :=
  ⟨"2.0", .ofU64 2, "tools/call",
    some (.object [("_meta", .object [("progressToken", .string "7")])])⟩

theorem carries_call (innerTags : List (List String)) :
    (Serving.start 10 false).server.Carries (ServerConfig.public callPrimitives)
      (callWith innerTags) callRequest callStart timedCall.tail where
  enabled := rfl
  framed := by decide +kernel
  method := by decide +kernel
  keyed := by decide +kernel
  once := by decide +kernel
  last := by
    simp only [callWith]
    decide +kernel
  complete := by
    simp only [callWith]
    decide +kernel

/-- A tool call without payment methods comes to the same in frames. -/
theorem reassembly_alike_iff_plain :
    ((Serving.start 10 false).server.receiveAll (ServerConfig.public callPrimitives)
        [(2, callWith [])]).map (Reception.of ⟨isHex64, isHex64⟩
          (ServerConfig.public callPrimitives) .empty (callWith [])) =
      ((Serving.start 10 false).server.receiveAll (ServerConfig.public callPrimitives)
        ((callWith []).inFrames "server" callStart timedCall.tail)).map
          (Reception.of ⟨isHex64, isHex64⟩ (ServerConfig.public callPrimitives) .empty
            (callWith [])) :=
  (reassembly_alike_iff ⟨isHex64, isHex64⟩ (ServerConfig.public callPrimitives) .empty
    (Serving.start 10 false).server 2 (callWith []) callRequest "server" callStart timedCall.tail
    rfl (by decide) (carries_call [])).mpr (by decide +kernel)

/-- The payment methods that the messages let in were offered with. -/
def offeredMethods (received : ServerState × List LoopEffect) : List (Option (List String)) :=
  (received.2.filterMap LoopEffect.dispatch).map fun item => item.1.clientPmis

/-- A tool call that offers a payment method is let in with it, but not in frames. -/
theorem reassembly_loses_methods :
    (Serving.start 10 false).server.Carries (ServerConfig.public callPrimitives)
        (callWith [["pmi", "bitcoin-lightning-bolt11"]]) callRequest callStart timedCall.tail ∧
      ((Serving.start 10 false).server.receiveAll (ServerConfig.public callPrimitives)
        [(2, callWith [["pmi", "bitcoin-lightning-bolt11"]])]).map offeredMethods =
          some [some ["bitcoin-lightning-bolt11"]] ∧
      ((Serving.start 10 false).server.receiveAll (ServerConfig.public callPrimitives)
        ((callWith [["pmi", "bitcoin-lightning-bolt11"]]).inFrames "server" callStart
          timedCall.tail)).map offeredMethods = some [none] :=
  ⟨carries_call _, by decide +kernel, by decide +kernel⟩

end ContextVm
