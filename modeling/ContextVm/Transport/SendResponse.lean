import ContextVm.Transport.Cleanup
import ContextVm.Transport.Negotiation
import ContextVm.Transport.OpenStream
import ContextVm.Transport.Snapshots

/-! Sending a response: where it goes, and what is left when it does not get out. -/

namespace ContextVm

open RouteStore ServerOpenStreamState

/-- What sending a response is configured with, and what it takes as given. -/
structure ResponseSetting extends HexForms where
  server : ServerConfig
  -- The size from which on a response is sent in frames.
  threshold : Nat
  toText : JsonRpcMessage → String

/-- What comes of the parts of a call that are outside the server. -/
structure RelayOutcome where
  -- The size of the event for the response; none if it cannot be built.
  publishedSize : Option Nat
  -- The size of pieces with which every frame is small enough; none if that cannot be found out.
  safeChunkSize : Option Nat
  -- Whether the events, counted from zero, can be published.
  publishes : Nat → Bool

/-- What sending a response works on. -/
structure ResponseState where
  sessions : SessionStore
  held : Correlation
  openStream : ServerOpenStreamState

/-- A response that got out. -/
structure SentResponse where
  clientPubkey : String
  eventId : String
  message : JsonRpcMessage
  deriving DecidableEq

/-- Why a response did not get out. -/
inductive ResponseError where
  | other (text : String)
  | invalidPublicKey
  | invalidEventId
  | unpublished
  deriving DecidableEq

/-- What a call comes to. -/
inductive ResponseResult where
  | deferred
  | sent (response : SentResponse)
  | failed (error : ResponseError)
  deriving DecidableEq

/-- A response under the id that its client sent. -/
def JsonRpcMessage.restoreId (id : Json) : JsonRpcMessage → JsonRpcMessage
  | .response body => .response { body with id }
  | .errorResponse body => .errorResponse { body with id }
  | other => other

/-- What a session has seen once a response is composed for it. -/
def ClientSession.disclose (session : ClientSession) : ClientSession :=
  { session with hasSentCommonTags := true }.takePaymentInteractionDisclosure.2

/-- Whether a response gets out, as one event or in frames. -/
def RelayOutcome.delivers (setting : ResponseSetting) (relay : RelayOutcome) (eligible : Bool)
    (token : Option String) (serialized : String) : Bool :=
  -- A response that no single event can be built for is sent in frames as well.
  if eligible ∧ (setting.threshold ≤ serialized.utf8ByteSize ∨
      relay.publishedSize.all fun size => setting.threshold < size) then
    match relay.safeChunkSize with
    | none => false
    | some size =>
      match buildOversizedFrames setting.server.primitives serialized
          ⟨token.getD "", size, false⟩ with
      | .error _ => false
      | .ok frames => (List.range (frames.chunks.length + 2)).all relay.publishes
  else relay.publishes 0

namespace ResponseState

/-- Send a response by a snapshot, whether or not there is still a route. -/
def sendOpenStreamDeferredResponse (setting : ResponseSetting) (relay : RelayOutcome)
    (state : ResponseState) (eventId : String) (snapshot : RouteSnapshot)
    (response : JsonRpcMessage) : ResponseResult × ResponseState :=
  if setting.isEventId eventId then
    let state := { state with
      sessions := (state.sessions.getMut snapshot.clientPubkey ClientSession.disclose).getD
        state.sessions }
    if relay.publishes 0 then
      (.sent ⟨snapshot.clientPubkey, eventId, response.restoreId snapshot.originalRequestId⟩, state)
    else (.failed .unpublished, state)
  else (.failed .invalidEventId, state)

/-- Send a response by the route that was taken for it. -/
def sendByRoute (setting : ResponseSetting) (now : Nat) (relay : RelayOutcome)
    (state : ResponseState) (eventId : String) (route : RouteEntry) (response : JsonRpcMessage) :
    ResponseResult × ResponseState :=
  match state.sessions.sessions.peek route.clientPubkey with
  | none => (.failed (.other ("No session for client " ++ route.clientPubkey)), state)
  | some session =>
    let message := response.restoreId route.originalRequestId
    let state := { state with
      sessions := { state.sessions with
        sessions := state.sessions.sessions.put route.clientPubkey session.disclose } }
    if setting.isPublicKey route.clientPubkey = false then (.failed .invalidPublicKey, state)
    else if setting.isEventId eventId = false then (.failed .invalidEventId, state)
    else
      let eligible := setting.server.oversizedEnabled && route.progressToken.isSome &&
        session.supportsOversizedTransfer
      if relay.delivers setting eligible route.progressToken (setting.toText message) then
        (.sent ⟨route.clientPubkey, eventId, message⟩,
          { state with
            held := state.held.forgetKinds [eventId]
            sessions := (state.sessions.getMut route.clientPubkey
              (ClientSession.settled eventId route.progressToken)).getD state.sessions })
      else
        -- The route comes back, so that the response can be sent again.
        (.failed .unpublished,
          { state with
            held := { state.held with
              eventRoutes := state.held.eventRoutes.register now eventId route.clientPubkey
                route.originalRequestId route.progressToken } })

/-- Send a response that no stream is to be waited for. -/
def sendPlain (setting : ResponseSetting) (now : Nat) (relay : RelayOutcome)
    (state : ResponseState) (eventId : String) (paymentSnapshot : Option PaymentRouteSnapshot)
    (response : JsonRpcMessage) : ResponseResult × ResponseState :=
  let (route, eventRoutes) := state.held.eventRoutes.pop eventId
  let popped := { state with held := { state.held with eventRoutes } }
  match route, paymentSnapshot with
  | some route, _ => popped.sendByRoute setting now relay eventId route response
  | none, some entry =>
    let (result, sent) :=
      popped.sendOpenStreamDeferredResponse setting relay eventId entry.snapshot response
    match result with
    -- A delivery that was paid for can be sent again.
    | .failed error =>
      (.failed error,
        { sent with
          held := { sent.held with
            paymentRouteSnapshots :=
              reinsertPaymentRouteSnapshot sent.held.paymentRouteSnapshots eventId entry } })
    | result => (result, sent)
  | none, none => (.failed (.other ("No client found for event " ++ eventId)), popped)

/-- Send a response. -/
def sendResponse (setting : ResponseSetting) (now : Nat) (relay : RelayOutcome)
    (state : ResponseState) (eventId : String) (response : JsonRpcMessage) :
    ResponseResult × ResponseState :=
  -- The snapshot of a payment is taken up front, whether or not it is needed.
  let (paymentSnapshot, paymentRouteSnapshots) :=
    takePaymentRouteSnapshot state.held.paymentRouteSnapshots eventId
  let state := { state with held := { state.held with paymentRouteSnapshots } }
  if setting.server.openStreamEnabled then
    let (deferral, openStream) := state.openStream.tryDeferOpenStreamResponse eventId response
    let state := { state with openStream }
    match deferral with
    | .deferred => (.deferred, state)
    | .sendNow snapshot =>
      state.sendOpenStreamDeferredResponse setting relay eventId snapshot response
    | .passthrough => state.sendPlain setting now relay eventId paymentSnapshot response
  else state.sendPlain setting now relay eventId paymentSnapshot response

end ResponseState

/-! What a failed call leaves. -/

/-- A route or a snapshot of an event names a client and the id of its request. -/
def Correlation.Names (held : Correlation) (eventId clientPubkey : String)
    (originalRequestId : Json) : Prop :=
  (∃ route, held.eventRoutes.getRoute eventId = some route ∧
    route.clientPubkey = clientPubkey ∧ route.originalRequestId = originalRequestId) ∨
  ∃ entry, held.paymentRouteSnapshots.peek eventId = some entry ∧
    entry.snapshot.clientPubkey = clientPubkey ∧
    entry.snapshot.originalRequestId = originalRequestId

/-- Nothing goes wrong outside the server. -/
structure RelayOutcome.Works (setting : ResponseSetting) (relay : RelayOutcome) : Prop where
  single : relay.publishes 0 = true
  response : ∀ eligible token serialized, relay.delivers setting eligible token serialized = true

/--
A response that did not get out can be sent again.

Somebody is still named to send it to, and once there is a session and nothing goes wrong outside
the server, the same call gets it out.
-/
structure Retryable (setting : ResponseSetting) (before after : ResponseState) (eventId : String)
    (response : JsonRpcMessage) : Prop where
  named : ∃ clientPubkey originalRequestId,
    before.held.Names eventId clientPubkey originalRequestId ∧
    after.held.Names eventId clientPubkey originalRequestId ∧
    ∀ now relay sessions, relay.Works setting → sessions.contains clientPubkey = true →
      setting.isPublicKey clientPubkey = true → setting.isEventId eventId = true →
      ({ after with sessions }.sendResponse setting now relay eventId response).1 =
        .sent ⟨clientPubkey, eventId, response.restoreId originalRequestId⟩
  expiry : ∀ entry, after.held.paymentRouteSnapshots.peek eventId = some entry →
    before.held.paymentRouteSnapshots.peek eventId = some entry

namespace ResponseState

/-- The slot of an event whose stream has started. -/
def streaming (setting : ResponseSetting) (state : ResponseState) (eventId : String) :
    Option OpenStreamSlot :=
  if setting.server.openStreamEnabled then
    (state.openStream.slots.lookup eventId).filter (·.hasStarted)
  else none

/--
Whether a call that fails leaves nobody to send the response to.

Without a stream, the route is gone for good if there is no session for its client, or one of the
texts is malformed. After a stream, the snapshot of a payment is gone if there is no route besides.
-/
def losesAuthority (setting : ResponseSetting) (relay : RelayOutcome) (state : ResponseState)
    (eventId : String) : Bool :=
  let route := state.held.eventRoutes.getRoute eventId
  match state.streaming setting eventId with
  | some slot => slot.terminated ∧ route = none ∧
    (state.held.paymentRouteSnapshots.peek eventId).isSome ∧
    ¬ (setting.isEventId eventId ∧ relay.publishes 0)
  | none => route.any fun route =>
    state.sessions.contains route.clientPubkey = false ∨
      setting.isPublicKey route.clientPubkey = false ∨ setting.isEventId eventId = false

/-- The state once the snapshot of a payment has been taken, with other slots. -/
def taken (state : ResponseState) (eventId : String) (openStream : ServerOpenStreamState) :
    ResponseState :=
  { state with
    held := { state.held with
      paymentRouteSnapshots := state.held.paymentRouteSnapshots.pop eventId }
    openStream }

variable {setting : ResponseSetting} {now : Nat} {relay : RelayOutcome} {state : ResponseState}
  {eventId : String} {response : JsonRpcMessage}

/-- With no stream that has started, a response is sent by the route or the snapshot. -/
theorem sendResponse_plain (still : state.streaming setting eventId = none) (now : Nat)
    (relay : RelayOutcome) (response : JsonRpcMessage) :
    ∃ openStream, (∀ sessions held,
        (ResponseState.mk sessions held openStream).streaming setting eventId = none) ∧
      state.sendResponse setting now relay eventId response =
        (state.taken eventId openStream).sendPlain setting now relay eventId
          (state.held.paymentRouteSnapshots.peek eventId) response := by
  unfold streaming at still ⊢
  by_cases enabled : setting.server.openStreamEnabled = true
  · rw [if_pos enabled] at still
    -- A slot whose stream has not started is given up.
    obtain ⟨after, decided⟩ : ∃ after,
        state.openStream.tryDeferOpenStreamResponse eventId response = (.passthrough, after) := by
      unfold tryDeferOpenStreamResponse
      cases found : state.openStream.slots.lookup eventId with
      | none => exact ⟨_, rfl⟩
      | some slot => simp_all
    have cleared := lookup_tryDefer decided (by simp)
    refine ⟨after, fun _ _ => by simp [cleared], ?_⟩
    simp only [sendResponse, takePaymentRouteSnapshot, enabled, if_true, decided]
    rfl
  · refine ⟨state.openStream, fun _ _ => if_neg enabled, ?_⟩
    simp only [sendResponse, takePaymentRouteSnapshot, enabled]
    rfl

theorem sendResponse_terminated {slot : OpenStreamSlot}
    (streams : state.streaming setting eventId = some slot) (finished : slot.terminated = true)
    (now : Nat) (relay : RelayOutcome) (response : JsonRpcMessage) :
    ∃ openStream, (∀ sessions held,
        (ResponseState.mk sessions held openStream).streaming setting eventId = none) ∧
      state.sendResponse setting now relay eventId response =
        (state.taken eventId openStream).sendOpenStreamDeferredResponse setting relay eventId
          slot.snapshot response := by
  unfold streaming at streams ⊢
  by_cases enabled : setting.server.openStreamEnabled = true
  · rw [if_pos enabled] at streams
    obtain ⟨found, started⟩ := Option.filter_eq_some_iff.mp streams
    have decided : state.openStream.tryDeferOpenStreamResponse eventId response =
        (.sendNow slot.snapshot, state.openStream.release eventId slot) := by
      simp [tryDeferOpenStreamResponse, found, started, finished]
    have cleared := lookup_tryDefer decided (by simp)
    refine ⟨state.openStream.release eventId slot, fun _ _ => by simp [cleared], ?_⟩
    simp only [sendResponse, takePaymentRouteSnapshot, enabled, if_true, decided]
    rfl
  · grind

theorem sendResponse_deferred {slot : OpenStreamSlot}
    (streams : state.streaming setting eventId = some slot) (open_ : slot.terminated = false) :
    (state.sendResponse setting now relay eventId response).1 = .deferred := by
  unfold streaming at streams
  by_cases enabled : setting.server.openStreamEnabled = true
  · rw [if_pos enabled] at streams
    obtain ⟨found, started⟩ := Option.filter_eq_some_iff.mp streams
    simp [sendResponse, enabled, tryDeferOpenStreamResponse,
      takePaymentRouteSnapshot, found, started, open_]
  · rw [if_neg enabled] at streams
    cases streams

theorem sendPlain_route {route : RouteEntry}
    (routed : state.held.eventRoutes.getRoute eventId = some route)
    (snapshot : Option PaymentRouteSnapshot) :
    state.sendPlain setting now relay eventId snapshot response =
      { state with held := { state.held with
          eventRoutes := (state.held.eventRoutes.pop eventId).2 } }.sendByRoute setting now relay
        eventId route response := by
  simp only [sendPlain, pop_fst, routed]

theorem sendPlain_snapshot (unrouted : state.held.eventRoutes.getRoute eventId = none)
    (entry : PaymentRouteSnapshot) :
    state.sendPlain setting now relay eventId (some entry) response =
      let sent := { state with held := { state.held with
          eventRoutes := (state.held.eventRoutes.pop eventId).2 }
        }.sendOpenStreamDeferredResponse setting relay eventId entry.snapshot response
      match sent.1 with
      | .failed error =>
        (.failed error,
          { sent.2 with
            held := { sent.2.held with
              paymentRouteSnapshots := reinsertPaymentRouteSnapshot
                sent.2.held.paymentRouteSnapshots eventId entry } })
      | result => (result, sent.2) := by
  simp only [sendPlain, pop_fst, unrouted]

theorem deferred_cases (setting : ResponseSetting) (relay : RelayOutcome) (state : ResponseState)
    (eventId : String) (snapshot : RouteSnapshot) (response : JsonRpcMessage) :
    ∃ result sessions,
      state.sendOpenStreamDeferredResponse setting relay eventId snapshot response =
        (result, { state with sessions }) ∧
      ((∃ error, result = .failed error) ↔
        ¬ (setting.isEventId eventId = true ∧ relay.publishes 0 = true)) := by
  unfold sendOpenStreamDeferredResponse
  split
  · rename_i wellFormed
    split
    · grind
    · grind
  · grind

variable {after : ResponseState}

theorem not_retryable (unrouted : after.held.eventRoutes.getRoute eventId = none)
    (gone : after.held.paymentRouteSnapshots.peek eventId = none) :
    ¬ Retryable setting state after eventId response := by
  rintro ⟨⟨clientPubkey, originalRequestId, -, named, -⟩, -⟩
  rcases named with ⟨route, routed, -⟩ | ⟨entry, kept, -⟩
  · grind
  · simp [gone] at kept

theorem retryable_route {route later : RouteEntry}
    (routed : state.held.eventRoutes.getRoute eventId = some route)
    (left : after.held.eventRoutes.getRoute eventId = some later)
    (client : later.clientPubkey = route.clientPubkey)
    (original : later.originalRequestId = route.originalRequestId)
    (gone : after.held.paymentRouteSnapshots.peek eventId = none)
    (still : ∀ sessions, { after with sessions }.streaming setting eventId = none) :
    Retryable setting state after eventId response where
  named := by
    refine ⟨route.clientPubkey, route.originalRequestId, .inl ⟨route, routed, rfl, rfl⟩,
      .inl ⟨later, left, client, original⟩, ?_⟩
    intro now relay sessions works present key wellFormed
    rw [← client] at present key ⊢
    rw [← original]
    obtain ⟨openStream, -, sent⟩ := sendResponse_plain (still sessions) now relay response
    obtain ⟨session, found⟩ := Option.isSome_iff_exists.mp present
    have kept : (taken { after with sessions } eventId openStream).held.eventRoutes.getRoute
      eventId = some later := left
    rw [sent, sendPlain_route kept]
    simp only [sendByRoute, taken, found, key, wellFormed, works.response]
    simp
  expiry := by
    intro entry kept
    simp [gone] at kept

theorem retryable_snapshot {entry : PaymentRouteSnapshot}
    (held : state.held.paymentRouteSnapshots.peek eventId = some entry)
    (unrouted : after.held.eventRoutes.getRoute eventId = none)
    (left : after.held.paymentRouteSnapshots.peek eventId = some entry)
    (still : ∀ sessions, { after with sessions }.streaming setting eventId = none) :
    Retryable setting state after eventId response where
  named := by
    refine ⟨entry.snapshot.clientPubkey, entry.snapshot.originalRequestId,
      .inr ⟨entry, held, rfl, rfl⟩, .inr ⟨entry, left, rfl, rfl⟩, ?_⟩
    intro now relay sessions works _ _ wellFormed
    obtain ⟨openStream, -, sent⟩ := sendResponse_plain (still sessions) now relay response
    have gone : (taken { after with sessions } eventId openStream).held.eventRoutes.getRoute
      eventId = none := unrouted
    rw [sent, left, sendPlain_snapshot gone]
    simp only [sendOpenStreamDeferredResponse, wellFormed, works.single, if_true]
  expiry := by
    intro other kept
    rw [left] at kept
    cases kept
    exact held

/-- A failed call leaves the response to be sent again. -/
def KeepsAuthority (setting : ResponseSetting) (now : Nat) (relay : RelayOutcome)
    (state : ResponseState) (eventId : String) (response : JsonRpcMessage) : Prop :=
  ∀ error after, state.sendResponse setting now relay eventId response = (.failed error, after) →
    state.held.answers eventId = true → Retryable setting state after eventId response

theorem keepsAuthority_of_not_failed
    (fine : ∀ error, (state.sendResponse setting now relay eventId response).1 ≠ .failed error) :
    state.KeepsAuthority setting now relay eventId response := by
  intro error after failed
  exact absurd (congrArg Prod.fst failed) (fine error)

theorem keepsAuthority_iff_of_failed {error : ResponseError}
    (failed : state.sendResponse setting now relay eventId response = (.failed error, after)) :
    state.KeepsAuthority setting now relay eventId response ↔
      (state.held.answers eventId = true → Retryable setting state after eventId response) := by
  constructor
  · intro keeps
    exact keeps error after failed
  · intro retryable other end_ same
    rw [failed] at same
    cases same
    exact retryable

/-- After a stream, the response can be sent again by the route, but not by a payment's snapshot. -/
theorem keepsAuthority_terminated {slot : OpenStreamSlot}
    (streams : state.streaming setting eventId = some slot) (finished : slot.terminated = true) :
    state.KeepsAuthority setting now relay eventId response ↔
      state.losesAuthority setting relay eventId = false := by
  obtain ⟨openStream, quiet, sent⟩ := sendResponse_terminated streams finished now relay response
  obtain ⟨result, sessions, deferred, fails⟩ := deferred_cases setting relay
    (state.taken eventId openStream) eventId slot.snapshot response
  rw [deferred] at sent
  -- Whatever comes of it, the snapshot of a payment has been taken.
  have gone : (state.taken eventId openStream).held.paymentRouteSnapshots.peek eventId = none := by
    simp [taken]
  by_cases works : setting.isEventId eventId = true ∧ relay.publishes 0 = true
  · grind [keepsAuthority_of_not_failed, losesAuthority]
  · obtain ⟨error, rfl⟩ := fails.mpr works
    rw [keepsAuthority_iff_of_failed sent]
    cases routed : state.held.eventRoutes.getRoute eventId with
    | some route =>
      refine iff_of_true (fun _ => ?_) (by simp [losesAuthority, streams, routed])
      exact retryable_route routed routed rfl rfl gone fun _ => quiet _ _
    | none =>
      cases kept : state.held.paymentRouteSnapshots.peek eventId with
      | none =>
        refine iff_of_true (fun answers => ?_) (by simp [losesAuthority, streams, kept])
        simp [Correlation.answers, routed, kept] at answers
      | some entry =>
        refine iff_of_false (fun retryable => ?_) ?_
        · exact absurd (retryable (by simp [Correlation.answers, kept])) (not_retryable routed gone)
        · simp [losesAuthority, streams, finished, routed, kept, works]

/-- Without a stream, a route is lost unless the call gets as far as publishing. -/
theorem keepsAuthority_route {route : RouteEntry} (still : state.streaming setting eventId = none)
    (routed : state.held.eventRoutes.getRoute eventId = some route) :
    state.KeepsAuthority setting now relay eventId response ↔
      state.losesAuthority setting relay eventId = false := by
  obtain ⟨openStream, quiet, sent⟩ := sendResponse_plain still now relay response
  have kept : (state.taken eventId openStream).held.eventRoutes.getRoute eventId = some route :=
    routed
  rw [sendPlain_route kept] at sent
  -- The route and the snapshot of a payment have been taken.
  have unrouted : ((state.taken eventId openStream).held.eventRoutes.pop eventId).2.getRoute
      eventId = none := by
    rw [getRoute_pop, if_pos rfl]
  have gone : (state.taken eventId openStream).held.paymentRouteSnapshots.peek eventId = none := by
    simp [taken]
  have answers : state.held.answers eventId = true := by simp [Correlation.answers, routed]
  unfold sendByRoute at sent
  cases found : state.sessions.sessions.peek route.clientPubkey with
  | none =>
    simp only [taken, found] at sent
    rw [keepsAuthority_iff_of_failed sent]
    refine iff_of_false (fun retryable => ?_) ?_
    · exact absurd (retryable answers) (not_retryable unrouted gone)
    · simp [losesAuthority, still, routed, SessionStore.contains, found]
  | some session =>
    simp only [taken, found] at sent
    by_cases key : setting.isPublicKey route.clientPubkey = true
    · by_cases wellFormed : setting.isEventId eventId = true
      · -- From here on, a route that was taken comes back.
        refine iff_of_true ?_ (by
          simp [losesAuthority, still, routed, SessionStore.contains, found, key, wellFormed])
        simp only [key, wellFormed, Bool.true_eq_false, if_false] at sent
        split at sent
        · exact keepsAuthority_of_not_failed fun error failed => by simp [sent] at failed
        · rw [keepsAuthority_iff_of_failed sent]
          intro _
          have back := getRoute_register (state.held.eventRoutes.pop eventId).2 now
            eventId route.clientPubkey eventId route.originalRequestId route.progressToken
          rw [if_pos rfl] at back
          exact retryable_route routed back rfl rfl gone fun _ => quiet _ _
      · simp only [key, wellFormed, Bool.true_eq_false, if_false, if_true] at sent
        rw [keepsAuthority_iff_of_failed sent]
        refine iff_of_false (fun retryable => ?_)
          (by simp [losesAuthority, still, routed, wellFormed])
        exact absurd (retryable answers) (not_retryable unrouted gone)
    · simp only [key, if_true] at sent
      rw [keepsAuthority_iff_of_failed sent]
      refine iff_of_false (fun retryable => ?_) (by simp [losesAuthority, still, routed, key])
      exact absurd (retryable answers) (not_retryable unrouted gone)

/-- Without a stream and a route, the snapshot of a payment comes back. -/
theorem keepsAuthority_unrouted (still : state.streaming setting eventId = none)
    (unrouted : state.held.eventRoutes.getRoute eventId = none) :
    state.KeepsAuthority setting now relay eventId response := by
  obtain ⟨openStream, quiet, sent⟩ := sendResponse_plain still now relay response
  have none_ : (state.taken eventId openStream).held.eventRoutes.getRoute eventId = none := unrouted
  cases kept : state.held.paymentRouteSnapshots.peek eventId with
  | none =>
    intro error after _ answers
    simp [Correlation.answers, unrouted, kept] at answers
  | some entry =>
    rw [kept, sendPlain_snapshot none_] at sent
    obtain ⟨result, sessions, deferred, -⟩ := deferred_cases setting relay
      { state.taken eventId openStream with
        held := { (state.taken eventId openStream).held with
          eventRoutes := ((state.taken eventId openStream).held.eventRoutes.pop eventId).2 } }
      eventId entry.snapshot response
    rw [deferred] at sent
    cases result with
    | failed error =>
      rw [keepsAuthority_iff_of_failed sent]
      intro _
      refine retryable_snapshot kept ?_ ?_ fun _ => quiet _ _
      · exact (getRoute_pop _ _ _).trans (if_pos rfl)
      · rw [reinsertPaymentRouteSnapshot, Lru.peek_put, if_pos rfl]
    | deferred | sent response =>
      exact keepsAuthority_of_not_failed fun error failed => by simp [sent] at failed

end ResponseState

/--
A response that did not get out can be sent again, except where nobody is left to send it to.

The route and the snapshot of a payment are taken up front, and come back only if it is the
publishing that fails.
-/
theorem response_retryable_iff (setting : ResponseSetting) (now : Nat) (relay : RelayOutcome)
    (state : ResponseState) (eventId : String) (response : JsonRpcMessage) :
    state.KeepsAuthority setting now relay eventId response ↔
      state.losesAuthority setting relay eventId = false := by
  cases streams : state.streaming setting eventId with
  | some slot =>
    cases finished : slot.terminated with
    | true => exact ResponseState.keepsAuthority_terminated streams finished
    | false =>
      -- A response that waits for the end of its stream has not failed.
      refine iff_of_true (ResponseState.keepsAuthority_of_not_failed ?_)
        (by simp [ResponseState.losesAuthority, streams, finished])
      intro error failed
      simp [ResponseState.sendResponse_deferred streams finished] at failed
  | none =>
    cases routed : state.held.eventRoutes.getRoute eventId with
    | some route => exact ResponseState.keepsAuthority_route streams routed
    | none => grind [ResponseState.keepsAuthority_unrouted, ResponseState.losesAuthority]

/-- A server that is open to everybody. -/
def plainSetting : ResponseSetting where
  server := .public pingPrimitives
  threshold := 100
  isPublicKey := isHex64
  isEventId := isHex64
  toText := fun _ => ""

/-- A relay that takes everything. -/
def openRelay : RelayOutcome where
  publishedSize := some 50
  safeChunkSize := some 50
  publishes := fun _ => true

/-- A request of Alice's is in flight, and Alice has no session. -/
def sessionless : ResponseState where
  sessions := .withCapacity 10
  held := ⟨(RouteStore.withMaxRoutes 10).register 0 "alice-1" "alice" (.ofU64 1) none, ∅,
    .withCapacity 10⟩
  openStream := .empty

/-- The response to a request whose client has no session is lost for good. -/
theorem response_lost_without_session :
    ∃ after, sessionless.sendResponse plainSetting 1 openRelay "alice-1"
        (.response ⟨"2.0", .null, .null⟩) =
        (.failed (.other "No session for client alice"), after) ∧
      sessionless.held.answers "alice-1" = true ∧ after.held.answers "alice-1" = false := by
  refine ⟨_, rfl, ?_, ?_⟩ <;> decide

end ContextVm
