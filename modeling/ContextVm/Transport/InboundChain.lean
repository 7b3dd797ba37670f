import ContextVm.Lib.Execution
import ContextVm.Lib.Table
import ContextVm.Payments.Types
import ContextVm.Transport.RouteStore

/-! Inbound chain runs, one for each delivery of an event, over the routes they share. -/

namespace ContextVm

/-- Where a chain run stands. -/
inductive RunPhase where
  -- The message is with the middleware at this place, or with the terminal behind the last one.
  | inside (position : Nat)
  -- The chain has returned or panicked, and its cleanup is next.
  | returned
  -- The cleanup has popped a route, and the wrap kind is next.
  | releasing
  | finished
  deriving DecidableEq

/-- One run of the middleware chain, spawned for one delivery. -/
structure ChainRun where
  message : JsonRpcMessage
  ctx : InboundContext
  phase : RunPhase
  -- Set by the terminal alone, whatever the middlewares return.
  reached : Bool
  -- The route as the publisher of a payment request last read it.
  observed : Option RouteEntry

/-- Everything that correlates a response with the client it goes to. -/
structure Correlation where
  eventRoutes : RouteStore
  requestWrapKinds : AList fun _ : String => Option Nat
  paymentRouteSnapshots : Lru String PaymentRouteSnapshot

/-- The inbound half of a server transport. -/
structure Transport where
  clock : Nat
  held : Correlation
  runs : List ChainRun
  -- The events a response has been sent for.
  responded : List String

/-- What the inbound half of a server transport is configured with. -/
structure TransportConfig where
  serde : SerdeJson
  -- How many middlewares are registered.
  middlewares : Nat
  -- How long a captured snapshot lives.
  snapshotTtl : Nat

/-- The capacity of both correlation caches. -/
def defaultLruSize : Nat := 5000

/-- A transport that has seen nothing yet. -/
def Transport.start : Transport where
  clock := 0
  held := ⟨.withMaxRoutes defaultLruSize, ∅, .withCapacity defaultLruSize⟩
  runs := []
  responded := []

/-- What lets a response find its client. -/
inductive Authority where
  | route (entry : RouteEntry)
  | snapshot (entry : PaymentRouteSnapshot)
  deriving DecidableEq

namespace Correlation

/-- The progress token of a request, as it is kept for routing. -/
def requestProgressToken (serde : SerdeJson) (request : JsonRpcRequest) : Option String :=
  ((request.params.bind fun params => params.get "_meta").bind fun fields =>
    fields.get "progressToken").bind (progressTokenString serde)

/-- What the event loop records of a request before it dispatches it. -/
def track (held : Correlation) (serde : SerdeJson) (now : Nat) (ctx : InboundContext) :
    JsonRpcMessage → Correlation
  | .request request =>
    { held with
      requestWrapKinds := held.requestWrapKinds.insert ctx.requestEventId ctx.mirroredWrapKind
      eventRoutes := held.eventRoutes.register now ctx.requestEventId ctx.clientPubkey request.id
        (requestProgressToken serde request) }
  -- Nothing else expects a response.
  | _ => held

/-- The part of sending a response that finds its client, and uses up what it finds. -/
def correlateResponse (held : Correlation) (eventId : String) :
    Except String Authority × Correlation :=
  -- The snapshot is taken up front, whether or not it is needed.
  let snapshot := held.paymentRouteSnapshots.peek eventId
  let (route, eventRoutes) := held.eventRoutes.pop eventId
  let left := { held with
    eventRoutes, paymentRouteSnapshots := held.paymentRouteSnapshots.pop eventId }
  match route, snapshot with
  | some entry, _ => (.ok (.route entry), left)
  | none, some entry => (.ok (.snapshot entry), left)
  | none, none => (.error ("No client found for event " ++ eventId), left)

/-- A response takes the route and the snapshot of its event. -/
theorem correlateResponse_snd (held : Correlation) (eventId : String) :
    (held.correlateResponse eventId).2 =
      { held with
        eventRoutes := (held.eventRoutes.pop eventId).2
        paymentRouteSnapshots := held.paymentRouteSnapshots.pop eventId } := by
  simp only [correlateResponse]
  split <;> rfl

/-- Whether a response for an event would find its client. -/
def answers (held : Correlation) (eventId : String) : Bool :=
  (held.eventRoutes.getRoute eventId).isSome ||
    (held.paymentRouteSnapshots.peek eventId).isSome

/-- It is let through if either was there. -/
theorem correlateResponse_ok (held : Correlation) (eventId : String) :
    (∃ authority, (held.correlateResponse eventId).1 = .ok authority) ↔
      held.answers eventId = true := by
  -- The route is asked first.
  simp only [correlateResponse, answers, RouteStore.pop_fst]
  cases held.eventRoutes.getRoute eventId with
  | some entry => simp
  | none =>
    -- Without a route it is the snapshot that decides.
    cases held.paymentRouteSnapshots.peek eventId with
    | some entry | none => simp

end Correlation

/-- How the code around one chain run lets it go on. -/
inductive RunInput where
  -- The middleware forwards the message to the next place.
  | advance
  -- The middleware drops the message, or panics.
  | unwind
  -- The terminal hands the message to the worker, whose channel takes it or is closed.
  | send (delivered : Bool)
  -- The run goes on with its cleanup.
  | cleanUp
  -- A payment request is about to be published: its route is read, and then captured.
  | lookUp
  | capture (session : Option Bool)

/-- One step of a chain run, with what it changes of the shared state. -/
def runStep (config : TransportConfig) (clock : Nat) (held : Correlation) (row : ChainRun) :
    RunInput → Option (ChainRun × Correlation)
  | .advance =>
    match row.phase with
    | .inside position =>
      if position < config.middlewares then
        some ({ row with phase := .inside (position + 1) }, held)
      else none
    | _ => none
  | .unwind =>
    match row.phase with
    | .inside position =>
      if position < config.middlewares then some ({ row with phase := .returned }, held) else none
    | _ => none
  | .send delivered =>
    match row.phase with
    | .inside position =>
      if position = config.middlewares then
        some ({ row with phase := .returned, reached := delivered }, held)
      else none
    | _ => none
  | .cleanUp =>
    let eventId := row.ctx.requestEventId
    match row.phase with
    | .returned =>
      -- The flag of this run alone decides, although other runs share the route.
      if row.reached then some ({ row with phase := .finished }, held)
      else
        let (popped, eventRoutes) := held.eventRoutes.pop eventId
        some ({ row with phase := if popped.isSome then .releasing else .finished },
          { held with eventRoutes })
    | .releasing => some ({ row with phase := .finished },
      { held with requestWrapKinds := held.requestWrapKinds.erase eventId })
    | _ => none
  | .lookUp =>
    match row.phase with
    | .inside _ =>
      some ({ row with observed := held.eventRoutes.getRoute row.ctx.requestEventId }, held)
    | _ => none
  | .capture session =>
    match row.phase, row.observed, session with
    | .inside _, some route, some isEncrypted => some (row,
      { held with
        paymentRouteSnapshots := recordPaymentRouteSnapshot held.paymentRouteSnapshots clock
          row.ctx.requestEventId
          ⟨row.ctx.clientPubkey, route.originalRequestId, isEncrypted, row.ctx.mirroredWrapKind⟩
          (clock + config.snapshotTtl) })
    -- Without a route or a session nothing is captured, and the publish goes on.
    | .inside _, _, _ => some (row, held)
    | _, _, _ => none

/-- What happens next: time passes, an event arrives, a run goes on, or a response is sent. -/
inductive TransportAction where
  | tick (elapsed : Nat)
  | deliver (message : JsonRpcMessage) (ctx : InboundContext)
  | run (index : Nat) (input : RunInput)
  | respond (eventId : String)

/-- The chain run a delivery starts with. -/
def ChainRun.spawn (config : TransportConfig) (message : JsonRpcMessage) (ctx : InboundContext) :
    ChainRun :=
  -- Without middlewares the event loop hands the message over itself.
  if config.middlewares = 0 then ⟨message, ctx, .finished, true, none⟩
  else ⟨message, ctx, .inside 0, false, none⟩

/-- One transition of the transport. -/
def Transport.step (config : TransportConfig) (state : Transport) :
    TransportAction → Option Transport
  | .tick elapsed => some { state with clock := state.clock + elapsed }
  | .deliver message ctx => some
    { state with
      held := state.held.track config.serde state.clock ctx message
      runs := state.runs ++ [.spawn config message ctx] }
  | .run index input =>
    match state.runs[index]? with
    | none => none
    | some row =>
      (runStep config state.clock state.held row input).map fun moved =>
        { state with runs := state.runs.set index moved.1, held := moved.2 }
  | .respond eventId => some
    { state with
      held := (state.held.correlateResponse eventId).2
      responded := eventId :: state.responded }

end ContextVm
