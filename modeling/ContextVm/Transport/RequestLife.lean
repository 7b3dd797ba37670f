import ContextVm.Transport.Authorization
import ContextVm.Transport.OpenStream
import ContextVm.Transport.Snapshots

/-! The life of a request in a server: what is kept for it, and every way in which it can end. -/

namespace ContextVm

/-- The token under which a message is tracked, which for a frame is that of its transfer. -/
def ServerConfig.trackedToken (config : ServerConfig) : JsonRpcMessage → Option String
  | .request body => Correlation.requestProgressToken config.primitives.serde body
  | .notification body => (body.params.bind fun params => params.get "progressToken").bind
      (progressTokenString config.primitives.serde)
  | _ => none

/-- Whether an event is tracked as a request: one that is let in itself, or that it completes. -/
def ServerState.tracks (config : ServerConfig) (now : Nat) (state : ServerState)
    (event : ReceivedEvent) : Bool :=
  ((receive config now state event).2.getD []).filterMap LoopEffect.dispatch ≠ [] ∧
    (event.message.isRequest ∨ (reassembled config now state event).isSome)

/-- What is held once an event is tracked. -/
def Correlation.TrackedAs (before after : Correlation) (config : ServerConfig) (now : Nat)
    (event : ReceivedEvent) : Prop :=
  ∃ kind original, after =
    { before with
      requestWrapKinds := before.requestWrapKinds.insert event.eventId kind
      eventRoutes := before.eventRoutes.register now event.eventId event.senderPubkey original
        (config.trackedToken event.message) }

namespace ServerState

variable {config : ServerConfig} {now : Nat} {state : ServerState} {event : ReceivedEvent}

/-- What is routed is tracked if it is a request, or completes a message. -/
theorem trackedAs_route (config : ServerConfig) (now : Nat) (state : ServerState)
    (event : ReceivedEvent) (session : ClientSession) (known : Bool) :
    let routed := route config now state (contextOf event session) known event.message
    let tracked := routed.2.filterMap LoopEffect.dispatch ≠ [] ∧
      (event.message.isRequest = true ∨ (reassembled config now state event).isSome = true)
    (tracked → state.held.TrackedAs routed.1.held config now event) ∧
      (¬ tracked → routed.1.held = state.held) := by
  unfold reassembled
  cases shape : event.message with
  | request request =>
    refine ⟨fun _ => ⟨event.giftWrapKind, request.id, by rw [shape]; rfl⟩, fun untracked => ?_⟩
    exact absurd ⟨by simp [route, LoopEffect.dispatch], .inl rfl⟩ untracked
  | notification body =>
    unfold route
    by_cases framed : config.oversizedEnabled = true ∧ isOversizedFrame body = true
    · simp only [if_pos framed]
      rw [← feedFrame_outcome config now body (issuedAccept config body known)]
      unfold handleOversizedFrame
      simp only
      split
      · rename_i message completed
        refine ⟨fun _ => ⟨event.giftWrapKind, message.id.getD .null, by rw [shape]; rfl⟩,
          fun untracked => absurd ⟨by simp [LoopEffect.dispatch], .inr ?_⟩ untracked⟩
        change (feedFrame config now body _
          ((state.oversizedReceivers.peek event.senderPubkey).getD _)).1 = _ at completed
        rw [completed]
        rfl
      · -- At most an accept frame goes out.
        exact ⟨fun tracked => absurd (by simp [LoopEffect.dispatch]) tracked.1, fun _ => rfl⟩
    · -- Any other notification is let in or streamed, and never tracked.
      simp only [if_neg framed, JsonRpcMessage.isRequest, Option.isSome_none, Bool.false_eq_true,
        or_self, and_false, false_implies, true_and]
      intro _
      split
      · rfl
      · split <;> rfl
  | response body | errorResponse body => simp [route, JsonRpcMessage.isRequest]

/-- What is held changes with the events that are tracked only. -/
theorem trackedAs_receive (config : ServerConfig) (now : Nat) (state : ServerState)
    (event : ReceivedEvent) :
    (state.tracks config now event = true →
      state.held.TrackedAs (receive config now state event).1.held config now event) ∧
    (state.tracks config now event = false →
      (receive config now state event).1.held = state.held) := by
  unfold tracks receive
  rw [decide_eq_true_eq, decide_eq_false_iff_not]
  -- An event is let in by what its message is routed to, or all routes stay.
  by_cases authorized : config.authorizes event = true
  · simp only [if_pos authorized]
    split
    · exact ⟨fun tracked => absurd rfl tracked.1, fun _ => rfl⟩
    · split
      · rw [Option.getD_some, List.filterMap_append, LoopEffect.dispatch_evicted]
        exact ⟨fun tracked => absurd rfl tracked.1, fun _ => rfl⟩
      · rw [Option.getD_some, List.filterMap_append, LoopEffect.dispatch_evicted, List.nil_append]
        exact trackedAs_route config now _ event _ _
  · simp only [if_neg authorized, Option.getD_some]
    refine ⟨fun tracked => absurd ?_ tracked.1, fun _ => held_refuse config state event⟩
    -- A refusal is all that is set off.
    unfold refuse
    split
    · split <;> rfl
    · rfl

/-- What is dispatched comes from the event itself. -/
theorem mem_dispatched {item : InboundContext × JsonRpcMessage}
    (member : item ∈ ((receive config now state event).2.getD []).filterMap LoopEffect.dispatch) :
    item.1.requestEventId = event.eventId ∧
      (item.2.isRequest = true → state.tracks config now event = true) := by
  obtain ⟨effect, inside, dispatched⟩ := List.mem_filterMap.mp member
  cases handled : (receive config now state event).2 with
  | none => simp [handled] at inside
  | some effects =>
    rw [handled, Option.getD_some] at inside
    cases effect with
    | dispatched ctx sent =>
      cases dispatched
      refine ⟨(dispatched_receive handled inside).2, fun request => ?_⟩
      refine decide_eq_true ⟨List.ne_nil_of_mem member, ?_⟩
      -- The request is the message itself, or was completed by it.
      rcases (dispatched_receive_message handled inside).2 with same | completed
      · exact .inl (same ▸ request)
      · exact .inr (by rw [completed]; rfl)
    | _ => cases dispatched

end ServerState

/-- What a server is set up with, and what is given with its events. -/
structure LifeSetting extends HexForms where
  config : ServerConfig
  hasMiddlewares : Bool
  requestTimeout : Nat
  -- An event id is a hash that commits to the author and the message of the event.
  commits : String → Option (String × JsonRpcMessage)

namespace LifeSetting

/-- Who sent an event. -/
def authorOf (setting : LifeSetting) (eventId : String) : Option String :=
  (setting.commits eventId).map Prod.fst

/-- The token under which an event is tracked. -/
def tokenOf (setting : LifeSetting) (eventId : String) : Option String :=
  (setting.commits eventId).bind fun content => setting.config.trackedToken content.2

/-- A message on its way into the chain: a slot for its stream, and a run that is counted there. -/
def dispatchInbound (setting : LifeSetting) (streams : ServerOpenStreamState)
    (item : InboundContext × JsonRpcMessage) : ServerOpenStreamState :=
  let reserved := streams.reserve setting.toHexForms setting.config item.1 item.2
  if setting.hasMiddlewares then reserved.enterChain item.1.requestEventId else reserved

end LifeSetting

/-- What has happened to the requests of a server. -/
structure RequestLog where
  -- Those that were received, with the time, and those that have ended.
  arrivals : List (String × Nat)
  ended : List String
  -- When old routes were swept, and what time it is.
  sweeps : List Nat
  clock : Nat

namespace RequestLog

/-- Nothing has happened. -/
def empty : RequestLog := ⟨[], [], [], 0⟩

/-- It is later. -/
def advance (log : RequestLog) (now : Nat) : RequestLog := { log with clock := now }

/-- A request is received, perhaps not for the first time. -/
def arrive (log : RequestLog) (now : Nat) (eventId : String) : RequestLog :=
  { log with
    arrivals := (eventId, now) :: log.arrivals
    ended := log.ended.filter (· ≠ eventId) }

/-- Requests end. -/
def finish (log : RequestLog) (eventIds : List String) : RequestLog :=
  { log with ended := eventIds ++ log.ended }

/-- Old routes are swept. -/
def sweep (log : RequestLog) (now : Nat) : RequestLog :=
  { log with sweeps := now :: log.sweeps }

/-- A request was received and has not ended. -/
def Open (log : RequestLog) (eventId : String) : Prop :=
  eventId ∈ log.arrivals.map Prod.fst ∧ eventId ∉ log.ended

end RequestLog

/-- How far a run of the chain has come with its message. -/
inductive RunStage where
  | inside
  -- The message has got to the handler, or was dropped and has lost its route.
  | forwarded
  | dropped
  deriving DecidableEq

/-- A server at work, with its streams, the runs of its chain and a log of its requests. -/
structure Desk where
  serving : Serving
  openStream : ServerOpenStreamState
  -- The runs that have not ended.
  runs : List (String × RunStage)
  -- The responses left to no stream, each with the snapshot it took, before they take a route.
  deciding : List (String × Option PaymentRouteSnapshot)
  log : RequestLog

/-- A server that has just been started. -/
def Desk.start (maxSessions : Nat) (listening : Bool) : Desk where
  serving := .start maxSessions listening
  openStream := .empty
  runs := []
  deciding := []
  log := .empty

/-- What can happen to the requests of a server. -/
inductive DeskAction where
  -- The event loop takes an event in.
  | receive (now : Nat) (event : ReceivedEvent)
  -- A run of the chain gets to the handler, or drops its message, and then ends.
  | forward (eventId : String)
  | drop (eventId : String)
  | leave (run : String × RunStage)
  -- A response is left to a stream or not; one that goes out by a snapshot is published, or fails.
  | respond (eventId : String) (response : JsonRpcMessage) (published : Bool)
  | correlate (item : String × Option PaymentRouteSnapshot) (published : Bool)
  -- A response that took a route is published, or fails for good, or may be sent again.
  | settle (item : String × RouteEntry)
  | abandon (item : String × RouteEntry)
  | restore (now : Nat) (item : String × RouteEntry)
  -- A tool begins to stream, and ends its stream.
  | startStream (eventId : String)
  | endStream (eventId : String)
  -- A payment takes a snapshot, and snapshots expire.
  | recordSnapshot (now : Nat) (eventId : String) (snapshot : RouteSnapshot) (expiresAt : Nat)
  | purgeSnapshots (now : Nat)
  -- The cleanup task comes round.
  | cleanupSessions (now timeout : Nat)
  | sweepStaleRoutes (now : Nat)
  -- A client is sent something, or loses its session because it does not answer.
  | publishTo (clientPubkey : String)
  | dropSession (clientPubkey : String)

namespace Desk

/-- The route that has to make room for that of an event. -/
def evicted (desk : Desk) (eventId : String) : List String :=
  (desk.serving.server.held.eventRoutes.routes.victim eventId).toList

/-- The requests whose routes go with the idle sessions. -/
def popped (desk : Desk) (now timeout : Nat) : List String :=
  (desk.serving.server.staleEventIds now timeout).filter fun eventId =>
    (desk.serving.server.held.eventRoutes.getRoute eventId).isSome

/-- The server with other routes, wrap kinds and snapshots. -/
def hold (desk : Desk) (held : Correlation) : Desk :=
  { desk with serving := desk.serving.update desk.serving.server.sessions held }

/-- What an event leaves besides what it does to the event loop's own data. -/
def received (setting : LifeSetting) (desk : Desk) (now : Nat) (event : ReceivedEvent)
    (serving : Serving) : Desk :=
  let dispatched := ((desk.serving.server.receive setting.config now event).2.getD []).filterMap
    LoopEffect.dispatch
  let log := desk.log.advance now
  { desk with
    serving
    openStream := dispatched.foldl setting.dispatchInbound desk.openStream
    runs := if setting.hasMiddlewares then
        dispatched.map (fun item => (item.1.requestEventId, RunStage.inside)) ++ desk.runs
      else desk.runs
    log := if desk.serving.server.tracks setting.config now event then
        -- The new route may cost an older one.
        (log.finish (desk.evicted event.eventId)).arrive now event.eventId
      else log }

/-- What is to be done with a response, which a stream may have to end for. -/
def defer (setting : LifeSetting) (desk : Desk) (eventId : String) (response : JsonRpcMessage) :
    OpenStreamDeferral × ServerOpenStreamState :=
  if setting.config.openStreamEnabled then
    desk.openStream.tryDeferOpenStreamResponse eventId response
  else (.passthrough, desk.openStream)

/-- A response, up to where it is to take a route. -/
def respond (setting : LifeSetting) (desk : Desk) (eventId : String) (response : JsonRpcMessage)
    (published : Bool) : Desk :=
  let (deferral, openStream) := desk.defer setting eventId response
  let held := desk.serving.server.held
  -- The snapshot of a payment is taken in any case.
  let taken := { desk with openStream }.hold { held with
    paymentRouteSnapshots := held.paymentRouteSnapshots.pop eventId }
  match deferral with
  | .deferred => taken
  | .sendNow _ => if published then { taken with log := desk.log.finish [eventId] } else taken
  | .passthrough =>
    { taken with
      deciding := (eventId, held.paymentRouteSnapshots.peek eventId) :: desk.deciding }

/-- A response that takes a route, or goes out by the snapshot of a payment. -/
def correlate (desk : Desk) (item : String × Option PaymentRouteSnapshot) (published : Bool) :
    Desk :=
  let held := desk.serving.server.held
  let (route, eventRoutes) := held.eventRoutes.pop item.1
  let left := { held with eventRoutes }
  let looked := { desk.hold left with deciding := desk.deciding.erase item }
  match route, item.2 with
  | some entry, _ =>
    { looked with serving := { looked.serving with
        answering := (item.1, entry) :: desk.serving.answering } }
  | none, some entry =>
    if published then { looked with log := desk.log.finish [item.1] }
    else looked.hold { left with paymentRouteSnapshots :=
      reinsertPaymentRouteSnapshot left.paymentRouteSnapshots item.1 entry }
  | none, none => looked

/-- One thing that happens to the requests of a server. -/
def step (setting : LifeSetting) (desk : Desk) : DeskAction → Option Desk
  | .receive now event =>
    if desk.log.clock ≤ now ∧
        setting.commits event.eventId = some (event.senderPubkey, event.message) then
      (desk.serving.step setting.authorOf setting.config (.receive now event)).map
        (desk.received setting now event)
    else none
  | .forward eventId =>
    if (eventId, .inside) ∈ desk.runs then
      some { desk with
        openStream := desk.openStream.markForwarded eventId
        runs := (eventId, .forwarded) :: desk.runs.erase (eventId, .inside) }
    else none
  | .drop eventId =>
    if (eventId, .inside) ∈ desk.runs then
      some { desk.hold (desk.serving.server.held.release eventId) with
        runs := (eventId, .dropped) :: desk.runs.erase (eventId, .inside) }
    else none
  | .leave run =>
    if run ∈ desk.runs ∧ run.2 ≠ .inside then
      some { desk with
        openStream := desk.openStream.leaveChain run.1
        runs := desk.runs.erase run
        log := if run.2 = .dropped then desk.log.finish [run.1] else desk.log }
    else none
  | .respond eventId response published => some (desk.respond setting eventId response published)
  | .correlate item published =>
    if item ∈ desk.deciding then some (desk.correlate item published) else none
  | .settle item =>
    (desk.serving.step setting.authorOf setting.config (.settle item)).map fun serving =>
      { desk with serving, log := desk.log.finish [item.1] }
  | .abandon item =>
    (desk.serving.step setting.authorOf setting.config (.abandon item)).map fun serving =>
      { desk with serving }
  | .restore now item =>
    if desk.log.clock ≤ now then
      (desk.serving.step setting.authorOf setting.config (.restore now item)).map fun serving =>
        { desk with serving, log := (desk.log.advance now).finish (desk.evicted item.1) }
    else none
  | .startStream eventId => some { desk with openStream := desk.openStream.startWriter eventId }
  | .endStream eventId =>
    let (flushed, openStream) := desk.openStream.terminate eventId
    -- A response that was waiting goes out now.
    some { desk with
      openStream, log := if flushed.isSome then desk.log.finish [eventId] else desk.log }
  | .recordSnapshot now eventId snapshot expiresAt =>
    let held := desk.serving.server.held
    some (desk.hold { held with
      paymentRouteSnapshots :=
        recordPaymentRouteSnapshot held.paymentRouteSnapshots now eventId snapshot expiresAt })
  | .purgeSnapshots now =>
    let held := desk.serving.server.held
    some (desk.hold { held with
      paymentRouteSnapshots := purgeExpiredSnapshots held.paymentRouteSnapshots now })
  | .cleanupSessions now timeout =>
    if desk.log.clock ≤ now then
      (desk.serving.step setting.authorOf setting.config (.cleanupSessions now timeout)).map
        fun serving =>
          { desk with serving, log := (desk.log.advance now).finish (desk.popped now timeout) }
    else none
  | .sweepStaleRoutes now =>
    if desk.log.clock ≤ now then
      (desk.serving.step setting.authorOf setting.config
        (.sweepStaleRoutes now setting.requestTimeout)).map fun serving =>
          { desk with
            serving, log := ((desk.log.advance now).sweep now).finish
              (desk.serving.server.held.eventRoutes.staleKeys now setting.requestTimeout) }
    else none
  | .publishTo clientPubkey =>
    (desk.serving.step setting.authorOf setting.config (.publishTo clientPubkey)).map fun serving =>
      { desk with serving }
  | .dropSession clientPubkey =>
    (desk.serving.step setting.authorOf setting.config (.dropSession clientPubkey)).map
      fun serving => { desk with serving }

end Desk

end ContextVm
