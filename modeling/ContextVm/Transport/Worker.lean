import ContextVm.Transport.Cleanup

/-! The worker that puts all clients of a server in front of one rmcp service. -/

namespace ContextVm

/-! From the clients to the service. -/

/-- A message on its way from the inbound chain to the worker. -/
structure IncomingRequest where
  message : JsonRpcMessage
  clientPubkey : String
  eventId : String
  deriving DecidableEq

/-- What the service reads in a message, as far as it is about requests. -/
inductive RmcpMessage where
  | request (body : JsonRpcRequest)
  -- The request of this id is to be given up.
  | cancelled (requestId : Json)
  | other (message : JsonRpcMessage)
  deriving DecidableEq

/-- The message as the service has it, if it fits its types; how it reads is for rmcp to say. -/
abbrev InternalToRmcpServerRx := JsonRpcMessage → Option RmcpMessage

/-- The id of the request that a notification is to cancel. -/
def cancelledRequestId (notification : JsonRpcNotification) : Option Json :=
  if notification.method = "notifications/cancelled" then
    notification.params.bind fun params => params.get "requestId"
  else none

/-- What is taken as given: requests and cancellations are read with the ids that they carry. -/
structure InternalToRmcpServerRx.Faithful (read : InternalToRmcpServerRx) : Prop where
  request : ∀ message body, read message = some (.request body) → message = .request body
  cancelled : ∀ message requestId, read message = some (.cancelled requestId) →
    ∃ notification, message = .notification notification ∧
      cancelledRequestId notification = some requestId

/-- The worker's rewriting: a request goes by the id of its event from here on. -/
def rewriteId (incoming : IncomingRequest) : JsonRpcMessage :=
  match incoming.message with
  | .request body => .request { body with id := .string incoming.eventId }
  -- Everything else is handed over as it came.
  | message => message

/-- What the worker hands to the service, if the service can take it. -/
def handOver (read : InternalToRmcpServerRx) (incoming : IncomingRequest) : Option RmcpMessage :=
  read (rewriteId incoming)

/-- The messages among the effects of an event that enter the chain. -/
def incomingOf (effects : List LoopEffect) : List IncomingRequest :=
  effects.filterMap fun effect => match effect with
    | .dispatched ctx message => some ⟨message, ctx.clientPubkey, ctx.requestEventId⟩
    | _ => none

/-- A server with its worker. -/
structure Working where
  serving : Serving
  -- What has entered the chain and has not come out of it; it may come out in any order.
  dispatched : List IncomingRequest

/-- What can happen to a server with its worker. -/
inductive WorkerAction where
  | serve (action : ServerAction)
  -- The chain lets a message through, and the worker hands it over.
  | handOver (incoming : IncomingRequest)
  -- The chain drops a message.
  | drop (incoming : IncomingRequest)

namespace Working

/-- A server and its worker that have just been started. -/
def start (maxSessions : Nat) (listening : Bool) : Working where
  serving := .start maxSessions listening
  dispatched := []

/-- What an action of the server puts into the chain. -/
def enters (config : ServerConfig) (serving : Serving) : ServerAction → List IncomingRequest
  | .receive now event => incomingOf ((serving.server.receive config now event).2.getD [])
  | _ => []

/-- One thing that happens to a server with its worker. -/
def step (authorOf : String → Option String) (config : ServerConfig) (working : Working) :
    WorkerAction → Option Working
  | .serve action => (working.serving.step authorOf config action).map fun serving =>
      ⟨serving, working.dispatched ++ enters config working.serving action⟩
  | .handOver incoming | .drop incoming =>
    if incoming ∈ working.dispatched then
      some { working with dispatched := working.dispatched.erase incoming }
    else none

/-- The servers with their workers that can be reached. -/
def Reached (authorOf : String → Option String) (config : ServerConfig) (maxSessions : Nat)
    (listening : Bool) (working : Working) : Prop :=
  Reaches (step authorOf config) Unrestricted (start maxSessions listening) working

end Working

/-- What is handed over is about requests of its own sender. -/
def HandsOverOwn (authorOf : String → Option String) (read : InternalToRmcpServerRx)
    (routes : RouteStore) (incoming : IncomingRequest) : Prop :=
  ∀ handed, handOver read incoming = some handed →
    match handed with
    -- A request goes by the id of its own event.
    | .request body => body.id = .string incoming.eventId ∧
        authorOf incoming.eventId = some incoming.clientPubkey
    -- A cancellation names the event of a request in flight, the one that its sender meant.
    | .cancelled requestId => ∃ notification original,
        incoming.message = .notification notification ∧
        cancelledRequestId notification = some original ∧
        ∃ eventId route, requestId = .string eventId ∧ routes.getRoute eventId = some route ∧
          route.clientPubkey = incoming.clientPubkey ∧ route.originalRequestId = original
    | .other _ => True

/--
A cancellation names something else than an event of its sender's.

It would have to name a request by the id of its event; the client knows it by the id it chose.
-/
def CancelsByForeignId (read : InternalToRmcpServerRx) (routes : RouteStore)
    (incoming : IncomingRequest) : Prop :=
  ∃ original, read incoming.message = some (.cancelled original) ∧
    ∀ eventId route, original = .string eventId → routes.getRoute eventId = some route →
      route.clientPubkey = incoming.clientPubkey → route.originalRequestId ≠ original

section Inbound

variable {authorOf : String → Option String} {config : ServerConfig} {working : Working}
variable {incoming : IncomingRequest} {read : InternalToRmcpServerRx}

/-- What enters the chain does so under an event of its sender's. -/
theorem mem_enters {serving after : Serving} {action : ServerAction}
    (taken : serving.step authorOf config action = some after)
    (member : incoming ∈ Working.enters config serving action) :
    authorOf incoming.eventId = some incoming.clientPubkey := by
  cases action with
  | receive now event =>
    obtain ⟨admitted, taken⟩ := Option.ite_none_right_eq_some.mp taken
    simp only [Working.enters] at member
    cases handled : (serving.server.receive config now event).2 with
    | none =>
      rw [handled] at member
      cases member
    | some effects =>
      rw [handled, Option.getD_some] at member
      obtain ⟨effect, among, read⟩ := List.mem_filterMap.mp member
      split at read
      · grind [ServerState.dispatched_receive]
      · cases read
  | _ => cases member

/-- What is in the chain is there under an event of its sender's. -/
def Working.Attributed (authorOf : String → Option String) (working : Working) : Prop :=
  ∀ incoming ∈ working.dispatched, authorOf incoming.eventId = some incoming.clientPubkey

/-- In every run, everything in the chain is attributed to its sender. -/
theorem Working.Reached.attributed {maxSessions : Nat} {listening : Bool}
    (reached : Working.Reached authorOf config maxSessions listening working) :
    working.Attributed authorOf := by
  refine Reaches.invariant reached ?_ ?_
  · intro incoming member
    cases member
  · intro before action after _ kept _ taken incoming member
    cases action with
    | serve action =>
      simp only [Working.step, Option.map_eq_some_iff] at taken
      obtain ⟨serving, served, same⟩ := taken
      subst same
      rcases List.mem_append.mp member with old | new
      · exact kept incoming old
      · exact mem_enters served new
    | handOver item | drop item =>
      -- What leaves the chain leaves the others as they are.
      obtain ⟨-, rfl⟩ := Option.ite_some_none_eq_some.mp taken
      exact kept incoming (List.mem_of_mem_erase member)

/-- A request is handed over by the id of its event. -/
theorem handOver_request (faithful : read.Faithful) {body : JsonRpcRequest}
    (sent : handOver read incoming = some (.request body)) :
    body.id = .string incoming.eventId := by
  obtain ⟨message, client, eventId⟩ := incoming
  have same := faithful.request _ _ sent
  cases message with
  | request original =>
    cases same
    rfl
  | notification original | response original | errorResponse original => cases same

/-- A cancellation is handed over as it came. -/
theorem handOver_cancelled (faithful : read.Faithful) {requestId : Json} :
    handOver read incoming = some (.cancelled requestId) ↔
      read incoming.message = some (.cancelled requestId) := by
  obtain ⟨message, client, eventId⟩ := incoming
  cases message with
  | request original =>
    -- No request is read as a cancellation, whatever its id.
    have never (body : JsonRpcRequest) : read (.request body) ≠ some (.cancelled requestId) := by
      intro sent
      obtain ⟨notification, same, -⟩ := faithful.cancelled _ _ sent
      cases same
    exact iff_of_false (never _) (never _)
  | notification original | response original | errorResponse original => exact Iff.rfl

end Inbound

/--
In every run, what the worker hands over of a client is about that client's own requests, just when
it is not a cancellation that names something else than an event of the client's.
-/
theorem handsOverOwn_iff_not_cancelsByForeignId (authorOf : String → Option String)
    (config : ServerConfig) (maxSessions : Nat) (listening : Bool) (working : Working)
    (reached : Working.Reached authorOf config maxSessions listening working)
    (read : InternalToRmcpServerRx) (faithful : read.Faithful) (incoming : IncomingRequest)
    (member : incoming ∈ working.dispatched) :
    HandsOverOwn authorOf read working.serving.server.held.eventRoutes incoming ↔
      ¬ CancelsByForeignId read working.serving.server.held.eventRoutes incoming := by
  constructor
  · rintro own ⟨original, taken, foreign⟩
    -- The event it is handed over with is the id it came with.
    obtain ⟨notification, meant, message, named, eventId, route, same, found, client, original⟩ :=
      own (.cancelled original) ((handOver_cancelled faithful).mpr taken)
    obtain ⟨notification', message', named'⟩ := faithful.cancelled _ _ taken
    rw [message] at message'
    cases message'
    rw [named] at named'
    cases named'
    exact foreign eventId route same found client original
  · intro apart handed sent
    cases handed with
    | request body => exact ⟨handOver_request faithful sent, reached.attributed incoming member⟩
    | cancelled requestId =>
      have taken := (handOver_cancelled faithful).mp sent
      obtain ⟨notification, message, named⟩ := faithful.cancelled _ _ taken
      refine ⟨notification, requestId, message, named, ?_⟩
      by_contra none
      refine apart ⟨requestId, taken, ?_⟩
      intro eventId route same found client meant
      exact none ⟨eventId, route, same, found, client, meant⟩
    | other message => trivial

/-- A reading of requests, cancellations with an id, and everything else. -/
def plainRead : InternalToRmcpServerRx
  | .request body => some (.request body)
  | .notification body =>
    some ((cancelledRequestId body).elim (.other (.notification body)) .cancelled)
  | message => some (.other message)

/-- This reading is faithful. -/
theorem plainRead_faithful : plainRead.Faithful where
  request := by
    intro message body same
    cases message with
    | request other =>
      cases same
      rfl
    | notification other =>
      cases found : cancelledRequestId other <;> simp [plainRead, found] at same
    | response other | errorResponse other => cases same
  cancelled := by
    intro message requestId same
    cases message with
    | notification other =>
      cases found : cancelledRequestId other with
      | none => simp [plainRead, found] at same
      | some named =>
        refine ⟨other, rfl, ?_⟩
        simpa [plainRead, found] using same
    | request other | response other | errorResponse other => cases same

/-- A client calls off the request that it knows under some id. -/
def cancellation (requestId : Json) : JsonRpcMessage :=
  .notification ⟨"2.0", "notifications/cancelled", some (.object [("requestId", requestId)])⟩

/-- Bob calls a tool, and Alice sends something. -/
def bobCallsAliceSends (message : JsonRpcMessage) : List WorkerAction :=
  [.serve (.receive 0 ⟨"bob-1", "bob", [], none, toolCallWith 1 "0"⟩),
    .serve (.receive 1 ⟨"alice-1", "alice", [], none, message⟩)]

/-- Two clients that use the same id for their requests do not get into each other's way. -/
theorem handsOverOwn_iff_sameId :
    ∃ working, Working.Reached aliceAndBob (.public pingPrimitives) 10 false working ∧
      ⟨toolCallWith 1 "0", "alice", "alice-1"⟩ ∈ working.dispatched ∧
      handOver plainRead ⟨toolCallWith 1 "0", "alice", "alice-1"⟩ =
        some (.request ⟨"2.0", .string "alice-1", "tools/call",
          some (.object [("_meta", .object [("progressToken", .string "0")])])⟩) ∧
      HandsOverOwn aliceAndBob plainRead working.serving.server.held.eventRoutes
        ⟨toolCallWith 1 "0", "alice", "alice-1"⟩ := by
  refine Reaches.exists_of_run (bobCallsAliceSends (toolCallWith 1 "0"))
    (⟨toolCallWith 1 "0", "alice", "alice-1"⟩ ∈ ·.dispatched) (by decide) ?_
  intro working reached member
  refine ⟨member, rfl, (handsOverOwn_iff_not_cancelsByForeignId _ _ _ _ working reached plainRead
    plainRead_faithful _ member).mpr ?_⟩
  -- A request cancels nothing.
  rintro ⟨original, read, -⟩
  cases read

/-- Alice's cancellation is handed over with the id of Bob's request in flight. -/
theorem cancellation_names_foreign_request :
    ∃ working, Working.Reached aliceAndBob (.public pingPrimitives) 10 false working ∧
      ⟨cancellation (.string "bob-1"), "alice", "alice-1"⟩ ∈ working.dispatched ∧
      (working.serving.server.held.eventRoutes.getRoute "bob-1").map RouteEntry.clientPubkey =
        some "bob" ∧
      handOver plainRead ⟨cancellation (.string "bob-1"), "alice", "alice-1"⟩ =
        some (.cancelled (.string "bob-1")) ∧
      ¬ HandsOverOwn aliceAndBob plainRead working.serving.server.held.eventRoutes
        ⟨cancellation (.string "bob-1"), "alice", "alice-1"⟩ := by
  refine Reaches.exists_of_run (bobCallsAliceSends (cancellation (.string "bob-1")))
    (fun working => ⟨cancellation (.string "bob-1"), "alice", "alice-1"⟩ ∈ working.dispatched ∧
      (working.serving.server.held.eventRoutes.getRoute "bob-1").map RouteEntry.clientPubkey =
        some "bob") (by decide) ?_
  rintro working reached ⟨member, routed⟩
  have handed : handOver plainRead ⟨cancellation (.string "bob-1"), "alice", "alice-1"⟩ =
      some (.cancelled (.string "bob-1")) := by decide
  refine ⟨member, routed, handed, ?_⟩
  intro own
  obtain ⟨_, _, _, _, eventId, route, same, found, client, _⟩ := own _ handed
  -- The only request of that id is Bob's.
  cases same
  rw [found] at routed
  simp [client] at routed

end ContextVm
