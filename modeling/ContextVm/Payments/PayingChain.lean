import ContextVm.Payments.NonForwarding
import ContextVm.Transport.ResponseAuthority

/-! The payment middlewares inside the inbound chain, where a delivery is one run on both sides. -/

namespace ContextVm

/-- A paying server together with the transport it sits in. -/
structure PayingTransport where
  payments : System
  transport : Transport

/-- One action of either side, or one both sides take part in. -/
inductive PayingAction where
  | payment (action : Action)
  | transport (action : TransportAction)
  | both (action : Action) (carried : TransportAction)

namespace PayingTransport

/-- Whether a payment action involves nothing of the transport. -/
def isPrivate (payments : System) : Action → Bool
  -- Arrivals and handovers are events of the transport as well.
  | .deliver _ _ | .delivery _ (.sent _) | .lifecycle _ (.sent _) => false
  | .lifecycle index (.published (.ok ())) =>
    -- A payment request captures a snapshot of its route.
    (payments.lifecycles[index]?).all fun row => match row.phase with
      | .requiring _ => false
      | _ => true
  | _ => true

/-- Whether the payment middlewares have returned for a delivery. -/
def hasReturned (payments : System) (index : Nat) : Bool :=
  (payments.deliveries[index]?).any fun row => match row.phase with
    | .returned _ | .panicked => true
    | _ => false

/-- Whether the two sides agree that an action can happen. -/
def coupled (state : PayingTransport) : PayingAction → Bool
  | .payment action => isPrivate state.payments action
  -- A run leaves the chain early only when its middleware has returned.
  | .transport (.run index .unwind) => hasReturned state.payments index
  | .transport (.deliver _ _) | .transport (.run _ (.send _)) => false
  | .transport (.run _ (.capture _)) => false
  | .transport _ => true
  | .both (.deliver message ctx) (.deliver carried also) =>
    decide (message = carried) && decide (ctx = also)
  | .both (.delivery index (.sent delivered)) (.run also (.send taken)) =>
    decide (index = also) && delivered == taken
  -- The forward of a lifecycle runs in the chain of the delivery that started it.
  | .both (.lifecycle index (.sent delivered)) (.run owner (.send taken)) =>
    ((state.payments.lifecycles[index]?).any fun row : Lifecycle => row.owner = owner) &&
      delivered == taken
  | .both (.lifecycle index (.published (.ok ()))) (.run owner (.capture _)) =>
    (state.payments.lifecycles[index]?).any fun row : Lifecycle => row.owner = owner
  | .both _ _ => false

/-- One transition of both sides. -/
def step (server : PaymentServer) (config : TransportConfig) (state : PayingTransport)
    (action : PayingAction) : Option PayingTransport :=
  if state.coupled action then
    match action with
    | .payment action =>
      (System.step server state.payments action).map fun payments => { state with payments }
    | .transport action =>
      (Transport.step config state.transport action).map fun transport => { state with transport }
    | .both action carried =>
      (System.step server state.payments action).bind fun payments =>
        (Transport.step config state.transport carried).map fun transport => ⟨payments, transport⟩
  else none

/-- The states a paying server can get to together with its transport. -/
def Reached (server : PaymentServer) (config : TransportConfig) (state : PayingTransport) : Prop :=
  Reaches (step server config) Unrestricted ⟨System.start server, .start⟩ state

/-- Whatever the payment middlewares decide is a run of the chain. -/
theorem Reached.transport {server : PaymentServer} {config : TransportConfig}
    {state : PayingTransport} (reached : Reached server config state) :
    Transport.Reached config Unrestricted state.transport := by
  -- Along the run, dropping what only the payment side does.
  induction reached with
  | start => exact .start
  | next action _ _ taken ih =>
    simp only [step] at taken
    split at taken
    · -- Each action moves the transport by one of its own steps, or not at all.
      cases action with
      | payment action => grind [Option.map_eq_some_iff]
      | transport action =>
        obtain ⟨transport, moved, rfl⟩ := Option.map_eq_some_iff.mp taken
        exact .next action ih trivial moved
      | both action carried =>
        obtain ⟨payments, -, joined⟩ := Option.bind_eq_some_iff.mp taken
        obtain ⟨transport, moved, rfl⟩ := Option.map_eq_some_iff.mp joined
        exact .next carried ih trivial moved
    · cases taken

/-- A checked execution reaches a good state. -/
theorem Reached.of_run (server : PaymentServer) (config : TransportConfig)
    (actions : List PayingAction) (good : PayingTransport → Prop) [DecidablePred good]
    (ran : (execute (step server config) ⟨System.start server, .start⟩ actions).any
      (decide <| good ·) = true) : ∃ state, Reached server config state ∧ good state :=
  Reaches.of_run actions good ran

end PayingTransport

/-- An event arrives, on both sides. -/
def arrives (eventId : String) (mode : PaymentInteractionMode) : PayingAction :=
  .both (.deliver toolCall (toolContext eventId mode))
    (.deliver toolCall (toolContext eventId mode))

/-- A chain run whose middleware has dropped its message goes through its cleanup. -/
def dropped (index : Nat) : List PayingAction :=
  [.transport (.run index .unwind), .transport (.run index .cleanUp),
    .transport (.run index .cleanUp)]

/-- A waived request reaches the handler, and a redelivery that joined it is dropped. -/
def waivedRedelivery : List PayingAction :=
  [arrives "e1" .transparent, .payment (.delivery 0 .run), .payment (.lifecycle 0 waivedPrice),
    arrives "e1" .transparent, .payment (.delivery 1 .run),
    .transport (.run 0 .advance), .transport (.run 0 .advance),
    .both (.lifecycle 0 (.sent true)) (.run 0 (.send true)),
    .payment (.delivery 0 .run), .transport (.run 0 .cleanUp), .payment (.delivery 1 .run)] ++
    dropped 1

/-- A paid request claims its grant and reaches the handler, and a redelivery is offered anew. -/
def gatedRedelivery : List PayingAction :=
  [arrives "e0" .explicitGating, .payment (.delivery 0 .run),
    .payment (.delivery 0 (invoiced none)),
    .payment (.delivery 0 .run), .payment (.delivery 0 (.published (.ok ()))),
    .payment (.verification 0 (.verified (.ok ⟨none⟩))), .payment (.verification 0 .run)] ++
    dropped 0 ++
  [arrives "e1" .explicitGating, .payment (.delivery 1 .run),
    .transport (.run 1 .advance), .transport (.run 1 .advance),
    .both (.delivery 1 (.sent true)) (.run 1 (.send true)), .transport (.run 1 .cleanUp),
    arrives "e1" .explicitGating, .payment (.delivery 2 .run),
    .payment (.delivery 2 (invoiced none)), .payment (.delivery 2 .run),
    .payment (.delivery 2 (.published (.ok ())))] ++
    dropped 2

/-- Both payment middlewares lose the response of a request that reached the handler. -/
theorem redeliveries_strand :
    ∃ waived gated : PayingTransport,
      PayingTransport.Reached (toolServer 1000000 1) twoMiddlewares waived ∧
      waived.payments.log.countP Observation.waives = 1 ∧ Stranded waived.transport "e1" ∧
      PayingTransport.Reached (toolServer 1000000 1) twoMiddlewares gated ∧
      (claimedIds (storeCalls gated.payments.log)).length = 1 ∧
      gated.payments.log.any (Observation.gates "e1") = true ∧
      Stranded gated.transport "e1" ∧
      ¬ ∀ (config : TransportConfig) (state : Transport),
        Transport.Reached config Unrestricted state → Answerable state := by
  -- Once through the transparent middleware, and once through the explicit one.
  obtain ⟨waived, reached, checked⟩ := PayingTransport.Reached.of_run (toolServer 1000000 1)
    twoMiddlewares waivedRedelivery
    (fun state => state.payments.log.countP Observation.waives = 1 ∧
      Stranded state.transport "e1") (by decide)
  obtain ⟨gated, also, answered⟩ := PayingTransport.Reached.of_run (toolServer 1000000 1)
    twoMiddlewares gatedRedelivery
    (fun state => (claimedIds (storeCalls state.payments.log)).length = 1 ∧
      state.payments.log.any (Observation.gates "e1") ∧ Stranded state.transport "e1")
    (by decide)
  refine ⟨waived, gated, reached, checked.1, checked.2, also, answered.1, answered.2.1,
    answered.2.2, ?_⟩
  intro answerable
  -- The run of the paying server is one of the chain, where the request cannot be answered.
  obtain ⟨-, ⟨row, listed, request, delivered, event⟩, unanswered, lost⟩ := checked.2
  obtain ⟨authority, found⟩ := answerable twoMiddlewares waived.transport reached.transport row
    listed request delivered (by rw [event]; exact unanswered)
  rw [event, lost] at found
  cases found

end ContextVm
