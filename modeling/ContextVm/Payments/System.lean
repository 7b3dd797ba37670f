import ContextVm.Payments.ServerStep

/-! The paying server as one transition system, and everything a transition can be. -/

namespace ContextVm

/-- The shared state of a paying server together with all processes running over it. -/
structure System where
  clock : Nat
  pending : Lru String PendingEntry
  store : AuthorizationStore
  deliveries : List Delivery
  lifecycles : List Lifecycle
  verifications : List Verification
  -- The newest observation comes first.
  log : List Observation

/-- The most identities the authorization store of a server remembers. -/
def authStoreMaxEntries : Nat := 5000

/-- A server that has seen nothing yet. -/
def System.start (server : PaymentServer) : System where
  clock := 0
  pending := .withCapacity server.options.maxPendingPayments
  store := .withMaxEntries authStoreMaxEntries
  deliveries := []
  lifecycles := []
  verifications := []
  log := []

/-- What happens next: time passes, an event arrives, or one process goes on. -/
inductive Action where
  | tick (elapsed : Nat)
  | deliver (message : JsonRpcMessage) (ctx : InboundContext)
  | delivery (index : Nat) (input : Input)
  | lifecycle (index : Nat) (input : Input)
  | verification (index : Nat) (input : Input)

/-- The store after at most one call. -/
def performed (store : AuthorizationStore) (id : CanonicalInvocationIdentity) :
    Option (Nat × StoreOp) → AuthorizationStore
  | none => store
  | some (now, op) => (store.perform now id op).2

/-- What an observer notes of at most one call. -/
def called (store : AuthorizationStore) (id : CanonicalInvocationIdentity) :
    Option (Nat × StoreOp) → List Observation
  | none => []
  | some (now, op) => [.stored ⟨now, id, op, store⟩]

namespace System

/-- Move one delivery on. -/
def moveDelivery (system : System) (index : Nat) (row : Delivery) (phase : DeliveryPhase) :
    System :=
  { system with deliveries := system.deliveries.set index { row with phase } }

/-- The cache once a delivery has unwound a lifecycle that failed before its invoice. -/
def unwound (cache : Lru String PendingEntry) (eventId : String) (lifecycle : Nat) :
    Lru String PendingEntry :=
  -- An entry that a later retry put at the same key is not this delivery's to remove.
  if (cache.peek eventId).any fun entry => entry.inFlight = lifecycle then cache.pop eventId
  else cache

/-- One step of a delivery inside the transparent middleware. -/
def transparentStep (options : ServerPaymentsOptions) (system : System) (index : Nat)
    (row : Delivery) (engaged : Engagement) : TransparentPhase → Input → Option System
  | .locking, .run =>
    let fresh := system.lifecycles.length
    let (decision, pending) :=
      enterPending system.pending row.arrivedAt options.paymentTtl row.ctx.requestEventId fresh
    let locked := { system with pending, log := .locked row.arrivedAt :: system.log }
    match decision with
    | .joined lifecycle =>
      some (locked.moveDelivery index row (.transparent engaged (.joining lifecycle)))
    | .refused => some (locked.moveDelivery index row (.returned false))
    | .inserted => some
      { locked.moveDelivery index row (.transparent engaged (.owning fresh)) with
        lifecycles := system.lifecycles ++
          [⟨index, row.arrivedAt, engaged, row.message, row.ctx, .initiating⟩] }
  | .joining lifecycle, .run =>
    match (system.lifecycles[lifecycle]?).map Lifecycle.phase with
    -- The forward belongs to the delivery that started the lifecycle, whatever the result.
    | some (.finished _) => some (system.moveDelivery index row (.returned false))
    | _ => none
  | .owning lifecycle, .run =>
    match (system.lifecycles[lifecycle]?).map Lifecycle.phase with
    | some (.finished (.ok _)) => some (system.moveDelivery index row (.returned true))
    | some (.finished (.error failure)) =>
      let pending := if failure.isPreInvoice then
        unwound system.pending row.ctx.requestEventId lifecycle else system.pending
      some ({ system with pending }.moveDelivery index row (.returned false))
    | _ => none
  | _, _ => none

/-- One transition, absent when the process cannot go on that way. -/
def step (server : PaymentServer) (system : System) : Action → Option System
  | .tick elapsed => some { system with clock := system.clock + elapsed }
  | .deliver message ctx => some
    { system with
      deliveries := system.deliveries ++ [⟨message, ctx, system.clock,
        enter server message ctx (withServerPayments server.options)⟩] }
  | .delivery index input =>
    match system.deliveries[index]? with
    | none => none
    | some row =>
      match row.phase, input with
      | .transparent engaged phase, _ =>
        transparentStep server.options system index row engaged phase input
      | .gating engaged id phase, _ =>
        (gatingStep server.options system.clock system.store row engaged id phase input).map
          fun effect =>
            { system with
              store := performed system.store id effect.request
              deliveries := system.deliveries.set index { row with phase := effect.phase }
              verifications := system.verifications ++ effect.spawned.toList
              log := effect.observed ++ called system.store id effect.request ++ system.log }
      | .forwarding, .sent delivered => some
        { system with
          deliveries := system.deliveries.set index { row with phase := .returned delivered }
          log := if delivered then
            .handed (.delivery index) row.ctx.requestEventId row.message :: system.log
            else system.log }
      | _, _ => none
  | .lifecycle index input =>
    match system.lifecycles[index]? with
    | none => none
    | some row =>
      (lifecycleStep server.options system.clock index row row.phase input).map fun moved =>
        { system with
          lifecycles := system.lifecycles.set index { row with phase := moved.1 }
          log := moved.2 ++ system.log }
  | .verification index input =>
    match system.verifications[index]? with
    | none => none
    | some row =>
      (verificationStep system.clock row row.phase input).map fun moved =>
        { system with
          store := performed system.store row.id moved.2.1
          verifications := system.verifications.set index { row with phase := moved.1 }
          log := moved.2.2 ++ called system.store row.id moved.2.1 ++ system.log }

end System

/-- The states a server can get to while every action meets a condition. -/
def Reached (server : PaymentServer) (permitted : System → Action → Prop) (system : System) :
    Prop :=
  Reaches (System.step server) permitted (System.start server) system

/-- Everything a transition can be, each kind with what enables it and what it leaves. -/
inductive Transition (server : PaymentServer) (system : System) : Action → System → Prop
  | tick (elapsed : Nat) :
      Transition server system (.tick elapsed) { system with clock := system.clock + elapsed }
  | deliver (message : JsonRpcMessage) (ctx : InboundContext) :
      Transition server system (.deliver message ctx)
        { system with
          deliveries := system.deliveries ++ [⟨message, ctx, system.clock,
            enter server message ctx (withServerPayments server.options)⟩] }
  -- The critical section finds a live entry, finds no room, or inserts a new lifecycle.
  | join {index : Nat} {row : Delivery} {engaged : Engagement} {lifecycle : Nat}
      {pending : Lru String PendingEntry} (found : system.deliveries[index]? = some row)
      (standing : row.phase = .transparent engaged .locking)
      (admitted : enterPending system.pending row.arrivedAt server.options.paymentTtl
        row.ctx.requestEventId system.lifecycles.length = (.joined lifecycle, pending)) :
      Transition server system (.delivery index .run)
        { system with
          pending
          log := .locked row.arrivedAt :: system.log
          deliveries := system.deliveries.set index
            { row with phase := .transparent engaged (.joining lifecycle) } }
  | refuse {index : Nat} {row : Delivery} {engaged : Engagement}
      {pending : Lru String PendingEntry} (found : system.deliveries[index]? = some row)
      (standing : row.phase = .transparent engaged .locking)
      (admitted : enterPending system.pending row.arrivedAt server.options.paymentTtl
        row.ctx.requestEventId system.lifecycles.length = (.refused, pending)) :
      Transition server system (.delivery index .run)
        { system with
          pending
          log := .locked row.arrivedAt :: system.log
          deliveries := system.deliveries.set index { row with phase := .returned false } }
  | insert {index : Nat} {row : Delivery} {engaged : Engagement}
      {pending : Lru String PendingEntry} (found : system.deliveries[index]? = some row)
      (standing : row.phase = .transparent engaged .locking)
      (admitted : enterPending system.pending row.arrivedAt server.options.paymentTtl
        row.ctx.requestEventId system.lifecycles.length = (.inserted, pending)) :
      Transition server system (.delivery index .run)
        { system with
          pending
          log := .locked row.arrivedAt :: system.log
          deliveries := system.deliveries.set index
            { row with phase := .transparent engaged (.owning system.lifecycles.length) }
          lifecycles := system.lifecycles ++
            [⟨index, row.arrivedAt, engaged, row.message, row.ctx, .initiating⟩] }
  -- A delivery waiting for a lifecycle returns once that lifecycle has ended.
  | drop {index lifecycle : Nat} {row : Delivery} {engaged : Engagement} {shared : Lifecycle}
      {result : Except LifecycleFailure Unit} (found : system.deliveries[index]? = some row)
      (standing : row.phase = .transparent engaged (.joining lifecycle))
      (awaited : system.lifecycles[lifecycle]? = some shared)
      (ended : shared.phase = .finished result) :
      Transition server system (.delivery index .run)
        { system with
          deliveries := system.deliveries.set index { row with phase := .returned false } }
  | settle {index lifecycle : Nat} {row : Delivery} {engaged : Engagement} {shared : Lifecycle}
      (found : system.deliveries[index]? = some row)
      (standing : row.phase = .transparent engaged (.owning lifecycle))
      (awaited : system.lifecycles[lifecycle]? = some shared)
      (ended : shared.phase = .finished (.ok ())) :
      Transition server system (.delivery index .run)
        { system with
          deliveries := system.deliveries.set index { row with phase := .returned true } }
  | unwind {index lifecycle : Nat} {row : Delivery} {engaged : Engagement} {shared : Lifecycle}
      {failure : LifecycleFailure} (found : system.deliveries[index]? = some row)
      (standing : row.phase = .transparent engaged (.owning lifecycle))
      (awaited : system.lifecycles[lifecycle]? = some shared)
      (ended : shared.phase = .finished (.error failure)) :
      Transition server system (.delivery index .run)
        { system with
          pending := if failure.isPreInvoice then
            System.unwound system.pending row.ctx.requestEventId lifecycle else system.pending
          deliveries := system.deliveries.set index { row with phase := .returned false } }
  | gating {index : Nat} {input : Input} {row : Delivery} {engaged : Engagement}
      {id : CanonicalInvocationIdentity} {phase : GatingPhase} {effect : GatingEffect}
      (found : system.deliveries[index]? = some row)
      (standing : row.phase = .gating engaged id phase)
      (moved : gatingStep server.options system.clock system.store row engaged id phase input =
        some effect) :
      Transition server system (.delivery index input)
        { system with
          store := performed system.store id effect.request
          deliveries := system.deliveries.set index { row with phase := effect.phase }
          verifications := system.verifications ++ effect.spawned.toList
          log := effect.observed ++ called system.store id effect.request ++ system.log }
  | handOver {index : Nat} {row : Delivery} {delivered : Bool}
      (found : system.deliveries[index]? = some row) (standing : row.phase = .forwarding) :
      Transition server system (.delivery index (.sent delivered))
        { system with
          deliveries := system.deliveries.set index { row with phase := .returned delivered }
          log := if delivered then
            .handed (.delivery index) row.ctx.requestEventId row.message :: system.log
            else system.log }
  | lifecycle {index : Nat} {input : Input} {row : Lifecycle} {phase : LifecyclePhase}
      {observed : List Observation} (found : system.lifecycles[index]? = some row)
      (moved : lifecycleStep server.options system.clock index row row.phase input =
        some (phase, observed)) :
      Transition server system (.lifecycle index input)
        { system with
          lifecycles := system.lifecycles.set index { row with phase }
          log := observed ++ system.log }
  | verification {index : Nat} {input : Input} {row : Verification} {phase : VerificationPhase}
      {request : Option (Nat × StoreOp)} {observed : List Observation}
      (found : system.verifications[index]? = some row)
      (moved : verificationStep system.clock row row.phase input =
        some (phase, request, observed)) :
      Transition server system (.verification index input)
        { system with
          store := performed system.store row.id request
          verifications := system.verifications.set index { row with phase }
          log := observed ++ called system.store row.id request ++ system.log }

namespace System

/-- A step inside the transparent middleware is one of its transitions. -/
theorem transparentStep_transition {server : PaymentServer} {system after : System} {index : Nat}
    {input : Input} {row : Delivery} {engaged : Engagement} {phase : TransparentPhase}
    (found : system.deliveries[index]? = some row)
    (standing : row.phase = .transparent engaged phase)
    (taken : transparentStep server.options system index row engaged phase input = some after) :
    Transition server system (.delivery index input) after := by
  -- In each phase only the bare continuation leads anywhere.
  cases phase with
  | locking =>
    cases input with
    | run =>
      -- The three answers of the critical section are the three transitions.
      simp only [transparentStep] at taken
      cases admitted : enterPending system.pending row.arrivedAt server.options.paymentTtl
          row.ctx.requestEventId system.lifecycles.length with
      | mk decision pending =>
        rw [admitted] at taken
        cases decision with
        | joined lifecycle =>
          cases taken
          exact .join found standing admitted
        | refused =>
          cases taken
          exact .refuse found standing admitted
        | inserted =>
          cases taken
          exact .insert found standing admitted
    | _ => simp [transparentStep] at taken
  | joining lifecycle =>
    cases input with
    | run =>
      -- A joiner waits until the lifecycle has its result.
      simp only [transparentStep] at taken
      split at taken
      · rename_i result shared
        obtain ⟨row, awaited, ended⟩ := Option.map_eq_some_iff.mp shared
        cases taken
        exact .drop found standing awaited ended
      · cases taken
    | _ => simp [transparentStep] at taken
  | owning lifecycle =>
    cases input with
    | run =>
      -- The owner returns on success and unwinds on failure.
      simp only [transparentStep] at taken
      split at taken
      · rename_i result shared
        obtain ⟨row, awaited, ended⟩ := Option.map_eq_some_iff.mp shared
        cases taken
        exact .settle found standing awaited ended
      · rename_i failure shared
        obtain ⟨row, awaited, ended⟩ := Option.map_eq_some_iff.mp shared
        cases taken
        exact .unwind found standing awaited ended
      · cases taken
    | _ => simp [transparentStep] at taken

/-- Every step is one of the transitions. -/
theorem step_transition {server : PaymentServer} {system after : System} {action : Action}
    (taken : step server system action = some after) : Transition server system action after := by
  -- A process that moves is looked up first, and an absent one does not move.
  cases action with
  | tick elapsed =>
    cases taken
    exact .tick elapsed
  | deliver message ctx =>
    cases taken
    exact .deliver message ctx
  | delivery index input =>
    simp only [step] at taken
    cases found : system.deliveries[index]? with
    | none => simp [found] at taken
    | some row =>
      simp only [found] at taken
      -- The phase of the delivery says which middleware it is in.
      split at taken
      · exact transparentStep_transition found ‹_› taken
      · obtain ⟨effect, moved, rfl⟩ := Option.map_eq_some_iff.mp taken
        exact .gating found ‹_› moved
      · cases taken
        exact .handOver found ‹_›
      · cases taken
  | lifecycle index input =>
    simp only [step] at taken
    cases found : system.lifecycles[index]? with
    | none => simp [found] at taken
    | some row =>
      simp only [found] at taken
      obtain ⟨⟨phase, observed⟩, moved, rfl⟩ := Option.map_eq_some_iff.mp taken
      exact .lifecycle found moved
  | verification index input =>
    simp only [step] at taken
    cases found : system.verifications[index]? with
    | none => simp [found] at taken
    | some row =>
      simp only [found] at taken
      obtain ⟨⟨phase, request, observed⟩, moved, rfl⟩ := Option.map_eq_some_iff.mp taken
      exact .verification found moved

end System

/-- What every transition keeps holds whenever it is reached. -/
theorem Reached.invariant {server : PaymentServer} {permitted : System → Action → Prop}
    {kept : System → Prop} {system : System} (reached : Reached server permitted system)
    (initially : kept (System.start server))
    (preserved : ∀ before action after, Reached server permitted before → kept before →
      permitted before action → Transition server before action after → kept after) : kept system :=
  Reaches.invariant reached initially fun before action after earlier held allowed taken =>
    preserved before action after earlier held allowed (System.step_transition taken)

/-- A checked execution reaches a good state. -/
theorem Reached.of_run (server : PaymentServer) (actions : List Action) (good : System → Prop)
    [DecidablePred good] (ran : (execute (System.step server) (System.start server) actions).any
      (decide <| good ·) = true) : ∃ system, Reached server Unrestricted system ∧ good system :=
  Reaches.of_run actions good ran

end ContextVm
