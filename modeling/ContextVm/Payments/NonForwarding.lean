import ContextVm.Payments.PaidExecution

/-! When a request that explicit gating has answered stays away from the handler for good. -/

namespace ContextVm

open DeliveryPhase Observation

variable {system after : System} {row : Delivery} {server : PaymentServer} {clock index : Nat}
  {id : CanonicalInvocationIdentity} {store : AuthorizationStore} {engaged : Engagement}
  {effect : GatingEffect} {observed : List Observation} {options : ServerPaymentsOptions}
  {before : GatingPhase} {noted : Observation} {eventId : String} {input : Input}

namespace Observation

/-- The observation of an offer or of a pending answer to an event. -/
def gates (eventId : String) : Observation → Bool
  | .responded ctx response => decide (ctx.requestEventId = eventId) &&
    (response.error.code == paymentRequiredErrorCode ||
      response.error.code == paymentPendingErrorCode)
  | _ => false

/-- The observation of an event reaching the handler. -/
def hands (eventId : String) : Observation → Bool
  | .handed _ event _ => decide (event = eventId)
  | _ => false

end Observation

/-- No event reaches the handler once it has been answered with an offer or as pending. -/
def NonForwarding (log : List Observation) : Prop :=
  -- The newest observation comes first, so each one is compared with those before it.
  log.Pairwise fun later earlier =>
    ∀ eventId, later.hands eventId = true → earlier.gates eventId = false

/-- What arrives with an event. -/
abbrev Arrival := JsonRpcMessage × InboundContext

/-- What a delivery arrived with. -/
def Delivery.arrival (row : Delivery) : Arrival := (row.message, row.ctx)

/-- Everything that has arrived, in order. -/
def System.arrivals (system : System) : List Arrival := system.deliveries.map Delivery.arrival

/-- Which middleware holds a delivery, the explicit one or the transparent one. -/
def DeliveryPhase.holder : DeliveryPhase → Option PaymentInteractionMode
  | .gating _ _ _ => some .explicitGating
  | .transparent _ _ => some .transparent
  | _ => none

/-- Which middleware takes up what arrives. -/
def takenUp (server : PaymentServer) (arrival : Arrival) : Option PaymentInteractionMode :=
  (enter server arrival.1 arrival.2 (withServerPayments server.options)).holder

/-- Deliveries of one event carry the same message in the same session. -/
def Redelivers (system : System) (action : Action) : Prop :=
  ∀ message ctx, action = .deliver message ctx → ∀ earlier ∈ system.arrivals,
    earlier.2.requestEventId = ctx.requestEventId → earlier = (message, ctx)

/-- Every process works on something that arrived, under the middleware that took it up. -/
structure Traced (server : PaymentServer) (system : System) : Prop where
  same : ∀ first ∈ system.arrivals, ∀ second ∈ system.arrivals,
    first.2.requestEventId = second.2.requestEventId → first = second
  held : ∀ row ∈ system.deliveries, ∀ mode, row.phase.holder = some mode →
    takenUp server row.arrival = some mode
  lifecycles : ∀ row ∈ system.lifecycles, (row.message, row.ctx) ∈ system.arrivals ∧
    takenUp server (row.message, row.ctx) = some .transparent
  answered : ∀ ctx response, .responded ctx response ∈ system.log →
    ∃ message, (message, ctx) ∈ system.arrivals ∧
      takenUp server (message, ctx) = some .explicitGating

theorem arrivals_set {deliveries : List Delivery} (found : deliveries[index]? = some row)
    (phase : DeliveryPhase) :
    (deliveries.set index { row with phase }).map Delivery.arrival =
      deliveries.map Delivery.arrival := by
  -- Row by row: the one that is rewritten keeps its message and its context.
  apply List.ext_getElem?
  intro other
  rw [List.getElem?_map, List.getElem?_map, getElem?_set_eq _ found]
  split
  · rename_i same
    rw [same, found]
    rfl
  · rfl

/-- A delivery that moves under its middleware, or out of it, leaves everything traced. -/
theorem Traced.moveDelivery (traced : Traced server system) {phase : DeliveryPhase}
    (found : system.deliveries[index]? = some row)
    (deliveries : after.deliveries = system.deliveries.set index { row with phase })
    (holder : ∀ mode, phase.holder = some mode → row.phase.holder = some mode)
    (lifecycles : ∀ started ∈ after.lifecycles, started ∈ system.lifecycles ∨
      (started.message = row.message ∧ started.ctx = row.ctx ∧
        row.phase.holder = some .transparent))
    (log : ∀ ctx response, .responded ctx response ∈ after.log →
      .responded ctx response ∈ system.log ∨
        (ctx = row.ctx ∧ row.phase.holder = some .explicitGating)) :
    Traced server after := by
  -- The arrivals are the same, so each part is checked for this delivery alone.
  have arrivals : after.arrivals = system.arrivals := by
    rw [System.arrivals, deliveries, arrivals_set found, System.arrivals]
  have listed := List.mem_of_getElem? found
  have arrived : (row.message, row.ctx) ∈ system.arrivals := List.mem_map_of_mem listed
  constructor
  · rw [arrivals]
    exact traced.same
  · intro moved member mode holds
    rw [deliveries] at member
    rcases List.mem_or_eq_of_mem_set member with old | rfl
    · exact traced.held moved old mode holds
    · exact traced.held row listed mode (holder mode holds)
  · intro started member
    rw [arrivals]
    rcases lifecycles started member with old | ⟨message, ctx, mode⟩
    · exact traced.lifecycles started old
    · rw [message, ctx]
      exact ⟨arrived, traced.held row listed _ mode⟩
  · intro ctx response noted
    rw [arrivals]
    rcases log ctx response noted with old | ⟨rfl, mode⟩
    · exact traced.answered ctx response old
    · exact ⟨row.message, arrived, traced.held row listed _ mode⟩

theorem GatingMove.holder (move : GatingMove options clock store row engaged id before effect) :
    (∀ mode, effect.phase.holder = some mode → mode = .explicitGating) ∧
      ∀ ctx response, .responded ctx response ∈ effect.observed → ctx = row.ctx := by
  cases move with
  | quit ends => rcases ends with rfl | rfl <;> simp [holder]
  | clear cycle ends => rcases ends with rfl | ⟨message, rfl⟩ <;> simp [holder]
  | _ => simp [holder, eq_comm]

theorem called_notes {request : Option (Nat × StoreOp)} (listed : noted ∈ called store id request) :
    ∃ call, noted = .stored call := by
  cases request with
  | none => cases listed
  | some call => exact ⟨_, List.mem_singleton.mp listed⟩

theorem GatingMove.unhanded (move : GatingMove options clock store row engaged id before effect)
    (listed : noted ∈ effect.observed ++ called store id effect.request) (eventId : String) :
    noted.hands eventId = false := by
  -- What the gate publishes is an answer, and the rest is a call.
  rcases List.mem_append.mp listed with fresh | call
  · cases move <;> simp at fresh <;> rw [fresh] <;> rfl
  · obtain ⟨made, rfl⟩ := called_notes call
    rfl

theorem LifecycleMove.unanswered {row : Lifecycle} {before after : LifecyclePhase}
    (move : LifecycleMove clock index row before after observed) (ctx : InboundContext)
    (response : JsonRpcErrorResponse) : .responded ctx response ∉ observed := by
  cases move with
  | @forward delivered => cases delivered <;> simp
  | _ => simp

theorem LifecycleMove.hands {row : Lifecycle} {before after : LifecyclePhase}
    (move : LifecycleMove clock index row before after observed) (listed : noted ∈ observed)
    (handed : noted.hands eventId = true) :
    eventId = row.ctx.requestEventId := by
  -- Only the forward hands anything over.
  cases noted with
  | handed forwarder event message =>
    simp only [hands, decide_eq_true_eq] at handed
    subst handed
    cases move with
    | @forward delivered => grind
    | _ => simp at listed
  | _ => simp [hands] at handed

theorem VerificationMove.notes {row : Verification} {before after : VerificationPhase}
    {request : Option (Nat × StoreOp)}
    (move : VerificationMove clock row before after request observed) (listed : noted ∈ observed) :
    noted = .verified (some row.id) := by
  grind [VerificationMove]

/-- A new delivery is traced when it repeats its event, and the old ones stay so. -/
theorem Traced.deliver {message : JsonRpcMessage} {ctx : InboundContext}
    (traced : Traced server system) (repeated : Redelivers system (.deliver message ctx)) :
    Traced server { system with deliveries := system.deliveries ++ [⟨message, ctx, system.clock,
      enter server message ctx (withServerPayments server.options)⟩] } := by
  have before := repeated message ctx rfl
  -- The new delivery is the one arrival more.
  have arrivals : System.arrivals { system with deliveries := system.deliveries ++ [⟨message, ctx,
      system.clock, enter server message ctx (withServerPayments server.options)⟩] } =
      system.arrivals ++ [(message, ctx)] := by
    simp [System.arrivals, Delivery.arrival]
  constructor
  · -- A new arrival is compared with the old ones, and the old ones with each other.
    intro first listed second also event
    rw [arrivals] at listed also
    simp only [List.mem_append, List.mem_singleton] at listed also
    rcases listed with old | rfl
    · rcases also with older | rfl
      · exact traced.same first old second older event
      · exact before first old event
    · grind
  · intro row member mode holds
    simp only [List.mem_append, List.mem_singleton] at member
    rcases member with old | rfl
    · exact traced.held row old mode holds
    · exact holds
  · intro row member
    obtain ⟨arrived, mode⟩ := traced.lifecycles row member
    rw [arrivals]
    exact ⟨List.mem_append_left _ arrived, mode⟩
  · intro ctx response noted
    obtain ⟨message, arrived, mode⟩ := traced.answered ctx response noted
    rw [arrivals]
    exact ⟨message, List.mem_append_left _ arrived, mode⟩

/-- Every reachable process is traced while redeliveries repeat their event. -/
theorem Reached.traced {permitted : System → Action → Prop}
    (reached : Reached server permitted system)
    (redelivers : ∀ before action, permitted before action → Redelivers before action) :
    Traced server system := by
  -- An invariant: a process is traced where it starts, and moving it changes no arrival.
  refine reached.invariant ⟨?_, ?_, ?_, ?_⟩ ?_
  · simp [System.arrivals, System.start]
  · simp [System.start]
  · simp [System.start]
  · simp [System.start]
  intro before action after _ traced allowed taken
  cases taken with
  | tick elapsed => exact ⟨traced.same, traced.held, traced.lifecycles, traced.answered⟩
  | deliver message ctx => exact traced.deliver (redelivers before _ allowed)
  | join found standing entered =>
    exact traced.moveDelivery found rfl (by simp [standing, holder])
      (fun _ member => .inl member) (fun _ _ noted => .inl (by simpa using noted))
  | refuse found standing entered =>
    exact traced.moveDelivery found rfl (by simp [holder])
      (fun _ member => .inl member) (fun _ _ noted => .inl (by simpa using noted))
  | insert found standing entered =>
    refine traced.moveDelivery found rfl (by simp [standing, holder]) ?_
      (fun _ _ noted => .inl (by simpa using noted))
    intro started member
    simp only [List.mem_append, List.mem_singleton] at member
    rcases member with old | rfl
    · exact .inl old
    · exact .inr ⟨rfl, rfl, by rw [standing]; rfl⟩
  | drop found standing awaited ended | settle found standing awaited ended
  | unwind found standing awaited ended =>
    exact traced.moveDelivery found rfl (by simp [holder])
      (fun _ member => .inl member) (fun _ _ noted => .inl noted)
  | @gating index input row engaged id phase effect found standing moved =>
    obtain ⟨holder, responded⟩ := (gatingStep_move moved).holder
    refine traced.moveDelivery found rfl ?_ (fun _ member => .inl member) ?_
    · intro mode holds
      rw [standing, holder mode holds]
      rfl
    · intro ctx response noted
      rcases List.mem_append.mp noted with newer | old
      · rcases List.mem_append.mp newer with fresh | call
        · exact .inr ⟨responded ctx response fresh, by rw [standing]; rfl⟩
        · grind [called_notes]
      · exact .inl old
  | @handOver index row delivered found standing =>
    refine traced.moveDelivery found rfl (by simp [holder]) (fun _ member => .inl member) ?_
    intro ctx response noted
    cases delivered <;> exact .inl (by simpa using noted)
  | @lifecycle index input row phase observed found moved =>
    refine ⟨traced.same, traced.held, ?_, ?_⟩
    · intro started member
      rcases List.mem_or_eq_of_mem_set member with old | rfl
      · exact traced.lifecycles started old
      · exact traced.lifecycles row (List.mem_of_getElem? found)
    · intro ctx response noted
      have unanswered := (lifecycleStep_move moved).unanswered ctx response
      simp only [List.mem_append, unanswered, false_or] at noted
      exact traced.answered ctx response noted
  | @verification index input row phase request observed found moved =>
    refine ⟨traced.same, traced.held, traced.lifecycles, ?_⟩
    intro ctx response noted
    rcases List.mem_append.mp noted with newer | old
    · rcases List.mem_append.mp newer with fresh | call
      · cases (verificationStep_move moved).notes fresh
      · grind [called_notes]
    · exact traced.answered ctx response old

theorem Traced.takenUp_of_gates (traced : Traced server system) {observation : Observation}
    (noted : observation ∈ system.log) (gated : observation.gates eventId = true) :
    ∃ arrival ∈ system.arrivals, arrival.2.requestEventId = eventId ∧
      takenUp server arrival = some .explicitGating := by
  cases observation with
  | responded ctx response =>
    simp only [gates, Bool.and_eq_true, decide_eq_true_eq] at gated
    obtain ⟨message, arrived, mode⟩ := traced.answered ctx response noted
    exact ⟨_, arrived, gated.1, mode⟩
  | _ => simp [gates] at gated

/-- Whether an event has been answered with an offer or as pending. -/
def System.answered (system : System) (eventId : String) : Bool :=
  system.log.any (Observation.gates eventId)

/-- The phases whose publish answers with an offer or as pending. -/
def GatingPhase.answers : GatingPhase → Bool
  | .answering _ | .offering _ _ => true
  | _ => false

/-- Nothing lets an answered event through the gate, and nothing let through is answered. -/
structure NoSecondChance (options : ServerPaymentsOptions) (system : System) (action : Action) :
    Prop where
  -- A delivery of an answered event finds no live grant.
  ungranted : ∀ (index : Nat) (row : Delivery) (engaged : Engagement)
    (id : CanonicalInvocationIdentity), action = .delivery index .run →
    system.deliveries[index]? = some row → row.phase = .gating engaged id .claiming →
    system.answered row.ctx.requestEventId = true →
    live row.arrivedAt (system.store.cell id).grant = false
  -- Nor is its price waived.
  unwaived : ∀ (index : Nat) (row : Delivery) (engaged : Engagement)
    (id : CanonicalInvocationIdentity) (window : Nat)
    (price : Answer PaymentError ResolvePriceResult)
    (created : Answer PaymentError PaymentRequiredParams),
    action = .delivery index (.initiated price created) →
    system.deliveries[index]? = some row → row.phase = .gating engaged id (.pricing window) →
    system.answered row.ctx.requestEventId = true →
    resolveAndInitiatePayment options row.ctx engaged.priced price created ≠ .ok .waived
  -- An answer goes out only while no delivery of its event is on the way to the handler.
  unhurried : ∀ (index : Nat) (row : Delivery) (engaged : Engagement)
    (id : CanonicalInvocationIdentity) (phase : GatingPhase),
    action = .delivery index (.published (.ok ())) →
    system.deliveries[index]? = some row → row.phase = .gating engaged id phase →
    phase.answers = true → ∀ other ∈ system.deliveries,
    other.ctx.requestEventId = row.ctx.requestEventId → other.phase ≠ .forwarding

section

variable (moved : gatingStep options clock store row engaged id before input = some effect)
include moved

/-- A step out of the gate to the handler is a claim of a live grant or a waiver. -/
theorem gatingStep_forwarding (leaves : effect.phase = .forwarding) :
    (before = .claiming ∧ input = .run ∧ live row.arrivedAt (store.cell id).grant = true) ∨
      ∃ window price created, before = .pricing window ∧ input = .initiated price created ∧
        resolveAndInitiatePayment options row.ctx engaged.priced price created = .ok .waived := by
  -- Branch by branch: all but the claim and the waiver end elsewhere.
  unfold gatingStep at moved
  split at moved
  · refine .inl ⟨rfl, rfl, ?_⟩
    by_contra stale
    have held : ¬ live row.arrivedAt (store.authorizations.peek id.key) = true := stale
    -- Without a live grant the store answers in one of the two pending ways.
    simp only [AuthorizationStore.claimOrSetPending, held, Bool.false_eq_true, if_false] at moved
    split at moved
    · grind
    · cases moved
      cases leaves
    · cases moved
      cases leaves
  · split at moved <;> cases moved <;> cases leaves
  · split at moved
    · cases moved
      cases leaves
    · cases moved
      cases leaves
    · cases moved
      cases leaves
    · grind
    · cases moved
      cases leaves
  · split at moved <;> cases moved <;> cases leaves
  · cases moved
    cases leaves
  · split at moved <;> cases moved <;> cases leaves
  · cases moved

/-- An answer at the gate is a publish that went through, and it ends its delivery. -/
theorem gatingStep_gates {observation : Observation} (noted : observation ∈ effect.observed)
    (gated : observation.gates eventId = true) :
    input = .published (.ok ()) ∧ before.answers = true ∧ eventId = row.ctx.requestEventId ∧
      effect.phase = .returned false := by
  -- Branch by branch: only two publishes carry one of the two codes.
  unfold gatingStep at moved
  split at moved
  · split at moved <;> cases moved <;> cases noted
  · split at moved <;> cases moved
    · cases noted
    · cases noted
    · simp only [List.mem_singleton] at noted
      subst noted
      simp only [gates, Bool.and_eq_true, decide_eq_true_eq] at gated
      exact ⟨rfl, rfl, gated.1.symm, rfl⟩
  · split at moved <;> cases moved
    · cases noted
    · cases noted
    · cases noted
    · simp only [List.mem_singleton] at noted
      simp [noted, gates] at gated
    · cases noted
  · split at moved <;> cases moved
    · cases noted
    · cases noted
    · -- A rejection has a code of its own.
      simp only [List.mem_singleton] at noted
      simp [noted, gates, buildPaymentRejectedError, paymentRequiredErrorCode,
        paymentPendingErrorCode] at gated
  · cases moved
    cases noted
  · split at moved <;> cases moved
    · cases noted
    · cases noted
    · simp only [List.mem_singleton] at noted
      subst noted
      simp only [gates, Bool.and_eq_true, decide_eq_true_eq] at gated
      exact ⟨rfl, rfl, gated.1.symm, rfl⟩
  · cases moved

end

/-- Nothing on its way to the handler has been answered, and nothing handed over was. -/
structure Withheld (system : System) : Prop where
  unforwarded : ∀ row ∈ system.deliveries, row.phase = .forwarding →
    system.answered row.ctx.requestEventId = false
  ordered : NonForwarding system.log

theorem NonForwarding.append {log : List Observation} (ordered : NonForwarding log)
    (free : ∀ later ∈ observed, ∀ eventId, later.hands eventId = true →
      ∀ earlier ∈ observed ++ log, earlier.gates eventId = false) :
    NonForwarding (observed ++ log) := by
  -- One observation after another, each compared with all before it.
  induction observed with
  | nil => exact ordered
  | cons newest rest ih =>
    refine List.Pairwise.cons ?_ (ih ?_)
    · intro earlier noted eventId handed
      exact free newest List.mem_cons_self eventId handed earlier (List.mem_cons_of_mem _ noted)
    · intro later noted eventId handed earlier listed
      exact free later (List.mem_cons_of_mem _ noted) eventId handed earlier
        (List.mem_cons_of_mem _ listed)

theorem Withheld.quiet (withheld : Withheld system) (observed : List Observation)
    (log : after.log = observed ++ system.log) (silent : ∀ noted ∈ observed, ∀ eventId,
      noted.gates eventId = false ∧ noted.hands eventId = false)
    (deliveries : ∀ row ∈ after.deliveries, row.phase = .forwarding →
      row ∈ system.deliveries ∨ system.answered row.ctx.requestEventId = false) :
    Withheld after := by
  -- No answer is new, and no handover is new.
  constructor
  · intro row member forwarding
    have unanswered : observed.any (gates row.ctx.requestEventId) = false := by
      simpa using fun noted listed => (silent noted listed row.ctx.requestEventId).1
    have old : system.answered row.ctx.requestEventId = false := by
      rcases deliveries row member forwarding with listed | free
      · exact withheld.unforwarded row listed forwarding
      · exact free
    rw [System.answered, log, List.any_append, unanswered, Bool.false_or]
    exact old
  · rw [log]
    refine withheld.ordered.append ?_
    intro later noted eventId handed
    simp [silent later noted] at handed

theorem Withheld.moveDelivery (withheld : Withheld system) {phase : DeliveryPhase}
    (deliveries : after.deliveries = system.deliveries.set index { row with phase })
    (inside : phase ≠ .forwarding)
    (log : after.log = system.log ∨ after.log = .locked row.arrivedAt :: system.log) :
    Withheld after := by
  have stay : ∀ moved ∈ after.deliveries, moved.phase = .forwarding →
      moved ∈ system.deliveries ∨ system.answered moved.ctx.requestEventId = false := by grind
  rcases log with same | locked
  · exact withheld.quiet [] same (by simp) stay
  · exact withheld.quiet [.locked row.arrivedAt] locked (by simp [gates, hands]) stay

/-- A step at the gate leaves what is on its way to the handler withheld. -/
theorem Withheld.gating {phase : GatingPhase} (withheld : Withheld system)
    (chance : NoSecondChance server.options system (.delivery index input))
    (found : system.deliveries[index]? = some row) (standing : row.phase = .gating engaged id phase)
    (moved : gatingStep server.options system.clock system.store row engaged id phase input =
      some effect)
    (deliveries : after.deliveries = system.deliveries.set index { row with phase := effect.phase })
    (log : after.log = effect.observed ++ called system.store id effect.request ++ system.log) :
    Withheld after := by
  constructor
  · intro other member forwarding
    rw [deliveries] at member
    -- The event was not answered before, because the gate lets no answered one through.
    have before : system.answered other.ctx.requestEventId = false := by
      rcases List.mem_or_eq_of_mem_set member with old | rfl
      · exact withheld.unforwarded other old forwarding
      · by_contra answered
        have answered := eq_true_of_ne_false answered
        rcases gatingStep_forwarding moved forwarding with
          ⟨rfl, rfl, current⟩ | ⟨window, price, created, rfl, rfl, waived⟩
        · have stale := chance.ungranted index row engaged id rfl found standing answered
          simp [stale] at current
        · exact chance.unwaived index row engaged id window price created rfl found standing
            answered waived
    -- Nor does this very step answer it, because it is on its way to the handler.
    have now : effect.observed.any (gates other.ctx.requestEventId) = false := by
      by_contra answered
      have answered := eq_true_of_ne_false answered
      obtain ⟨observation, noted, gated⟩ := List.any_eq_true.mp answered
      obtain ⟨rfl, answers, event, returned⟩ := gatingStep_gates moved noted gated
      rcases List.mem_or_eq_of_mem_set member with old | rfl
      · exact chance.unhurried index row engaged id phase rfl found standing answers other old
          event forwarding
      · simp [returned] at forwarding
    have call : (called system.store id effect.request).any
        (gates other.ctx.requestEventId) = false := by
      cases effect.request <;> rfl
    rw [System.answered, log, List.any_append, List.any_append, now, call]
    exact before
  · rw [log]
    refine withheld.ordered.append ?_
    intro later noted eventId handed
    simp [(gatingStep_move moved).unhanded noted] at handed

/-- Nobody gives an answered event a second chance, and redeliveries repeat their event. -/
def Withholding (options : ServerPaymentsOptions) (system : System) (action : Action) : Prop :=
  Redelivers system action ∧ NoSecondChance options system action

theorem Traced.unanswered (traced : Traced server system) {arrival : Arrival}
    (arrived : arrival ∈ system.arrivals)
    (elsewhere : takenUp server arrival ≠ some .explicitGating) :
    system.answered arrival.2.requestEventId = false := by
  -- An answer would make this arrival one that explicit gating took up.
  by_contra answered
  simp only [System.answered, Bool.not_eq_false, List.any_eq_true] at answered
  obtain ⟨observation, noted, gated⟩ := answered
  obtain ⟨other, listed, event, mode⟩ := traced.takenUp_of_gates noted gated
  exact elsewhere (traced.same other listed arrival arrived event ▸ mode)

/-- A step of a lifecycle answers nothing, and hands over only what has not been answered. -/
theorem Withheld.lifecycle {row : Lifecycle} {phase : LifecyclePhase} (withheld : Withheld system)
    (traced : Traced server system) (found : system.lifecycles[index]? = some row)
    (move : LifecycleMove clock index row row.phase phase observed) :
    Withheld { system with
      lifecycles := system.lifecycles.set index { row with phase }
      log := observed ++ system.log } := by
  have unanswered : ∀ noted ∈ observed, ∀ eventId, noted.gates eventId = false := by
    intro noted listed eventId
    cases noted with
    | responded ctx response => exact absurd listed (move.unanswered ctx response)
    | _ => rfl
  constructor
  · intro other member forwarding
    have silent : observed.any (gates other.ctx.requestEventId) = false := by
      simpa using fun noted listed => unanswered noted listed other.ctx.requestEventId
    simp only [System.answered, List.any_append, silent, Bool.false_or]
    exact withheld.unforwarded other member forwarding
  · -- A lifecycle runs for an event the transparent middleware took up.
    refine withheld.ordered.append ?_
    intro later noted eventId handed earlier listed
    rcases List.mem_append.mp listed with fresh | old
    · exact unanswered earlier fresh eventId
    · obtain ⟨arrived, mode⟩ := traced.lifecycles row (List.mem_of_getElem? found)
      have free := traced.unanswered arrived (by simp [mode])
      rw [System.answered, List.any_eq_false] at free
      rw [move.hands noted handed]
      simpa using free earlier old

/-- Nothing that is handed over in a withholding run has been answered. -/
theorem Reached.withheld (reached : Reached server (Withholding server.options) system) :
    Withheld system := by
  -- An invariant: the gate checks the conditions, the rest neither answers nor forwards.
  refine reached.invariant ⟨by simp [System.start], List.Pairwise.nil⟩ ?_
  intro before action after earlier withheld allowed taken
  have traced := earlier.traced fun _ _ permitted => permitted.1
  obtain ⟨redelivers, chance⟩ := allowed
  cases taken with
  | tick elapsed => exact ⟨withheld.unforwarded, withheld.ordered⟩
  | deliver message ctx =>
    refine withheld.quiet [] rfl (by simp) ?_
    intro row member forwarding
    simp only [List.mem_append, List.mem_singleton] at member
    rcases member with old | rfl
    · exact .inl old
    · -- What no middleware takes up repeats no event that explicit gating has answered.
      refine .inr ?_
      by_contra answered
      simp only [System.answered, Bool.not_eq_false, List.any_eq_true] at answered
      obtain ⟨observation, noted, gated⟩ := answered
      obtain ⟨arrival, listed, event, mode⟩ := traced.takenUp_of_gates noted gated
      rw [redelivers message ctx rfl arrival listed event, takenUp] at mode
      simp only at forwarding
      simp [forwarding, holder] at mode
  | join found standing entered | refuse found standing entered | insert found standing entered =>
    exact withheld.moveDelivery rfl (by simp) (.inr rfl)
  | drop found standing awaited ended | settle found standing awaited ended
  | unwind found standing awaited ended =>
    exact withheld.moveDelivery rfl (by simp) (.inl rfl)
  | gating found standing moved => exact withheld.gating chance found standing moved rfl rfl
  | @handOver index row delivered found standing =>
    have stay : ∀ moved ∈ before.deliveries.set index { row with phase := .returned delivered },
        moved.phase = .forwarding → moved ∈ before.deliveries := by grind
    cases delivered with
    | false => exact withheld.moveDelivery rfl (by simp) (.inl rfl)
    | true =>
      refine ⟨fun moved member forwarding => ?_, List.Pairwise.cons ?_ withheld.ordered⟩
      · -- A handover is no answer.
        exact withheld.unforwarded moved (stay moved member forwarding) forwarding
      · intro noted listed eventId handed
        simp only [hands, decide_eq_true_eq] at handed
        -- The delivery was on its way, so its event had no answer.
        have free := withheld.unforwarded row (List.mem_of_getElem? found) standing
        rw [handed, System.answered, List.any_eq_false] at free
        simpa using free noted listed
  | lifecycle found moved => exact withheld.lifecycle traced found (lifecycleStep_move moved)
  | @verification index input row phase request observed found moved =>
    refine withheld.quiet (observed ++ called before.store row.id request) rfl ?_
      fun other member _ => .inl member
    intro noted listed eventId
    rcases List.mem_append.mp listed with fresh | call
    · rw [(verificationStep_move moved).notes fresh]
      exact ⟨rfl, rfl⟩
    · obtain ⟨made, rfl⟩ := called_notes call
      exact ⟨rfl, rfl⟩

/--
The gated request itself is never forwarded.

This holds in every run in which a redelivery repeats its event, no answered event meets a live
grant or a waiver, and no event is answered while a delivery of it is on its way to the handler.
-/
theorem explicit_nonForwarding {server : PaymentServer} {system : System}
    (reached : Reached server (Withholding server.options) system) :
    NonForwarding system.log :=
  reached.withheld.ordered

/-- Whether a delivery repeats what its event arrived with before, as a test. -/
def redelivers (system : System) : Action → Bool
  | .deliver message ctx => system.arrivals.all fun earlier =>
    decide (earlier.2.requestEventId = ctx.requestEventId → earlier = (message, ctx))
  | _ => true

/-- Whether an action gives an answered event no second chance, as a test. -/
def noSecondChance (options : ServerPaymentsOptions) (system : System) : Action → Bool
  | .delivery index .run => (system.deliveries[index]?).all fun row =>
    match row.phase with
    | .gating _ id .claiming => !(system.answered row.ctx.requestEventId &&
        live row.arrivedAt (system.store.cell id).grant)
    | _ => true
  | .delivery index (.initiated price created) => (system.deliveries[index]?).all fun row =>
    match row.phase with
    | .gating engaged _ (.pricing _) => !system.answered row.ctx.requestEventId ||
      match resolveAndInitiatePayment options row.ctx engaged.priced price created with
      | .ok .waived => false
      | _ => true
    | _ => true
  | .delivery index (.published (.ok ())) => (system.deliveries[index]?).all fun row =>
    match row.phase with
    | .gating _ _ phase => !phase.answers || system.deliveries.all fun other =>
      other.ctx.requestEventId != row.ctx.requestEventId || match other.phase with
        | .forwarding => false
        | _ => true
    | _ => true
  | _ => true

theorem redelivers_ensures (system : System) (action : Action)
    (passed : redelivers system action = true) : Redelivers system action := by
  intro message ctx acted earlier listed
  subst acted
  simp only [redelivers, List.all_eq_true, decide_eq_true_eq] at passed
  exact passed earlier listed

theorem noSecondChance_ensures (options : ServerPaymentsOptions) (system : System)
    (action : Action) (passed : noSecondChance options system action = true) :
    NoSecondChance options system action := by
  constructor
  · grind [noSecondChance]
  · grind [noSecondChance]
  · intro index row engaged id phase acted found standing answers other listed event forwarding
    subst acted
    simp only [noSecondChance, found, standing, answers, Option.all_some, Bool.not_true,
      Bool.false_or, List.all_eq_true] at passed
    simpa [event, forwarding] using passed other listed

/-- Whether an action is withholding, as a test. -/
def withholding (options : ServerPaymentsOptions) (system : System) (action : Action) : Bool :=
  redelivers system action && noSecondChance options system action

theorem withholding_ensures (options : ServerPaymentsOptions) (system : System) (action : Action)
    (passed : withholding options system action = true) : Withholding options system action := by
  simp only [withholding, Bool.and_eq_true] at passed
  exact ⟨redelivers_ensures system action passed.1,
    noSecondChance_ensures options system action passed.2⟩

/-- An offer, its redelivery while the payment is pending, and a paid call under another event. -/
def paidUnderAnotherEvent : List Action :=
  [.deliver toolCall (toolContext "e1" .explicitGating), .delivery 0 .run,
    .delivery 0 (invoiced none), .delivery 0 .run, .delivery 0 (.published (.ok ())),
    .deliver toolCall (toolContext "e1" .explicitGating), .delivery 1 .run,
    .delivery 1 (.published (.ok ())), .verification 0 (.verified (.ok ⟨none⟩)),
    .verification 0 .run, .deliver toolCall (toolContext "e2" .explicitGating),
    .delivery 2 .run, .delivery 2 (.sent true)]

/-- The run meets the conditions, answers one event twice, and hands another one over. -/
theorem explicit_nonForwarding_paid :
    ∃ system, Reached (toolServer 1000000 1) (Withholding (toolServer 1000000 1).options) system ∧
      system.log.countP (Observation.gates "e1") = 2 ∧
      system.log.countP (Observation.hands "e2") = 1 ∧ NonForwarding system.log := by
  -- The paid call comes under an event of its own.
  refine Reaches.exists_of_any (withholding_ensures _) paidUnderAnotherEvent
    (fun system => system.log.countP (gates "e1") = 2 ∧
      system.log.countP (hands "e2") = 1) (by decide) ?_
  intro system reached checked
  exact ⟨checked.1, checked.2, explicit_nonForwarding reached⟩

/-- An offer, its payment, and a relay that delivers the answered event once more. -/
def redeliveredOffer : List Action :=
  [.deliver toolCall (toolContext "e1" .explicitGating), .delivery 0 .run,
    .delivery 0 (invoiced none), .delivery 0 .run, .delivery 0 (.published (.ok ())),
    .verification 0 (.verified (.ok ⟨none⟩)), .verification 0 .run,
    .deliver toolCall (toolContext "e1" .explicitGating), .delivery 1 .run,
    .delivery 1 (.sent true)]

/-- A redelivered event is handed over after it was answered with an offer. -/
theorem explicit_forwarded :
    ¬ ∀ (server : PaymentServer) (system : System), Reached server Redelivers system →
      NonForwarding system.log := by
  intro withheld
  -- The redelivery finds the grant that the payment of its own offer has left.
  obtain ⟨system, reached, checked⟩ := Reaches.of_any redelivers_ensures redeliveredOffer
    (fun system : System => system.log.head?.any (hands "e1") ∧ system.log.tail.any (gates "e1"))
    (show (execute (guarded _ (System.step (toolServer 1000000 1)))
      (System.start (toolServer 1000000 1)) _).any _ = true by decide)
  have ordered := withheld (toolServer 1000000 1) system reached
  cases noted : system.log with
  | nil => simp [noted] at checked
  | cons newest older =>
    rw [noted] at checked ordered
    simp only [List.head?_cons, Option.any_some, List.tail_cons, List.any_eq_true] at checked
    obtain ⟨handed, answer, listed, gated⟩ := checked
    have free := (List.pairwise_cons.mp ordered).1 answer listed "e1" handed
    simp [gated] at free

end ContextVm
