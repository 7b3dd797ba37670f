import ContextVm.Payments.PaidExecution

/-! The offer cycles of explicit gating, and when an identity has at most one of them. -/

namespace ContextVm

open AuthorizationStore StoreCall StoreReply

variable {system after : System} {id : CanonicalInvocationIdentity} {index now : Nat}
  {row : Delivery} {store : AuthorizationStore}

/-- A process that owns an offer cycle. -/
inductive CycleOwner where
  | delivery (index : Nat)
  | verification (index : Nat)
  deriving DecidableEq

/-- The identity and the pending window of the cycle a delivery owns. -/
def DeliveryPhase.cycle : DeliveryPhase → Option (CanonicalInvocationIdentity × Nat)
  | .gating _ id (.pricing window) => some (id, window)
  | .gating _ id (.retiming _ _ window) => some (id, window)
  | .gating _ id (.offering _ window) => some (id, window)
  | _ => none

/-- The identity and the pending window of the cycle a verification owns. -/
def Verification.cycle (row : Verification) : Option (CanonicalInvocationIdentity × Nat) :=
  match row.phase with
  | .finished => none
  | _ => some (row.id, row.window)

/-- The cycle a process owns, from the transition to pending to the end of its verification. -/
def System.cycle (system : System) : CycleOwner → Option (CanonicalInvocationIdentity × Nat)
  | .delivery index => (system.deliveries[index]?).bind fun row => row.phase.cycle
  | .verification index => (system.verifications[index]?).bind Verification.cycle

/-- No invocation that enters the store pushes a pending entry out of it. -/
def NoEviction (options : ServerPaymentsOptions) (system : System) (action : Action) : Prop :=
  ∀ (index : Nat) (row : Delivery) (engaged : Engagement) (id : CanonicalInvocationIdentity),
    action = .delivery index .run → system.deliveries[index]? = some row →
    row.phase = .gating engaged id .claiming →
    system.store.pendingVictim row.arrivedAt id (.claimOrSetPending options.paymentTtlMs) = none

/-- No invocation enters the store after the window of a cycle that is still alive has run out. -/
def InWindow (system : System) (action : Action) : Prop :=
  ∀ (index : Nat) (row : Delivery) (engaged : Engagement) (id : CanonicalInvocationIdentity)
    (owner : CycleOwner) (window : Nat),
    action = .delivery index .run → system.deliveries[index]? = some row →
    row.phase = .gating engaged id .claiming → system.cycle owner = some (id, window) →
    row.arrivedAt ≤ window

/-- An entrant that pushes nothing out and does not outlast a live cycle. -/
def OrderlyEntry (options : ServerPaymentsOptions) (system : System) (action : Action) : Prop :=
  NoEviction options system action ∧ InWindow system action

/-- One cycle for each identity, whose pending entry is the one the cycle last wrote. -/
structure OneCycle (system : System) : Prop where
  alone : ∀ owner other id window otherWindow, system.cycle owner = some (id, window) →
    system.cycle other = some (id, otherWindow) → owner = other
  pending : ∀ owner id window, system.cycle owner = some (id, window) →
    (system.store.cell id).pending = some window

theorem pending_performed_other {other : CanonicalInvocationIdentity} {op : StoreOp}
    (distinct : other ≠ id) (kept : store.pendingVictim now id op = none) :
    ((performed store id (some (now, op))).cell other).pending = (store.cell other).pending := by
  rw [performed, store.cell_perform_other now op distinct, kept]
  rfl

theorem pending_performed_self (store : AuthorizationStore) (id : CanonicalInvocationIdentity)
    (now : Nat) (op : StoreOp) :
    (performed store id (some (now, op))).cell id = ((store.cell id).perform now op).2 :=
  store.cell_perform_self now id op

/-- The entry sequence leaves the pending state alone, or sets it when it answers so. -/
theorem pending_claimOrSetPending {ttlMs : Nat} :
    ((performed store id (some (now, .claimOrSetPending ttlMs))).cell id).pending =
      if (store.claimOrSetPending now id ttlMs).1 = .pendingSet then
        some (now + Duration.fromMillis ttlMs) else (store.cell id).pending := by
  -- The store answers as the machine of the one identity does, in its three ways.
  have answer := store.reply_perform now id (.claimOrSetPending ttlMs)
  simp only [perform, Prod.map] at answer
  rw [pending_performed_self]
  simp only [Cell.perform] at answer ⊢
  split
  · grind
  · rename_i ungranted
    simp only [ungranted, if_false, Bool.false_eq_true] at answer
    split
    · grind
    · grind

theorem pendingSet_past {ttlMs window : Nat}
    (answered : (store.claimOrSetPending now id ttlMs).1 = .pendingSet)
    (held : (store.cell id).pending = some window) : window < now := by
  -- Such an answer says that no entry was live, and an entry is live to its very end.
  have entered : reply ⟨now, id, .claimOrSetPending ttlMs, store⟩ = .entered .pendingSet := by
    simp [reply, perform, Prod.map, answered]
  have stale := (entered_pendingSet entered).2
  simp only [held, live, Option.any_some, decide_eq_true_eq] at stale
  omega

theorem System.cycle_moveDelivery {phase : DeliveryPhase}
    (found : system.deliveries[index]? = some row)
    (deliveries : after.deliveries = system.deliveries.set index { row with phase })
    (verifications : after.verifications = system.verifications) (owner : CycleOwner) :
    after.cycle owner = if owner = .delivery index then phase.cycle else system.cycle owner := by
  cases owner with
  | delivery number =>
    simp only [cycle, deliveries, getElem?_set_eq _ found, CycleOwner.delivery.injEq]
    split <;> rfl
  | verification number => simp [cycle, verifications]

theorem System.cycle_moveVerification {row : Verification} {phase : VerificationPhase}
    (found : system.verifications[index]? = some row)
    (deliveries : after.deliveries = system.deliveries)
    (verifications : after.verifications = system.verifications.set index { row with phase })
    (owner : CycleOwner) :
    after.cycle owner =
      if owner = .verification index then Verification.cycle { row with phase }
      else system.cycle owner := by
  cases owner with
  | delivery number => simp [cycle, deliveries]
  | verification number =>
    simp only [cycle, verifications, getElem?_set_eq _ found, CycleOwner.verification.injEq]
    split <;> rfl

/-- No process but the given one owns a cycle of this identity. -/
def Sole (system : System) (mine : CycleOwner) (id : CanonicalInvocationIdentity) : Prop :=
  ∀ owner window, owner ≠ mine → system.cycle owner ≠ some (id, window)

section

variable (one : OneCycle system)
include one

theorem OneCycle.sole {mine : CycleOwner} {window : Nat}
    (owns : system.cycle mine = some (id, window)) :
    Sole system mine id :=
  fun owner other distinct also => distinct (one.alone owner mine id other window also owns)

/-- A process that gives up or changes its cycle leaves those of the others alone. -/
theorem OneCycle.change {mine : CycleOwner}
    (others : ∀ owner, owner ≠ mine → after.cycle owner = system.cycle owner)
    (foreign : ∀ other, other ≠ id →
      (after.store.cell other).pending = (system.store.cell other).pending)
    (own : (after.store.cell id).pending = (system.store.cell id).pending ∨ Sole system mine id)
    (now : after.cycle mine = none ∨ ∃ window, after.cycle mine = some (id, window) ∧
      (after.store.cell id).pending = some window ∧ Sole system mine id) :
    OneCycle after := by
  -- A cycle of another process is an old one, and its pending entry is where it was.
  have kept {owner : CycleOwner} {other : CanonicalInvocationIdentity} {window : Nat}
      (distinct : owner ≠ mine) (held : after.cycle owner = some (other, window)) :
      (after.store.cell other).pending = some window := by
    rw [others owner distinct] at held
    have before := one.pending owner other window held
    by_cases same : other = id
    · subst same
      rcases own with unchanged | sole
      · rw [unchanged, before]
      · exact absurd held (sole owner window distinct)
    · rw [foreign other same, before]
  -- Two owners of one identity are compared by which of them has changed.
  constructor
  · intro owner other identity window otherWindow held also
    by_cases first : owner = mine
    · by_cases second : other = mine
      · rw [first, second]
      · -- The changed cycle and an old one would share an identity.
        subst first
        rcases now with gone | ⟨mineWindow, changed, -, sole⟩
        · simp [gone] at held
        · rw [changed] at held
          cases held
          rw [others other second] at also
          exact absurd also (sole other otherWindow second)
    · by_cases second : other = mine
      · subst second
        rcases now with gone | ⟨mineWindow, changed, -, sole⟩
        · simp [gone] at also
        · rw [changed] at also
          cases also
          rw [others owner first] at held
          exact absurd held (sole owner window first)
      · rw [others owner first] at held
        rw [others other second] at also
        exact one.alone owner other identity window otherWindow held also
  · intro owner identity window held
    by_cases same : owner = mine
    · grind
    · exact kept same held

section

variable (found : system.deliveries[index]? = some row)
include found

theorem OneCycle.release {phase : DeliveryPhase}
    (deliveries : after.deliveries = system.deliveries.set index { row with phase })
    (verifications : after.verifications = system.verifications)
    (store : after.store = system.store) (free : phase.cycle = none) : OneCycle after := by
  -- Every cycle of the new state was owned before.
  have source {owner : CycleOwner} {cycle : CanonicalInvocationIdentity × Nat}
      (held : after.cycle owner = some cycle) : system.cycle owner = some cycle := by
    rw [System.cycle_moveDelivery found deliveries verifications, free] at held
    split at held
    · cases held
    · exact held
  constructor
  · intro owner other id window otherWindow held also
    exact one.alone owner other id window otherWindow (source held) (source also)
  · intro owner id window held
    rw [store]
    exact one.pending owner id window (source held)

/-- A published offer passes its cycle on from the delivery to the verification it spawns. -/
theorem OneCycle.offer {spawned : Verification} (owns : row.phase.cycle = spawned.cycle)
    (deliveries :
      after.deliveries = system.deliveries.set index { row with phase := .returned false })
    (verifications : after.verifications = system.verifications ++ [spawned])
    (store : after.store = system.store) : OneCycle after := by
  -- Every cycle of the new state is one of the old state, the offered one under its old owner.
  let before : CycleOwner → CycleOwner := fun owner =>
    if owner = .verification system.verifications.length then .delivery index else owner
  have source {owner : CycleOwner} {cycle : CanonicalInvocationIdentity × Nat}
      (held : after.cycle owner = some cycle) :
      system.cycle (before owner) = some cycle ∧ owner ≠ .delivery index := by
    cases owner with
    | delivery number => grind [System.cycle, DeliveryPhase.cycle]
    | verification number => grind [System.cycle]
  constructor
  · intro owner other id window otherWindow held also
    obtain ⟨first, kept⟩ := source held
    obtain ⟨second, alsoKept⟩ := source also
    have same := one.alone _ _ id window otherWindow first second
    -- Only the offered cycle has a new owner, and its old one owns nothing now.
    simp only [before] at same
    split at same
    · grind
    · grind
  · intro owner id window held
    rw [store]
    exact one.pending _ id window (source held).1

/-- A step at the gate keeps one cycle for each identity. -/
theorem OneCycle.gating {server : PaymentServer} {engaged : Engagement} {phase : GatingPhase}
    {effect : GatingEffect} (standing : row.phase = .gating engaged id phase)
    (move : GatingMove server.options system.clock system.store row engaged id phase effect)
    (deliveries : after.deliveries = system.deliveries.set index { row with phase := effect.phase })
    (verifications : after.verifications = system.verifications ++ effect.spawned.toList)
    (store : after.store = performed system.store id effect.request)
    (room : phase = .claiming → system.store.pendingVictim row.arrivedAt id
      (.claimOrSetPending server.options.paymentTtlMs) = none)
    (within : ∀ owner window, phase = .claiming → system.cycle owner = some (id, window) →
      row.arrivedAt ≤ window) : OneCycle after := by
  have mine : system.cycle (.delivery index) = row.phase.cycle := by simp [System.cycle, found]
  rw [standing] at mine
  -- Away from the one call, nothing but this delivery changes.
  have apart (silent : effect.spawned = none) (owner : CycleOwner)
      (distinct : owner ≠ .delivery index) : after.cycle owner = system.cycle owner := by
    rw [System.cycle_moveDelivery found deliveries (by simp [verifications, silent]),
      if_neg distinct]
  have own (silent : effect.spawned = none) :
      after.cycle (.delivery index) = effect.phase.cycle := by
    rw [System.cycle_moveDelivery found deliveries (by simp [verifications, silent]), if_pos rfl]
  cases move with
  | quit ends =>
    refine one.release found deliveries (by simp [verifications]) store ?_
    rcases ends with rfl | rfl
    · rfl
    · rfl
  | answer | refuse => exact one.release found deliveries (by simp [verifications]) store rfl
  | offer => exact one.offer found (by rw [standing]; rfl) deliveries verifications store
  | claim answered | park answered =>
    refine one.change (apart rfl)
      (fun other distinct => by rw [store]; exact pending_performed_other distinct (room rfl))
      (.inl (by rw [store, pending_claimOrSetPending, answered]; rfl))
      (.inl (own rfl))
  | pend answered =>
    -- A live cycle of this identity would have kept its entry live for this reading.
    have sole : Sole system (.delivery index) id := by
      intro owner window _ held
      have past := pendingSet_past answered (one.pending owner id window held)
      have := within owner window rfl held
      omega
    refine one.change (apart rfl)
      (fun other distinct => by rw [store]; exact pending_performed_other distinct (room rfl))
      (.inr sole) (.inr ⟨_, own rfl, ?_, sole⟩)
    rw [store, pending_claimOrSetPending, if_pos answered]
  | clear cycle ends =>
    -- The cycle that clears the entry is the only one of its identity.
    have sole : Sole system (.delivery index) id := by
      obtain ⟨window, rfl | ⟨invoice, rfl⟩⟩ := cycle
      · exact one.sole mine
      · exact one.sole mine
    refine one.change (apart rfl)
      (fun other distinct => by rw [store]; exact pending_performed_other distinct rfl)
      (.inr sole) (.inl ?_)
    rw [own rfl]
    rcases ends with rfl | ⟨message, rfl⟩
    · rfl
    · rfl
  | waive =>
    exact one.change (apart rfl)
      (fun other distinct => by rw [store]; exact pending_performed_other distinct rfl)
      (.inr (one.sole mine)) (.inl (own rfl))
  | price =>
    exact one.change (apart rfl) (fun other _ => by rw [store]; rfl) (.inl (by rw [store]; rfl))
      (.inr ⟨_, own rfl, by
        rw [store]
        exact one.pending _ id _ mine, one.sole mine⟩)
  | @retime now window invoice =>
    have held : (system.store.cell id).pending = some window := one.pending _ id window mine
    refine one.change (apart rfl)
      (fun other distinct => by rw [store]; exact pending_performed_other distinct rfl)
      (.inr (one.sole mine)) (.inr ⟨_, own rfl, ?_, one.sole mine⟩)
    -- The retimed window is the one the store writes, or the old one when it writes nothing.
    rw [store, pending_performed_self]
    simp only [Cell.perform]
    split
    · rfl
    · exact held

end

/-- A step of a verification keeps one cycle for each identity. -/
theorem OneCycle.verification {row : Verification} {phase : VerificationPhase}
    {request : Option (Nat × StoreOp)} {observed : List Observation}
    (found : system.verifications[index]? = some row)
    (move : VerificationMove system.clock row row.phase phase request observed)
    (deliveries : after.deliveries = system.deliveries)
    (verifications : after.verifications = system.verifications.set index { row with phase })
    (store : after.store = performed system.store row.id request) : OneCycle after := by
  -- Nothing but this verification changes hands.
  have apart (owner : CycleOwner) (distinct : owner ≠ .verification index) :
      after.cycle owner = system.cycle owner := by
    rw [System.cycle_moveVerification found deliveries verifications, if_neg distinct]
  have own : after.cycle (.verification index) = Verification.cycle { row with phase } := by
    rw [System.cycle_moveVerification found deliveries verifications, if_pos rfl]
  have mine : system.cycle (.verification index) = row.cycle := by simp [System.cycle, found]
  generalize stood : row.phase = before at move
  simp only [Verification.cycle, stood] at mine
  cases move with
  | settle =>
    -- The cycle goes on until the grant has landed.
    refine one.change apart (fun other _ => by rw [store]; rfl) (.inl (by rw [store]; rfl))
      (.inr ⟨row.window, own, ?_, one.sole mine⟩)
    rw [store]
    exact one.pending _ row.id row.window mine
  | fail | grant =>
    exact one.change apart
      (fun other distinct => by rw [store]; exact pending_performed_other distinct rfl)
      (.inr (one.sole mine)) (.inl own)

end

/-- A delivery that has just arrived owns no cycle. -/
theorem enter_cycle (server : PaymentServer) (message : JsonRpcMessage) (ctx : InboundContext)
    (chain : List PaymentMiddleware) : (enter server message ctx chain).cycle = none := by
  induction chain with
  | nil => rfl
  | cons first rest ih =>
    simp only [enter]
    split
    · exact ih
    · -- Both gates leave a message they take up in front of its first lock, or drop it.
      rename_i phase engaged
      cases first with
      | transparent =>
        simp only [gate, transparentGate] at engaged
        split at engaged
        · split at engaged
          · cases engaged
          · split at engaged
            · cases engaged
            · split at engaged <;> cases engaged <;> rfl
        · cases engaged
      | explicitGating =>
        simp only [gate, explicitGate] at engaged
        split at engaged
        · split at engaged
          · cases engaged
          · split at engaged
            · cases engaged
            · split at engaged <;> cases engaged <;> rfl
        · cases engaged

/-- In a run without late entrants and evictions, an identity has one cycle at most. -/
theorem Reached.oneCycle {server : PaymentServer}
    (reached : Reached server (OrderlyEntry server.options) system) :
    OneCycle system := by
  -- An invariant: the gate and the verifications change cycles, nothing else does.
  refine reached.invariant ⟨?_, ?_⟩ ?_
  · intro owner other id window otherWindow held
    cases owner <;> simp [System.cycle, System.start] at held
  · intro owner id window held
    cases owner <;> simp [System.cycle, System.start] at held
  intro before action after _ one allowed taken
  obtain ⟨room, within⟩ := allowed
  cases taken with
  | tick elapsed => exact ⟨one.alone, one.pending⟩
  | deliver message ctx =>
    -- The new delivery owns nothing, so every cycle is an old one.
    have source {owner : CycleOwner} {cycle : CanonicalInvocationIdentity × Nat}
        (held : System.cycle { before with deliveries := before.deliveries ++ [⟨message, ctx,
          before.clock, enter server message ctx (withServerPayments server.options)⟩] } owner =
          some cycle) : before.cycle owner = some cycle := by
      cases owner with
      | delivery number => grind [System.cycle, enter_cycle]
      | verification number => exact held
    exact ⟨fun owner other id window otherWindow held also =>
        one.alone owner other id window otherWindow (source held) (source also),
      fun owner id window held => one.pending owner id window (source held)⟩
  | join found standing entered | refuse found standing entered | insert found standing entered
  | drop found standing awaited ended | settle found standing awaited ended
  | unwind found standing awaited ended | handOver found standing =>
    exact one.release found rfl rfl rfl rfl
  | lifecycle found moved => exact ⟨one.alone, one.pending⟩
  | verification found moved =>
    exact one.verification found (verificationStep_move moved) rfl rfl rfl
  | @gating index input row engaged id phase effect found standing moved =>
    -- The conditions speak of a delivery that runs on into the store.
    have running (claiming : phase = .claiming) : input = .run := by grind [gatingStep]
    refine one.gating found standing (gatingStep_move moved) rfl rfl rfl ?_ ?_
    · intro claiming
      cases running claiming
      subst claiming
      exact room index row engaged id rfl found standing
    · intro owner window claiming held
      cases running claiming
      subst claiming
      exact within index row engaged id owner window rfl found standing held

/-- What it means that an identity has at most one live offer. -/
structure OneOffer (system : System) : Prop where
  -- No second offer is about to be published while an earlier one is being verified.
  unpublished : ∀ (index number : Nat) (row : Delivery) (running : Verification)
    (engaged : Engagement) (invoice : Invoice) (window : Nat),
    system.deliveries[index]? = some row →
    row.phase = .gating engaged running.id (.offering invoice window) →
    system.verifications[number]? = some running → running.phase = .finished
  -- No two published offers of one identity are being verified.
  verified : ∀ (number other : Nat) (running also : Verification),
    system.verifications[number]? = some running → system.verifications[other]? = some also →
    running.id = also.id → running.phase ≠ .finished → also.phase ≠ .finished → number = other
  -- The pending entry of a live cycle is the one that cycle wrote, and no other cycle's.
  owned : ∀ owner id window, system.cycle owner = some (id, window) →
    (system.store.cell id).pending = some window

theorem System.cycle_running {number : Nat} {row : Verification}
    (found : system.verifications[number]? = some row) (running : row.phase ≠ .finished) :
    system.cycle (.verification number) = some (row.id, row.window) := by
  simp only [cycle, found, Option.bind_some, Verification.cycle]

/--
Explicit gating keeps at most one live offer for each identity.

This holds in every run without evictions in which no invocation enters the store after the
pending window of a cycle of its identity that is still alive has run out.
-/
theorem explicit_oneOffer {server : PaymentServer} {system : System}
    (reached : Reached server (OrderlyEntry server.options) system) :
    OneOffer system := by
  -- Offers about to go out and offers being verified are both cycles.
  have one := reached.oneCycle
  constructor
  · intro index number row running engaged invoice window found standing listed
    by_contra unfinished
    have owns : system.cycle (.delivery index) = some (running.id, window) := by
      simp [System.cycle, found, standing, DeliveryPhase.cycle]
    have same := one.alone _ _ _ _ _ owns (System.cycle_running listed unfinished)
    cases same
  · intro number other running also found listed same unfinished alsoUnfinished
    have first := System.cycle_running found unfinished
    rw [same] at first
    have owners := one.alone _ _ _ _ _ first (System.cycle_running listed alsoUnfinished)
    cases owners
    rfl
  · exact one.pending

/-- Whether an entrant pushes nothing out, as a test. -/
def noEviction (options : ServerPaymentsOptions) (system : System) : Action → Bool
  | .delivery index .run => (system.deliveries[index]?).all fun row =>
    match row.phase with
    | .gating _ id .claiming => (system.store.pendingVictim row.arrivedAt id
        (.claimOrSetPending options.paymentTtlMs)).isNone
    | _ => true
  | _ => true

/-- Whether an entrant comes before the windows of all live cycles of its identity, as a test. -/
def inWindow (system : System) : Action → Bool
  | .delivery index .run => (system.deliveries[index]?).all fun row =>
    match row.phase with
    | .gating _ id .claiming =>
      let early (cycle : CanonicalInvocationIdentity × Nat) : Bool :=
        cycle.1 ≠ id || row.arrivedAt ≤ cycle.2
      (system.deliveries.all fun other => other.phase.cycle.all early) &&
        system.verifications.all fun other => other.cycle.all early
    | _ => true
  | _ => true

theorem noEviction_ensures (options : ServerPaymentsOptions) (system : System) (action : Action)
    (passed : noEviction options system action = true) : NoEviction options system action := by
  intro index row engaged id acted found standing
  subst acted
  simpa [noEviction, found, standing] using passed

theorem inWindow_ensures (system : System) (action : Action)
    (passed : inWindow system action = true) : InWindow system action := by
  intro index row engaged id owner window acted found standing held
  subst acted
  simp only [inWindow, found, standing, Option.all_some, Bool.and_eq_true, List.all_eq_true]
    at passed
  -- The owner of the cycle is one of the rows the test looks at.
  cases owner with
  | delivery number =>
    obtain ⟨other, listed, owns⟩ := Option.bind_eq_some_iff.mp held
    simpa [owns] using passed.1 other (List.mem_of_getElem? listed)
  | verification number =>
    obtain ⟨other, listed, owns⟩ := Option.bind_eq_some_iff.mp held
    simpa [owns] using passed.2 other (List.mem_of_getElem? listed)

/-- Whether an entrant is orderly, as a test. -/
def orderlyEntry (options : ServerPaymentsOptions) (system : System) (action : Action) : Bool :=
  noEviction options system action && inWindow system action

theorem orderlyEntry_ensures (options : ServerPaymentsOptions) (system : System) (action : Action)
    (passed : orderlyEntry options system action = true) : OrderlyEntry options system action := by
  simp only [orderlyEntry, Bool.and_eq_true] at passed
  exact ⟨noEviction_ensures options system action passed.1, inWindow_ensures system action passed.2⟩

/-- An offer and a retry inside its window, which is parked behind it. -/
def parkedRetry : List Action :=
  [.deliver toolCall (toolContext "e1" .explicitGating), .delivery 0 .run,
    .delivery 0 (invoiced none), .delivery 0 .run, .delivery 0 (.published (.ok ())),
    .tick 1000000, .deliver toolCall (toolContext "e2" .explicitGating), .delivery 1 .run,
    .delivery 1 (.published (.ok ()))]

/-- The run with a parked retry meets both conditions and keeps one live offer. -/
theorem explicit_oneOffer_parked :
    ∃ system, Reached (toolServer 1000000 1) (OrderlyEntry (toolServer 1000000 1).options) system ∧
      system.verifications.length = 1 ∧ system.deliveries.length = 2 ∧ OneOffer system := by
  -- The retry comes at the very end of the window.
  refine Reaches.exists_of_any (orderlyEntry_ensures _) parkedRetry
    (fun system => system.verifications.length = 1 ∧ system.deliveries.length = 2) (by decide) ?_
  intro system reached checked
  exact ⟨checked.1, checked.2, explicit_oneOffer reached⟩

/-- Slow pricing outlives its pending window, and a retry opens a second cycle. -/
def overlappingOffers : List Action :=
  [.deliver toolCall (toolContext "e1" .explicitGating), .delivery 0 .run, .tick 1000001,
    .deliver toolCall (toolContext "e2" .explicitGating), .delivery 1 .run,
    .delivery 0 (invoiced none), .delivery 0 .run, .delivery 0 (.published (.ok ())),
    .delivery 1 (invoiced none), .delivery 1 .run, .delivery 1 (.published (.ok ()))]

/-- Two offers of one identity can be verified at the same time, without any eviction. -/
theorem explicit_twoOffers :
    ¬ ∀ (server : PaymentServer) (system : System),
      Reached server (NoEviction server.options) system → OneOffer system := by
  intro one
  -- The second invocation enters one nanosecond after the window of the first.
  obtain ⟨system, reached, checked⟩ := Reaches.of_any
    (noEviction_ensures (toolServer 1000000 1).options) overlappingOffers
    (fun system : System => (system.verifications[0]?).any fun first : Verification =>
      (system.verifications[1]?).any fun second : Verification =>
        decide (first.id = second.id) && first.cycle.isSome && second.cycle.isSome)
    (show (execute (guarded _ (System.step (toolServer 1000000 1)))
      (System.start (toolServer 1000000 1)) _).any _ = true by decide)
  simp only [Bool.and_eq_true, Option.any_eq_true, decide_eq_true_eq] at checked
  obtain ⟨first, found, second, listed, ⟨same, running⟩, alsoRunning⟩ := checked
  have unfinished {row : Verification} (owns : row.cycle.isSome = true) :
      row.phase ≠ .finished := by
    grind [Verification.cycle]
  have equal := (one (toolServer 1000000 1) system reached).verified 0 1 first second found listed
    same (unfinished running) (unfinished alsoRunning)
  cases equal

end ContextVm
