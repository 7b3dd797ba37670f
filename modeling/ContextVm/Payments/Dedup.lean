import ContextVm.Payments.PaidExecution
import ContextVm.Payments.PendingCache

/-! One lifecycle for each dedup window of an event, over every interleaving of its deliveries. -/

namespace ContextVm

variable {index clock : Nat} {system : System} {row : Lifecycle} {observed : List Observation}
  {options : ServerPaymentsOptions} {eventId : String}

/-- The lifecycle ended before an invoice could have reached the client. -/
def LifecyclePhase.failedPreInvoice : LifecyclePhase → Bool
  | .finished (.error failure) => failure.isPreInvoice
  | _ => false

/-- The clock readings that critical sections of the dedup cache ran with. -/
def readings (log : List Observation) : List Nat :=
  log.filterMap fun
    | .locked now => some now
    | _ => none

/-- The latest clock reading a critical section has run with. -/
def latestReading (log : List Observation) : Nat := (readings log).foldr max 0

@[simp] theorem readings_append (newer older : List Observation) :
    readings (newer ++ older) = readings newer ++ readings older :=
  List.filterMap_append

theorem latestReading_locked (now : Nat) (log : List Observation) :
    latestReading (.locked now :: log) = max now (latestReading log) := rfl

theorem latestReading_append {newer : List Observation} (unlocked : readings newer = [])
    (older : List Observation) : latestReading (newer ++ older) = latestReading older := by
  simp [latestReading, unlocked]

theorem readings_called (store : AuthorizationStore) (id : CanonicalInvocationIdentity)
    (request : Option (Nat × StoreOp)) : readings (called store id request) = [] := by
  cases request with
  | none | some call => rfl

theorem LifecycleMove.unlocked {before after : LifecyclePhase}
    (move : LifecycleMove clock index row before after observed) : readings observed = [] := by
  cases move with
  | @forward delivered => cases delivered <;> rfl
  | _ => rfl

theorem GatingMove.unlocked {store : AuthorizationStore} {row : Delivery} {engaged : Engagement}
    {id : CanonicalInvocationIdentity} {before : GatingPhase} {effect : GatingEffect}
    (move : GatingMove options clock store row engaged id before effect) :
    readings effect.observed = [] := by
  cases move <;> rfl

theorem VerificationMove.unlocked {row : Verification} {before after : VerificationPhase}
    {request : Option (Nat × StoreOp)}
    (move : VerificationMove clock row before after request observed) : readings observed = [] := by
  cases move <;> rfl

theorem LifecycleMove.unfailed {before after : LifecyclePhase}
    (move : LifecycleMove clock index row before after observed) :
    before.failedPreInvoice = false := by
  -- A phase that moves on is not an end, and only an end has failed.
  cases move with
  | fail running classed =>
    cases before with
    | finished result => simp [LifecyclePhase.ended] at running
    | _ => rfl
  | _ => rfl

/--
The pending entry of a lifecycle stays where it was put.

It goes only when the lifecycle fails before its invoice, or when a critical section has run with
a clock reading at or past its expiry.
-/
def Tracked (options : ServerPaymentsOptions) (system : System) : Prop :=
  ∀ index row, system.lifecycles[index]? = some row → row.phase.failedPreInvoice = false →
    latestReading system.log < row.insertedAt + options.paymentTtl →
    system.pending.peek row.ctx.requestEventId = some ⟨row.insertedAt + options.paymentTtl, index⟩

theorem Tracked.enter (tracked : Tracked options system) {now fresh : Nat} {decision : Admission}
    {pending : Lru String PendingEntry}
    (entered : enterPending system.pending now options.paymentTtl eventId fresh =
      (decision, pending)) (found : system.lifecycles[index]? = some row)
    (unfailed : row.phase.failedPreInvoice = false)
    (within : latestReading (.locked now :: system.log) < row.insertedAt + options.paymentTtl) :
    pending.peek row.ctx.requestEventId = some ⟨row.insertedAt + options.paymentTtl, index⟩ := by
  rw [latestReading_locked] at within
  have held := tracked index row found unfailed (by omega)
  -- The reading of this section lies before the expiry, so the entry is live for it.
  exact enterPending_kept entered held (show now < row.insertedAt + options.paymentTtl by omega)

theorem unwound_kept {cache : Lru String PendingEntry} {key : String} {lifecycle : Nat}
    {entry : PendingEntry} (held : cache.peek key = some entry)
    (other : entry.inFlight ≠ lifecycle) :
    (System.unwound cache eventId lifecycle).peek key = some entry := by
  unfold System.unwound
  split
  · rename_i own
    rw [Lru.peek_pop, if_neg, held]
    -- The key that is removed carries the failed lifecycle, and this one carries another.
    intro same
    subst same
    simp only [held, Option.any_some, decide_eq_true_eq] at own
    exact other own
  · exact held

/-- Where a lifecycle has entries at one key only, unwinding it removes these and nothing else. -/
theorem peek_unwound {cache : Lru String PendingEntry} {lifecycle : Nat}
    (keyed : ∀ key entry, cache.peek key = some entry → entry.inFlight = lifecycle → key = eventId)
    (key : String) : (System.unwound cache eventId lifecycle).peek key =
      (cache.peek key).filter fun entry => entry.inFlight ≠ lifecycle := by
  cases held : cache.peek key with
  | none =>
    -- Unwinding adds nothing.
    unfold System.unwound
    split
    · simp [Lru.peek_pop, held]
    · exact held
  | some entry =>
    by_cases own : entry.inFlight = lifecycle
    · have same := keyed key entry held own
      subst same
      simp [System.unwound, held, own, Option.filter]
    · simp [unwound_kept held own, own, Option.filter]

/-- Every reachable server keeps the entries of its lifecycles. -/
theorem Reached.tracked {server : PaymentServer} {permitted : System → Action → Prop}
    (reached : Reached server permitted system) :
    Tracked server.options system := by
  -- An invariant: the cache is touched by critical sections and by unwinding alone.
  refine reached.invariant (by intro index row found; simp [System.start] at found) ?_
  intro before action after _ tracked _ taken
  cases taken with
  | join found standing entered | refuse found standing entered =>
    intro index row listed unfailed within
    exact tracked.enter entered listed unfailed within
  | insert found standing entered =>
    intro index row listed unfailed within
    rcases getElem?_append_singleton listed with older | ⟨newest, same⟩
    · exact tracked.enter entered older unfailed within
    · -- The new lifecycle has just written its own entry.
      subst same newest
      exact (enterPending_inserted entered).2.1
  | @unwind index lifecycle row engaged shared failure found standing awaited ended =>
    intro other kept listed unfailed within
    have held := tracked other kept listed unfailed within
    by_cases early : failure.isPreInvoice
    · simp only [early, if_true]
      refine unwound_kept held ?_
      -- The failed lifecycle is exempt, so this entry belongs to another one.
      intro same
      subst same
      rw [awaited] at listed
      cases listed
      simp [LifecyclePhase.failedPreInvoice, ended, early] at unfailed
    · simpa [early] using held
  | gating found standing moved =>
    intro index row listed unfailed within
    -- The gate runs no critical section, so the latest reading is the same.
    rw [latestReading_append
      (by simp [(gatingStep_move moved).unlocked, readings_called])] at within
    exact tracked index row listed unfailed within
  | @handOver index row delivered found standing =>
    intro other kept listed unfailed within
    refine tracked other kept listed unfailed ?_
    cases delivered <;> exact within
  | @lifecycle index input row phase observed found moved =>
    have move := lifecycleStep_move moved
    intro other kept listed unfailed within
    simp only [latestReading_append move.unlocked] at within
    rcases getElem?_set_cases found listed with ⟨rfl, rfl⟩ | ⟨-, listed⟩
    · -- The lifecycle that moved had not failed before either.
      exact tracked other row found move.unfailed within
    · exact tracked other kept listed unfailed within
  | verification found moved =>
    intro index row listed unfailed within
    rw [latestReading_append (by simp [(verificationStep_move moved).unlocked, readings_called])]
      at within
    exact tracked index row listed unfailed within
  -- The other transitions reach neither the cache nor the lifecycles.
  | _ => exact tracked

/-- Clock readings are taken from the past. -/
structure Timed (system : System) : Prop where
  arrived : ∀ (index : Nat) (row : Delivery), system.deliveries[index]? = some row →
    row.arrivedAt ≤ system.clock
  latest : latestReading system.log ≤ system.clock

theorem Timed.moveDelivery {after : System} (timed : Timed system) {row : Delivery}
    {phase : DeliveryPhase} (found : system.deliveries[index]? = some row)
    (clock : after.clock = system.clock)
    (deliveries : after.deliveries = system.deliveries.set index { row with phase })
    (log : latestReading after.log = latestReading system.log ∨
      latestReading after.log = latestReading (.locked row.arrivedAt :: system.log)) :
    Timed after := by
  have own := timed.arrived index row found
  have latest := timed.latest
  -- The clock stands still, and the one new reading is the arrival of this delivery.
  constructor
  · intro other moved listed
    rw [deliveries] at listed
    rw [clock]
    rcases getElem?_set_cases found listed with ⟨-, rfl⟩ | ⟨-, listed⟩
    · exact own
    · exact timed.arrived other moved listed
  · rw [latestReading_locked] at log
    omega

/-- Every reachable server has read its clock in the past only. -/
theorem Reached.timed {server : PaymentServer} {permitted : System → Action → Prop}
    (reached : Reached server permitted system) : Timed system := by
  -- An invariant: the clock only grows, and readings are taken from it.
  refine reached.invariant ⟨by simp [System.start], Nat.le_refl 0⟩ ?_
  intro before action after _ timed _ taken
  cases taken with
  | tick elapsed =>
    constructor
    · intro index row listed
      have := timed.arrived index row listed
      show row.arrivedAt ≤ before.clock + elapsed
      omega
    · have := timed.latest
      show latestReading before.log ≤ before.clock + elapsed
      omega
  | deliver message ctx =>
    refine ⟨?_, timed.latest⟩
    intro index row listed
    rcases getElem?_append_singleton listed with older | ⟨-, same⟩
    · exact timed.arrived index row older
    · -- A new delivery reads the clock as it stands.
      subst same
      exact Nat.le_refl _
  | join found standing entered | refuse found standing entered | insert found standing entered =>
    exact timed.moveDelivery found rfl rfl (.inr rfl)
  | drop found standing awaited ended | settle found standing awaited ended
  | unwind found standing awaited ended =>
    exact timed.moveDelivery found rfl rfl (.inl rfl)
  | gating found standing moved =>
    refine timed.moveDelivery found rfl rfl (.inl (latestReading_append ?_ _))
    simp [(gatingStep_move moved).unlocked, readings_called]
  | @handOver index row delivered found standing =>
    refine timed.moveDelivery found rfl rfl (.inl ?_)
    cases delivered <;> rfl
  | lifecycle found moved =>
    refine ⟨timed.arrived, ?_⟩
    rw [latestReading_append (lifecycleStep_move moved).unlocked]
    exact timed.latest
  | verification found moved =>
    refine ⟨timed.arrived, ?_⟩
    rw [latestReading_append (by simp [(verificationStep_move moved).unlocked, readings_called])]
    exact timed.latest

theorem Tracked.not_inserted (tracked : Tracked options system) {now fresh : Nat}
    {pending : Lru String PendingEntry} (found : system.lifecycles[index]? = some row)
    (unfailed : row.phase.failedPreInvoice = false)
    (latest : latestReading system.log < row.insertedAt + options.paymentTtl)
    (within : now < row.insertedAt + options.paymentTtl) (same : eventId = row.ctx.requestEventId) :
    enterPending system.pending now options.paymentTtl eventId fresh ≠ (.inserted, pending) := by
  intro entered
  -- The entry is there and live, but an insertion found it absent or expired.
  have held := tracked index row found unfailed latest
  rw [← same] at held
  have expired := (enterPending_inserted entered).1 _ held
  simp only at expired
  omega

theorem LifecyclePhase.unfailed_of_running {phase : LifecyclePhase}
    (running : phase.ended = false) :
    phase.failedPreInvoice = false := by
  cases phase with
  | finished result => simp [ended] at running
  | _ => rfl

/--
No second lifecycle of an event starts inside the dedup window of a running one.

The window is measured from the clock reading that inserted the pending entry.
-/
theorem lifecycle_alone_in_window {server : PaymentServer} {system after : System}
    {action : Action} (reached : Reached server Unrestricted system)
    (taken : System.step server system action = some after) {index other : Nat}
    {row started : Lifecycle} (found : system.lifecycles[index]? = some row)
    (running : row.phase.ended = false)
    (within : system.clock < row.insertedAt + server.options.paymentTtl)
    (listed : after.lifecycles[other]? = some started)
    (same : started.ctx.requestEventId = row.ctx.requestEventId) :
    other < system.lifecycles.length := by
  -- A lifecycle listed before the step is none that the step starts.
  have old {index : Nat} {row : Lifecycle} (listed : system.lifecycles[index]? = some row) :
      index < system.lifecycles.length := (List.getElem?_eq_some_iff.mp listed).1
  have timed := reached.timed
  cases System.step_transition taken with
  | @insert delivered delivery engaged pending arrived standing entered =>
    rcases getElem?_append_singleton listed with older | ⟨-, newest⟩
    · exact old older
    · -- The delivery read the clock no later than now, so it saw the entry live.
      have reading := timed.arrived _ _ arrived
      have latest := timed.latest
      subst newest
      exact absurd entered (reached.tracked.not_inserted found
        (LifecyclePhase.unfailed_of_running running) (by omega) (by omega) same)
  | lifecycle moving moved => grind
  -- No other transition touches the lifecycles.
  | _ => exact old listed

/-- A redelivery inside the window meets every condition and starts nothing. -/
theorem lifecycle_alone_redelivered :
    ∃ system after row, Reached (toolServer 1000 1000) Unrestricted system ∧
      System.step (toolServer 1000 1000) system (.delivery 1 .run) = some after ∧
      system.lifecycles[0]? = some row ∧ row.phase.ended = false ∧
      system.clock < row.insertedAt + 1000 ∧
      ∀ other started, after.lifecycles[other]? = some started →
        started.ctx.requestEventId = row.ctx.requestEventId → other < system.lifecycles.length := by
  -- The second delivery arrives one nanosecond before the window closes.
  obtain ⟨system, reached, checked⟩ := Reached.of_run (toolServer 1000 1000)
    [.deliver toolCall (toolContext "e1" .transparent), .delivery 0 .run, .tick 999,
      .deliver toolCall (toolContext "e1" .transparent)]
    (fun system => (System.step (toolServer 1000 1000) system (.delivery 1 .run)).isSome &&
      (system.lifecycles[0]?).any fun row =>
        !row.phase.ended && decide (system.clock < row.insertedAt + 1000)) (by decide)
  simp only [Bool.and_eq_true, Option.any_eq_true, Bool.not_eq_true', decide_eq_true_eq] at checked
  obtain ⟨enabled, row, found, running, within⟩ := checked
  obtain ⟨after, taken⟩ := Option.isSome_iff_exists.mp enabled
  exact ⟨system, after, row, reached, taken, found, running, within, fun other started =>
    lifecycle_alone_in_window reached taken found running within⟩

/-- The lifecycles of an event, in the order they started, with whether each is over. -/
def lifecyclesOf (system : System) (eventId : String) : List Bool :=
  (system.lifecycles.filter fun row => row.ctx.requestEventId = eventId).map
    fun row => row.phase.ended

/-- A slow initiation is overtaken by the end of its own dedup window. -/
def slowInitiation : List Action :=
  [.deliver toolCall (toolContext "e1" .transparent), .delivery 0 .run, .tick 1000,
    .deliver toolCall (toolContext "e1" .transparent), .delivery 1 .run]

/-- Two lifecycles of one event can run at the same time. -/
theorem lifecycles_overlap :
    ¬ ∀ (server : PaymentServer) (system : System) (eventId : String),
      Reached server Unrestricted system →
      (lifecyclesOf system eventId).count false ≤ 1 := by
  intro alone
  -- The run starts a second lifecycle while the first still waits for its invoice.
  obtain ⟨system, reached, two⟩ := Reached.of_run (toolServer 1000 1000) slowInitiation
    (fun system => (lifecyclesOf system "e1").count false = 2) (by decide)
  have bound := alone (toolServer 1000 1000) system "e1" reached
  omega

end ContextVm
