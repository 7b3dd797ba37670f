import ContextVm.Payments.Dedup

/-! Duplicate deliveries of a priced event are charged and executed at most once in its window. -/

namespace ContextVm

open LifecyclePhase Observation

variable {server : PaymentServer} {system after : System} {index clock : Nat} {row : Delivery}
  {phase : DeliveryPhase} {observed : List Observation} {permitted : System → Action → Prop}
  {action : Action}

/-- The notification by which a given lifecycle asks for its payment. -/
def Observation.requiredBy (index : Nat) : Observation → Bool
  | .notified lifecycle _ notification =>
    decide (lifecycle = index) && notification.method == "notifications/payment_required"
  | _ => false

/-- The handover made by a given process. -/
def Observation.handedBy (forwarder : Forwarder) : Observation → Bool
  | .handed from_ _ _ => decide (from_ = forwarder)
  | _ => false

/-- How often a lifecycle in this phase can still ask for its payment. -/
def chargesLeft : LifecyclePhase → Nat
  | .initiating | .requiring _ => 1
  | _ => 0

/-- How often a lifecycle in this phase can still forward its request. -/
def forwardsLeft : LifecyclePhase → Nat
  | .rejecting _ _ _ | .finished _ => 0
  | _ => 1

/-- A lifecycle asks and forwards out of what it has left, and only on its own behalf. -/
theorem LifecycleMove.charges {row : Lifecycle} {before after : LifecyclePhase}
    (move : LifecycleMove clock index row before after observed) (other : Nat) :
    observed.countP (Observation.requiredBy other) +
          (if other = index then chargesLeft after else 0) ≤
        (if other = index then chargesLeft before else 0) ∧
      observed.countP (Observation.handedBy (.lifecycle other)) +
          (if other = index then forwardsLeft after else 0) ≤
        (if other = index then forwardsLeft before else 0) := by
  -- Along the phases the lifecycle loses what it spends and never gets any back.
  by_cases own : other = index
  · subst own
    cases move with
    | fail running classed | reject => simp [chargesLeft, forwardsLeft]
    | waive => simp [chargesLeft, forwardsLeft, requiredBy, handedBy]
    | price => simp [chargesLeft, forwardsLeft]
    | refuse =>
      simp [chargesLeft, forwardsLeft, requiredBy, handedBy,
        paymentRejectedNotification, paymentNotification]
    | require =>
      simp [chargesLeft, forwardsLeft, requiredBy, handedBy,
        paymentRequiredNotification, paymentNotification]
    | settle => simp [chargesLeft, forwardsLeft, requiredBy, handedBy]
    | accept =>
      simp [chargesLeft, forwardsLeft, requiredBy, handedBy,
        paymentAcceptedNotification, paymentNotification]
    | acceptUnheard => simp [chargesLeft, forwardsLeft]
    | @forward delivered => grind [chargesLeft, forwardsLeft, requiredBy, handedBy]
  · -- Another lifecycle is neither charged nor forwarded by this one.
    have apart : index ≠ other := Ne.symm own
    cases move with
    | @forward delivered =>
      cases delivered <;> simp [own, apart, requiredBy, handedBy]
    | _ => simp [own, apart, requiredBy, handedBy]

/-- What a lifecycle has asked for and forwarded so far, with what it has left, is one each. -/
def Frugal (index : Nat) (system : System) : Prop :=
  system.log.countP (Observation.requiredBy index) +
      ((system.lifecycles[index]?).map fun row => chargesLeft row.phase).getD 1 ≤ 1 ∧
    system.log.countP (Observation.handedBy (.lifecycle index)) +
      ((system.lifecycles[index]?).map fun row => forwardsLeft row.phase).getD 1 ≤ 1

theorem GatingMove.unforwarding {options : ServerPaymentsOptions} {store : AuthorizationStore}
    {engaged : Engagement} {id : CanonicalInvocationIdentity} {before : GatingPhase}
    {effect : GatingEffect} (move : GatingMove options clock store row engaged id before effect)
    (index : Nat) (forwarder : Forwarder) :
    (effect.observed ++ called store id effect.request).countP (Observation.requiredBy index) = 0 ∧
      (effect.observed ++ called store id effect.request).countP
        (Observation.handedBy forwarder) = 0 := by
  cases move <;> exact ⟨rfl, rfl⟩

theorem VerificationMove.unforwarding {row : Verification} {before after : VerificationPhase}
    {request : Option (Nat × StoreOp)}
    (move : VerificationMove clock row before after request observed) (store : AuthorizationStore)
    (index : Nat) (forwarder : Forwarder) :
    (observed ++ called store row.id request).countP (Observation.requiredBy index) = 0 ∧
      (observed ++ called store row.id request).countP (Observation.handedBy forwarder) = 0 := by
  cases move <;> exact ⟨rfl, rfl⟩

/-- No lifecycle asks for its payment twice, and none forwards its request twice. -/
theorem Reached.frugal (reached : Reached server permitted system) (index : Nat) :
    Frugal index system := by
  -- An invariant: a lifecycle not started yet counts as having everything left.
  refine reached.invariant ⟨Nat.le_refl 1, Nat.le_refl 1⟩ ?_
  intro before action after _ frugal _ taken
  cases taken with
  | insert found standing entered =>
    -- A lifecycle that has just started has done nothing yet.
    obtain ⟨charged, forwarded⟩ := frugal
    simp only [Frugal, getElem?_append_eq, List.countP_cons, requiredBy,
      handedBy, Bool.false_eq_true, if_false, Nat.add_zero]
    by_cases newest : index = before.lifecycles.length
    · subst newest
      simp only [List.getElem?_eq_none (Nat.le_refl _), Option.map_none, Option.getD_none]
        at charged forwarded
      simp only [if_true, Option.map_some, Option.getD_some, chargesLeft, forwardsLeft]
      exact ⟨charged, forwarded⟩
    · simpa only [newest, if_false] using ⟨charged, forwarded⟩
  | gating found standing moved =>
    obtain ⟨unasked, unhanded⟩ := (gatingStep_move moved).unforwarding index (.lifecycle index)
    obtain ⟨charged, forwarded⟩ := frugal
    simp only [Frugal, List.countP_append] at unasked unhanded ⊢
    omega
  | @handOver number row delivered found standing => cases delivered <;> exact frugal
  | @lifecycle number input row phase observed found moved =>
    have spent := (lifecycleStep_move moved).charges index
    obtain ⟨charged, forwarded⟩ := frugal
    simp only [Frugal, List.countP_append, getElem?_set_eq _ found]
    -- Only the lifecycle that moves spends.
    by_cases own : index = number
    · grind
    · grind
  | verification found moved =>
    obtain ⟨unasked, unhanded⟩ :=
      (verificationStep_move moved).unforwarding before.store index (.lifecycle index)
    obtain ⟨charged, forwarded⟩ := frugal
    simp only [Frugal, List.countP_append] at unasked unhanded ⊢
    omega
  -- The other transitions note down at most a critical section.
  | _ => exact frugal

/-- The transparent middleware takes this delivery up. -/
def Delivery.Transparent (server : PaymentServer) (row : Delivery) : Prop :=
  ∃ engaged, enter server row.message row.ctx (withServerPayments server.options) =
    .transparent engaged .locking

/-- Where a delivery of the transparent middleware can stand, and what it owns there. -/
def StandsAs (lifecycles : List Lifecycle) (index : Nat) : DeliveryPhase → Prop
  | .transparent _ (.owning lifecycle) =>
    ∃ row, lifecycles[lifecycle]? = some row ∧ row.owner = index
  | .transparent _ _ => True
  -- Only the owner of a completed lifecycle reports a forward.
  | .returned true => ∃ (lifecycle : Nat) (row : Lifecycle), lifecycles[lifecycle]? = some row ∧
      row.owner = index ∧ row.phase = .finished (.ok ())
  | .returned false => True
  | _ => False

/-- What ties the deliveries of the transparent middleware to their lifecycles. -/
structure Owned (server : PaymentServer) (system : System) : Prop where
  -- A lifecycle belongs to the delivery that inserted its entry, with that delivery's reading.
  owners : ∀ (index : Nat) (life : Lifecycle), system.lifecycles[index]? = some life →
    ∃ row, system.deliveries[life.owner]? = some row ∧ row.arrivedAt = life.insertedAt ∧
      row.ctx = life.ctx
  phases : ∀ (index : Nat) (row : Delivery), system.deliveries[index]? = some row →
    row.Transparent server → StandsAs system.lifecycles index row.phase
  -- What hands a message over by itself is no delivery of the transparent middleware.
  handed : ∀ index eventId message, .handed (.delivery index) eventId message ∈ system.log →
    ∃ row, system.deliveries[index]? = some row ∧ ¬ row.Transparent server

/-- Standing somewhere survives whatever the lifecycles do next. -/
theorem StandsAs.kept {lifecycles after : List Lifecycle} (stands : StandsAs lifecycles index phase)
    (kept : ∀ (lifecycle : Nat) (row : Lifecycle), lifecycles[lifecycle]? = some row →
      ∃ now, after[lifecycle]? = some now ∧ now.owner = row.owner ∧
        now.insertedAt = row.insertedAt ∧ now.ctx = row.ctx ∧
        (row.phase.ended = true → now.phase = row.phase)) :
    StandsAs after index phase := by
  -- Two phases speak of a lifecycle, and its owner and its result are kept.
  cases phase with
  | transparent engaged inner =>
    cases inner with
    | owning lifecycle =>
      obtain ⟨row, found, owner⟩ := stands
      obtain ⟨now, listed, same, -, -, -⟩ := kept lifecycle row found
      exact ⟨now, listed, same.trans owner⟩
    | locking | joining lifecycle => trivial
  | returned forwarded =>
    cases forwarded with
    | true =>
      obtain ⟨lifecycle, row, found, owner, ended⟩ := stands
      obtain ⟨now, listed, same, -, -, finished⟩ := kept lifecycle row found
      have phase : now.phase = row.phase := finished (by rw [ended]; rfl)
      exact ⟨lifecycle, now, listed, same.trans owner, phase.trans ended⟩
    | false => trivial
  | _ => exact stands

section

variable (owned : Owned server system) (taken : Transition server system action after)
  (found : system.deliveries[index]? = some row)
  (deliveries : after.deliveries = system.deliveries.set index { row with phase })
include owned taken found deliveries

/-- Moving one delivery keeps the ties when its new place is tied as well. -/
theorem Owned.moveDelivery
    (lifecycles : ∀ (lifecycle : Nat) (life : Lifecycle), after.lifecycles[lifecycle]? = some life →
      (∃ old, system.lifecycles[lifecycle]? = some old ∧ life.owner = old.owner ∧
        life.insertedAt = old.insertedAt ∧ life.ctx = old.ctx) ∨
      (life.owner = index ∧ life.insertedAt = row.arrivedAt ∧ life.ctx = row.ctx))
    (stands : row.Transparent server → StandsAs after.lifecycles index phase)
    (log : ∀ other eventId message, .handed (.delivery other) eventId message ∈ after.log →
      .handed (.delivery other) eventId message ∈ system.log ∨
        (other = index ∧ ¬ row.Transparent server)) :
    Owned server after := by
  have own : after.deliveries[index]? = some { row with phase } := by
    rw [deliveries, getElem?_set_eq _ found, if_pos rfl]
  -- The owners, the phases, and the handovers, in that order.
  constructor
  · intro lifecycle life listed
    rcases lifecycles lifecycle life listed with ⟨old, before, owner, inserted, ctx⟩ |
      ⟨owner, inserted, ctx⟩
    · obtain ⟨held, stored, arrived, same⟩ := owned.owners lifecycle old before
      obtain ⟨kept, now, -, sameCtx, reading⟩ := taken.delivery_kept stored
      exact ⟨kept, by rw [owner]; exact now, by rw [reading, arrived, inserted],
        by rw [sameCtx, same, ctx]⟩
    · -- A lifecycle that has just started belongs to the delivery that moves.
      exact ⟨{ row with phase }, by rw [owner]; exact own, inserted.symm, ctx.symm⟩
  · intro other moved listed transparent
    rw [deliveries] at listed
    rcases getElem?_set_cases found listed with ⟨rfl, rfl⟩ | ⟨-, listed⟩
    · exact stands transparent
    · exact (owned.phases other moved listed transparent).kept fun _ _ => taken.lifecycle_kept
  · intro other eventId message noted
    rcases log other eventId message noted with earlier | ⟨same, ungated⟩
    · obtain ⟨held, stored, untaken⟩ := owned.handed other eventId message earlier
      obtain ⟨kept, now, sameMessage, sameCtx, -⟩ := taken.delivery_kept stored
      refine ⟨kept, now, ?_⟩
      simpa only [Delivery.Transparent, sameMessage, sameCtx] using untaken
    · subst same
      exact ⟨{ row with phase }, own, ungated⟩

theorem Owned.moveAlone (lifecycles : after.lifecycles = system.lifecycles)
    (stands : row.Transparent server → StandsAs system.lifecycles index phase)
    (log : ∀ other eventId message, .handed (.delivery other) eventId message ∈ after.log →
      .handed (.delivery other) eventId message ∈ system.log ∨
        (other = index ∧ ¬ row.Transparent server)) :
    Owned server after := by
  refine owned.moveDelivery taken found deliveries ?_ (by rw [lifecycles]; exact stands) log
  intro lifecycle life listed
  rw [lifecycles] at listed
  exact .inl ⟨life, listed, rfl, rfl, rfl⟩

end

theorem Owned.deliver {message : JsonRpcMessage} {ctx : InboundContext}
    (owned : Owned server system) (taken : Transition server system (.deliver message ctx) after) :
    Owned server after := by
  have told := taken
  cases taken with
  | deliver =>
    constructor
    · intro index life listed
      obtain ⟨row, found, arrived, ctx⟩ := owned.owners index life listed
      obtain ⟨kept, now, -, sameCtx, reading⟩ := told.delivery_kept found
      exact ⟨kept, now, reading.trans arrived, sameCtx.trans ctx⟩
    · intro index row listed transparent
      rcases getElem?_append_singleton listed with older | ⟨-, newest⟩
      · exact owned.phases index row older transparent
      · -- It stands where the chain has left it.
        subst newest
        obtain ⟨engagement, entered⟩ := transparent
        simp only [entered]
        trivial
    · intro index eventId message noted
      obtain ⟨row, found, ungated⟩ := owned.handed index eventId message noted
      obtain ⟨kept, now, sameMessage, sameCtx, -⟩ := told.delivery_kept found
      exact ⟨kept, now, by simpa only [Delivery.Transparent, sameMessage, sameCtx] using ungated⟩

theorem handed_of_append {newer older : List Observation} {forwarder : Forwarder}
    {eventId : String} {message : JsonRpcMessage}
    (unhanded : newer.countP (Observation.handedBy forwarder) = 0)
    (noted : .handed forwarder eventId message ∈ newer ++ older) :
    .handed forwarder eventId message ∈ older := by
  grind [handedBy]

/-- Every reachable server keeps its deliveries tied to their lifecycles. -/
theorem Reached.owned (reached : Reached server permitted system) : Owned server system := by
  -- An invariant: most transitions move one delivery, and its new place is checked.
  refine reached.invariant
    ⟨by simp [System.start], by simp [System.start], by simp [System.start]⟩ ?_
  intro before action after _ owned _ taken
  have told := taken
  cases taken with
  | tick elapsed => exact ⟨owned.owners, owned.phases, owned.handed⟩
  | deliver message ctx => exact owned.deliver told
  | join found standing entered | refuse found standing entered =>
    exact owned.moveAlone told found rfl rfl (fun _ => trivial)
      (fun other eventId message noted => .inl (by simpa using noted))
  | insert found standing entered =>
    refine owned.moveDelivery told found rfl ?_ ?_
      (fun other eventId message noted => .inl (by simpa using noted))
    · intro lifecycle life listed
      rcases getElem?_append_singleton listed with older | ⟨-, newest⟩
      · exact .inl ⟨life, older, rfl, rfl, rfl⟩
      · grind
    · -- The delivery owns the lifecycle it has just appended.
      intro _
      exact ⟨_, by rw [getElem?_append_eq, if_pos rfl], rfl⟩
  | drop found standing awaited ended =>
    exact owned.moveAlone told found rfl rfl (fun _ => trivial)
      (fun other eventId message noted => .inl noted)
  | settle found standing awaited ended =>
    refine owned.moveAlone told found rfl rfl ?_ (fun other eventId message noted => .inl noted)
    intro transparent
    -- The delivery owned this lifecycle while it waited for it.
    have stood := owned.phases _ _ found transparent
    rw [standing] at stood
    obtain ⟨row, listed, owner⟩ := stood
    rw [awaited] at listed
    cases listed
    exact ⟨_, _, awaited, owner, ended⟩
  | unwind found standing awaited ended =>
    exact owned.moveAlone told found rfl rfl (fun _ => trivial)
      (fun other eventId message noted => .inl noted)
  | gating found standing moved =>
    refine owned.moveAlone told found rfl rfl ?_ ?_
    · intro transparent
      -- A delivery of the transparent middleware never stands at the other gate.
      have stood := owned.phases _ _ found transparent
      rw [standing] at stood
      exact stood.elim
    · intro other eventId message noted
      exact .inl
        (handed_of_append ((gatingStep_move moved).unforwarding 0 (.delivery other)).2 noted)
  | @handOver index row delivered found standing =>
    -- A delivery of the transparent middleware never forwards by itself.
    have ungated : ¬ row.Transparent server := by
      intro transparent
      have stood := owned.phases _ _ found transparent
      rw [standing] at stood
      exact stood
    refine owned.moveAlone told found rfl rfl (fun transparent => absurd transparent ungated) ?_
    intro other eventId message noted
    cases delivered with
    | false => exact .inl noted
    | true => grind
  | @lifecycle index input row phase observed found moved =>
    constructor
    · intro lifecycle life listed
      rcases getElem?_set_cases found listed with ⟨rfl, rfl⟩ | ⟨-, listed⟩
      · exact owned.owners lifecycle row found
      · exact owned.owners lifecycle life listed
    · intro other delivery listed transparent
      exact (owned.phases other delivery listed transparent).kept fun _ _ => told.lifecycle_kept
    · intro other eventId message noted
      refine owned.handed other eventId message (handed_of_append ?_ noted)
      have move := lifecycleStep_move moved
      generalize row.phase = standing at move
      cases move with
      | @forward delivered => cases delivered <;> simp [handedBy]
      | _ => rfl
  | verification found moved =>
    refine ⟨owned.owners, owned.phases, ?_⟩
    intro other eventId message noted
    exact owned.handed other eventId message (handed_of_append
      ((verificationStep_move moved).unforwarding before.store 0 (.delivery other)).2 noted)

/--
No critical section trails another one across the end of a window.

Whenever a delivery enters the cache with a reading inside the dedup window of its event, no
critical section has yet run with a reading at or past the end of that window.
-/
def FreshReading (options : ServerPaymentsOptions) (system : System) (action : Action) : Prop :=
  ∀ (index number : Nat) (row : Delivery) (engaged : Engagement) (life : Lifecycle),
    action = .delivery index .run → system.deliveries[index]? = some row →
    row.phase = .transparent engaged .locking → system.lifecycles[number]? = some life →
    life.ctx.requestEventId = row.ctx.requestEventId → life.phase.failedPreInvoice = false →
    row.arrivedAt < life.insertedAt + options.paymentTtl →
    latestReading system.log < life.insertedAt + options.paymentTtl

/-- Of two lifecycles of one event in one window, the first has failed before its invoice. -/
def Single (options : ServerPaymentsOptions) (system : System) : Prop :=
  ∀ (earlier later : Nat) (first second : Lifecycle), earlier < later →
    system.lifecycles[earlier]? = some first → system.lifecycles[later]? = some second →
    first.ctx.requestEventId = second.ctx.requestEventId →
    second.insertedAt < first.insertedAt + options.paymentTtl →
    first.phase.failedPreInvoice = true

theorem LifecyclePhase.ended_of_failed {phase : LifecyclePhase}
    (failed : phase.failedPreInvoice = true) : phase.ended = true := by
  cases phase with
  | finished result => rfl
  | _ => simp [failedPreInvoice] at failed

/-- In a run without trailing sections, a window has one lifecycle that gets to its invoice. -/
theorem Reached.single (reached : Reached server (FreshReading server.options) system) :
    Single server.options system := by
  -- An invariant: only an insertion can put a second lifecycle into a window.
  refine reached.invariant ?_ ?_
  · intro earlier later first second _ found
    simp [System.start] at found
  intro before action after earlierReached single allowed taken
  cases taken with
  | insert found standing entered =>
    intro earlier later first second ordered listed newer same within
    rw [getElem?_append_eq] at listed newer
    by_cases newest : later = before.lifecycles.length
    · -- An unfailed lifecycle of this window would have been joined.
      rw [if_pos newest] at newer
      rw [if_neg (by omega)] at listed
      cases newer
      cases failed : first.phase.failedPreInvoice with
      | true => rfl
      | false =>
        have latest := allowed _ _ _ _ first rfl found standing listed same failed within
        exact absurd entered
          (earlierReached.tracked.not_inserted listed failed latest within same.symm)
    · rw [if_neg newest] at newer
      have bound := (List.getElem?_eq_some_iff.mp newer).1
      rw [if_neg (by omega)] at listed
      exact single earlier later first second ordered listed newer same within
  | @lifecycle index input row phase observed found moved =>
    have running := (lifecycleStep_move moved).running
    -- The rows of the new table are the old ones, but for the phase of a running one.
    have source {number : Nat} {kept : Lifecycle}
        (listed : (before.lifecycles.set index { row with phase })[number]? = some kept) :
        ∃ old, before.lifecycles[number]? = some old ∧ kept.ctx = old.ctx ∧
          kept.insertedAt = old.insertedAt ∧
          (old.phase.failedPreInvoice = true → kept.phase = old.phase) := by
      rcases getElem?_set_cases found listed with ⟨rfl, rfl⟩ | ⟨-, listed⟩
      · refine ⟨row, found, rfl, rfl, fun failed => ?_⟩
        have ended := ended_of_failed failed
        simp [running] at ended
      · exact ⟨kept, listed, rfl, rfl, fun _ => rfl⟩
    intro earlier later first second ordered listed newer same within
    obtain ⟨old, was, ctx, inserted, stays⟩ := source listed
    obtain ⟨other, wasOther, otherCtx, otherInserted, -⟩ := source newer
    rw [ctx, otherCtx] at same
    rw [inserted, otherInserted] at within
    -- What has failed does not move, so the old failure is still the phase.
    have failed := single earlier later old other ordered was wasOther same within
    rw [stays failed]
    exact failed
  -- No other transition touches the lifecycles.
  | _ => exact single

/-- An entry of the dedup cache stands at the key of the event whose lifecycle it names. -/
def Keyed (system : System) : Prop :=
  ∀ key entry, system.pending.peek key = some entry →
    ∃ life, system.lifecycles[entry.inFlight]? = some life ∧ life.ctx.requestEventId = key

/-- Entries that were there before a transition still name a lifecycle of their event. -/
theorem Keyed.kept (keyed : Keyed system) (taken : Transition server system action after)
    {key : String} {entry : PendingEntry} (held : system.pending.peek key = some entry) :
    ∃ life, after.lifecycles[entry.inFlight]? = some life ∧ life.ctx.requestEventId = key := by
  obtain ⟨life, listed, event⟩ := keyed key entry held
  obtain ⟨now, found, -, -, ctx, -⟩ := taken.lifecycle_kept listed
  exact ⟨now, found, by rw [ctx, event]⟩

/-- Every reachable server keeps its dedup entries at the keys of their events. -/
theorem Reached.keyed (reached : Reached server permitted system) : Keyed system := by
  -- An invariant: the one entry that is ever written names the lifecycle appended with it.
  refine reached.invariant (by intro key entry held; simp [System.start] at held) ?_
  intro before action after _ keyed _ taken
  have told := taken
  cases taken with
  | join found standing entered | refuse found standing entered =>
    intro key entry held
    rcases enterPending_source entered held with older | ⟨inserted, -⟩
    · exact keyed.kept told older
    · cases inserted
  | insert found standing entered =>
    intro key entry held
    rcases enterPending_source entered held with older | ⟨-, own, newest⟩
    · exact keyed.kept told older
    · exact ⟨_, by rw [newest, getElem?_append_eq, if_pos rfl], own.symm⟩
  | unwind found standing awaited ended =>
    intro key entry held
    refine keyed.kept told ?_
    -- What unwinding leaves was there before it.
    simp only [System.unwound] at held
    grind [Lru.peek_pop]
  | _ => exact fun key entry held => keyed.kept told held

/--
The delivery that owns a lifecycle which failed before its invoice goes on and returns false.

It takes the entry of that lifecycle out of the dedup cache and leaves every other entry alone.
-/
def UnwindsOwn (server : PaymentServer) (system : System) : Prop :=
  ∀ (index number : Nat) (row : Delivery) (engaged : Engagement) (life : Lifecycle),
    system.deliveries[index]? = some row → row.Transparent server →
    row.phase = .transparent engaged (.owning number) →
    system.lifecycles[number]? = some life → life.phase.failedPreInvoice = true →
    ∃ after, System.step server system (.delivery index .run) = some after ∧
      after.deliveries[index]? = some { row with phase := .returned false } ∧
      ∀ key, after.pending.peek key =
        (system.pending.peek key).filter fun entry => entry.inFlight ≠ number

/-- Every reachable server unwinds a failed lifecycle and nothing else. -/
theorem Reached.unwindsOwn (reached : Reached server permitted system) :
    UnwindsOwn server system := by
  intro index number row engaged life found transparent standing listed failed
  -- The owner carries the event of its lifecycle.
  have stood := reached.owned.phases index row found transparent
  rw [standing] at stood
  obtain ⟨own, held, owner⟩ := stood
  rw [listed] at held
  cases held
  obtain ⟨opener, opened, -, ctx⟩ := reached.owned.owners number life listed
  rw [owner, found] at opened
  cases opened
  -- So the entries of the lifecycle all stand at the key the owner looks at.
  have keyed : ∀ key entry, system.pending.peek key = some entry → entry.inFlight = number →
      key = row.ctx.requestEventId := by
    intro key entry held same
    obtain ⟨named, at_, event⟩ := reached.keyed key entry held
    rw [same, listed] at at_
    cases at_
    rw [ctx, event]
  cases ended : life.phase with
  | finished result =>
    cases result with
    | ok done => simp [failedPreInvoice, ended] at failed
    | error failure =>
      have early : failure.isPreInvoice = true := by simpa [failedPreInvoice, ended] using failed
      refine ⟨_, by simp [System.step, found, standing, System.transparentStep, listed, ended]; rfl,
        ?_, ?_⟩
      · simp [System.moveDelivery, getElem?_set_eq _ found]
      · intro key
        simpa [System.moveDelivery, early] using peek_unwound keyed key
  | _ => simp [failedPreInvoice, ended] at failed

/-- Everything a redelivered event is promised within its dedup window. -/
structure ChargedOnce (server : PaymentServer) (system : System) : Prop where
  -- Only the lifecycle of the inserting delivery runs, unless it fails before its invoice.
  single : Single server.options system
  -- A lifecycle asks for one payment and makes one forward at most.
  required : ∀ index, system.log.countP (Observation.requiredBy index) ≤ 1
  forwarded : ∀ index, system.log.countP (Observation.handedBy (.lifecycle index)) ≤ 1
  -- Every other delivery inside the window returns false and forwards nothing.
  others : ∀ (index number : Nat) (row : Delivery) (life : Lifecycle),
    system.lifecycles[number]? = some life → life.phase.failedPreInvoice = false →
    system.deliveries[index]? = some row → row.Transparent server →
    row.ctx.requestEventId = life.ctx.requestEventId → life.insertedAt ≤ row.arrivedAt →
    row.arrivedAt < life.insertedAt + server.options.paymentTtl → index ≠ life.owner →
    (∀ forwarded, row.phase = .returned forwarded → forwarded = false) ∧
      ∀ eventId message, .handed (.delivery index) eventId message ∉ system.log
  -- The cache never holds more than its capacity.
  bounded : system.pending.len ≤ max server.options.maxPendingPayments 1

/-- What one action does to the dedup cache, whatever the other actions are. -/
structure CacheDiscipline (system : System) (action : Action) (after : System) : Prop where
  -- An entry goes when a critical section sees it expired, or its own lifecycle failed early.
  kept : ∀ key entry, system.pending.peek key = some entry →
    after.pending.peek key = some entry ∨
    (∃ now, after.log = .locked now :: system.log ∧ entry.expiresAt ≤ now) ∨
    ∃ life, system.lifecycles[entry.inFlight]? = some life ∧ life.phase.failedPreInvoice = true
  -- A cache full of live entries refuses the newcomer.
  refused : ∀ (index : Nat) (row : Delivery) (engaged : Engagement),
    action = .delivery index .run → system.deliveries[index]? = some row →
    row.phase = .transparent engaged .locking → system.pending.len = system.pending.cap →
    (∀ key entry, system.pending.peek key = some entry → row.arrivedAt < entry.expiresAt) →
    system.pending.peek row.ctx.requestEventId = none →
    after.deliveries[index]? = some { row with phase := .returned false } ∧
      after.lifecycles = system.lifecycles

/-- The dedup cache has the configured capacity, where zero is read as one. -/
def Capped (options : ServerPaymentsOptions) (system : System) : Prop :=
  system.pending.cap = max options.maxPendingPayments 1

theorem Reached.capped (reached : Reached server permitted system) :
    Capped server.options system := by
  refine reached.invariant rfl ?_
  intro before action after _ same _ taken
  cases taken with
  | join found standing entered | refuse found standing entered | insert found standing entered =>
    exact (enterPending_cap entered).trans same
  | @unwind index lifecycle row engaged shared failure found standing awaited ended =>
    -- Unwinding pops at most one key.
    simp only [Capped, System.unwound]
    split
    · split <;> exact same
    · exact same
  | _ => exact same

/-- Every transition keeps the discipline of the dedup cache. -/
theorem Transition.cacheDiscipline (taken : Transition server system action after) :
    CacheDiscipline system action after := by
  -- Only critical sections and unwinding remove entries.
  constructor
  · intro key entry held
    cases taken with
    | join found standing entered | refuse found standing entered | insert found standing entered =>
      -- What is live for this section is kept; the rest it has seen expired.
      refine (Nat.lt_or_ge _ entry.expiresAt).imp (enterPending_kept entered held) ?_
      intro expired
      exact .inl ⟨_, rfl, expired⟩
    | @unwind index lifecycle row engaged shared failure found standing awaited ended =>
      cases early : failure.isPreInvoice with
      | false => exact .inl (by simpa [early] using held)
      | true =>
        by_cases own : entry.inFlight = lifecycle
        · -- The entry of the failed lifecycle itself may go.
          refine .inr (.inr ⟨shared, by rw [own]; exact awaited, ?_⟩)
          simpa [failedPreInvoice, ended] using early
        · exact .inl (by simpa [early] using unwound_kept held own)
    | _ => exact .inl held
  · intro index row engaged acted found standing full live absent
    -- The critical section answers with a refusal, so no other transition fits.
    have refusal : (enterPending system.pending row.arrivedAt server.options.paymentTtl
        row.ctx.requestEventId system.lifecycles.length).1 = .refused :=
      enterPending_full full live absent
    cases taken with
    | refuse listed stood entered => grind
    | join listed stood entered | insert listed stood entered => grind
    -- Nothing else happens to a delivery that is about to take the lock.
    | drop listed stood awaited ended | settle listed stood awaited ended
    | unwind listed stood awaited ended | gating listed stood moved => grind
    | handOver listed stood | tick elapsed | deliver message ctx | lifecycle listed moved
    | verification listed moved =>
      cases acted

/-- Every other delivery of a window returns false and forwards nothing. -/
theorem Owned.others (owned : Owned server system) (single : Single server.options system)
    {number : Nat} {life : Lifecycle} (found : system.lifecycles[number]? = some life)
    (unfailed : life.phase.failedPreInvoice = false) (listed : system.deliveries[index]? = some row)
    (transparent : row.Transparent server) (same : row.ctx.requestEventId = life.ctx.requestEventId)
    (since : life.insertedAt ≤ row.arrivedAt)
    (within : row.arrivedAt < life.insertedAt + server.options.paymentTtl)
    (other : index ≠ life.owner) :
    (∀ forwarded, row.phase = .returned forwarded → forwarded = false) ∧
      ∀ eventId message, .handed (.delivery index) eventId message ∉ system.log := by
  -- First what the delivery returns, then what it hands over.
  constructor
  · intro forwarded returned
    cases forwarded with
    | false => rfl
    | true =>
      -- A delivery that reports a forward owns a completed lifecycle of its own.
      have stood := owned.phases index row listed transparent
      rw [returned] at stood
      obtain ⟨own, mine, held, owner, ended⟩ := stood
      obtain ⟨opener, opened, arrived, ctx⟩ := owned.owners own mine held
      rw [owner, listed] at opened
      cases opened
      have completed : mine.phase.failedPreInvoice = false := by rw [ended]; rfl
      have event : mine.ctx.requestEventId = life.ctx.requestEventId := by rw [← ctx, same]
      -- Whichever of the two lifecycles came first would have failed before its invoice.
      rcases Nat.lt_trichotomy number own with before | equal | after
      · have failed := single number own life mine before found held event.symm (by omega)
        simp [unfailed] at failed
      · grind
      · have failed := single own number mine life after held found event (by omega)
        simp [completed] at failed
  · intro eventId message noted
    obtain ⟨handing, stored, ungated⟩ := owned.handed index eventId message noted
    rw [listed] at stored
    cases stored
    exact ungated transparent

/--
Duplicate deliveries are charged and executed at most once inside the dedup window.

This holds in every run in which no critical section trails another one across the end of a window.
-/
theorem duplicates_chargedOnce {server : PaymentServer} {system : System}
    (reached : Reached server (FreshReading server.options) system) :
    ChargedOnce server system ∧
      (∀ action after, System.step server system action = some after →
        CacheDiscipline system action after) ∧
      UnwindsOwn server system := by
  -- Each promise is one of the invariants, read at this state.
  have single := reached.single
  refine ⟨?_, ?_, reached.unwindsOwn⟩
  · exact
      { single
        required := fun index => by
          have := (reached.frugal index).1
          omega
        forwarded := fun index => by
          have := (reached.frugal index).2
          omega
        others := fun index number row life found unfailed listed transparent same since within =>
          reached.owned.others single found unfailed listed transparent same since within
        bounded := by
          have capped := reached.capped
          have bound := system.pending.len_le_cap
          simp only [Capped] at capped
          omega }
  · intro action after taken
    exact (System.step_transition taken).cacheDiscipline

/-- Whether an action trails across the end of a window, as a test. -/
def freshReading (options : ServerPaymentsOptions) (system : System) : Action → Bool
  | .delivery index .run =>
    (system.deliveries[index]?).all fun row => system.lifecycles.all fun life =>
      decide (latestReading system.log < life.insertedAt + options.paymentTtl) ||
        decide (life.insertedAt + options.paymentTtl ≤ row.arrivedAt)
  | _ => true

theorem freshReading_ensures (options : ServerPaymentsOptions) (system : System) (action : Action)
    (passed : freshReading options system action = true) : FreshReading options system action := by
  intro index number row engaged life acted found standing listed same unfailed within
  subst acted
  simp only [freshReading, found, Option.all_some, List.all_eq_true, Bool.or_eq_true,
    decide_eq_true_eq] at passed
  rcases passed life (List.mem_of_getElem? listed) with fresh | past
  · exact fresh
  · omega

/-- Two events with an entry each, of which the second is about to be unwound and the first not. -/
def aboutToUnwind (server : PaymentServer) (system : System) : Bool :=
  (system.lifecycles[1]?).any (fun life : Lifecycle => life.phase.failedPreInvoice) &&
    (system.pending.peek "e1").isSome && (system.pending.peek "e2").isSome &&
    (System.step server system (.delivery 2 .run)).any fun after : System =>
      after.pending.peek "e2" = none ∧ after.pending.peek "e1" = system.pending.peek "e1"

/--
A redelivery within the window joins the first delivery, and both are charged once.

Another event's lifecycle panics before its invoice. Its delivery takes that entry out of the
cache, and the first event's entry stays.
-/
theorem duplicates_chargedOnce_joined :
    ∃ system, Reached (toolServer 1000 2) (FreshReading (toolServer 1000 2).options) system ∧
      (system.deliveries.length = 3 ∧ system.log.countP (requiredBy 0) = 1 ∧
        aboutToUnwind (toolServer 1000 2) system = true) ∧
      ChargedOnce (toolServer 1000 2) system ∧ UnwindsOwn (toolServer 1000 2) system := by
  -- The second delivery comes in the last nanosecond of the window.
  refine Reaches.exists_of_any (freshReading_ensures _)
    [.deliver toolCall (toolContext "e1" .transparent), .delivery 0 .run, .tick 999,
      .deliver toolCall (toolContext "e1" .transparent), .delivery 1 .run,
      .lifecycle 0 (invoiced none), .lifecycle 0 (.published (.ok ())),
      .lifecycle 0 (.verified (.ok ⟨none⟩)), .lifecycle 0 (.published (.ok ())),
      .lifecycle 0 (.sent true), .delivery 1 .run, .delivery 0 .run,
      .deliver toolCall (toolContext "e2" .transparent), .delivery 2 .run,
      .lifecycle 1 (.initiated .panicked .panicked)]
    (fun system => system.deliveries.length = 3 ∧ system.log.countP (requiredBy 0) = 1 ∧
      aboutToUnwind (toolServer 1000 2) system = true) (by decide) ?_
  intro system reached checked
  have once := duplicates_chargedOnce reached
  exact ⟨checked, once.1, once.2.2⟩

/-- A delivery stalls with a reading inside the window while another event's delivery closes it. -/
def trailingSection : List Action :=
  [.deliver toolCall (toolContext "e1" .transparent), .delivery 0 .run,
    .lifecycle 0 (invoiced none), .lifecycle 0 (.published (.ok ())), .tick 999,
    .deliver toolCall (toolContext "e1" .transparent), .tick 1,
    .deliver toolCall (toolContext "e2" .transparent), .delivery 2 .run, .delivery 1 .run,
    .lifecycle 2 (invoiced none), .lifecycle 2 (.published (.ok ()))]

/-- A stalled redelivery is charged a second time inside the dedup window. -/
theorem duplicates_chargedTwice :
    ¬ ∀ (server : PaymentServer) (system : System), 1 ≤ server.options.maxPendingPayments →
      Reached server Unrestricted system → ChargedOnce server system := by
  intro once
  -- The delivery of the other event closes the window before the stalled one enters.
  obtain ⟨system, reached, checked⟩ := Reached.of_run (toolServer 1000 1000) trailingSection
    (fun system =>
      (system.lifecycles[0]?).any (fun first : Lifecycle =>
        (system.lifecycles[2]?).any fun second : Lifecycle =>
        first.ctx.requestEventId = second.ctx.requestEventId ∧
          first.phase.failedPreInvoice = false ∧ second.insertedAt < first.insertedAt + 1000) ∧
      system.log.countP (requiredBy 0) = 1 ∧
      system.log.countP (requiredBy 2) = 1) (by decide)
  simp only [Option.any_eq_true, decide_eq_true_eq] at checked
  obtain ⟨⟨first, found, second, listed, same, unfailed, within⟩, -⟩ := checked
  have charged := once (toolServer 1000 1000) system (by decide) reached
  have failed := charged.single 0 2 first second (by omega) found listed same within
  simp [unfailed] at failed

end ContextVm
