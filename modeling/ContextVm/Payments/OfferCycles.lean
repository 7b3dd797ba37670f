import ContextVm.Payments.Grants

/-! What an offer cycle leaves behind in the store when its offer never reaches the client. -/

namespace ContextVm

/--
Whether code outside the middleware panics while a payment is initiated.

The pricing callback is consulted once a processor is selected, and the processor once the price
is a quote.
-/
def InitiationPanics (options : ServerPaymentsOptions) (ctx : InboundContext)
    (price : Answer PaymentError ResolvePriceResult)
    (created : Answer PaymentError PaymentRequiredParams) : Prop :=
  (∃ processor, resolvePaymentProcessor ctx.clientPmis (buildProcessorsByPmi options.processors)
    options.processors = .ok processor) ∧
  ((options.resolvePrice = true ∧ price = .panicked) ∨
    ((options.resolvePrice = true → ∃ amount description quoteMeta,
      price = .ok (.quote amount description quoteMeta)) ∧ created = .panicked))

/-- Initiation unwinds exactly when a callback it consults does. -/
theorem resolveAndInitiatePayment_panicked {options : ServerPaymentsOptions} {ctx : InboundContext}
    {priced : PricedCapability} {price : Answer PaymentError ResolvePriceResult}
    {created : Answer PaymentError PaymentRequiredParams} :
    resolveAndInitiatePayment options ctx priced price created = .panicked ↔
      InitiationPanics options ctx price created := by
  unfold resolveAndInitiatePayment InitiationPanics
  cases resolvePaymentProcessor ctx.clientPmis (buildProcessorsByPmi options.processors)
      options.processors with
  | error fault => simp
  | ok processor =>
    -- Without a callback the listed price is the quote, and only the processor is consulted.
    cases options.resolvePrice with
    | false => cases created <;> simp
    | true => grind

/-- Whether an input is a panic of user code inside an open cycle: in pricing, or in its offer. -/
def Delivery.CyclePanics (options : ServerPaymentsOptions) (row : Delivery) (input : Input) :
    Prop :=
  match row.phase, input with
  | .gating _ _ (.pricing _), .initiated price created =>
    InitiationPanics options row.ctx price created
  | .gating _ _ (.offering _ _), .published answer => answer = .panicked
  | _, _ => False

/-- Whether an input tells a delivery that its offer was published. -/
def Delivery.offers (row : Delivery) (input : Input) : Bool :=
  match row.phase, input with
  | .gating _ _ (.offering _ _), .published (.ok _) => true
  | _, _ => false

section Cycle

variable {server : PaymentServer} {options : ServerPaymentsOptions} {clock index window : Nat}
  {store : AuthorizationStore} {system after : System} {row : Delivery} {engaged : Engagement}
  {id : CanonicalInvocationIdentity} {phase : GatingPhase} {input : Input} {effect : GatingEffect}

/-- A cycle that ends without an offer gives its pending entry up, unless a panic unwinds it. -/
theorem gatingStep_leaves (standing : row.phase = .gating engaged id phase)
    (inside : row.phase.cycle = some (id, window))
    (moved : gatingStep options clock store row engaged id phase input = some effect)
    (left : effect.phase.cycle = none) (unoffered : row.offers input = false) :
    (effect.request = some (clock, .clearPending) ∧ ¬ row.CyclePanics options input) ∨
      (effect.request = none ∧ row.CyclePanics options input) := by
  rw [standing] at inside
  simp only [Delivery.CyclePanics, Delivery.offers, standing] at unoffered ⊢
  cases phase with
  | claiming | answering remainingMs | rejecting message => simp [DeliveryPhase.cycle] at inside
  | retiming now invoice kept =>
    -- The retimed cycle goes on to its offer.
    cases input <;> cases moved
    simp [DeliveryPhase.cycle] at left
  | pricing kept =>
    cases input with
    | initiated price created =>
      simp only [gatingStep] at moved
      simp only [← @resolveAndInitiatePayment_panicked options row.ctx engaged.priced]
      cases answered : resolveAndInitiatePayment options row.ctx engaged.priced price created with
      | panicked => grind
      | err fault => grind
      | ok outcome =>
        -- A rejection and a waiver clear the entry first; a payment request keeps the cycle open.
        rw [answered] at moved
        cases outcome with
        | rejected pmi amount message | waived => grind
        | paymentRequired invoice => grind [DeliveryPhase.cycle]
    | _ => cases moved
  | offering invoice kept =>
    cases input with
    | published answer =>
      cases answer with
      | panicked =>
        cases moved
        exact .inr ⟨rfl, rfl⟩
      | err fault =>
        cases moved
        exact .inl ⟨rfl, by simp⟩
      | ok sent => simp at unoffered
    | _ => cases moved

/--
A cycle that ends without a published offer leaves nothing pending, unless user code panics in it.

Of every clock reading it holds that the entry is live afterwards exactly if it was live and the
cycle was unwound by a panic. Where it is not live, the next identical invocation claims a grant or
opens a fresh cycle.
-/
theorem unoffered_cycle_leaves_nothing_pending (found : system.deliveries[index]? = some row)
    (inside : row.phase.cycle = some (id, window))
    (taken : System.step server system (.delivery index input) = some after)
    (left : ∀ moved, after.deliveries[index]? = some moved → moved.phase.cycle = none)
    (unoffered : row.offers input = false) :
    (∀ now, live now (after.store.cell id).pending = false ↔
      (row.CyclePanics server.options input → live now (system.store.cell id).pending = false)) ∧
      ∀ now ttlMs, live now (after.store.cell id).pending = false →
        (after.store.claimOrSetPending now id ttlMs).1 =
          if live now (after.store.cell id).grant then .claimed else .pendingSet := by
  refine ⟨?_, fun now ttlMs stale => ?_⟩
  swap
  · have answer := after.store.reply_perform now id (.claimOrSetPending ttlMs)
    simp only [AuthorizationStore.perform, Prod.map, Cell.perform, stale, Bool.false_eq_true,
      if_false] at answer
    split at answer
    · grind
    · grind
  -- Only a delivery inside the explicit-gating middleware is in a cycle.
  obtain ⟨engaged, phase, standing⟩ : ∃ engaged phase, row.phase = .gating engaged id phase := by
    unfold DeliveryPhase.cycle at inside
    split at inside <;> cases inside <;> exact ⟨_, _, ‹_›⟩
  simp only [System.step, found, standing, Option.map_eq_some_iff] at taken
  obtain ⟨effect, moved, rfl⟩ := taken
  have gone := left { row with phase := effect.phase } (by simp [getElem?_set_eq _ found])
  intro now
  rcases gatingStep_leaves standing inside moved gone unoffered with
    ⟨cleared, calm⟩ | ⟨silent, panics⟩
  · -- The entry is removed, whoever created it.
    simp [cleared, calm, pending_performed_self, Cell.perform, live]
  · simp [silent, panics, performed]

end Cycle

/-- A priced call whose cycle is open, in front of its price. -/
def openCycle : List Action :=
  [.deliver toolCall (toolContext "e1" .explicitGating), .delivery 0 .run]

/-- What is checked of a delivery that an input takes out of its open cycle without an offer. -/
def leavesCycle (input : Input) (pending : Bool) (system : System) : Bool :=
  (system.deliveries[0]?).any fun row => row.phase.cycle.any fun cycle => !row.offers input &&
    (System.step (toolServer 1000000 1) system (.delivery 0 input)).any fun after =>
      (after.deliveries[0]?).all (fun moved => moved.phase.cycle.isNone) &&
        live 0 (after.store.cell cycle.1).pending == pending

/-- A refused price leaves nothing pending. -/
theorem unoffered_cycle_refused :
    ∃ system after row id window, Reached (toolServer 1000000 1) Unrestricted system ∧
      system.deliveries[0]? = some row ∧ row.phase.cycle = some (id, window) ∧
      System.step (toolServer 1000000 1) system
        (.delivery 0 (.initiated (.ok (.reject none)) .panicked)) = some after ∧
      live 0 (after.store.cell id).pending = false := by
  obtain ⟨system, reached, checked⟩ := Reached.of_run (toolServer 1000000 1) openCycle
    (leavesCycle (.initiated (.ok (.reject none)) .panicked) false ·) (by decide)
  simp only [leavesCycle, Option.any_eq_true, Option.all_eq_true, Bool.and_eq_true,
    Bool.not_eq_true', Option.isNone_iff_eq_none] at checked
  obtain ⟨row, found, ⟨id, window⟩, inside, unoffered, after, taken, left, -⟩ := checked
  refine ⟨system, after, row, id, window, reached, found, inside, taken, ?_⟩
  -- A price that is refused never gets to the processor.
  refine ((unoffered_cycle_leaves_nothing_pending found inside taken left unoffered).1 0).mpr ?_
  intro panics
  unfold Delivery.CyclePanics at panics
  split at panics
  · grind [InitiationPanics, toolServer]
  · rename_i same
    cases same
  · exact panics.elim

/-- A processor that panics once the price is known leaves its invocation pending. -/
theorem panicked_cycle_stays_pending :
    ¬ ∀ server system after index input row id window, Reached server Unrestricted system →
      system.deliveries[index]? = some row → row.phase.cycle = some (id, window) →
      System.step server system (.delivery index input) = some after →
      (∀ moved, after.deliveries[index]? = some moved → moved.phase.cycle = none) →
      row.offers input = false → live 0 (after.store.cell id).pending = false := by
  intro cleared
  obtain ⟨system, reached, checked⟩ := Reached.of_run (toolServer 1000000 1) openCycle
    (leavesCycle (.initiated (.ok (.quote 21 none none)) .panicked) true ·) (by decide)
  simp only [leavesCycle, Option.any_eq_true, Option.all_eq_true, Bool.and_eq_true,
    Bool.not_eq_true', Option.isNone_iff_eq_none, beq_iff_eq] at checked
  obtain ⟨row, found, ⟨id, window⟩, inside, unoffered, after, taken, left, pending⟩ := checked
  have gone := cleared _ system after 0 _ row id window reached found inside taken left unoffered
  simp [pending] at gone

end ContextVm
