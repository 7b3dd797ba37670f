import ContextVm.Payments.ServerStep

/-! Everything one process can do in one step, named once for all invariants. -/

namespace ContextVm

variable {clock : Nat} {input : Input} {observed : List Observation}

/-- Whether the client can be holding an invoice in this phase of a lifecycle. -/
def LifecyclePhase.invoiceIssued : LifecyclePhase → Bool
  | .verifying _ _ | .accepting _ _ => true
  | _ => false

/-- Whether the lifecycle has returned its result. -/
def LifecyclePhase.ended : LifecyclePhase → Bool
  | .finished _ => true
  | _ => false

/-- The moves of a transparent lifecycle, with what an observer notes of each. -/
inductive LifecycleMove (clock index : Nat) (row : Lifecycle) :
    LifecyclePhase → LifecyclePhase → List Observation → Prop
  -- Errors, panics, and an elapsed wait all end the lifecycle, classed by the invoice.
  | fail {before : LifecyclePhase} {failure : LifecycleFailure} (running : before.ended = false)
      (classed : failure.isPreInvoice = !before.invoiceIssued) :
      LifecycleMove clock index row before (.finished (.error failure)) []
  | reject {pmi : String} {amount : Int} {message : Option String} :
      LifecycleMove clock index row .initiating (.rejecting pmi amount message) []
  | waive : LifecycleMove clock index row .initiating .forwarding [.waived]
  | price {invoice : Invoice} : LifecycleMove clock index row .initiating (.requiring invoice) []
  | refuse {pmi : String} {amount : Int} {message : Option String} :
      LifecycleMove clock index row (.rejecting pmi amount message) (.finished (.ok ()))
        [.notified index row.ctx (paymentRejectedNotification pmi amount message)]
  | require {invoice : Invoice} :
      LifecycleMove clock index row (.requiring invoice) (.verifying invoice clock)
        [.notified index row.ctx (paymentRequiredNotification invoice)]
  | settle {invoice : Invoice} {startedAt : Nat} {outcome : VerifyOutcome} :
      LifecycleMove clock index row (.verifying invoice startedAt) (.accepting invoice outcome)
        [.verified none]
  | accept {invoice : Invoice} {outcome : VerifyOutcome} :
      LifecycleMove clock index row (.accepting invoice outcome) .forwarding
        [.notified index row.ctx (paymentAcceptedNotification invoice outcome)]
  | acceptUnheard {invoice : Invoice} {outcome : VerifyOutcome} :
      LifecycleMove clock index row (.accepting invoice outcome) .forwarding []
  | forward {delivered : Bool} :
      LifecycleMove clock index row .forwarding (.finished (.ok ())) (if delivered then
        [.handed (.lifecycle index) row.ctx.requestEventId row.message] else [])

/-- Every step of a lifecycle is one of its moves. -/
theorem lifecycleStep_move {options : ServerPaymentsOptions} {index : Nat} {row : Lifecycle}
    {before after : LifecyclePhase}
    (moved : lifecycleStep options clock index row before input = some (after, observed)) :
    LifecycleMove clock index row before after observed := by
  unfold lifecycleStep at moved
  split at moved
  · -- Initiation panics, fails, or gives one of the three outcomes.
    split at moved <;> cases moved
    · exact .fail rfl rfl
    · exact .fail rfl rfl
    · exact .reject
    · exact .waive
    · exact .price
  · split at moved <;> cases moved
    · exact .fail rfl rfl
    · exact .fail rfl rfl
    · exact .refuse
  · split at moved <;> cases moved
    · exact .fail rfl rfl
    · exact .fail rfl rfl
    · exact .require
  · split at moved <;> cases moved
    · exact .fail rfl rfl
    · exact .fail rfl rfl
    · exact .settle
  · split at moved <;> cases moved
    exact .fail rfl rfl
  · split at moved <;> cases moved
    · exact .fail rfl rfl
    · exact .acceptUnheard
    · exact .accept
  · cases moved
    exact .forward
  · cases moved

/-- Only a lifecycle that has not ended moves. -/
theorem LifecycleMove.running {index : Nat} {row : Lifecycle} {before after : LifecyclePhase}
    (move : LifecycleMove clock index row before after observed) : before.ended = false := by
  -- Every other move starts from a phase named by its constructor.
  cases move with
  | fail running classed => exact running
  | _ => rfl

/-- The moves of a delivery inside the explicit-gating middleware. -/
inductive GatingMove (options : ServerPaymentsOptions) (clock : Nat) (store : AuthorizationStore)
    (row : Delivery) (engaged : Engagement) (id : CanonicalInvocationIdentity) :
    GatingPhase → GatingEffect → Prop
  | claim
      (answered : (store.claimOrSetPending row.arrivedAt id options.paymentTtlMs).1 = .claimed) :
      GatingMove options clock store row engaged id .claiming
        { phase := .forwarding
          request := some (row.arrivedAt, .claimOrSetPending options.paymentTtlMs) }
  | park {remainingMs : Nat}
      (answered : (store.claimOrSetPending row.arrivedAt id options.paymentTtlMs).1 =
        .alreadyPending remainingMs) :
      GatingMove options clock store row engaged id .claiming
        { phase := .gating engaged id (.answering remainingMs)
          request := some (row.arrivedAt, .claimOrSetPending options.paymentTtlMs) }
  | pend
      (answered : (store.claimOrSetPending row.arrivedAt id options.paymentTtlMs).1 = .pendingSet) :
      GatingMove options clock store row engaged id .claiming
        { phase := .gating engaged id
            (.pricing (row.arrivedAt + Duration.fromMillis options.paymentTtlMs))
          request := some (row.arrivedAt, .claimOrSetPending options.paymentTtlMs) }
  -- A failed publish and a panic leave no trace besides the end of the delivery.
  | quit {before : GatingPhase} {phase : DeliveryPhase}
      (ends : phase = .returned false ∨ phase = .panicked) :
      GatingMove options clock store row engaged id before { phase }
  -- A cycle that issues no offer gives its pending entry up.
  | clear {before : GatingPhase} {phase : DeliveryPhase}
      (cycle : ∃ window, before = .pricing window ∨ ∃ invoice, before = .offering invoice window)
      (ends : phase = .returned false ∨
        ∃ message, phase = .gating engaged id (.rejecting message)) :
      GatingMove options clock store row engaged id before
        { phase, request := some (clock, .clearPending) }
  | waive {window : Nat} :
      GatingMove options clock store row engaged id (.pricing window)
        { phase := .forwarding, request := some (clock, .clearPending), observed := [.waived] }
  | price {window : Nat} {invoice : Invoice} :
      GatingMove options clock store row engaged id (.pricing window)
        { phase := .gating engaged id (.retiming clock invoice window) }
  | answer {remainingMs : Nat} :
      GatingMove options clock store row engaged id (.answering remainingMs)
        { phase := .returned false
          observed :=
            [.responded row.ctx (buildPaymentPendingError engaged.request.id remainingMs)] }
  | refuse {message : Option String} :
      GatingMove options clock store row engaged id (.rejecting message)
        { phase := .returned false
          observed := [.responded row.ctx (buildPaymentRejectedError engaged.request.id message)] }
  | retime {now window : Nat} {invoice : Invoice} :
      GatingMove options clock store row engaged id (.retiming now invoice window)
        { phase := .gating engaged id (.offering invoice
            (if live now (store.cell id).pending then
              now + Duration.fromMillis (grantTtlMs options invoice.paymentRequired.ttl)
            else window))
          request :=
            some (now, .updatePendingTtl (grantTtlMs options invoice.paymentRequired.ttl)) }
  | offer {invoice : Invoice} {window : Nat} :
      GatingMove options clock store row engaged id (.offering invoice window)
        { phase := .returned false
          spawned := some
            { id
              invoice
              grantTtlMs := grantTtlMs options invoice.paymentRequired.ttl
              pollingTimeout := min invoice.verifyTimeout options.paymentTtl
              window
              phase := .verifying clock }
          observed := [.responded row.ctx
            (buildPaymentRequiredError engaged.request.id (paymentOption invoice))] }

/-- Every step inside the explicit-gating middleware is one of its moves. -/
theorem gatingStep_move {options : ServerPaymentsOptions} {store : AuthorizationStore}
    {row : Delivery} {engaged : Engagement} {id : CanonicalInvocationIdentity}
    {before : GatingPhase} {effect : GatingEffect}
    (moved : gatingStep options clock store row engaged id before input = some effect) :
    GatingMove options clock store row engaged id before effect := by
  -- Each phase of the gate is one branch, and each answer in it one move.
  unfold gatingStep at moved
  split at moved
  · -- The store decides between a claim, a parked duplicate, and a new cycle.
    split at moved <;> cases moved
    · exact .claim ‹_›
    · exact .park ‹_›
    · exact .pend ‹_›
  · split at moved <;> cases moved
    · exact .quit (.inr rfl)
    · exact .quit (.inl rfl)
    · exact .answer
  · -- Pricing panics, fails, refuses, waives, or leads on to the offer.
    split at moved <;> cases moved
    · exact .quit (.inr rfl)
    · exact .clear ⟨_, .inl rfl⟩ (.inl rfl)
    · exact .clear ⟨_, .inl rfl⟩ (.inr ⟨_, rfl⟩)
    · exact .waive
    · exact .price
  · split at moved <;> cases moved
    · exact .quit (.inr rfl)
    · exact .quit (.inl rfl)
    · exact .refuse
  · cases moved
    exact .retime
  · -- The offer is sent, and with it the detached verification starts.
    split at moved <;> cases moved
    · exact .quit (.inr rfl)
    · exact .clear ⟨_, .inr ⟨_, rfl⟩⟩ (.inl rfl)
    · exact .offer
  · cases moved

/-- The moves of a detached verification. -/
inductive VerificationMove (clock : Nat) (row : Verification) :
    VerificationPhase → VerificationPhase → Option (Nat × StoreOp) → List Observation → Prop
  | settle {startedAt : Nat} :
      VerificationMove clock row (.verifying startedAt) (.granting clock) none
        [.verified (some row.id)]
  | fail {startedAt : Nat} :
      VerificationMove clock row (.verifying startedAt) .finished (some (clock, .clearPending)) []
  | grant {now : Nat} :
      VerificationMove clock row (.granting now) .finished (some (now, .grant row.grantTtlMs)) []

/-- Every step of a verification is one of its moves. -/
theorem verificationStep_move {row : Verification} {before after : VerificationPhase}
    {request : Option (Nat × StoreOp)}
    (moved : verificationStep clock row before input = some (after, request, observed)) :
    VerificationMove clock row before after request observed := by
  -- A verification settles, fails, or runs out of time, and then grants once.
  unfold verificationStep at moved
  split at moved
  · split at moved <;> cases moved
    · exact .settle
    · exact .fail
    · exact .fail
  · split at moved <;> cases moved
    exact .fail
  · cases moved
    exact .grant
  · cases moved

end ContextVm
