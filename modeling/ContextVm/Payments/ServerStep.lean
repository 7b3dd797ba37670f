import ContextVm.Payments.Server

/-! How the processes of a paying server move, one step at a time and in any order. -/

namespace ContextVm

/-- The configuration of a paying server, with the digests its identities rest on. -/
structure PaymentServer where
  options : ServerPaymentsOptions
  digests : Digests

/-- The two payment middlewares. -/
inductive PaymentMiddleware where
  | transparent
  | explicitGating

/-- The middlewares a server registers, in the order they run. -/
def withServerPayments (options : ServerPaymentsOptions) : List PaymentMiddleware :=
  match options.paymentInteraction with
  | .optional => [.transparent, .explicitGating]
  | .transparent => [.transparent]

/-- What a middleware makes of a message before it does any payment work. -/
inductive Gate where
  | pass
  | engage (phase : DeliveryPhase)

/-- The self-gates of the transparent middleware. -/
def transparentGate (server : PaymentServer) (message : JsonRpcMessage) (ctx : InboundContext) :
    Gate :=
  match message with
  | .request request =>
    -- An unresolved mode does not pass: it falls through to the price.
    if ctx.paymentInteraction = some .explicitGating then .pass
    else match matchPricedCapability request server.options.pricedCapabilities with
      | none => .pass
      | some priced =>
        -- A cap of zero leaves nowhere to track the payment, so the request is refused.
        if server.options.maxPendingPayments = 0 then .engage (.returned false)
        else .engage (.transparent ⟨request, priced⟩ .locking)
  | _ => .pass

/-- The self-gates of the explicit-gating middleware, and the identity it computes behind them. -/
def explicitGate (server : PaymentServer) (message : JsonRpcMessage) (ctx : InboundContext) :
    Gate :=
  match message with
  | .request request =>
    if ctx.paymentInteraction ≠ some .explicitGating then .pass
    else match matchPricedCapability request server.options.pricedCapabilities with
      | none => .pass
      | some priced =>
        match computeCanonicalInvocationIdentity server.digests ctx.clientPubkey request.method
            request.params with
        -- A request without an identity cannot be gated, so it is dropped.
        | .error _ => .engage (.returned false)
        | .ok id => .engage (.gating ⟨request, priced⟩ id .claiming)
  | _ => .pass

/-- The self-gates of one middleware. -/
def gate (server : PaymentServer) (message : JsonRpcMessage) (ctx : InboundContext) :
    PaymentMiddleware → Gate
  | .transparent => transparentGate server message ctx
  | .explicitGating => explicitGate server message ctx

/-- Walk a message through the chain up to the middleware that engages. -/
def enter (server : PaymentServer) (message : JsonRpcMessage) (ctx : InboundContext) :
    List PaymentMiddleware → DeliveryPhase
  | [] => .forwarding
  | first :: rest =>
    match gate server message ctx first with
    | .pass => enter server message ctx rest
    | .engage phase => phase

/-- The failure a panic of the lifecycle turns into. -/
def panicFailure (invoiceIssued : Bool) : LifecycleFailure :=
  if invoiceIssued then
    .verify (.processor "payment lifecycle panicked after the invoice was issued")
  else .initiate (.processor "payment lifecycle panicked before any invoice was issued")

/-- One step of the transparent lifecycle, with what it lets an observer see. -/
def lifecycleStep (options : ServerPaymentsOptions) (clock index : Nat) (row : Lifecycle) :
    LifecyclePhase → Input → Option (LifecyclePhase × List Observation)
  | .initiating, .initiated price created =>
    match resolveAndInitiatePayment options row.ctx row.engaged.priced price created with
    | .panicked => some (.finished (.error (panicFailure false)), [])
    | .err fault => some (.finished (.error (.initiate fault)), [])
    | .ok (.rejected pmi amount message) => some (.rejecting pmi amount message, [])
    | .ok .waived => some (.forwarding, [.waived])
    | .ok (.paymentRequired invoice) => some (.requiring invoice, [])
  | .rejecting pmi amount message, .published answer =>
    match answer with
    | .panicked => some (.finished (.error (panicFailure false)), [])
    | .err fault => some (.finished (.error (.publishRejected fault)), [])
    -- The rejection answers the request, which is not forwarded.
    | .ok _ => some (.finished (.ok ()),
      [.notified index row.ctx (paymentRejectedNotification pmi amount message)])
  | .requiring invoice, .published answer =>
    match answer with
    | .panicked => some (.finished (.error (panicFailure false)), [])
    | .err fault => some (.finished (.error (.publishRequired fault)), [])
    | .ok _ => some (.verifying invoice clock,
      [.notified index row.ctx (paymentRequiredNotification invoice)])
  | .verifying invoice _, .verified answer =>
    match answer with
    | .panicked => some (.finished (.error (panicFailure true)), [])
    | .err fault => some (.finished (.error (.verify fault)), [])
    | .ok outcome => some (.accepting invoice outcome, [.verified none])
  | .verifying invoice startedAt, .elapsed =>
    -- The stricter of the invoice's own lifetime and the pending one bounds the wait.
    if startedAt + min invoice.verifyTimeout options.paymentTtl ≤ clock then
      some (.finished (.error .verifyTimeout), [])
    else none
  | .accepting invoice outcome, .published answer =>
    match answer with
    | .panicked => some (.finished (.error (panicFailure true)), [])
    -- The payment has moved, so a failed acceptance notification does not stop the forward.
    | .err _ => some (.forwarding, [])
    | .ok _ => some (.forwarding,
      [.notified index row.ctx (paymentAcceptedNotification invoice outcome)])
  | .forwarding, .sent delivered =>
    some (.finished (.ok ()), if delivered then
      [.handed (.lifecycle index) row.ctx.requestEventId row.message] else [])
  | _, _ => none

/-- What a step of the explicit-gating middleware does besides moving its delivery. -/
structure GatingEffect where
  phase : DeliveryPhase
  -- The one call of the store, with its clock reading.
  request : Option (Nat × StoreOp) := none
  spawned : Option Verification := none
  observed : List Observation := []

/-- One step of a delivery inside the explicit-gating middleware. -/
def gatingStep (options : ServerPaymentsOptions) (clock : Nat) (store : AuthorizationStore)
    (row : Delivery) (engaged : Engagement) (id : CanonicalInvocationIdentity) :
    GatingPhase → Input → Option GatingEffect
  | .claiming, .run =>
    let request := some (row.arrivedAt, .claimOrSetPending options.paymentTtlMs)
    match (store.claimOrSetPending row.arrivedAt id options.paymentTtlMs).1 with
    | .claimed => some { phase := .forwarding, request }
    | .alreadyPending remainingMs =>
      some { phase := .gating engaged id (.answering remainingMs), request }
    | .pendingSet =>
      let window := row.arrivedAt + Duration.fromMillis options.paymentTtlMs
      some { phase := .gating engaged id (.pricing window), request }
  | .answering remainingMs, .published answer =>
    match answer with
    | .panicked => some { phase := .panicked }
    -- The pending entry belongs to the cycle that set it, so a failed publish leaves it alone.
    | .err _ => some { phase := .returned false }
    | .ok _ => some
      { phase := .returned false
        observed := [.responded row.ctx (buildPaymentPendingError engaged.request.id remainingMs)] }
  | .pricing window, .initiated price created =>
    match resolveAndInitiatePayment options row.ctx engaged.priced price created with
    -- Nothing catches a panic before the chain runner, so the pending entry stays.
    | .panicked => some { phase := .panicked }
    | .err _ => some { phase := .returned false, request := some (clock, .clearPending) }
    | .ok (.rejected _ _ message) =>
      some
        { phase := .gating engaged id (.rejecting message)
          request := some (clock, .clearPending) }
    | .ok .waived =>
      some { phase := .forwarding, request := some (clock, .clearPending), observed := [.waived] }
    | .ok (.paymentRequired invoice) =>
      some { phase := .gating engaged id (.retiming clock invoice window) }
  | .rejecting message, .published answer =>
    match answer with
    | .panicked => some { phase := .panicked }
    | .err _ => some { phase := .returned false }
    | .ok _ => some
      { phase := .returned false
        observed := [.responded row.ctx (buildPaymentRejectedError engaged.request.id message)] }
  | .retiming now invoice window, .run =>
    let ttlMs := grantTtlMs options invoice.paymentRequired.ttl
    -- A pending entry that has run out is not retimed.
    let retimed := if live now (store.cell id).pending then now + Duration.fromMillis ttlMs
      else window
    some
      { phase := .gating engaged id (.offering invoice retimed)
        request := some (now, .updatePendingTtl ttlMs) }
  | .offering invoice window, .published answer =>
    match answer with
    | .panicked => some { phase := .panicked }
    -- No offer reached the client, so nothing may block its retry.
    | .err _ => some { phase := .returned false, request := some (clock, .clearPending) }
    | .ok _ => some
      { phase := .returned false
        spawned := some
          { id
            invoice
            grantTtlMs := grantTtlMs options invoice.paymentRequired.ttl
            pollingTimeout := min invoice.verifyTimeout options.paymentTtl
            window
            phase := .verifying clock }
        observed := [.responded row.ctx
          (buildPaymentRequiredError engaged.request.id (paymentOption invoice))] }
  | _, _ => none

/-- One step of a detached verification: its phase, its call of the store, and what is seen. -/
def verificationStep (clock : Nat) (row : Verification) :
    VerificationPhase → Input →
      Option (VerificationPhase × Option (Nat × StoreOp) × List Observation)
  | .verifying _, .verified answer =>
    match answer with
    | .ok _ => some (.granting clock, none, [.verified (some row.id)])
    | .err _ | .panicked => some (.finished, some (clock, .clearPending), [])
  | .verifying startedAt, .elapsed =>
    if startedAt + row.pollingTimeout ≤ clock then
      some (.finished, some (clock, .clearPending), [])
    else none
  | .granting now, .run => some (.finished, some (now, .grant row.grantTtlMs), [])
  | _, _ => none

end ContextVm
