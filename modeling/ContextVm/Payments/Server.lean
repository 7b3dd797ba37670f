import ContextVm.Lib.Execution
import ContextVm.Payments.Pricing
import ContextVm.Payments.SingleUse

/-! Both payment middlewares of a server as concurrent processes over their shared caches. -/

namespace ContextVm

/-- Why a transparent lifecycle ended without completing. -/
inductive LifecycleFailure where
  | initiate (fault : PaymentError)
  | publishRequired (fault : String)
  | publishRejected (fault : String)
  | verify (fault : PaymentError)
  | verifyTimeout

/-- Whether a failure came before an invoice could have reached the client. -/
def LifecycleFailure.isPreInvoice : LifecycleFailure → Bool
  | .initiate _ | .publishRequired _ | .publishRejected _ => true
  | .verify _ | .verifyTimeout => false

/-- One tracked payment: when its dedup window closes, and the lifecycle a duplicate joins. -/
structure PendingEntry where
  expiresAt : Nat
  inFlight : Nat
  deriving DecidableEq

/-- How many of the oldest entries one lookup inspects. -/
def pendingPurgeScanLimit : Nat := 25

/-- Drop the expired ones among the oldest entries. -/
def purgeExpiredPending (cache : Lru String PendingEntry) (now : Nat) : Lru String PendingEntry :=
  -- The entries come most recently used first, so the scan starts from the other end.
  let expired := ((cache.iter.reverse.take pendingPurgeScanLimit).filter fun item =>
    item.2.expiresAt ≤ now).map Prod.fst
  expired.foldl Lru.pop cache

/-- What the critical section of a delivery decides. -/
inductive Admission where
  | joined (lifecycle : Nat)
  | inserted
  | refused
  deriving DecidableEq

/-- The critical section of a delivery: purge, look up, and insert. -/
def enterPending (cache : Lru String PendingEntry) (now paymentTtl : Nat) (eventId : String)
    (fresh : Nat) : Admission × Lru String PendingEntry :=
  let cache := purgeExpiredPending cache now
  match (cache.peek eventId).filter fun entry => now < entry.expiresAt with
  | some entry => (.joined entry.inFlight, cache)
  | none =>
    let entry : PendingEntry := ⟨now + paymentTtl, fresh⟩
    if cache.len = cache.cap then
      -- A full cache gives up an expired entry by name, and never one that is live.
      match cache.iter.find? fun item => item.2.expiresAt ≤ now with
      | some (key, _) => (.inserted, (cache.pop key).put eventId entry)
      | none => (.refused, cache)
    else (.inserted, cache.put eventId entry)

/-- The request a middleware gates, and the entry that prices it. -/
structure Engagement where
  request : JsonRpcRequest
  priced : PricedCapability

/-- Where a delivery stands inside the transparent middleware. -/
inductive TransparentPhase where
  -- Its clock reading is taken, and the lock is next.
  | locking
  -- It waits for the lifecycle another delivery started.
  | joining (lifecycle : Nat)
  -- It waits for the lifecycle it started itself.
  | owning (lifecycle : Nat)

/-- Where a delivery stands inside the explicit-gating middleware. -/
inductive GatingPhase where
  -- Its clock reading is taken, and the lock of the store is next.
  | claiming
  | answering (remainingMs : Nat)
  -- From here to the offer the delivery owns an offer cycle, whose pending window ends as noted.
  | pricing (window : Nat)
  | rejecting (message : Option String)
  | retiming (now : Nat) (invoice : Invoice) (window : Nat)
  | offering (invoice : Invoice) (window : Nat)

/-- Where a delivery stands in the chain. -/
inductive DeliveryPhase where
  | transparent (engaged : Engagement) (phase : TransparentPhase)
  | gating (engaged : Engagement) (id : CanonicalInvocationIdentity) (phase : GatingPhase)
  -- Every middleware has forwarded, and the terminal is next.
  | forwarding
  | returned (forwarded : Bool)
  | panicked

/-- One inbound event on its way through the chain. -/
structure Delivery where
  message : JsonRpcMessage
  ctx : InboundContext
  -- The clock reading it takes before the lock it needs first.
  arrivedAt : Nat
  phase : DeliveryPhase

/-- Where a transparent lifecycle stands. -/
inductive LifecyclePhase where
  | initiating
  | rejecting (pmi : String) (amount : Int) (message : Option String)
  | requiring (invoice : Invoice)
  | verifying (invoice : Invoice) (startedAt : Nat)
  | accepting (invoice : Invoice) (outcome : VerifyOutcome)
  | forwarding
  | finished (result : Except LifecycleFailure Unit)

/-- One run of the transparent lifecycle, shared by the deliveries of its event. -/
structure Lifecycle where
  -- The delivery that inserted the pending entry, and the reading it did so with.
  owner : Nat
  insertedAt : Nat
  engaged : Engagement
  message : JsonRpcMessage
  ctx : InboundContext
  phase : LifecyclePhase

/-- Where a detached verification stands. -/
inductive VerificationPhase where
  | verifying (startedAt : Nat)
  -- The payment is settled, and the grant with this clock reading is next.
  | granting (now : Nat)
  | finished

/-- One detached verification of a published offer. -/
structure Verification where
  id : CanonicalInvocationIdentity
  invoice : Invoice
  grantTtlMs : Nat
  pollingTimeout : Nat
  -- The end of the pending window its offer cycle last wrote.
  window : Nat
  phase : VerificationPhase

/-- Who handed a message to the terminal. -/
inductive Forwarder where
  | delivery (index : Nat)
  | lifecycle (index : Nat)
  deriving DecidableEq

/-- What an observer of the server notes down, in the order it happens. -/
inductive Observation where
  -- A critical section of the dedup cache ran with this clock reading.
  | locked (now : Nat)
  | stored (call : StoreCall)
  | waived
  -- A verification returned, in the explicit lifecycle for an identity.
  | verified (id : Option CanonicalInvocationIdentity)
  | notified (lifecycle : Nat) (ctx : InboundContext) (notification : JsonRpcNotification)
  | responded (ctx : InboundContext) (response : JsonRpcErrorResponse)
  -- The terminal delivered the message to the handler.
  | handed (forwarder : Forwarder) (eventId : String) (message : JsonRpcMessage)

/-- How the code outside the server lets one process go on. -/
inductive Input where
  | run
  | initiated (price : Answer PaymentError ResolvePriceResult)
      (created : Answer PaymentError PaymentRequiredParams)
  | published (answer : Answer String Unit)
  | verified (answer : Answer PaymentError VerifyOutcome)
  | elapsed
  | sent (delivered : Bool)

end ContextVm
