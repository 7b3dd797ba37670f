import ContextVm.Lib.Lru
import ContextVm.Payments.Canonical

/-! The store of paid authorizations and pending offers behind explicit gating. -/

namespace ContextVm

/-- What the entry sequence of one invocation found, in the order it looks. -/
inductive ClaimOrPending where
  -- A live grant was consumed.
  | claimed
  -- Another offer is still open, for this many milliseconds.
  | alreadyPending (remainingMs : Nat)
  -- The invocation is now pending, and its caller issues the offer.
  | pendingSet
  deriving DecidableEq

/-- Whether an entry exists and has not run out, its last instant included. -/
def live (now : Nat) (entry : Option Nat) : Bool := entry.any fun expiry => now ≤ expiry

/-- The whole milliseconds left until an expiry, zero once it is reached. -/
def remainingMillis (now expiry : Nat) : Nat := Duration.asMillis (expiry - now)

/-- Two bounded caches of expiries, both keyed by the composite identity key. -/
structure AuthorizationStore where
  authorizations : Lru String Nat
  pending : Lru String Nat

namespace AuthorizationStore

/-- An empty store, where both caches have the same capacity and zero is read as one. -/
def withMaxEntries (maxEntries : Nat) : AuthorizationStore where
  authorizations := .withCapacity maxEntries
  pending := .withCapacity maxEntries

/-- Record a paid authorization, which ends the pending state of the same identity. -/
def grant (store : AuthorizationStore) (now : Nat) (id : CanonicalInvocationIdentity)
    (ttlMs : Nat) : AuthorizationStore where
  pending := store.pending.pop id.key
  -- A grant that is already there is overwritten in place.
  authorizations := store.authorizations.put id.key (now + Duration.fromMillis ttlMs)

/-- Consume the authorization of an identity, and report whether it was still live. -/
def claim (store : AuthorizationStore) (now : Nat) (id : CanonicalInvocationIdentity) :
    Bool × AuthorizationStore :=
  -- The removal does not depend on the expiry, so an expired grant is dropped as well.
  (live now (store.authorizations.peek id.key),
    { store with authorizations := store.authorizations.pop id.key })

/-- Enter the pending state unless it is already entered and live. -/
def trySetPending (store : AuthorizationStore) (now : Nat) (id : CanonicalInvocationIdentity)
    (ttlMs : Nat) : Bool × AuthorizationStore :=
  -- The read counts as a use whatever it finds.
  let (existing, pending) := store.pending.get id.key
  if live now existing then (false, { store with pending })
  else (true, { store with pending := pending.put id.key (now + Duration.fromMillis ttlMs) })

/-- Move the end of a live pending state. -/
def updatePendingTtl (store : AuthorizationStore) (now : Nat)
    (id : CanonicalInvocationIdentity) (ttlMs : Nat) : AuthorizationStore :=
  let (existing, pending) := store.pending.get id.key
  if live now existing then
    { store with pending := pending.put id.key (now + Duration.fromMillis ttlMs) }
  -- A stale entry is left in place.
  else { store with pending }

/-- The milliseconds left of a pending state, zero when there is none. -/
def getPendingRemainingMs (store : AuthorizationStore) (now : Nat)
    (id : CanonicalInvocationIdentity) : Nat × AuthorizationStore :=
  let (existing, pending) := store.pending.get id.key
  -- An entry that has run out counts as zero, like none at all.
  ((existing.map (remainingMillis now)).getD 0, { store with pending })

/-- End the pending state of an identity, whoever entered it. -/
def clearPending (store : AuthorizationStore) (id : CanonicalInvocationIdentity) :
    AuthorizationStore :=
  -- No owner is recorded, so nothing tells whose offer it was.
  { store with pending := store.pending.pop id.key }

/-- Claim a live grant, or else enter the pending state, in one critical section. -/
def claimOrSetPending (store : AuthorizationStore) (now : Nat)
    (id : CanonicalInvocationIdentity) (ttlMs : Nat) : ClaimOrPending × AuthorizationStore :=
  let held := store.authorizations.peek id.key
  let authorizations := store.authorizations.pop id.key
  -- A claim leaves the pending state alone, which belongs to another offer.
  if live now held then (.claimed, { store with authorizations })
  else
    let (existing, pending) := store.pending.get id.key
    if live now existing then
      (.alreadyPending ((existing.map (remainingMillis now)).getD 0), { authorizations, pending })
    else
      (.pendingSet,
        { authorizations, pending := pending.put id.key (now + Duration.fromMillis ttlMs) })

end AuthorizationStore

/-- One call of the store, less the clock reading it is made with. -/
inductive StoreOp where
  | grant (ttlMs : Nat)
  | claim
  | trySetPending (ttlMs : Nat)
  | updatePendingTtl (ttlMs : Nat)
  | getPendingRemainingMs
  | clearPending
  | claimOrSetPending (ttlMs : Nat)
  deriving DecidableEq

/-- What a call of the store returns. -/
inductive StoreReply where
  | unit
  | flag (value : Bool)
  | remaining (millis : Nat)
  | entered (found : ClaimOrPending)
  deriving DecidableEq

namespace AuthorizationStore

/-- Perform one call, with the clock reading it took before the lock. -/
def perform (store : AuthorizationStore) (now : Nat) (id : CanonicalInvocationIdentity) :
    StoreOp → StoreReply × AuthorizationStore
  | .grant ttlMs => (.unit, store.grant now id ttlMs)
  | .claim => ((store.claim now id).map .flag fun after => after)
  | .trySetPending ttlMs => ((store.trySetPending now id ttlMs).map .flag fun after => after)
  | .updatePendingTtl ttlMs => (.unit, store.updatePendingTtl now id ttlMs)
  | .getPendingRemainingMs =>
    ((store.getPendingRemainingMs now id).map .remaining fun after => after)
  | .clearPending => (.unit, store.clearPending id)
  | .claimOrSetPending ttlMs =>
    ((store.claimOrSetPending now id ttlMs).map .entered fun after => after)

end AuthorizationStore

/-! What the store is for: each identity has a grant and a pending state of its own. -/

/-- The state of one identity, each half with the instant it runs out. -/
structure Cell where
  grant : Option Nat
  pending : Option Nat

namespace Cell

/-- What one call on an identity does to that identity and answers. -/
def perform (cell : Cell) (now : Nat) : StoreOp → StoreReply × Cell
  -- A grant ends the pending state, as the offer behind it is paid.
  | .grant ttlMs => (.unit, ⟨some (now + Duration.fromMillis ttlMs), none⟩)
  -- A grant is used up by the attempt, live or not.
  | .claim => (.flag (live now cell.grant), { cell with grant := none })
  | .trySetPending ttlMs =>
    if live now cell.pending then (.flag false, cell)
    else (.flag true, { cell with pending := some (now + Duration.fromMillis ttlMs) })
  | .updatePendingTtl ttlMs =>
    (.unit, if live now cell.pending then
      { cell with pending := some (now + Duration.fromMillis ttlMs) } else cell)
  | .getPendingRemainingMs =>
    (.remaining ((cell.pending.map (remainingMillis now)).getD 0), cell)
  | .clearPending => (.unit, { cell with pending := none })
  | .claimOrSetPending ttlMs =>
    -- Only the call that enters the pending state goes on to issue an offer.
    if live now cell.grant then (.entered .claimed, { cell with grant := none })
    else if live now cell.pending then
      (.entered (.alreadyPending ((cell.pending.map (remainingMillis now)).getD 0)),
        { cell with grant := none })
    else (.entered .pendingSet, ⟨none, some (now + Duration.fromMillis ttlMs)⟩)

end Cell

namespace AuthorizationStore

/-- The state the store keeps for one identity. -/
def cell (store : AuthorizationStore) (id : CanonicalInvocationIdentity) : Cell :=
  ⟨store.authorizations.peek id.key, store.pending.peek id.key⟩

/-- The key whose grant a call pushes out. -/
def grantVictim (store : AuthorizationStore) (id : CanonicalInvocationIdentity) :
    StoreOp → Option String
  | .grant _ => store.authorizations.victim id.key
  -- No other call inserts into the grants.
  | _ => none

/-- The key whose pending state a call pushes out. -/
def pendingVictim (store : AuthorizationStore) (now : Nat) (id : CanonicalInvocationIdentity) :
    StoreOp → Option String
  | .trySetPending _ => store.pending.victim id.key
  -- A claimed invocation returns before it would insert anything.
  | .claimOrSetPending _ =>
    if live now (store.authorizations.peek id.key) then none else store.pending.victim id.key
  | _ => none

end AuthorizationStore

end ContextVm
