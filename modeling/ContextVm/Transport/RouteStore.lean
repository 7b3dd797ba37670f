import Mathlib.Data.Finset.Card
import ContextVm.Lib.Lru
import ContextVm.Core.Json

/-! Where responses go: the routes of requests in flight, and the snapshots payments take. -/

namespace ContextVm

/-- The route of a request in flight. -/
structure RouteEntry where
  clientPubkey : String
  -- The id the client sent, which the event id stands in for while the request is handled.
  originalRequestId : Json
  progressToken : Option String
  registeredAt : Nat
  deriving DecidableEq

/-- The routes by event id, and the two indexes that find them by token and by client. -/
structure RouteStore where
  routes : Lru String RouteEntry
  progressTokenToEvent : AList fun _ : String => String
  clientEventIds : AList fun _ : String => Finset String

namespace RouteStore

/-- An empty store of a given capacity. -/
def withMaxRoutes (maxRoutes : Nat) : RouteStore where
  routes := .withCapacity maxRoutes
  progressTokenToEvent := ∅
  clientEventIds := ∅

/-- The event ids a client has routes for. -/
def eventsOf (store : RouteStore) (clientPubkey : String) : Finset String :=
  (store.clientEventIds.lookup clientPubkey).getD ∅

/-- Take a removed route out of both indexes. -/
def cleanupIndexes (store : RouteStore) (eventId : String) (route : RouteEntry) : RouteStore where
  routes := store.routes
  progressTokenToEvent := match route.progressToken with
    | some token => store.progressTokenToEvent.erase token
    | none => store.progressTokenToEvent
  clientEventIds :=
    match store.clientEventIds.lookup route.clientPubkey with
    | none => store.clientEventIds
    | some events =>
      let rest := events.erase eventId
      -- A client without routes has no entry at all.
      if rest = ∅ then store.clientEventIds.erase route.clientPubkey
      else store.clientEventIds.insert route.clientPubkey rest

/-- Register the route of a request, over the one an earlier delivery of it registered. -/
def register (store : RouteStore) (now : Nat) (eventId clientPubkey : String)
    (originalRequestId : Json) (progressToken : Option String) : RouteStore :=
  let clientEventIds := store.clientEventIds.insert clientPubkey
    (insert eventId (store.eventsOf clientPubkey))
  let progressTokenToEvent := match progressToken with
    | some token => store.progressTokenToEvent.insert token eventId
    | none => store.progressTokenToEvent
  let (routes, evicted) := store.routes.push eventId
    ⟨clientPubkey, originalRequestId, progressToken, now⟩
  let registered : RouteStore := ⟨routes, progressTokenToEvent, clientEventIds⟩
  match evicted with
  -- The replaced route of the same event is not an eviction.
  | some (key, route) => if key ≠ eventId then registered.cleanupIndexes key route else registered
  | none => registered

/-- The route of an event, left in place. -/
def getRoute (store : RouteStore) (eventId : String) : Option RouteEntry :=
  store.routes.peek eventId

/-- Remove the route of an event and return it. -/
def pop (store : RouteStore) (eventId : String) : Option RouteEntry × RouteStore :=
  match store.routes.peek eventId with
  | none => (none, store)
  | some route =>
    (some route, { store with routes := store.routes.pop eventId }.cleanupIndexes eventId route)

/-- Drop one of the routes of a client that the client index has already forgotten. -/
def dropRoute (store : RouteStore) (eventId : String) : RouteStore :=
  match store.routes.peek eventId with
  | none => store
  | some route =>
    { store with
      routes := store.routes.pop eventId
      progressTokenToEvent := match route.progressToken with
        | some token => store.progressTokenToEvent.erase token
        | none => store.progressTokenToEvent }

/-- Remove all routes of a client, and return how many events were indexed for it. -/
def removeForClient (store : RouteStore) (clientPubkey : String) : Nat × RouteStore :=
  match store.clientEventIds.lookup clientPubkey with
  | none => (0, store)
  | some eventIds =>
    let forgotten := { store with clientEventIds := store.clientEventIds.erase clientPubkey }
    -- The set has no order of its own; an id of it that has no route is skipped.
    let routed := (store.routes.iter.map Prod.fst).filter fun eventId => eventId ∈ eventIds
    (eventIds.card, routed.foldl dropRoute forgotten)

/-- The events whose routes were registered at least a timeout ago. -/
def staleKeys (store : RouteStore) (now timeout : Nat) : List String :=
  (store.routes.iter.filter fun item => timeout ≤ now - item.2.registeredAt).map Prod.fst

/-- Remove the stale routes, and return the events they were for. -/
def sweepStaleRoutes (store : RouteStore) (now timeout : Nat) : List String × RouteStore :=
  let expiredKeys := store.staleKeys now timeout
  (expiredKeys, expiredKeys.foldl (fun store key => (store.pop key).2) store)

/-- Remove all routes and all index entries. -/
def clear (store : RouteStore) : RouteStore where
  routes := store.routes.clear
  progressTokenToEvent := ∅
  clientEventIds := ∅

/-- The event that a progress token is indexed for. -/
def getEventIdByProgressToken (store : RouteStore) (token : String) : Option String :=
  store.progressTokenToEvent.lookup token

/-- Whether a client has any routes. -/
def hasActiveRoutesForClient (store : RouteStore) (clientPubkey : String) : Bool :=
  (store.clientEventIds.lookup clientPubkey).any fun eventIds => eventIds ≠ ∅

/-- A registration adds its route, and takes away that of the victim. -/
theorem getRoute_register (store : RouteStore) (now : Nat) (eventId clientPubkey other : String)
    (originalRequestId : Json) (progressToken : Option String) :
    (store.register now eventId clientPubkey originalRequestId progressToken).getRoute other =
      if other = eventId then some ⟨clientPubkey, originalRequestId, progressToken, now⟩
      else if store.routes.victim eventId = some other then none else store.getRoute other := by
  -- Whatever happens to the indexes, the routes are those of one write.
  have routes : (store.register now eventId clientPubkey originalRequestId progressToken).routes =
      store.routes.put eventId ⟨clientPubkey, originalRequestId, progressToken, now⟩ := by
    simp only [register, Lru.push]
    split
    · split <;> rfl
    · rfl
  rw [getRoute, routes, Lru.peek_put]
  rfl

/-- A removal returns the route. -/
theorem pop_fst (store : RouteStore) (eventId : String) :
    (store.pop eventId).1 = store.getRoute eventId := by
  -- Both read the same entry.
  unfold pop getRoute
  split <;> simp_all

/-- It takes that route away, and no other. -/
theorem getRoute_pop (store : RouteStore) (eventId other : String) :
    (store.pop eventId).2.getRoute other =
      if other = eventId then none else store.getRoute other := by
  unfold pop getRoute
  split
  · -- There was no route, so nothing changes for this event either.
    rename_i absent
    by_cases same : other = eventId
    · rw [if_pos same, same, absent]
    · rw [if_neg same]
  · exact Lru.peek_pop store.routes eventId other

end RouteStore

/-- What a response needs besides its text, captured while the route was still there. -/
structure RouteSnapshot where
  clientPubkey : String
  originalRequestId : Json
  isEncrypted : Bool
  mirroredWrapKind : Option Nat
  deriving DecidableEq

/-- A snapshot captured for a request that has to be paid first. -/
structure PaymentRouteSnapshot where
  snapshot : RouteSnapshot
  expiresAt : Nat
  deriving DecidableEq

/-- Keep a snapshot, where the first one of an event stays and only lives longer. -/
def recordPaymentRouteSnapshot (cache : Lru String PaymentRouteSnapshot) (now : Nat)
    (eventId : String) (snapshot : RouteSnapshot) (expiresAt : Nat) :
    Lru String PaymentRouteSnapshot :=
  match cache.peek eventId with
  | some existing =>
    if existing.expiresAt < expiresAt then cache.replace eventId { existing with expiresAt }
    else cache
  | none =>
    if cache.len = cache.cap then
      -- A full cache gives up an expired snapshot, and never one that is live.
      match cache.iter.find? fun item => item.2.expiresAt ≤ now with
      | some (key, _) => (cache.pop key).put eventId ⟨snapshot, expiresAt⟩
      | none => cache
    else cache.put eventId ⟨snapshot, expiresAt⟩

theorem isSome_recordPaymentRouteSnapshot {cache : Lru String PaymentRouteSnapshot}
    (room : cache.len ≠ cache.cap) (now : Nat) (eventId : String) (snapshot : RouteSnapshot)
    (expiresAt : Nat) {other : String} (held : (cache.peek other).isSome = true) :
    ((recordPaymentRouteSnapshot cache now eventId snapshot expiresAt).peek other).isSome =
      true := by
  -- A snapshot that is already there keeps its key, whatever its expiry becomes.
  unfold recordPaymentRouteSnapshot
  split
  · grind [Lru.isSome_peek_replace]
  · -- The write needs no room of anybody else.
    rw [if_neg room, Lru.peek_put]
    have fits : cache.victim eventId = none := by
      have roomy : ¬ cache.Overflows eventId := fun overflow => room overflow.2
      simp [Lru.victim, roomy]
    by_cases same : other = eventId
    · simp [same]
    · simpa [same, fits] using held

end ContextVm
