import Mathlib.Data.List.Induction
import ContextVm.Transport.RouteStore

/-! What the indexes of the route store say about the routes in flight. -/

namespace ContextVm

open Lru

/-! The routes in flight as a list, the latest registered first. -/

/-- The events whose routes belong to a client. -/
def eventIdsOf (live : List (String × RouteEntry)) (clientPubkey : String) : Finset String :=
  ((live.filter fun item => item.2.clientPubkey = clientPubkey).map Prod.fst).toFinset

/-- The event of the latest route that carries a token. -/
def latestWith (live : List (String × RouteEntry)) (token : String) : Option String :=
  (live.find? fun item => item.2.progressToken = some token).map Prod.fst

/-- Something that is done to the route store. -/
inductive RouteOperation where
  | register (now : Nat) (eventId clientPubkey : String) (originalRequestId : Json)
      (progressToken : Option String)
  | pop (eventId : String)
  | removeForClient (clientPubkey : String)
  | sweepStaleRoutes (now timeout : Nat)
  | clear

namespace RouteOperation

/-- The route that an operation begins. -/
def registered : RouteOperation → Option (String × RouteEntry)
  | register now eventId clientPubkey originalRequestId progressToken =>
    some (eventId, ⟨clientPubkey, originalRequestId, progressToken, now⟩)
  | _ => none

/-- Whether an operation is to end a route that is in flight. -/
def ends (maxRoutes : Nat) (live : List (String × RouteEntry)) (item : String × RouteEntry) :
    RouteOperation → Bool
  -- A registration into a full store costs the oldest route.
  | register .. => live.length = max maxRoutes 1 ∧ live.getLast? = some item
  | pop eventId => item.1 = eventId
  | removeForClient clientPubkey => item.2.clientPubkey = clientPubkey
  | sweepStaleRoutes now timeout => timeout ≤ now - item.2.registeredAt
  | clear => true

/-- The routes in flight after an operation. -/
def apply (maxRoutes : Nat) (live : List (String × RouteEntry)) (operation : RouteOperation) :
    List (String × RouteEntry) :=
  operation.registered.toList ++ live.filter fun item => !operation.ends maxRoutes live item

/-- Whether an operation ends a route with a token that a route in flight afterwards carries too. -/
def StrandsToken (maxRoutes : Nat) (live : List (String × RouteEntry))
    (operation : RouteOperation) : Prop :=
  ∃ ended ∈ live, operation.ends maxRoutes live ended = true ∧
    ∃ kept ∈ operation.apply maxRoutes live, ∃ token,
      ended.2.progressToken = some token ∧ kept.2.progressToken = some token

/-- The operation as the store performs it. -/
def perform (store : RouteStore) : RouteOperation → RouteStore
  | register now eventId clientPubkey originalRequestId progressToken =>
    store.register now eventId clientPubkey originalRequestId progressToken
  | pop eventId => (store.pop eventId).2
  | removeForClient clientPubkey => (store.removeForClient clientPubkey).2
  | sweepStaleRoutes now timeout => (store.sweepStaleRoutes now timeout).2
  | clear => store.clear

/-- The store after operations on an empty one. -/
def replay (maxRoutes : Nat) (operations : List RouteOperation) : RouteStore :=
  operations.foldl perform (.withMaxRoutes maxRoutes)

/-- The routes in flight after operations, when there are none at first. -/
def liveAfter (maxRoutes : Nat) (operations : List RouteOperation) : List (String × RouteEntry) :=
  operations.foldl (apply maxRoutes) []

end RouteOperation

/-- The routes of a store and its index by client, as they are to be for the routes in flight. -/
structure RouteStore.Indexed (store : RouteStore) (maxRoutes : Nat)
    (live : List (String × RouteEntry)) : Prop where
  routes : store.routes.iter = live
  capacity : store.routes.cap = max maxRoutes 1
  clients : ∀ clientPubkey, store.eventsOf clientPubkey = eventIdsOf live clientPubkey
  inhabited : ∀ clientPubkey, store.clientEventIds.lookup clientPubkey ≠ some ∅

/-- A store whose indexes say neither more nor less than the routes in flight. -/
structure RouteStore.Exact (store : RouteStore) (maxRoutes : Nat)
    (live : List (String × RouteEntry)) : Prop extends store.Indexed maxRoutes live where
  bounded : live.length ≤ max maxRoutes 1
  tokens : ∀ token, store.getEventIdByProgressToken token = latestWith live token

section Lists

variable {live : List (String × RouteEntry)} {clientPubkey eventId : String}

theorem mem_eventIdsOf :
    eventId ∈ eventIdsOf live clientPubkey ↔
      ∃ route, (eventId, route) ∈ live ∧ route.clientPubkey = clientPubkey := by
  simp [eventIdsOf]

theorem eventIdsOf_filter_ne (live : List (String × RouteEntry)) (eventId clientPubkey : String) :
    eventIdsOf (live.filter fun item => item.1 ≠ eventId) clientPubkey =
      (eventIdsOf live clientPubkey).erase eventId := by
  ext other
  rw [mem_eventIdsOf, Finset.mem_erase, mem_eventIdsOf]
  -- Both ask for a route of another event in the list.
  constructor
  · rintro ⟨route, member, owner⟩
    obtain ⟨inside, distinct⟩ := List.mem_filter.mp member
    exact ⟨by simpa using distinct, route, inside, owner⟩
  · rintro ⟨distinct, route, inside, owner⟩
    exact ⟨route, List.mem_filter.mpr ⟨inside, by simpa using distinct⟩, owner⟩

theorem route_unique (distinct : (live.map Prod.fst).Nodup) {first second : RouteEntry}
    (one : (eventId, first) ∈ live) (other : (eventId, second) ∈ live) : first = second :=
  congrArg Prod.snd (List.inj_on_of_nodup_map distinct one other rfl)

theorem filter_getLast {item : String × RouteEntry} (distinct : (live.map Prod.fst).Nodup)
    (last : live.getLast? = some item) :
    (live.filter fun other => other.1 ≠ item.1) = live.dropLast := by
  -- Split the last route off: none of the others has its event.
  obtain ⟨front, split⟩ := List.getLast?_eq_some_iff.mp last
  subst split
  rw [List.map_append, List.nodup_append] at distinct
  rw [List.filter_append, List.dropLast_concat]
  have others : (front.filter fun other => other.1 ≠ item.1) = front := by
    apply List.filter_eq_self.mpr
    intro other inside
    have apart := distinct.2.2 other.1 (List.mem_map_of_mem inside) item.1 (by simp)
    simpa using apart
  rw [others]
  simp

end Lists

namespace RouteStore

variable {store : RouteStore} {maxRoutes : Nat} {live : List (String × RouteEntry)}
variable {eventId : String} {before after : RouteStore}

/-! Observations of the indexes. -/

/-- A removed route takes its event from its client. -/
theorem eventsOf_cleanupIndexes (store : RouteStore) (eventId : String) (route : RouteEntry)
    (clientPubkey : String) :
    (store.cleanupIndexes eventId route).eventsOf clientPubkey =
      if clientPubkey = route.clientPubkey then (store.eventsOf clientPubkey).erase eventId
      else store.eventsOf clientPubkey := by
  unfold eventsOf cleanupIndexes
  -- The index changes where the client of the route has an entry.
  cases entry : store.clientEventIds.lookup route.clientPubkey with
  | none =>
    by_cases same : clientPubkey = route.clientPubkey
    · subst same
      simp [entry]
    · simp [same]
  | some events =>
    simp only
    by_cases same : clientPubkey = route.clientPubkey
    · subst same
      split
      · -- No event is left, so the entry goes.
        rename_i empty
        simp [entry, empty]
      · simp [entry]
    · split
      · rw [AList.lookup_erase_ne same]
      · rw [AList.lookup_insert_ne same]

theorem clients_cleanupIndexes {routes : List (String × RouteEntry)}
    (clients : ∀ clientPubkey, store.eventsOf clientPubkey = eventIdsOf routes clientPubkey)
    (distinct : (routes.map Prod.fst).Nodup) {route : RouteEntry}
    (member : (eventId, route) ∈ routes) (clientPubkey : String) :
    (store.cleanupIndexes eventId route).eventsOf clientPubkey =
      eventIdsOf (routes.filter fun item => item.1 ≠ eventId) clientPubkey := by
  rw [eventsOf_cleanupIndexes, eventIdsOf_filter_ne, clients]
  split
  · rfl
  · -- A client that the route does not name does not have its event.
    rename_i foreign
    rw [Finset.erase_eq_of_notMem]
    rw [mem_eventIdsOf]
    rintro ⟨other, inside, owner⟩
    rw [route_unique distinct inside member] at owner
    exact foreign owner.symm

theorem inhabited_cleanupIndexes
    (inhabited : ∀ clientPubkey, store.clientEventIds.lookup clientPubkey ≠ some ∅)
    (eventId : String) (route : RouteEntry) (clientPubkey : String) :
    (store.cleanupIndexes eventId route).clientEventIds.lookup clientPubkey ≠ some ∅ := by
  unfold cleanupIndexes
  simp only
  split
  · exact inhabited clientPubkey
  · by_cases same : clientPubkey = route.clientPubkey
    · subst same
      split
      · simp
      · rename_i left
        simpa using left
    · split
      · rw [AList.lookup_erase_ne same]
        exact inhabited clientPubkey
      · rw [AList.lookup_insert_ne same]
        exact inhabited clientPubkey

theorem token_cleanupIndexes (store : RouteStore) (eventId : String) (route : RouteEntry)
    (token : String) :
    (store.cleanupIndexes eventId route).getEventIdByProgressToken token =
      if route.progressToken = some token then none else store.getEventIdByProgressToken token := by
  unfold cleanupIndexes getEventIdByProgressToken
  cases carried : route.progressToken with
  | none => simp
  | some own =>
    by_cases same : token = own
    · subst same
      simp
    · simp [AList.lookup_erase_ne same, Ne.symm same]

/-! What a store loses when routes are taken out of it. -/

/-- The marked routes have been taken out of a store, and with each of them its token. -/
structure Drops (before after : RouteStore) (ended : String × RouteEntry → Bool) : Prop where
  routes : after.routes.iter = before.routes.iter.filter fun item => !ended item
  capacity : after.routes.cap = before.routes.cap
  tokens : ∀ token, after.getEventIdByProgressToken token =
    if ∃ item ∈ before.routes.iter, ended item = true ∧ item.2.progressToken = some token then none
    else before.getEventIdByProgressToken token

theorem Drops.refl {ended : String × RouteEntry → Bool}
    (unmarked : ∀ item ∈ store.routes.iter, ended item = false) : Drops store store ended := by
  refine ⟨?_, rfl, ?_⟩
  · rw [List.filter_eq_self.mpr]
    intro item member
    rw [unmarked item member]
    rfl
  · intro token
    rw [if_neg]
    rintro ⟨item, member, marked, -⟩
    rw [unmarked item member] at marked
    cases marked

theorem Drops.congr {ended marked : String × RouteEntry → Bool}
    (same : ∀ item ∈ before.routes.iter, ended item = marked item)
    (drops : Drops before after ended) : Drops before after marked := by
  refine ⟨?_, drops.capacity, ?_⟩
  · rw [drops.routes]
    apply List.filter_congr
    intro item member
    rw [same item member]
  · intro token
    have alike : (∃ item ∈ before.routes.iter, ended item = true ∧
          item.2.progressToken = some token) ↔
        ∃ item ∈ before.routes.iter, marked item = true ∧ item.2.progressToken = some token := by
      refine exists_congr fun item => and_congr_right fun member => ?_
      rw [same item member]
    rw [drops.tokens]
    simp only [alike]

/-- What is taken out in two steps is what one of them takes out. -/
theorem Drops.trans {middle : RouteStore} {first second : String × RouteEntry → Bool}
    (earlier : Drops before middle first) (later : Drops middle after second) :
    Drops before after fun item => first item || second item := by
  refine ⟨?_, later.capacity.trans earlier.capacity, ?_⟩
  · rw [later.routes, earlier.routes, List.filter_filter]
    apply List.filter_congr
    intro item _
    cases first item <;> cases second item <;> rfl
  · intro token
    rw [later.tokens, earlier.tokens]
    by_cases gone : ∃ item ∈ before.routes.iter, (first item || second item) = true ∧
        item.2.progressToken = some token
    · rw [if_pos gone]
      obtain ⟨item, member, marked, carried⟩ := gone
      -- A route that the first step leaves is still there for the second one.
      cases early : first item with
      | true =>
        rw [if_pos (show ∃ item ∈ before.routes.iter, _ from ⟨item, member, early, carried⟩),
          ite_self]
      | false =>
        rw [early, Bool.false_or] at marked
        have left : item ∈ middle.routes.iter := by
          rw [earlier.routes]
          exact List.mem_filter.mpr ⟨member, by rw [early]; rfl⟩
        rw [if_pos ⟨item, left, marked, carried⟩]
    · rw [if_neg gone, if_neg, if_neg]
      · rintro ⟨item, member, marked, carried⟩
        exact gone ⟨item, member, by rw [marked, Bool.true_or], carried⟩
      · rintro ⟨item, member, marked, carried⟩
        rw [earlier.routes] at member
        exact gone ⟨item, (List.mem_filter.mp member).1, by rw [marked, Bool.or_true], carried⟩

/-- Taking a route out with its token is what a removal of its event is. -/
theorem Drops.of_held {route : RouteEntry} (held : before.routes.peek eventId = some route)
    (routes : after.routes = before.routes.pop eventId)
    (tokens : ∀ token, after.getEventIdByProgressToken token =
      if route.progressToken = some token then none else before.getEventIdByProgressToken token) :
    Drops before after fun item => item.1 = eventId := by
  have member := (peek_eq_some_iff _ _ _).mp held
  refine ⟨?_, by rw [routes, cap_pop], ?_⟩
  · rw [routes, iter_pop]
    simp
  · intro token
    rw [tokens]
    -- The event has no other route than the one read.
    have carriers : (∃ item ∈ before.routes.iter, decide (item.1 = eventId) = true ∧
        item.2.progressToken = some token) ↔ route.progressToken = some token := by
      constructor
      · rintro ⟨⟨key, entry⟩, inside, same, carried⟩
        rw [decide_eq_true_eq] at same
        subst same
        rw [← route_unique before.routes.nodup_keys_iter inside member]
        exact carried
      · intro carried
        exact ⟨(eventId, route), member, by simp, carried⟩
    simp only [carriers]

theorem Drops.of_absent (absent : store.routes.peek eventId = none) :
    Drops store store fun item => item.1 = eventId := by
  apply Drops.refl
  intro item member
  rw [peek_eq_none_iff] at absent
  rw [decide_eq_false_iff_not]
  intro same
  exact absent (same ▸ List.mem_map_of_mem member)

theorem pop_drops (store : RouteStore) (eventId : String) :
    Drops store (store.pop eventId).2 fun item => item.1 = eventId := by
  unfold pop
  cases held : store.routes.peek eventId with
  | none => exact .of_absent held
  | some route => exact .of_held held rfl (token_cleanupIndexes _ eventId route)

theorem dropRoute_drops (store : RouteStore) (eventId : String) :
    Drops store (store.dropRoute eventId) fun item => item.1 = eventId := by
  unfold dropRoute
  cases held : store.routes.peek eventId with
  | none => exact .of_absent held
  | some route => exact .of_held held rfl (token_cleanupIndexes store eventId route)

theorem foldl_drops {remove : RouteStore → String → RouteStore}
    (one : ∀ store eventId, Drops store (remove store eventId) fun item => item.1 = eventId)
    (eventIds : List String) (store : RouteStore) :
    Drops store (eventIds.foldl remove store) fun item => item.1 ∈ eventIds := by
  -- The store changes with each event removed, so it is general.
  induction eventIds generalizing store with
  | nil => exact .refl fun item _ => by simp
  | cons first rest ih =>
    apply Drops.congr _ ((one store first).trans (ih (remove store first)))
    intro item _
    simp [Bool.decide_or]

/-! The index by client after each operation. -/

section

variable (indexed : store.Indexed maxRoutes live)
include indexed

theorem Indexed.distinct : (live.map Prod.fst).Nodup :=
  indexed.routes ▸ store.routes.nodup_keys_iter

theorem Indexed.bounded : live.length ≤ max maxRoutes 1 := by
  rw [← indexed.routes, ← indexed.capacity, length_iter]
  exact store.routes.len_le_cap

/-- Removing an event keeps the index by client as it is to be. -/
theorem Indexed.pop (eventId : String) :
    (store.pop eventId).2.Indexed maxRoutes (live.filter fun item => item.1 ≠ eventId) := by
  have drops := pop_drops store eventId
  have routes : (store.pop eventId).2.routes.iter = live.filter fun item => item.1 ≠ eventId := by
    rw [drops.routes, indexed.routes]
    simp
  refine ⟨routes, drops.capacity.trans indexed.capacity, ?_, ?_⟩
  · intro clientPubkey
    unfold RouteStore.pop
    cases held : store.routes.peek eventId with
    | none =>
      -- Nothing changes, since no client has this event.
      rw [eventIdsOf_filter_ne, ← indexed.clients, Finset.erase_eq_of_notMem]
      rw [indexed.clients, mem_eventIdsOf]
      rintro ⟨route, member, -⟩
      rw [← indexed.routes, ← peek_eq_some_iff, held] at member
      cases member
    | some route =>
      have member : (eventId, route) ∈ live := by
        rw [← indexed.routes, ← peek_eq_some_iff, held]
      exact clients_cleanupIndexes indexed.clients indexed.distinct member clientPubkey
  · unfold RouteStore.pop
    cases held : store.routes.peek eventId with
    | none => exact indexed.inhabited
    | some route => exact inhabited_cleanupIndexes indexed.inhabited eventId route

theorem Indexed.foldl_pop (eventIds : List String) :
    (eventIds.foldl (fun store eventId => (store.pop eventId).2) store).Indexed maxRoutes
      (live.filter fun item => item.1 ∉ eventIds) := by
  induction eventIds generalizing store live with
  | nil =>
    simp only [List.not_mem_nil, not_false_eq_true, decide_true, List.filter_true]
    exact indexed
  | cons first rest ih =>
    -- Without the first event, and then without the rest.
    have removed := ih (indexed.pop first)
    rw [List.filter_filter] at removed
    have marks : (live.filter fun item => decide (item.1 ∉ rest) && decide (item.1 ≠ first)) =
        live.filter fun item => item.1 ∉ first :: rest := by
      apply List.filter_congr
      intro item _
      simp [Bool.and_comm]
    rwa [marks] at removed

end

theorem clientEventIds_foldl_dropRoute (eventIds : List String) (store : RouteStore) :
    (eventIds.foldl dropRoute store).clientEventIds = store.clientEventIds := by
  induction eventIds generalizing store with
  | nil => rfl
  | cons first rest ih =>
    rw [List.foldl_cons, ih]
    unfold dropRoute
    split <;> rfl

section

variable (indexed : store.Indexed maxRoutes live)
include indexed

theorem Indexed.mem_eventsOf {item : String × RouteEntry}
    (member : item ∈ live) (clientPubkey : String) :
    item.1 ∈ store.eventsOf clientPubkey ↔ item.2.clientPubkey = clientPubkey := by
  rw [indexed.clients, mem_eventIdsOf]
  constructor
  · rintro ⟨route, inside, owner⟩
    rw [← owner, route_unique indexed.distinct (show (item.1, item.2) ∈ live from member) inside]
  · intro owner
    exact ⟨item.2, member, owner⟩

theorem Indexed.mem_staleKeys
    {item : String × RouteEntry} (member : item ∈ live) (now timeout : Nat) :
    item.1 ∈ store.staleKeys now timeout ↔ timeout ≤ now - item.2.registeredAt := by
  rw [staleKeys, indexed.routes]
  constructor
  · intro stale
    obtain ⟨other, inside, same⟩ := List.mem_map.mp stale
    obtain ⟨found, late⟩ := List.mem_filter.mp inside
    -- The stale route of this key is the route itself.
    rw [List.inj_on_of_nodup_map indexed.distinct found member same] at late
    simpa using late
  · intro late
    exact List.mem_map_of_mem (List.mem_filter.mpr ⟨member, by simpa using late⟩)

/-- Removing a client takes out the routes that name it. -/
theorem Indexed.removeForClient_drops (clientPubkey : String) :
    Drops store (store.removeForClient clientPubkey).2
      fun item => item.2.clientPubkey = clientPubkey := by
  unfold removeForClient
  cases entry : store.clientEventIds.lookup clientPubkey with
  | none =>
    -- A client without an entry has no routes.
    apply Drops.refl
    intro item member
    have none := indexed.mem_eventsOf (indexed.routes ▸ member) clientPubkey
    simpa [eventsOf, entry] using none
  | some events =>
    have dropped := foldl_drops dropRoute_drops
      ((store.routes.iter.map Prod.fst).filter fun eventId => eventId ∈ events)
      { store with clientEventIds := store.clientEventIds.erase clientPubkey }
    -- Forgetting the client first changes neither the routes nor the tokens.
    refine Drops.congr ?_ ⟨dropped.routes, dropped.capacity, dropped.tokens⟩
    intro item member
    have owned := indexed.mem_eventsOf (indexed.routes ▸ member) clientPubkey
    rw [eventsOf, entry, Option.getD_some] at owned
    rw [decide_eq_decide, List.mem_filter, ← owned, decide_eq_true_eq]
    exact and_iff_right (List.mem_map_of_mem member)

/-- Removing a client keeps the index by client as it is to be. -/
theorem Indexed.removeForClient (clientPubkey : String) :
    (store.removeForClient clientPubkey).2.Indexed maxRoutes
      (live.filter fun item => item.2.clientPubkey ≠ clientPubkey) := by
  have drops := indexed.removeForClient_drops clientPubkey
  -- The entry of the client is all that changes in the index.
  have entries (other : String) :
      (store.removeForClient clientPubkey).2.clientEventIds.lookup other =
        if other = clientPubkey then none else store.clientEventIds.lookup other := by
    unfold RouteStore.removeForClient
    cases entry : store.clientEventIds.lookup clientPubkey with
    | none =>
      by_cases same : other = clientPubkey
      · rw [if_pos same, same]
        exact entry
      · rw [if_neg same]
    | some events =>
      refine (congrArg _ (clientEventIds_foldl_dropRoute _ _)).trans ?_
      by_cases same : other = clientPubkey
      · rw [if_pos same, same, AList.lookup_erase]
      · rw [if_neg same, AList.lookup_erase_ne same]
  refine ⟨?_, drops.capacity.trans indexed.capacity, ?_, ?_⟩
  · rw [drops.routes, indexed.routes]
    simp
  · intro other
    rw [eventsOf, entries]
    by_cases same : other = clientPubkey
    · subst same
      rw [if_pos rfl, Option.getD_none, eventIdsOf, List.filter_filter]
      simp
    · rw [if_neg same]
      refine (indexed.clients other).trans ?_
      rw [eventIdsOf, eventIdsOf, List.filter_filter]
      congr 2
      apply List.filter_congr
      intro item _
      -- A route that names the other client does not name the removed one.
      by_cases owner : item.2.clientPubkey = other
      · simp [owner, same]
      · simp [owner]
  · intro other
    rw [entries]
    by_cases same : other = clientPubkey
    · simp [same]
    · rw [if_neg same]
      exact indexed.inhabited other

end

theorem Indexed.empty (routes : store.routes.iter = [])
    (capacity : store.routes.cap = max maxRoutes 1)
    (clients : store.clientEventIds = ∅) : store.Indexed maxRoutes [] := by
  refine ⟨routes, capacity, ?_, ?_⟩
  · intro clientPubkey
    rw [eventsOf, clients]
    rfl
  · intro clientPubkey
    rw [clients]
    simp

/-! Registrations of new events. -/

section Register

variable {now : Nat} {eventId clientPubkey : String} {originalRequestId : Json}
  {progressToken : Option String}

/-- The store with a new route in all three maps, before an evicted route is cleaned up. -/
def added (store : RouteStore) (now : Nat) (eventId clientPubkey : String)
    (originalRequestId : Json) (progressToken : Option String) : RouteStore where
  routes := store.routes.put eventId ⟨clientPubkey, originalRequestId, progressToken, now⟩
  progressTokenToEvent := match progressToken with
    | some token => store.progressTokenToEvent.insert token eventId
    | none => store.progressTokenToEvent
  clientEventIds := store.clientEventIds.insert clientPubkey
    (insert eventId (store.eventsOf clientPubkey))

/-- Registering a new event adds its route, and cleans up after the last one of a full store. -/
theorem register_of_absent (absent : store.routes.peek eventId = none) :
    store.register now eventId clientPubkey originalRequestId progressToken =
      match if store.routes.len = store.routes.cap then store.routes.iter.getLast? else none with
      | some item =>
        (store.added now eventId clientPubkey originalRequestId progressToken).cleanupIndexes
          item.1 item.2
      | none => store.added now eventId clientPubkey originalRequestId progressToken := by
  have pushed := push_snd absent ⟨clientPubkey, originalRequestId, progressToken, now⟩
  unfold register
  simp only [pushed]
  cases lost : if store.routes.len = store.routes.cap then store.routes.iter.getLast? else none with
  | none => rfl
  | some item =>
    -- The evicted route is one of the store, and so not the new one.
    have distinct : item.1 ≠ eventId := by
      intro same
      split at lost
      · rw [peek_eq_none_iff] at absent
        exact absent (same ▸ List.mem_map_of_mem (List.mem_of_getLast? lost))
      · cases lost
    simp only [if_pos distinct]
    rfl

/-- A registration adds a route, and cleans up after the one that had to make room, if any. -/
theorem register_cases (store : RouteStore) (now : Nat) (eventId clientPubkey : String)
    (originalRequestId : Json) (progressToken : Option String) :
    let added := store.added now eventId clientPubkey originalRequestId progressToken
    let registered := store.register now eventId clientPubkey originalRequestId progressToken
    (store.routes.victim eventId = none ∧ registered = added) ∨
      ∃ evicted route, store.routes.victim eventId = some evicted ∧
        store.getRoute evicted = some route ∧ registered = added.cleanupIndexes evicted route := by
  intro added registered
  simp only [registered, register, push]
  cases read : store.routes.peek eventId with
  | some replaced =>
    refine .inl ⟨victim_of_held read, ?_⟩
    simp only [ne_eq, not_true_eq_false, if_false]
    rfl
  | none =>
    cases given : store.routes.victim eventId with
    | none => exact .inl ⟨rfl, rfl⟩
    | some evicted =>
      obtain ⟨held, different⟩ := victim_held given
      obtain ⟨route, found⟩ := Option.ne_none_iff_exists'.mp held
      refine .inr ⟨evicted, route, rfl, found, ?_⟩
      simp only [Option.bind_some, found, Option.map_some, if_pos different]
      rfl

theorem eventsOf_added (clients : ∀ clientPubkey, store.eventsOf clientPubkey =
      eventIdsOf live clientPubkey) (other : String) :
    (store.added now eventId clientPubkey originalRequestId progressToken).eventsOf other =
      eventIdsOf ((eventId, ⟨clientPubkey, originalRequestId, progressToken, now⟩) :: live)
        other := by
  by_cases same : other = clientPubkey
  · subst same
    rw [eventIdsOf, List.filter_cons, if_pos (by simp), List.map_cons, List.toFinset_cons,
      ← eventIdsOf, ← clients]
    simp [eventsOf, added]
  · rw [eventIdsOf, List.filter_cons, if_neg (by simpa using Ne.symm same), ← eventIdsOf, ← clients]
    simp [eventsOf, added, AList.lookup_insert_ne same]

theorem inhabited_added
    (inhabited : ∀ clientPubkey, store.clientEventIds.lookup clientPubkey ≠ some ∅)
    (other : String) :
    (store.added now eventId clientPubkey originalRequestId
      progressToken).clientEventIds.lookup other ≠ some ∅ := by
  by_cases same : other = clientPubkey
  · subst same
    simp [added]
  · simpa [added, AList.lookup_insert_ne same] using inhabited other

theorem token_added (token : String) :
    (store.added now eventId clientPubkey originalRequestId
      progressToken).getEventIdByProgressToken token =
        if progressToken = some token then some eventId
        else store.getEventIdByProgressToken token := by
  unfold added getEventIdByProgressToken
  cases progressToken with
  | none => simp
  | some own =>
    by_cases same : token = own
    · subst same
      simp
    · simp [AList.lookup_insert_ne same, Ne.symm same]

/-- The routes after a registration: the new one, and the old ones but the last of a full store. -/
theorem apply_register (distinct : (live.map Prod.fst).Nodup) :
    RouteOperation.apply maxRoutes live
        (.register now eventId clientPubkey originalRequestId progressToken) =
      (eventId, ⟨clientPubkey, originalRequestId, progressToken, now⟩) ::
        if live.length = max maxRoutes 1 then live.dropLast else live := by
  simp only [RouteOperation.apply, RouteOperation.registered, Option.toList_some,
    List.singleton_append, List.cons.injEq, true_and]
  by_cases full : live.length = max maxRoutes 1
  · rw [if_pos full]
    -- A full store has a last route.
    obtain ⟨last, found⟩ : ∃ last, live.getLast? = some last := by
      cases found : live.getLast? with
      | some last => exact ⟨last, rfl⟩
      | none =>
        rw [List.getLast?_eq_none_iff] at found
        simp [found] at full
        omega
    rw [← filter_getLast distinct found]
    apply List.filter_congr
    intro item member
    have same : last = item ↔ item.1 = last.1 := by
      constructor
      · rintro rfl
        rfl
      · intro key
        exact (List.inj_on_of_nodup_map distinct member (List.mem_of_getLast? found) key).symm
    simp [RouteOperation.ends, full, found, same]
  · rw [if_neg full]
    apply List.filter_eq_self.mpr
    intro item _
    simp [RouteOperation.ends, full]

/-- A registration of a new event keeps the index by client as it is to be. -/
theorem Indexed.register (indexed : store.Indexed maxRoutes live)
    (absent : eventId ∉ live.map Prod.fst) :
    (store.register now eventId clientPubkey originalRequestId progressToken).Indexed maxRoutes
      (RouteOperation.apply maxRoutes live
        (.register now eventId clientPubkey originalRequestId progressToken)) := by
  have unread : store.routes.peek eventId = none := by
    rwa [peek_eq_none_iff, indexed.routes]
  have length : store.routes.len = live.length := by rw [← length_iter, indexed.routes]
  have routes := iter_put unread ⟨clientPubkey, originalRequestId, progressToken, now⟩
  rw [length, indexed.capacity, indexed.routes] at routes
  rw [register_of_absent unread, apply_register indexed.distinct, length, indexed.capacity,
    indexed.routes]
  by_cases full : live.length = max maxRoutes 1
  · simp only [if_pos full] at routes ⊢
    cases last : live.getLast? with
    | none =>
      -- There is nothing to give up, and so nothing that was dropped.
      rw [List.getLast?_eq_none_iff] at last
      subst last
      exact ⟨routes, indexed.capacity, eventsOf_added indexed.clients,
        inhabited_added indexed.inhabited⟩
    | some item =>
      -- Before the clean-up, the index is that of the old routes and the new one.
      have distinct : (((eventId, (⟨clientPubkey, originalRequestId, progressToken, now⟩ :
          RouteEntry)) :: live).map Prod.fst).Nodup :=
        List.nodup_cons.mpr ⟨absent, indexed.distinct⟩
      have member := List.mem_of_getLast? last
      have other : item.1 ≠ eventId := fun same => absent (same ▸ List.mem_map_of_mem member)
      refine ⟨routes, indexed.capacity, ?_, ?_⟩
      · intro client
        refine (clients_cleanupIndexes (eventsOf_added indexed.clients) distinct
          (List.mem_cons_of_mem _ member) client).trans ?_
        rw [List.filter_cons, if_pos (by simpa using other.symm),
          filter_getLast indexed.distinct last]
      · exact inhabited_cleanupIndexes (inhabited_added indexed.inhabited) item.1 item.2
  · simp only [if_neg full] at routes ⊢
    exact ⟨routes, indexed.capacity, eventsOf_added indexed.clients,
      inhabited_added indexed.inhabited⟩

theorem Indexed.token_register (indexed : store.Indexed maxRoutes live)
    (absent : eventId ∉ live.map Prod.fst) (token : String) :
    (store.register now eventId clientPubkey originalRequestId
      progressToken).getEventIdByProgressToken token =
        if live.length = max maxRoutes 1 ∧
            ∃ item ∈ live.getLast?, item.2.progressToken = some token then none
        else if progressToken = some token then some eventId
        else store.getEventIdByProgressToken token := by
  have unread : store.routes.peek eventId = none := by
    rwa [peek_eq_none_iff, indexed.routes]
  have length : store.routes.len = live.length := by rw [← length_iter, indexed.routes]
  rw [register_of_absent unread, length, indexed.capacity, indexed.routes]
  by_cases full : live.length = max maxRoutes 1
  · cases last : live.getLast? with
    | none => simp [token_added]
    | some item => simp [token_cleanupIndexes, token_added, full]
  · simp [full, token_added]

end Register

end RouteStore

/-! One operation on the store and on the list. -/

namespace RouteOperation

variable {store : RouteStore} {maxRoutes : Nat} {live : List (String × RouteEntry)}
  {operation : RouteOperation}

/-- Whether the event that an operation registers has no route yet. -/
def Fresh (live : List (String × RouteEntry)) (operation : RouteOperation) : Prop :=
  ∀ item ∈ operation.registered, item.1 ∉ live.map Prod.fst

theorem apply_of_ends (maxRoutes : Nat) (live : List (String × RouteEntry))
    (unregistered : operation.registered = none) :
    operation.apply maxRoutes live =
      live.filter fun item => !operation.ends maxRoutes live item := by
  rw [apply, unregistered]
  rfl

/-- The store and the index by client follow the routes in flight through every operation. -/
theorem indexed_perform (indexed : store.Indexed maxRoutes live) (fresh : operation.Fresh live) :
    (operation.perform store).Indexed maxRoutes (operation.apply maxRoutes live) := by
  cases operation with
  | register now eventId clientPubkey originalRequestId progressToken =>
    exact indexed.register (fresh _ rfl)
  | pop eventId =>
    rw [apply_of_ends _ _ rfl]
    simpa [ends, perform] using indexed.pop eventId
  | removeForClient clientPubkey =>
    rw [apply_of_ends _ _ rfl]
    simpa [ends, perform] using indexed.removeForClient clientPubkey
  | sweepStaleRoutes now timeout =>
    have swept := indexed.foldl_pop (store.staleKeys now timeout)
    -- The stale keys are those of the stale routes, since no two routes share one.
    have marks : (live.filter fun item => item.1 ∉ store.staleKeys now timeout) =
        (RouteOperation.sweepStaleRoutes now timeout).apply maxRoutes live := by
      apply List.filter_congr
      intro item member
      rw [ends, decide_not]
      exact congrArg _ (decide_eq_decide.mpr (indexed.mem_staleKeys member now timeout))
    rw [marks] at swept
    exact swept
  | clear =>
    rw [apply_of_ends _ _ rfl]
    simp only [ends, Bool.not_true, List.filter_false]
    exact .empty rfl indexed.capacity rfl

/-- After an operation, the tokens of the routes it ended are indexed no more. -/
theorem token_perform (exact : store.Exact maxRoutes live) (fresh : operation.Fresh live)
    (token : String) :
    (operation.perform store).getEventIdByProgressToken token =
      if ∃ item ∈ live, operation.ends maxRoutes live item = true ∧
        item.2.progressToken = some token then none
      else (latestWith operation.registered.toList token).or (latestWith live token) := by
  rw [← exact.tokens]
  cases operation with
  | register now eventId clientPubkey originalRequestId progressToken =>
    rw [perform, exact.token_register (fresh _ rfl)]
    -- The route that a registration ends is the last one of a full store.
    have evicted : (live.length = max maxRoutes 1 ∧
          ∃ item ∈ live.getLast?, item.2.progressToken = some token) ↔
        ∃ item ∈ live, ends maxRoutes live item
          (.register now eventId clientPubkey originalRequestId progressToken) = true ∧
          item.2.progressToken = some token := by
      simp only [ends, decide_eq_true_eq]
      constructor
      · rintro ⟨full, item, last, carried⟩
        exact ⟨item, List.mem_of_getLast? last, ⟨full, last⟩, carried⟩
      · rintro ⟨item, -, ⟨full, last⟩, carried⟩
        exact ⟨full, item, last, carried⟩
    simp only [evicted]
    congr 1
    by_cases own : progressToken = some token
    · simp [latestWith, registered, own]
    · simp [latestWith, registered, own]
  | pop eventId =>
    rw [← exact.routes]
    exact (store.pop_drops eventId).tokens token
  | removeForClient clientPubkey =>
    have drops := exact.removeForClient_drops clientPubkey
    rw [← exact.routes]
    exact drops.tokens token
  | sweepStaleRoutes now timeout =>
    have drops := RouteStore.foldl_drops RouteStore.pop_drops (store.staleKeys now timeout) store
    rw [← exact.routes]
    refine (drops.congr ?_).tokens token
    intro item member
    exact decide_eq_decide.mpr (exact.mem_staleKeys (exact.routes ▸ member) now timeout)
  | clear =>
    -- A token that no route carries was not indexed before either.
    split
    · rfl
    · rename_i uncarried
      rw [exact.tokens]
      refine (Option.map_eq_none_iff.mpr (List.find?_eq_none.mpr ?_)).symm
      intro item member carried
      exact uncarried ⟨item, member, rfl, by simpa using carried⟩

theorem latestWith_append (newer older : List (String × RouteEntry)) (token : String) :
    latestWith (newer ++ older) token = (latestWith newer token).or (latestWith older token) := by
  rw [latestWith, List.find?_append, Option.map_or]
  rfl

theorem latestWith_eq_none {token : String} :
    latestWith live token = none ↔ ∀ item ∈ live, item.2.progressToken ≠ some token := by
  simp [latestWith]

theorem latestWith_filter {kept : String × RouteEntry → Bool} {token : String}
    (carriers : ∀ item ∈ live, item.2.progressToken = some token → kept item = true) :
    latestWith (live.filter kept) token = latestWith live token := by
  -- The route found is the first of those that carry the token, and all of these are kept.
  rw [latestWith, latestWith, ← List.head?_filter, ← List.head?_filter, List.filter_filter]
  congr 2
  apply List.filter_congr
  intro item member
  by_cases carried : item.2.progressToken = some token
  · simp [carried, carriers item member carried]
  · simp [carried]

/-- An operation keeps the indexes exact when it strands no token. -/
theorem exact_perform_iff (exact : store.Exact maxRoutes live) (fresh : operation.Fresh live) :
    (operation.perform store).Exact maxRoutes (operation.apply maxRoutes live) ↔
      ¬ operation.StrandsToken maxRoutes live := by
  have indexed := indexed_perform exact.toIndexed fresh
  constructor
  · rintro after ⟨ended, member, ends, kept, left, token, carried, still⟩
    -- The token is indexed no more, although the route that is left carries it.
    have gone := token_perform exact fresh token
    rw [if_pos ⟨ended, member, ends, carried⟩, after.tokens, latestWith_eq_none] at gone
    exact gone kept left still
  · intro careful
    refine ⟨indexed, indexed.bounded, ?_⟩
    intro token
    rw [token_perform exact fresh token]
    split
    · -- The token has gone with its routes.
      rename_i stranding
      obtain ⟨ended, member, ends, carried⟩ := stranding
      refine (latestWith_eq_none.mpr ?_).symm
      intro kept left still
      exact careful ⟨ended, member, ends, kept, left, token, carried, still⟩
    · -- Every route that carries the token is left.
      rename_i uncarried
      rw [apply, latestWith_append, latestWith_filter]
      intro item member carried
      rw [Bool.not_eq_true', Bool.eq_false_iff]
      exact fun ends => uncarried ⟨item, member, ends, carried⟩

/-! Whole sequences of operations. -/

theorem mem_liveAfter {operations : List RouteOperation} {item : String × RouteEntry}
    (member : item ∈ liveAfter maxRoutes operations) :
    item ∈ operations.filterMap registered := by
  -- From operation to operation, a route was there before or is the registered one.
  induction operations using List.reverseRecOn with
  | nil => cases member
  | append_singleton earlier operation ih =>
    rw [liveAfter, List.foldl_append] at member
    rw [List.filterMap_append]
    rcases List.mem_append.mp member with new | old
    · exact List.mem_append_right _ (by simpa [eq_comm] using new)
    · exact List.mem_append_left _ (ih (List.mem_filter.mp old).1)

theorem fresh_of_nodup {earlier : List RouteOperation}
    (distinct : (((earlier ++ [operation]).filterMap registered).map Prod.fst).Nodup) :
    operation.Fresh (liveAfter maxRoutes earlier) := by
  intro item begun present
  obtain ⟨old, member, same⟩ := List.mem_map.mp present
  rw [List.filterMap_append, List.map_append, List.nodup_append] at distinct
  exact distinct.2.2 old.1 (List.mem_map_of_mem (mem_liveAfter member)) item.1
    (List.mem_map_of_mem (List.mem_filterMap.mpr ⟨operation, by simp, begun⟩)) same

/--
The indexes of the store are exact after every operation just when none strands a token.

Whatever the capacity and the operations, as long as no event is registered twice.
-/
theorem exact_iff_not_strandsToken (maxRoutes : Nat) (operations : List RouteOperation)
    (distinct : ((operations.filterMap registered).map Prod.fst).Nodup) :
    (∀ done, done <+: operations →
        (replay maxRoutes done).Exact maxRoutes (liveAfter maxRoutes done)) ↔
      ∀ done operation, done ++ [operation] <+: operations →
        ¬ operation.StrandsToken maxRoutes (liveAfter maxRoutes done) := by
  -- One operation more, on a store that was exact before it.
  have step (done : List RouteOperation) (operation : RouteOperation)
      (part : done ++ [operation] <+: operations)
      (before : (replay maxRoutes done).Exact maxRoutes (liveAfter maxRoutes done)) :
      (replay maxRoutes (done ++ [operation])).Exact maxRoutes
          (liveAfter maxRoutes (done ++ [operation])) ↔
        ¬ operation.StrandsToken maxRoutes (liveAfter maxRoutes done) := by
    have fresh : operation.Fresh (liveAfter maxRoutes done) :=
      fresh_of_nodup (distinct.sublist ((part.sublist.filterMap registered).map Prod.fst))
    simp only [replay, liveAfter, List.foldl_append, List.foldl_cons, List.foldl_nil] at before ⊢
    exact exact_perform_iff before fresh
  constructor
  · intro exact done operation part
    have front : done <+: operations := (List.prefix_append done [operation]).trans part
    exact (step done operation part (exact done front)).mp (exact _ part)
  · intro careful done part
    induction done using List.reverseRecOn with
    | nil => exact ⟨.empty rfl rfl rfl, Nat.zero_le _, fun _ => rfl⟩
    | append_singleton earlier operation ih =>
      have front : earlier <+: operations := (List.prefix_append earlier [operation]).trans part
      exact (step earlier operation part (ih front)).mpr (careful earlier operation part)

/-- Two clients number their progress tokens from zero, and the first one is answered. -/
def sharedTokenOperations : List RouteOperation :=
  [.register 0 "e1" "alice" (.number (.posInt 1)) (some "0"),
    .register 1 "e2" "bob" (.number (.posInt 1)) (some "0"), .pop "e1"]

/-- Two requests of one client with tokens of their own. -/
def ownTokenOperations : List RouteOperation :=
  [.register 0 "e1" "alice" (.number (.posInt 1)) (some "0"),
    .register 1 "e2" "alice" (.number (.posInt 2)) (some "1")]

/-- In a store of one route, the first request makes room for the second, and nothing is lost. -/
theorem exact_iff_not_strandsToken_evicting :
    ((ownTokenOperations.filterMap registered).map Prod.fst).Nodup ∧
      (liveAfter 1 ownTokenOperations).map Prod.fst = ["e2"] ∧
      ∀ done, done <+: ownTokenOperations → (replay 1 done).Exact 1 (liveAfter 1 done) := by
  refine ⟨by decide, by decide, (exact_iff_not_strandsToken 1 _ (by decide)).mpr ?_⟩
  rintro done operation part ⟨ended, member, -, kept, left, token, carried, still⟩
  cases done with
  | nil => cases member
  | cons first rest =>
    obtain ⟨rfl, later⟩ := List.cons_prefix_cons.mp part
    cases rest with
    | nil =>
      obtain ⟨rfl, -⟩ := List.cons_prefix_cons.mp later
      -- The route that ends carries the first token, and the one that is left the second.
      have first : ended.2.progressToken = some "0" := by
        clear carried
        revert ended
        decide
      have second : kept.2.progressToken = some "1" := by
        clear still
        revert kept
        decide
      rw [first] at carried
      rw [second, ← carried] at still
      simp at still
    | cons second more =>
      have short := later.length_le
      simp at short

/-- The answer to the first client takes the token of the second one out of the index. -/
theorem pop_strands_sharedToken :
    ((sharedTokenOperations.filterMap registered).map Prod.fst).Nodup ∧
      (liveAfter 10 sharedTokenOperations).map Prod.fst = ["e2"] ∧
      latestWith (liveAfter 10 sharedTokenOperations) "0" = some "e2" ∧
      (replay 10 sharedTokenOperations).getEventIdByProgressToken "0" = none := by
  decide

end RouteOperation

end ContextVm
