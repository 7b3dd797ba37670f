import ContextVm.Transport.RequestLife
import ContextVm.Transport.RouteIndex
import ContextVm.Transport.StreamSlots

/-! What is left of the requests of a server once they have ended. -/

namespace ContextVm

open ClientSession LifeSetting RouteStore ServerOpenStreamState

/-! When a step leaves nothing behind. -/

/-- Whether a session keeps anything for a request that asks for progress under a token. -/
def ClientSession.keeps (session : ClientSession) (eventId : String) (token : Option String) :
    Bool :=
  (session.pendingRequests.lookup eventId).isSome ∨
    (session.eventToProgressToken.lookup eventId).isSome ∨
    token.any fun token => session.pendingRequests.lookup token = some (.string eventId)

/-- Whether the session of its client keeps anything for a request. -/
def SessionStore.keeps (setting : LifeSetting) (store : SessionStore) (eventId : String) : Bool :=
  (setting.authorOf eventId).any fun author =>
    (store.sessions.peek author).any fun session => session.keeps eventId (setting.tokenOf eventId)

namespace Desk

/-- Whether the session of its client keeps anything for a request. -/
def sessionKeeps (setting : LifeSetting) (desk : Desk) (eventId : String) : Bool :=
  desk.serving.server.sessions.keeps setting eventId

/-- Whether a request has a slot without a response that waits for the end of the stream. -/
def slotStays (desk : Desk) (eventId : String) : Bool :=
  (desk.openStream.slots.lookup eventId).any fun slot => slot.pendingResponse = none

/-- Whether a response to a request is being published. -/
def isAnswering (desk : Desk) (eventId : String) : Bool :=
  desk.serving.answering.any fun item => item.1 = eventId

/-- Whether a request has a wrap kind. -/
def hasKind (desk : Desk) (eventId : String) : Bool :=
  (desk.serving.server.held.requestWrapKinds.lookup eventId).isSome

/-- Whether a request has a route. -/
def hasRoute (desk : Desk) (eventId : String) : Bool :=
  (desk.serving.server.held.eventRoutes.getRoute eventId).isSome

/-- Whether what is held for a request goes with its route, and the route is that of its arrival. -/
def grounded (desk : Desk) (eventId : String) : Bool :=
  (desk.hasKind eventId = true → desk.hasRoute eventId = true) ∧
    (desk.serving.server.held.eventRoutes.getRoute eventId).all fun route =>
      desk.log.arrivals.any fun item => item.1 = eventId ∧ route.registeredAt ≤ item.2

/-- Whether nothing is kept for a request but perhaps its route. -/
def spent (setting : LifeSetting) (desk : Desk) (eventId : String) : Bool :=
  desk.sessionKeeps setting eventId = false ∧ desk.slotStays eventId = false ∧
    desk.hasKind eventId = false

/--
Whether a step that ends requests leaves nothing behind that nothing else removes.

A request that its session keeps something for must end by an ordinary response, or with the
session. One that has a slot must not end before its response, unless the slot goes with it. A route
must not be evicted while anything else is kept. And nothing may come in between when a response is
sent: the event does not come in again, and its request does not end in another way.
-/
def tidies (setting : LifeSetting) (desk : Desk) : DeskAction → Bool
  | .receive now event => desk.serving.server.tracks setting.config now event = true →
      desk.isAnswering event.eventId = false ∧
        ∀ eventId ∈ desk.evicted event.eventId, desk.spent setting eventId = true
  | .restore _ item => ∀ eventId ∈ desk.evicted item.1, desk.spent setting eventId = true
  | .leave run => run.2 = .dropped →
      desk.sessionKeeps setting run.1 = false ∧ desk.isAnswering run.1 = false ∧
        desk.grounded run.1 = true ∧
        -- The last run takes the slot with it, if none got to the handler.
        (desk.slotStays run.1 = true → (desk.openStream.slots.lookup run.1).any fun slot =>
          slot.liveChains ≤ 1 ∧ slot.forwarded = false)
  | .respond eventId response published =>
      match (desk.defer setting eventId response).1 with
      | .sendNow _ => published = true → desk.sessionKeeps setting eventId = false
      | _ => true
  | .correlate item published =>
      (desk.hasRoute item.1 = true →
        item.1 ∉ desk.log.ended ∧ desk.openStream.slots.lookup item.1 = none) ∧
      -- Without a route, the response goes out by the snapshot of a payment.
      (desk.hasRoute item.1 = false → item.2.isSome = true → published = true →
        desk.spent setting item.1 = true ∧ desk.isAnswering item.1 = false)
  | .endStream eventId =>
      ((desk.openStream.slots.lookup eventId).bind (·.pendingResponse)).isSome = true →
        desk.sessionKeeps setting eventId = false
  | .cleanupSessions now timeout => ∀ eventId ∈ desk.popped now timeout,
      ((setting.authorOf eventId).any
          (· ∈ desk.serving.server.sessions.expiredKeys now timeout) = true ∨
        desk.sessionKeeps setting eventId = false) ∧ desk.slotStays eventId = false
  | .sweepStaleRoutes now =>
      ∀ eventId ∈ desk.serving.server.held.eventRoutes.staleKeys now setting.requestTimeout,
        desk.sessionKeeps setting eventId = false ∧ desk.slotStays eventId = false
  | _ => true

end Desk

/-! The log. -/

namespace RequestLog

variable {log : RequestLog} {eventId : String}

/-- Finished requests are no longer open. -/
theorem open_finish {eventIds : List String} :
    (log.finish eventIds).Open eventId ↔ log.Open eventId ∧ eventId ∉ eventIds := by
  simp only [Open, finish, List.mem_append]
  tauto

/-- A request that arrives is open. -/
theorem open_arrive {now : Nat} {other : String} :
    (log.arrive now other).Open eventId ↔ eventId = other ∨ log.Open eventId := by
  simp only [Open, arrive, List.map_cons, List.mem_cons, List.mem_filter, decide_eq_true_eq]
  tauto

end RequestLog

/-! What every entry belongs to. -/

/-- The entries of a session are for open requests of its client. -/
structure ClientSession.Covered (setting : LifeSetting) (log : RequestLog) (client : String)
    (session : ClientSession) : Prop where
  pending : ∀ key value, session.pendingRequests.lookup key = some value →
    (log.Open key ∧ setting.authorOf key = some client) ∨
      ∃ eventId, value = .string eventId ∧ setting.tokenOf eventId = some key ∧
        log.Open eventId ∧ setting.authorOf eventId = some client
  tokens : ∀ key token, session.eventToProgressToken.lookup key = some token →
    log.Open key ∧ setting.authorOf key = some client

/-- A route is that of a request: it leads to the author, and has the token. -/
structure RouteEntry.Of (setting : LifeSetting) (eventId : String) (route : RouteEntry) : Prop where
  author : setting.authorOf eventId = some route.clientPubkey
  token : route.progressToken = setting.tokenOf eventId

/-- Whatever the indexes of a store lead to has a route. -/
structure RouteStore.Live (store : RouteStore) : Prop where
  tokens : ∀ token eventId, store.getEventIdByProgressToken token = some eventId →
    ∃ route, store.getRoute eventId = some route ∧ route.progressToken = some token
  clients : ∀ client eventId, eventId ∈ store.eventsOf client →
    ∃ route, store.getRoute eventId = some route ∧ route.clientPubkey = client

/--
Routes and wrap kinds belong to requests, some of which have no slot.

A route is as old as its request, so that a sweep takes it, or else the request is open. A wrap kind
goes with a route, or else the request is open.
-/
structure Correlation.Covered (setting : LifeSetting) (log : RequestLog) (bare : String → Prop)
    (held : Correlation) : Prop where
  own : ∀ eventId route, held.eventRoutes.getRoute eventId = some route → route.Of setting eventId
  dated : ∀ eventId route, held.eventRoutes.getRoute eventId = some route →
    (∃ arrival ≥ route.registeredAt, (eventId, arrival) ∈ log.arrivals) ∨
      (log.Open eventId ∧ bare eventId)
  unswept : ∀ eventId route, held.eventRoutes.getRoute eventId = some route →
    ∀ time ∈ log.sweeps,
      time < route.registeredAt + setting.requestTimeout ∨ time ≤ route.registeredAt
  indexes : held.eventRoutes.Live
  kinds : ∀ eventId kind, held.requestWrapKinds.lookup eventId = some kind →
    (held.eventRoutes.getRoute eventId).isSome = true ∨ (log.Open eventId ∧ bare eventId)

/-- What is held for a request needs it not to be open: the route is dated, as is the wrap kind. -/
structure Correlation.Grounded (log : RequestLog) (held : Correlation) (eventId : String) :
    Prop where
  dated : ∀ route, held.eventRoutes.getRoute eventId = some route →
    ∃ arrival ≥ route.registeredAt, (eventId, arrival) ∈ log.arrivals
  kinds : ∀ kind, held.requestWrapKinds.lookup eventId = some kind →
    (held.eventRoutes.getRoute eventId).isSome = true

/-- Slots belong to open requests, or have a response that waits for the end of a stream. -/
structure ServerOpenStreamState.Covered (log : RequestLog) (streams : ServerOpenStreamState) :
    Prop where
  slots : ∀ eventId slot, streams.slots.lookup eventId = some slot →
    log.Open eventId ∨ slot.pendingResponse.isSome = true
  waiting : ∀ eventId slot, streams.slots.lookup eventId = some slot →
    slot.pendingResponse.isSome = true → slot.hasStarted = true ∧ slot.terminated = false
  tokens : ∀ key eventId, streams.tokenToEvent.lookup key = some eventId →
    ∃ slot, streams.slots.lookup eventId = some slot ∧
      key = ServerOpenStreamState.clientTokenKey slot.snapshot.clientPubkey slot.progressToken

/-- Everything a server keeps for requests belongs to requests. -/
structure Desk.Covered (setting : LifeSetting) (desk : Desk) : Prop where
  sessions : desk.serving.server.sessions.All (ClientSession.Covered setting desk.log)
  held : desk.serving.server.held.Covered setting desk.log
    fun eventId => desk.openStream.slots.lookup eventId = none
  streams : desk.openStream.Covered desk.log
  -- A request whose response is being published has neither a route nor a slot.
  answering : ∀ item ∈ desk.serving.answering, desk.log.Open item.1 ∧
    desk.serving.server.held.eventRoutes.getRoute item.1 = none ∧
    desk.openStream.slots.lookup item.1 = none ∧ item.2.Of setting item.1
  distinct : (desk.serving.answering.map Prod.fst).Nodup
  clock : ∀ time ∈ desk.log.sweeps, time ≤ desk.log.clock

/-! Sessions. -/

namespace ClientSession

variable {setting : LifeSetting} {log later : RequestLog} {client : String}
  {session : ClientSession}

section

variable (covered : session.Covered setting log client)
include covered

/-- A session is covered by any log with the same requests open. -/
theorem Covered.mono (still : ∀ eventId, log.Open eventId → later.Open eventId) :
    session.Covered setting later client := by
  refine ⟨?_, ?_⟩
  · intro key value read
    rcases covered.pending key value read with ⟨live, own⟩ | ⟨eventId, named, token, live, own⟩
    · exact .inl ⟨still key live, own⟩
    · exact .inr ⟨eventId, named, token, still eventId live, own⟩
  · intro key token read
    obtain ⟨live, own⟩ := covered.tokens key token read
    exact ⟨still key live, own⟩

/-- Requests that the session does not keep may end. -/
theorem Covered.finish {eventIds : List String}
    (unkept : ∀ eventId ∈ eventIds, setting.authorOf eventId = some client →
      session.keeps eventId (setting.tokenOf eventId) = false) :
    session.Covered setting (log.finish eventIds) client := by
  -- Whatever is kept for a request says that it has not ended.
  have stays {eventId : String} (live : log.Open eventId)
      (own : setting.authorOf eventId = some client)
      (kept : session.keeps eventId (setting.tokenOf eventId) = true) :
      (log.finish eventIds).Open eventId := by
    refine RequestLog.open_finish.mpr ⟨live, fun member => ?_⟩
    simp [unkept eventId member own] at kept
  refine ⟨?_, ?_⟩
  · intro key value read
    rcases covered.pending key value read with ⟨live, own⟩ | ⟨eventId, named, token, live, own⟩
    · exact .inl ⟨stays live own (by simp [keeps, read]), own⟩
    · refine .inr ⟨eventId, named, token, stays live own ?_, own⟩
      simp [keeps, token, read, named]
  · intro key token read
    obtain ⟨live, own⟩ := covered.tokens key token read
    exact ⟨stays live own (by simp [keeps, read]), own⟩

/-- An open request may be kept. -/
theorem Covered.pend {eventId : String} {request : JsonRpcRequest} (live : log.Open eventId)
    (own : setting.commits eventId = some (client, .request request)) :
    (ServerState.pend setting.config.primitives.serde eventId request session).Covered setting log
      client := by
  have author : setting.authorOf eventId = some client := by simp [authorOf, own]
  have tracked : setting.tokenOf eventId =
      Correlation.requestProgressToken setting.config.primitives.serde request := by
    simp [tokenOf, own, ServerConfig.trackedToken]
  refine ⟨?_, ?_⟩
  · intro key value read
    rcases ServerState.lookup_pend read with old | same | ⟨asked, named⟩
    · exact covered.pending key value old
    · exact .inl ⟨same ▸ live, same ▸ author⟩
    · exact .inr ⟨eventId, named, tracked.trans asked, live, author⟩
  · intro key token read
    rcases ServerState.lookup_pend_token read with old | same
    · exact covered.tokens key token old
    · exact ⟨same ▸ live, same ▸ author⟩

/-- A session may forget a request. -/
theorem Covered.settled (eventId : String)
    (token : Option String) : (session.settled eventId token).Covered setting log client :=
  ⟨fun key value read => covered.pending key value (lookup_settled read),
    fun key token read => covered.tokens key token (lookup_of_erase read)⟩

end

/-- It then keeps nothing of it. -/
theorem keeps_settled (session : ClientSession) (eventId : String) (token : Option String) :
    (session.settled eventId token).keeps eventId token = false := by
  cases token with
  | none => simp [keeps, settled]
  | some token =>
    by_cases same : token = eventId
    · subst same
      simp [keeps, settled]
    · simp [keeps, settled, AList.lookup_erase_ne same]

end ClientSession

/-! Routes and wrap kinds. -/

namespace RouteStore

variable {store : RouteStore}

/-- Removing a route takes it out of both indexes. -/
theorem Live.pop (live : store.Live) (eventId : String) : (store.pop eventId).2.Live := by
  refine ⟨?_, ?_⟩
  · intro token other read
    have drops := pop_drops store eventId
    rw [drops.tokens] at read
    split at read
    · cases read
    · rename_i spared
      obtain ⟨route, found, carried⟩ := live.tokens token other read
      refine ⟨route, ?_, carried⟩
      rw [getRoute_pop, if_neg]
      · exact found
      · -- The token would be gone with the route.
        intro same
        exact spared ⟨_, (Lru.peek_eq_some_iff _ _ _).mp found, decide_eq_true same, carried⟩
  · intro client other member
    cases held : store.routes.peek eventId with
    | none =>
      have same : (store.pop eventId).2 = store := by
        unfold RouteStore.pop
        rw [held]
      rw [same] at member ⊢
      exact live.clients client other member
    | some route =>
      have same : (store.pop eventId).2.eventsOf client =
          if client = route.clientPubkey then (store.eventsOf client).erase eventId
          else store.eventsOf client := by
        unfold RouteStore.pop
        rw [held]
        exact eventsOf_cleanupIndexes _ eventId route client
      rw [same] at member
      rw [getRoute_pop]
      split at member
      · obtain ⟨different, inside⟩ := Finset.mem_erase.mp member
        rw [if_neg different]
        exact live.clients client other inside
      · rename_i foreign
        obtain ⟨entry, found, owner⟩ := live.clients client other member
        refine ⟨entry, ?_, owner⟩
        rw [if_neg]
        · exact found
        · rintro rfl
          rw [show entry = route from Option.some.inj (found.symm.trans held)] at owner
          exact foreign owner.symm

/-- Removals keep the indexes live. -/
theorem Live.foldl_pop (live : store.Live) (eventIds : List String) :
    (eventIds.foldl (fun store eventId => (store.pop eventId).2) store).Live := by
  induction eventIds generalizing store with
  | nil => exact live
  | cons first rest ih => exact ih (live.pop first)

section Register

variable {eventId clientPubkey : String} {progressToken : Option String}

section

variable (live : store.Live)
  (same : ∀ route, store.getRoute eventId = some route →
    route.clientPubkey = clientPubkey ∧ route.progressToken = progressToken)
  (now : Nat) (originalRequestId : Json)
include live same now originalRequestId

/-- Before anything is cleaned up, an index leads to the new route or to an old one. -/
theorem Live.added :
    let added := store.added now eventId clientPubkey originalRequestId progressToken
    (∀ token other, added.getEventIdByProgressToken token = some other →
      (other = eventId ∧ progressToken = some token) ∨
        (other ≠ eventId ∧
          ∃ route, store.getRoute other = some route ∧ route.progressToken = some token)) ∧
      ∀ client other, other ∈ added.eventsOf client →
        (other = eventId ∧ clientPubkey = client) ∨
          (other ≠ eventId ∧
            ∃ route, store.getRoute other = some route ∧ route.clientPubkey = client) := by
  refine ⟨?_, ?_⟩
  · intro token other read
    rw [token_added] at read
    split at read
    · grind
    · obtain ⟨route, found, carried⟩ := live.tokens token other read
      by_cases own : other = eventId
      · grind
      · exact .inr ⟨own, route, found, carried⟩
  · intro client other member
    have inside : (other = eventId ∧ clientPubkey = client) ∨ other ∈ store.eventsOf client := by
      by_cases owner : client = clientPubkey
      · subst owner
        simp only [eventsOf, added, AList.lookup_insert, Option.getD_some] at member
        rcases Finset.mem_insert.mp member with new | old
        · exact .inl ⟨new, rfl⟩
        · exact .inr old
      · right
        simpa [eventsOf, RouteStore.added, AList.lookup_insert_ne owner] using member
    rcases inside with new | old
    · exact .inl new
    · obtain ⟨route, found, owner⟩ := live.clients client other old
      by_cases own : other = eventId
      · grind
      · exact .inr ⟨own, route, found, owner⟩

/-- A new route is found by both indexes, if an earlier one of the event was the same to them. -/
theorem Live.register :
    (store.register now eventId clientPubkey originalRequestId progressToken).Live := by
  obtain ⟨tokens, clients⟩ := live.added same now originalRequestId
  have new {other : String} (own : other = eventId) :
      (store.register now eventId clientPubkey originalRequestId progressToken).getRoute other =
        some ⟨clientPubkey, originalRequestId, progressToken, now⟩ := by
    rw [getRoute_register, if_pos own]
  have old {other : String} {route : RouteEntry} (different : other ≠ eventId)
      (found : store.getRoute other = some route)
      (spared : store.routes.victim eventId ≠ some other) :
      (store.register now eventId clientPubkey originalRequestId progressToken).getRoute other =
        some route := by
    rw [getRoute_register, if_neg different, if_neg spared, found]
  rcases register_cases store now eventId clientPubkey originalRequestId progressToken with
    ⟨roomy, added⟩ | ⟨evicted, lost, given, held, cleaned⟩
  · refine ⟨?_, ?_⟩
    · grind
    · grind
  · -- Any route but the evicted one is still there.
    have spared {other : String} {route : RouteEntry} (found : store.getRoute other = some route)
        (unlike : route ≠ lost) : store.routes.victim eventId ≠ some other := by grind
    refine ⟨?_, ?_⟩
    · intro token other read
      rw [cleaned, token_cleanupIndexes] at read
      split at read
      · cases read
      · rename_i unlike
        rcases tokens token other read with ⟨own, carried⟩ | ⟨different, route, found, carried⟩
        · exact ⟨_, new own, carried⟩
        · refine ⟨route, old different found (spared found ?_), carried⟩
          rintro rfl
          exact unlike carried
    · intro client other member
      rw [cleaned, eventsOf_cleanupIndexes] at member
      split at member
      · grind
      · rename_i foreign
        rcases clients client other member with ⟨own, owner⟩ | ⟨different, route, found, owner⟩
        · exact ⟨_, new own, owner⟩
        · grind

end

end Register

end RouteStore

namespace Correlation

variable {setting : LifeSetting} {log later : RequestLog} {bare plain : String → Prop}
  {held after : Correlation}
variable {eventId : String}

/-- What only drops routes and wrap kinds together stays covered. -/
theorem Covered.thin (covered : held.Covered setting log bare)
    (routes : ∀ eventId route, after.eventRoutes.getRoute eventId = some route →
      held.eventRoutes.getRoute eventId = some route)
    (indexes : after.eventRoutes.Live)
    (kinds : ∀ eventId kind, after.requestWrapKinds.lookup eventId = some kind →
      held.requestWrapKinds.lookup eventId = some kind ∧
        ((held.eventRoutes.getRoute eventId).isSome = true →
          (after.eventRoutes.getRoute eventId).isSome = true ∨
            (log.Open eventId ∧ bare eventId))) : after.Covered setting log bare where
  own eventId route found := covered.own eventId route (routes eventId route found)
  dated eventId route found := covered.dated eventId route (routes eventId route found)
  unswept eventId route found := covered.unswept eventId route (routes eventId route found)
  indexes := indexes
  kinds eventId kind read := by
    obtain ⟨known, routed⟩ := kinds eventId kind read
    rcases covered.kinds eventId kind known with found | live
    · exact routed found
    · exact .inr live

/-- Routes may be dropped with their wrap kinds. -/
theorem Covered.forget (covered : held.Covered setting log bare) (eventIds : List String) :
    ((held.popRoutes eventIds).forgetKinds eventIds).Covered setting log bare := by
  apply covered.thin
  · intro eventId route found
    change (held.popRoutes eventIds).eventRoutes.getRoute eventId = some route at found
    rw [getRoute_popRoutes] at found
    split at found
    · cases found
    · exact found
  · exact covered.indexes.foldl_pop eventIds
  · intro eventId kind read
    rw [lookup_forgetKinds] at read
    split at read
    · cases read
    · rename_i other
      refine ⟨read, fun routed => .inl ?_⟩
      show ((held.popRoutes eventIds).eventRoutes.getRoute eventId).isSome = true
      rwa [getRoute_popRoutes, if_neg other]

section

variable (covered : held.Covered setting log bare)
include covered

/-- A route may be released. -/
theorem Covered.release (eventId : String) : (held.release eventId).Covered setting log bare := by
  grind [release, Covered.forget]

/-- Whatever was justified by an open request needs another reason when the request ends. -/
theorem Covered.relog (arrivals : log.arrivals ⊆ later.arrivals)
    (unswept : ∀ eventId route, held.eventRoutes.getRoute eventId = some route →
      ∀ time ∈ later.sweeps,
        time < route.registeredAt + setting.requestTimeout ∨ time ≤ route.registeredAt)
    (still : ∀ eventId, log.Open eventId → bare eventId →
      (later.Open eventId ∧ plain eventId) ∨ held.Grounded later eventId) :
    held.Covered setting later plain where
  own := covered.own
  dated eventId route found := by
    rcases covered.dated eventId route found with ⟨arrival, late, member⟩ | ⟨live, without⟩
    · exact .inl ⟨arrival, late, arrivals member⟩
    · rcases still eventId live without with kept | grounded
      · exact .inr kept
      · exact .inl (grounded.dated route found)
  unswept := unswept
  indexes := covered.indexes
  kinds eventId kind read := by
    rcases covered.kinds eventId kind read with routed | ⟨live, without⟩
    · exact .inl routed
    · rcases still eventId live without with kept | grounded
      · exact .inr kept
      · exact .inl (grounded.kinds kind read)

/-- What is held for a request with a slot is grounded. -/
theorem Covered.grounded (slotted : ¬ bare eventId) : held.Grounded log eventId where
  dated route found := (covered.dated eventId route found).resolve_right fun live => slotted live.2
  kinds kind read := (covered.kinds eventId kind read).resolve_right fun live => slotted live.2

end

/-- So is what is held for none. -/
theorem Grounded.of_absent (unrouted : held.eventRoutes.getRoute eventId = none)
    (forgotten : held.requestWrapKinds.lookup eventId = none) : held.Grounded log eventId where
  dated route found := by
    simp [unrouted] at found
  kinds kind read := by
    simp [forgotten] at read

/-- A new route of a request is covered, if the evicted one leaves no wrap kind. -/
theorem Covered.register (covered : held.Covered setting log bare) {now : Nat} {author : String}
    (own : setting.authorOf eventId = some author)
    (forgotten : ∀ evicted, held.eventRoutes.routes.victim eventId = some evicted →
      held.requestWrapKinds.lookup evicted = none)
    (dated : (∃ arrival ≥ now, (eventId, arrival) ∈ log.arrivals) ∨
      (log.Open eventId ∧ bare eventId))
    (later : ∀ time ∈ log.sweeps, time ≤ now) (original : Json) :
    Covered setting log bare { held with
      eventRoutes :=
        held.eventRoutes.register now eventId author original (setting.tokenOf eventId) } := by
  -- What is read is the new route, or one from before.
  have read {other : String} {route : RouteEntry}
      (found : (held.eventRoutes.register now eventId author original
        (setting.tokenOf eventId)).getRoute other = some route) :
      (other = eventId ∧ route = ⟨author, original, setting.tokenOf eventId, now⟩) ∨
        held.eventRoutes.getRoute other = some route := by
    grind [getRoute_register, Option.some.inj]
  refine ⟨?_, ?_, ?_, ?_, ?_⟩
  · intro other route found
    rcases read found with ⟨rfl, rfl⟩ | old
    · exact ⟨own, rfl⟩
    · exact covered.own other route old
  · intro other route found
    rcases read found with ⟨rfl, rfl⟩ | old
    · exact dated
    · exact covered.dated other route old
  · intro other route found time member
    rcases read found with ⟨rfl, rfl⟩ | old
    · exact .inr (later time member)
    · exact covered.unswept other route old time member
  · apply covered.indexes.register
    intro route found
    have known := covered.own eventId route found
    exact ⟨Option.some.inj (known.author.symm.trans own), known.token⟩
  · intro other kind known
    rcases covered.kinds other kind known with routed | live
    · left
      rw [getRoute_register]
      split
      · rfl
      · grind
    · exact .inr live

/-- A routed request may have a wrap kind. -/
theorem Covered.insertKind (covered : held.Covered setting log bare)
    (routed : (held.eventRoutes.getRoute eventId).isSome = true) (kind : Option Nat) :
    Covered setting log bare
      { held with requestWrapKinds := held.requestWrapKinds.insert eventId kind } := by
  refine ⟨covered.own, covered.dated, covered.unswept, covered.indexes, ?_⟩
  intro other found read
  rcases lookup_insert_cases read with ⟨rfl, -⟩ | old
  · exact .inl routed
  · exact covered.kinds other found old

end Correlation

/-! Streams. -/

namespace ServerOpenStreamState

variable {log later : RequestLog} {streams : ServerOpenStreamState} {eventId : String}
  {slot : OpenStreamSlot}

section

variable (covered : streams.Covered log)
include covered

/-- Slots are covered by any log with their requests open. -/
theorem Covered.relog (still : ∀ eventId slot, streams.slots.lookup eventId = some slot →
      slot.pendingResponse = none → log.Open eventId → later.Open eventId) :
    streams.Covered later := by
  refine ⟨?_, covered.waiting, covered.tokens⟩
  intro eventId slot found
  cases response : slot.pendingResponse with
  | some waiting => exact .inr rfl
  | none =>
    rcases covered.slots eventId slot found with live | waiting
    · exact .inl (still eventId slot found response live)
    · simp [response] at waiting

/-- A slot may be changed, as long as it stays that of its client and token. -/
theorem Covered.replace
    (found : streams.slots.lookup eventId = some slot) {changed : OpenStreamSlot}
    (client : changed.snapshot = slot.snapshot) (token : changed.progressToken = slot.progressToken)
    (live : log.Open eventId ∨ changed.pendingResponse.isSome = true)
    (waiting : changed.pendingResponse.isSome = true →
      changed.hasStarted = true ∧ changed.terminated = false) :
    Covered log { streams with slots := streams.slots.insert eventId changed } := by
  refine ⟨?_, ?_, ?_⟩
  · intro other read known
    rcases lookup_insert_cases known with ⟨rfl, rfl⟩ | old
    · exact live
    · exact covered.slots other read old
  · intro other read known
    rcases lookup_insert_cases known with ⟨rfl, rfl⟩ | old
    · exact waiting
    · exact covered.waiting other read old
  · exact Indexed.replace covered.tokens found client token

/-- A slot may change in what does not count. -/
theorem Covered.update (eventId : String) (change : OpenStreamSlot → OpenStreamSlot)
    (client : ∀ slot, (change slot).snapshot = slot.snapshot)
    (token : ∀ slot, (change slot).progressToken = slot.progressToken)
    (response : ∀ slot, (change slot).pendingResponse = slot.pendingResponse)
    (waiting : ∀ slot, slot.hasStarted = true → slot.terminated = false →
      (change slot).hasStarted = true ∧ (change slot).terminated = false) :
    (streams.update eventId change).Covered log := by
  unfold ServerOpenStreamState.update
  split
  · rename_i slot found
    apply covered.replace found (client slot) (token slot)
    · rw [response]
      exact covered.slots eventId slot found
    · rw [response]
      intro present
      obtain ⟨started, running⟩ := covered.waiting eventId slot found present
      exact waiting slot started running
  · exact covered

/-- A slot may be marked as forwarded. -/
theorem Covered.markForwarded (eventId : String) : (streams.markForwarded eventId).Covered log :=
  covered.update eventId _ (fun _ => rfl) (fun _ => rfl) (fun _ => rfl)
    fun _ started running => ⟨started, running⟩

/-- A delivery may enter the chain. -/
theorem Covered.enterChain (eventId : String) : (streams.enterChain eventId).Covered log :=
  covered.update eventId _ (fun _ => rfl) (fun _ => rfl) (fun _ => rfl)
    fun _ started running => ⟨started, running⟩

/-- A writer may start. -/
theorem Covered.startWriter (eventId : String) : (streams.startWriter eventId).Covered log :=
  covered.update eventId _ (fun _ => rfl) (fun _ => rfl) (fun _ => rfl)
    fun _ _ running => ⟨rfl, running⟩

/-- A slot may be given up. -/
theorem Covered.release (found : streams.slots.lookup eventId = some slot) {last : OpenStreamSlot}
    (client : last.snapshot = slot.snapshot) (token : last.progressToken = slot.progressToken) :
    (streams.release eventId last).Covered log := by
  refine ⟨?_, ?_, ?_⟩
  · intro other read known
    exact covered.slots other read (lookup_of_erase known)
  · intro other read known
    exact covered.waiting other read (lookup_of_erase known)
  · exact Indexed.release covered.tokens found client token

/-- The slot of an open request is covered. -/
theorem Covered.createOpenStreamWriter (forms : HexForms)
    (live : log.Open eventId) (token : String) (snapshot : RouteSnapshot) :
    (streams.createOpenStreamWriter forms eventId token snapshot).Covered log := by
  unfold ServerOpenStreamState.createOpenStreamWriter
  split
  · split
    · exact covered
    · rename_i absent
      refine ⟨?_, ?_, ?_⟩
      · intro other read known
        rcases lookup_insert_cases known with ⟨rfl, -⟩ | old
        · exact .inl live
        · exact covered.slots other read old
      · intro other read known
        rcases lookup_insert_cases known with ⟨-, rfl⟩ | old
        · simp
        · exact covered.waiting other read old
      · exact Indexed.insert covered.tokens absent _
  · exact covered

/-- A delivery may leave the chain. -/
theorem Covered.leaveChain (eventId : String) : (streams.leaveChain eventId).Covered log := by
  unfold ServerOpenStreamState.leaveChain
  split
  · exact covered
  · rename_i slot found
    simp only
    split
    · exact covered.release found rfl rfl
    · exact covered.replace found rfl rfl (covered.slots eventId slot found)
        (covered.waiting eventId slot found)

/-- A response may be deferred to a stream. -/
theorem Covered.tryDefer (eventId : String) (response : JsonRpcMessage) :
    (streams.tryDeferOpenStreamResponse eventId response).2.Covered log := by
  unfold tryDeferOpenStreamResponse
  split
  · exact covered
  · rename_i slot found
    split
    · exact covered.release found rfl rfl
    · rename_i started
      split
      · exact covered.release found rfl rfl
      · rename_i running
        -- The response waits in the slot of a stream that has started and not ended.
        exact covered.replace found rfl rfl (.inr rfl)
          fun _ => ⟨by simpa using started, by simpa using running⟩

/-- A stream may end. -/
theorem Covered.terminate (eventId : String) : (streams.terminate eventId).2.Covered log := by
  unfold ServerOpenStreamState.terminate
  split
  · exact covered
  · rename_i slot found
    split
    · exact covered.release found rfl rfl
    · rename_i without
      refine covered.replace found rfl rfl ?_ (by simp)
      rcases covered.slots eventId slot found with live | waiting
      · exact .inl live
      · simp [without] at waiting

end

/-- No event has a slot that had none before. -/
def NoNew (before after : ServerOpenStreamState) : Prop :=
  ∀ eventId, before.slots.lookup eventId = none → after.slots.lookup eventId = none

/-- Changing a slot adds none. -/
theorem NoNew.replace (found : streams.slots.lookup eventId = some slot)
    (changed : OpenStreamSlot) :
    streams.NoNew { streams with slots := streams.slots.insert eventId changed } := by
  intro other absent
  rw [AList.lookup_insert_ne]
  · exact absent
  · grind

/-- Nor does giving one up. -/
theorem NoNew.release (streams : ServerOpenStreamState) (eventId : String) (slot : OpenStreamSlot) :
    streams.NoNew (streams.release eventId slot) := by
  intro other absent
  cases read : (streams.release eventId slot).slots.lookup other with
  | none => rfl
  | some left =>
    simp [lookup_of_erase read] at absent

/-- Nor does an update. -/
theorem NoNew.update (streams : ServerOpenStreamState) (eventId : String)
    (change : OpenStreamSlot → OpenStreamSlot) : streams.NoNew (streams.update eventId change) := by
  grind [NoNew, update, NoNew.replace]

/-- Nor does a modification. -/
theorem Modified.noNew {givesUp : OpenStreamSlot → Bool} {after : ServerOpenStreamState}
    (modified : streams.Modified eventId givesUp after) : streams.NoNew after := by
  cases modified with
  | kept => exact fun _ absent => absent
  | replaced found => exact .replace found _
  | released => exact .release _ _ _

end ServerOpenStreamState

namespace LifeSetting

variable {setting : LifeSetting} {log : RequestLog} {streams : ServerOpenStreamState}
  {item : InboundContext × JsonRpcMessage}
variable {items : List (InboundContext × JsonRpcMessage)}

/-- Only a request reserves a slot. -/
theorem reserve_of_not_isRequest (plain : item.2.isRequest = false) (forms : HexForms)
    (config : ServerConfig) : streams.reserve forms config item.1 item.2 = streams := by
  obtain ⟨ctx, message⟩ := item
  unfold reserve
  cases message with
  | request body => cases plain
  | _ => simp [writerToken]

/-- Dispatching an open request keeps the slots covered. -/
theorem covered_dispatchInbound (covered : streams.Covered log)
    (live : item.2.isRequest = true → log.Open item.1.requestEventId) :
    (setting.dispatchInbound streams item).Covered log := by
  have reserved :
      (streams.reserve setting.toHexForms setting.config item.1 item.2).Covered log := by
    cases request : item.2.isRequest with
    | false =>
      rw [reserve_of_not_isRequest request]
      exact covered
    | true =>
      unfold reserve
      split
      · split
        · exact covered.createOpenStreamWriter _ (live request) _ _
        · exact covered
      · exact covered
  unfold dispatchInbound
  split
  · exact reserved.enterChain _
  · exact reserved

/-- A message on its way into the chain touches no slot but that of its event. -/
theorem lookup_dispatchInbound {eventId : String} (other : eventId ≠ item.1.requestEventId) :
    (setting.dispatchInbound streams item).slots.lookup eventId = streams.slots.lookup eventId := by
  have reserved : (streams.reserve setting.toHexForms setting.config item.1 item.2).slots.lookup
      eventId = streams.slots.lookup eventId := by
    unfold reserve
    split
    · grind [createOpenStreamWriter, AList.lookup_insert_ne]
    · rfl
  rw [← reserved]
  unfold dispatchInbound
  simp only
  split
  · unfold enterChain update
    split
    · exact AList.lookup_insert_ne other
    · rfl
  · rfl

/-- Dispatching anything else adds no slot. -/
theorem noNew_dispatchInbound (plain : item.2.isRequest = false) :
    streams.NoNew (setting.dispatchInbound streams item) := by
  unfold dispatchInbound
  simp only [reserve_of_not_isRequest plain]
  split
  · exact ServerOpenStreamState.NoNew.update _ _ _
  · exact fun _ absent => absent

/-- Dispatching open requests keeps the slots covered. -/
theorem covered_foldl (covered : streams.Covered log)
    (live : ∀ item ∈ items, item.2.isRequest = true → log.Open item.1.requestEventId) :
    (items.foldl setting.dispatchInbound streams).Covered log := by
  induction items generalizing streams with
  | nil => exact covered
  | cons first rest ih =>
    apply ih (covered_dispatchInbound covered (live first List.mem_cons_self))
    exact fun item member => live item (List.mem_cons_of_mem _ member)

/-- Dispatches leave the slots of other events alone. -/
theorem lookup_foldl {eventId : String} (others : ∀ item ∈ items, eventId ≠ item.1.requestEventId) :
    (items.foldl setting.dispatchInbound streams).slots.lookup eventId =
      streams.slots.lookup eventId := by
  induction items generalizing streams with
  | nil => rfl
  | cons first rest ih =>
    refine (ih fun item member => others item (List.mem_cons_of_mem _ member)).trans ?_
    exact lookup_dispatchInbound (others first List.mem_cons_self)

/-- Dispatching no requests adds no slot. -/
theorem noNew_foldl (plain : ∀ item ∈ items, item.2.isRequest = false) :
    streams.NoNew (items.foldl setting.dispatchInbound streams) := by
  induction items generalizing streams with
  | nil => exact fun _ absent => absent
  | cons first rest ih =>
    intro eventId absent
    apply ih fun item member => plain item (List.mem_cons_of_mem _ member)
    exact noNew_dispatchInbound (plain first List.mem_cons_self) eventId absent

end LifeSetting

/-! Events. -/

/-- The sessions after an event are covered, if a request that was tracked is open. -/
theorem ServerState.covered_receive {setting : LifeSetting} {log : RequestLog} {now : Nat}
    {state : ServerState} {event : ReceivedEvent}
    (covered : state.sessions.All (ClientSession.Covered setting log))
    (committed : setting.commits event.eventId = some (event.senderPubkey, event.message))
    (live : state.tracks setting.config now event = true → log.Open event.eventId) :
    (receive setting.config now state event).1.sessions.All
      (ClientSession.Covered setting log) := by
  refine all_receive_of_dispatch ⟨?_, ?_, ?_⟩ ?_ ?_ covered
  · intro client now isEncrypted
    exact ⟨fun key value read => by simp [new] at read, fun key token read => by simp [new] at read⟩
  · exact fun client session kept => ⟨kept.pending, kept.tokens⟩
  · exact fun client session kept => ⟨kept.pending, kept.tokens⟩
  · -- What is learned from an event touches no entries.
    intro session kept
    obtain ⟨pending, tokens⟩ := negotiate_pending (learn setting.config now event session)
      event.innerTags event.message.method event.message.isRequest
      setting.config.supportsExplicitGating
    exact ⟨pending ▸ kept.pending, tokens ▸ kept.tokens⟩
  · intro dispatched request session shape kept
    apply kept.pend
    · exact live (decide_eq_true ⟨dispatched, .inl (by rw [shape]; rfl)⟩)
    · rw [committed, shape]

/-- The routes after an event that is tracked are covered, and its own needs no open request. -/
theorem Correlation.Covered.track {setting : LifeSetting} {log : RequestLog}
    {bare plain : String → Prop} {held after : Correlation} {now : Nat} {event : ReceivedEvent}
    (covered : held.Covered setting log bare)
    (tracked : held.TrackedAs after setting.config now event)
    (committed : setting.commits event.eventId = some (event.senderPubkey, event.message))
    (forgotten : ∀ evicted, held.eventRoutes.routes.victim event.eventId = some evicted →
      held.requestWrapKinds.lookup evicted = none)
    (later : ∀ time ∈ log.sweeps, time ≤ now)
    (same : ∀ eventId, eventId ≠ event.eventId → bare eventId → plain eventId) :
    after.Covered setting (log.arrive now event.eventId) plain := by
  obtain ⟨kind, original, rfl⟩ := tracked
  have token : setting.config.trackedToken event.message = setting.tokenOf event.eventId := by
    simp [tokenOf, committed]
  rw [token]
  -- The request is received first, so that its route is dated.
  have arrived : held.Covered setting (log.arrive now event.eventId) bare :=
    covered.relog (List.subset_cons_self _ _) covered.unswept
      fun _ live without => .inl ⟨RequestLog.open_arrive.mpr (.inr live), without⟩
  have dated : (event.eventId, now) ∈ (log.arrive now event.eventId).arrivals := List.mem_cons_self
  have registered := arrived.register
    (show setting.authorOf event.eventId = some event.senderPubkey by
      simp [authorOf, committed])
    forgotten (.inl ⟨now, le_refl now, dated⟩) later original
  have found : (held.eventRoutes.register now event.eventId event.senderPubkey original
      (setting.tokenOf event.eventId)).getRoute event.eventId =
        some ⟨event.senderPubkey, original, setting.tokenOf event.eventId, now⟩ := by
    rw [getRoute_register, if_pos rfl]
  have routed := Option.isSome_of_eq_some found
  have kinded := registered.insertKind routed kind
  refine kinded.relog (List.Subset.refl _) kinded.unswept ?_
  intro eventId live without
  by_cases own : eventId = event.eventId
  · -- The slot of this request may be new.
    subst own
    refine .inr ⟨?_, fun _ _ => routed⟩
    intro route read
    rw [show route = _ from Option.some.inj (read.symm.trans found)]
    exact ⟨now, le_refl now, dated⟩
  · exact .inl ⟨live, same eventId own without⟩

end ContextVm
