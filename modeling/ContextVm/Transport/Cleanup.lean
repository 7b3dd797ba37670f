import ContextVm.Oversized.Integrity
import ContextVm.Transport.EventLoop

/-! What the cleanup of idle sessions removes, and whose it is. -/

namespace ContextVm

open Correlation RouteStore ServerState

/-- The clients whose sessions have been idle for longer than a timeout. -/
def SessionStore.expiredKeys (store : SessionStore) (now timeout : Nat) : List String :=
  (store.sessions.iter.filter fun item => timeout < now - item.2.lastActivity).map Prod.fst

/-- The keys a session has requests under, progress tokens among them. -/
def ClientSession.staleEventIds (session : ClientSession) : List String :=
  session.pendingRequests.keys ++ session.eventToProgressToken.keys

/-- Forget the wrap kinds of events. -/
def Correlation.forgetKinds (held : Correlation) (eventIds : List String) : Correlation :=
  { held with
    requestWrapKinds :=
      eventIds.foldl (fun kinds eventId => kinds.erase eventId) held.requestWrapKinds }

/-- Remove the routes of events. -/
def Correlation.popRoutes (held : Correlation) (eventIds : List String) : Correlation :=
  { held with
    eventRoutes := eventIds.foldl (fun store eventId => (store.pop eventId).2) held.eventRoutes }

namespace ServerState

/-- The keys of all the sessions that are to be cleaned up. -/
def staleEventIds (state : ServerState) (now timeout : Nat) : List String :=
  (state.sessions.expiredKeys now timeout).flatMap fun client =>
    ((state.sessions.sessions.peek client).map ClientSession.staleEventIds).getD []

/-- Drop the idle sessions with what is kept under their keys, and return how many they were. -/
def cleanupSessions (state : ServerState) (now timeout : Nat) : Nat × ServerState :=
  let expiredKeys := state.sessions.expiredKeys now timeout
  let staleEventIds := state.staleEventIds now timeout
  (expiredKeys.length,
    { state with
      sessions :=
        { state.sessions with sessions := expiredKeys.foldl Lru.pop state.sessions.sessions }
      held := (state.held.forgetKinds staleEventIds).popRoutes staleEventIds })

end ServerState

/-! The server at work, with everything that touches its sessions, routes or wrap kinds. -/

/-- A server at work. -/
structure Serving where
  server : ServerState
  -- Cleared when the event loop panics.
  looping : Bool
  -- The routes that responses have taken and not yet used up.
  answering : List (String × RouteEntry)

/-- A server that has just been started. -/
def Serving.start (maxSessions : Nat) (listening : Bool) : Serving where
  server :=
    { sessions := { SessionStore.withCapacity maxSessions with onEvicted := listening }
      held := ⟨.withMaxRoutes defaultLruSize, ∅, .withCapacity defaultLruSize⟩
      oversizedReceivers := .withCapacity maxSessions }
  looping := true
  answering := []

/-- What can happen to a server. -/
inductive ServerAction where
  -- The event loop takes an event in.
  | receive (now : Nat) (event : ReceivedEvent)
  -- A response takes the route of its event, and is published, fails for good, or may be retried.
  | respond (eventId : String)
  | settle (item : String × RouteEntry)
  | abandon (item : String × RouteEntry)
  | restore (now : Nat) (item : String × RouteEntry)
  -- A chain run that dropped its message cleans up.
  | release (eventId : String)
  -- The cleanup task comes round.
  | cleanupSessions (now timeout : Nat)
  | sweepStaleRoutes (now timeout : Nat)
  -- A client is sent something, or loses its session because it does not answer.
  | publishTo (clientPubkey : String)
  | dropSession (clientPubkey : String)
  | close

/-- The session of a client whose request has been answered. -/
def ClientSession.settled (eventId : String) (progressToken : Option String)
    (session : ClientSession) : ClientSession :=
  let pending := match progressToken with
    | some token => session.pendingRequests.erase token
    | none => session.pendingRequests
  { session with
    pendingRequests := pending.erase eventId
    eventToProgressToken := session.eventToProgressToken.erase eventId }

/-- The chain's cleanup, which forgets the wrap kind only with the route. -/
def Correlation.release (held : Correlation) (eventId : String) : Correlation :=
  match held.eventRoutes.getRoute eventId with
  | some _ => (held.popRoutes [eventId]).forgetKinds [eventId]
  | none => held

/-- The sweep of old routes, with their wrap kinds. -/
def Correlation.sweep (held : Correlation) (now timeout : Nat) : Correlation :=
  let (swept, eventRoutes) := held.eventRoutes.sweepStaleRoutes now timeout
  { held with eventRoutes }.forgetKinds swept

namespace Serving

/-- The server with other sessions and routes. -/
def update (serving : Serving) (sessions : SessionStore) (held : Correlation) : Serving :=
  { serving with server := { serving.server with sessions, held } }

/--
One thing that happens to a server.

An event is verified first: its id is a hash that commits to its author, so that there is one
author for each id, and nobody else can send that event.
-/
def step (authorOf : String → Option String) (config : ServerConfig) (serving : Serving) :
    ServerAction → Option Serving
  | .receive now event =>
    if serving.looping ∧ authorOf event.eventId = some event.senderPubkey then
      let (server, effects) := serving.server.receive config now event
      some { serving with server, looping := effects.isSome }
    else none
  | .respond eventId =>
    let (authority, held) := serving.server.held.correlateResponse eventId
    let answering := match authority with
      | .ok (.route entry) => (eventId, entry) :: serving.answering
      | _ => serving.answering
    some { serving.update serving.server.sessions held with answering }
  | .settle item =>
    if item ∈ serving.answering then
      let sessions := (serving.server.sessions.getMut item.2.clientPubkey
        (ClientSession.settled item.1 item.2.progressToken)).getD serving.server.sessions
      some { serving.update sessions (serving.server.held.forgetKinds [item.1]) with
        answering := serving.answering.erase item }
    else none
  | .abandon item =>
    if item ∈ serving.answering then
      some { serving with answering := serving.answering.erase item }
    else none
  | .restore now item =>
    if item ∈ serving.answering then
      let held := { serving.server.held with
        eventRoutes := serving.server.held.eventRoutes.register now item.1 item.2.clientPubkey
          item.2.originalRequestId item.2.progressToken }
      some { serving.update serving.server.sessions held with
        answering := serving.answering.erase item }
    else none
  | .release eventId =>
    some (serving.update serving.server.sessions (serving.server.held.release eventId))
  | .cleanupSessions now timeout =>
    some { serving with server := (serving.server.cleanupSessions now timeout).2 }
  | .sweepStaleRoutes now timeout =>
    some (serving.update serving.server.sessions (serving.server.held.sweep now timeout))
  | .publishTo clientPubkey =>
    some (serving.update (serving.server.sessions.markCommonTagsSent clientPubkey)
      serving.server.held)
  | .dropSession clientPubkey =>
    some (serving.update
      { serving.server.sessions with sessions := serving.server.sessions.sessions.pop clientPubkey }
      serving.server.held)
  | .close =>
    some (serving.update
      { serving.server.sessions with sessions := serving.server.sessions.sessions.clear }
      { serving.server.held with eventRoutes := serving.server.held.eventRoutes.clear })

end Serving

/-! Whose the entries are. -/

/-- The keys of a session are events of its client, or progress tokens of such events. -/
structure ClientSession.OwnedBy (authorOf : String → Option String) (client : String)
    (session : ClientSession) : Prop where
  pending : ∀ key value, session.pendingRequests.lookup key = some value →
    authorOf key = some client ∨
      ∃ eventId, value = .string eventId ∧ authorOf eventId = some client
  tokens : ∀ key token, session.eventToProgressToken.lookup key = some token →
    authorOf key = some client

/-- Every entry of a correlation is about an event, and a route leads to the event's author. -/
structure Correlation.Attributed (authorOf : String → Option String) (held : Correlation) :
    Prop where
  routes : ∀ eventId route, held.eventRoutes.getRoute eventId = some route →
    authorOf eventId = some route.clientPubkey
  kinds : ∀ eventId kind, held.requestWrapKinds.lookup eventId = some kind →
    ∃ author, authorOf eventId = some author

/-- Everything a server keeps about events is attributed to their authors. -/
structure Serving.Attributed (authorOf : String → Option String) (serving : Serving) : Prop where
  sessions : serving.server.sessions.All (ClientSession.OwnedBy authorOf)
  held : serving.server.held.Attributed authorOf
  answering : ∀ item ∈ serving.answering, authorOf item.1 = some item.2.clientPubkey

namespace Correlation

variable {authorOf : String → Option String} {held : Correlation}
variable {eventId author : String}

theorem lookup_forgetKinds (held : Correlation) (eventIds : List String) (other : String) :
    (held.forgetKinds eventIds).requestWrapKinds.lookup other =
      if other ∈ eventIds then none else held.requestWrapKinds.lookup other := by
  unfold forgetKinds
  -- The kinds shrink from event to event, so they are general.
  generalize held.requestWrapKinds = kinds
  induction eventIds generalizing kinds with
  | nil => simp
  | cons first rest ih =>
    rw [List.foldl_cons, ih]
    by_cases same : other = first
    · subst same
      simp
    · simp [same, AList.lookup_erase_ne same]

theorem getRoute_popRoutes (held : Correlation) (eventIds : List String) (other : String) :
    (held.popRoutes eventIds).eventRoutes.getRoute other =
      if other ∈ eventIds then none else held.eventRoutes.getRoute other := by
  unfold popRoutes
  generalize held.eventRoutes = store
  induction eventIds generalizing store with
  | nil => simp
  | cons first rest ih => grind [getRoute_pop]

section

variable (attributed : held.Attributed authorOf)
include attributed

theorem Attributed.forgetKinds (eventIds : List String) :
    (held.forgetKinds eventIds).Attributed authorOf := by
  grind [Attributed, forgetKinds, lookup_forgetKinds]

theorem Attributed.popRoutes (eventIds : List String) :
    (held.popRoutes eventIds).Attributed authorOf := by
  grind [Attributed, popRoutes, getRoute_popRoutes]

theorem Attributed.register
    (own : authorOf eventId = some author) (now : Nat) (original : Json) (token : Option String) :
    Attributed authorOf
      { held with eventRoutes := held.eventRoutes.register now eventId author original token } := by
  grind [Attributed, getRoute_register]

theorem Attributed.insertKind (own : authorOf eventId = some author) (kind : Option Nat) :
    Attributed authorOf
      { held with requestWrapKinds := held.requestWrapKinds.insert eventId kind } := by
  refine ⟨attributed.routes, ?_⟩
  intro other found read
  rcases lookup_insert_cases read with ⟨rfl, -⟩ | old
  · exact ⟨author, own⟩
  · exact attributed.kinds other found old

theorem Attributed.tracks {now : Nat} {after : Correlation}
    (tracks : ServerState.Tracks now eventId author held after)
    (own : authorOf eventId = some author) : after.Attributed authorOf := by
  rcases tracks with same | ⟨kind, original, token, same⟩
  · rw [same]
    exact attributed
  · rw [same]
    exact (attributed.insertKind own kind).register own now original token

theorem Attributed.correlateResponse (eventId : String) :
    (held.correlateResponse eventId).2.Attributed authorOf := by
  rw [correlateResponse_snd]
  exact ⟨(attributed.popRoutes [eventId]).routes, attributed.kinds⟩

end

end Correlation

namespace ClientSession

variable {authorOf : String → Option String} {client : String} {session : ClientSession}

theorem OwnedBy.new (authorOf : String → Option String) (client : String) (now : Nat)
    (isEncrypted : Bool) : (ClientSession.new now isEncrypted).OwnedBy authorOf client := by
  refine ⟨?_, ?_⟩
  · intro key value read
    simp [ClientSession.new] at read
  · intro key token read
    simp [ClientSession.new] at read

theorem OwnedBy.congr {changed : ClientSession}
    (pending : changed.pendingRequests = session.pendingRequests)
    (tokens : changed.eventToProgressToken = session.eventToProgressToken)
    (owned : session.OwnedBy authorOf client) : changed.OwnedBy authorOf client :=
  ⟨pending ▸ owned.pending, tokens ▸ owned.tokens⟩

theorem OwnedBy.pend (owned : session.OwnedBy authorOf client) {eventId : String}
    (own : authorOf eventId = some client) (serde : SerdeJson) (request : JsonRpcRequest) :
    (ServerState.pend serde eventId request session).OwnedBy authorOf client := by
  refine ⟨?_, ?_⟩
  · intro key value read
    rcases lookup_pend read with old | same | ⟨-, named⟩
    · exact owned.pending key value old
    · exact .inl (same ▸ own)
    · exact .inr ⟨eventId, named, own⟩
  · intro key token read
    rcases lookup_pend_token read with old | same
    · exact owned.tokens key token old
    · exact same ▸ own

theorem lookup_of_erase {α : Type} {map : AList fun _ : String => α} {key other : String}
    {value : α} (read : (map.erase key).lookup other = some value) :
    map.lookup other = some value := by
  by_cases same : other = key
  · grind [AList.lookup_erase]
  · rwa [AList.lookup_erase_ne same] at read

theorem lookup_settled {eventId key : String} {progressToken : Option String} {value : Json}
    (read : (session.settled eventId progressToken).pendingRequests.lookup key = some value) :
    session.pendingRequests.lookup key = some value := by
  have left := lookup_of_erase read
  cases progressToken with
  | none => exact left
  | some token => exact lookup_of_erase left

theorem OwnedBy.settled (owned : session.OwnedBy authorOf client) (eventId : String)
    (progressToken : Option String) :
    (session.settled eventId progressToken).OwnedBy authorOf client :=
  ⟨fun key value read => owned.pending key value (lookup_settled read),
    fun key token read => owned.tokens key token (lookup_of_erase read)⟩

end ClientSession

namespace Serving

variable {authorOf : String → Option String} {config : ServerConfig} {serving : Serving}
variable {action : ServerAction} {after : Serving}

theorem all_of_peek {holds : String → ClientSession → Prop} {store : SessionStore}
    {left : Lru String ClientSession} (all : store.All holds)
    (among : ∀ client session, left.peek client = some session →
      store.sessions.peek client = some session) :
    { store with sessions := left }.All holds :=
  fun client session read => all client session (among client session read)

/-- Something that holds of all sessions, and is kept by what is done to them, keeps holding. -/
theorem all_step {holds : String → ClientSession → Prop} (rules : ServerState.SessionRules holds)
    (settled : ∀ client eventId token session, holds client session →
      holds client (ClientSession.settled eventId token session))
    (received : ∀ now event, action = .receive now event →
      authorOf event.eventId = some event.senderPubkey →
      ServerState.EventRules config event holds) (all : serving.server.sessions.All holds)
    (taken : serving.step authorOf config action = some after) :
    after.server.sessions.All holds := by
  cases action with
  | receive now event =>
    obtain ⟨admitted, rfl⟩ := Option.ite_some_none_eq_some.mp taken
    have taken := received now event rfl admitted.2
    exact all_receive_of_dispatch rules (taken.learned now) (fun _ => taken.pended) all
  | settle item =>
    obtain ⟨-, rfl⟩ := Option.ite_some_none_eq_some.mp taken
    exact all.getMut fun session kept => settled _ item.1 item.2.progressToken session kept
  | abandon item | restore now item =>
    obtain ⟨-, rfl⟩ := Option.ite_some_none_eq_some.mp taken
    exact all
  | respond eventId | release eventId | sweepStaleRoutes now timeout =>
    cases taken
    exact all
  | publishTo clientPubkey =>
    cases taken
    exact all.getMut fun session kept => rules.told _ session kept
  | cleanupSessions now timeout =>
    -- The sessions that are left were there before.
    cases taken
    apply all_of_peek all
    intro client session read
    rw [Lru.peek_foldl_pop] at read
    split at read
    · cases read
    · exact read
  | dropSession clientPubkey =>
    cases taken
    apply all_of_peek all
    intro client session read
    rw [Lru.peek_pop] at read
    split at read
    · cases read
    · exact read
  | close =>
    cases taken
    apply all_of_peek all
    intro client session read
    cases read

/-- Whatever happens to a server, the keys of its sessions keep their owners. -/
theorem owned_step (owned : serving.server.sessions.All (ClientSession.OwnedBy authorOf))
    (taken : serving.step authorOf config action = some after) :
    after.server.sessions.All (ClientSession.OwnedBy authorOf) := by
  refine all_step ⟨ClientSession.OwnedBy.new authorOf, ?_, ?_⟩ ?_ ?_ owned taken
  · intro client session kept
    exact ⟨kept.pending, kept.tokens⟩
  · intro client session kept
    exact ⟨kept.pending, kept.tokens⟩
  · intro client eventId token session kept
    exact kept.settled eventId token
  · intro now event _ own
    refine ⟨?_, ?_⟩
    · -- What is learned from an event touches no keys.
      intro now session kept
      obtain ⟨pending, tokens⟩ := negotiate_pending
        (learn config now event session) event.innerTags event.message.method
        event.message.isRequest config.supportsExplicitGating
      have learned : (learn config now event session).OwnedBy authorOf
          event.senderPubkey := ⟨kept.pending, kept.tokens⟩
      exact learned.congr pending tokens
    · intro request session _ kept
      exact kept.pend own config.primitives.serde request

section

variable (attributed : serving.Attributed authorOf)
  (taken : serving.step authorOf config action = some after)
include attributed taken

/-- Whatever happens to a server, its routes and wrap kinds stay attributed. -/
theorem held_step : after.server.held.Attributed authorOf := by
  have held := attributed.held
  cases action with
  | receive now event =>
    obtain ⟨admitted, rfl⟩ := Option.ite_some_none_eq_some.mp taken
    exact held.tracks (tracks_receive config now serving.server event) admitted.2
  | respond eventId =>
    cases taken
    exact held.correlateResponse eventId
  | settle item =>
    obtain ⟨-, rfl⟩ := Option.ite_some_none_eq_some.mp taken
    exact held.forgetKinds [item.1]
  | abandon item =>
    obtain ⟨-, rfl⟩ := Option.ite_some_none_eq_some.mp taken
    exact held
  | restore now item =>
    simp only [Serving.step] at taken
    split at taken
    · -- The route that is put back leads to the author of its event.
      rename_i answered
      cases taken
      exact held.register (attributed.answering item answered) now _ _
    · cases taken
  | release eventId =>
    cases taken
    unfold release
    split
    · exact (held.popRoutes [eventId]).forgetKinds [eventId]
    · exact held
  | cleanupSessions now timeout =>
    cases taken
    exact (held.forgetKinds _).popRoutes _
  | sweepStaleRoutes now timeout =>
    cases taken
    exact (held.popRoutes (serving.server.held.eventRoutes.staleKeys now timeout)).forgetKinds _
  | publishTo clientPubkey | dropSession clientPubkey =>
    cases taken
    exact held
  | close =>
    cases taken
    refine ⟨?_, held.kinds⟩
    intro eventId route read
    cases read

/-- Whatever happens to a server, the routes being answered stay attributed. -/
theorem answering_step : ∀ item ∈ after.answering, authorOf item.1 = some item.2.clientPubkey := by
  have answering := attributed.answering
  cases action with
  | respond eventId =>
    simp only [Serving.step, Option.some.injEq] at taken
    subst taken
    intro item member
    -- A new item carries the route that the response found.
    split at member
    · rename_i entry found
      rcases List.mem_cons.mp member with new | old
      · rw [new]
        refine attributed.held.routes eventId entry ?_
        simp only [correlateResponse, pop_fst] at found
        split at found
        · grind
        · cases found
        · cases found
      · exact answering item old
    · exact answering item member
  | receive now event =>
    obtain ⟨-, rfl⟩ := Option.ite_some_none_eq_some.mp taken
    exact answering
  | settle item | abandon item | restore now item =>
    obtain ⟨-, rfl⟩ := Option.ite_some_none_eq_some.mp taken
    intro other left
    exact answering other (List.mem_of_mem_erase left)
  | release eventId | cleanupSessions now timeout | sweepStaleRoutes now timeout
  | publishTo clientPubkey | dropSession clientPubkey | close =>
    cases taken
    exact answering

theorem Attributed.step : after.Attributed authorOf :=
  ⟨owned_step attributed.sessions taken, held_step attributed taken,
    answering_step attributed taken⟩

end

/-- The servers that can be reached from one that was just started. -/
def Reached (authorOf : String → Option String) (config : ServerConfig) (maxSessions : Nat)
    (listening : Bool) (serving : Serving) : Prop :=
  Reaches (step authorOf config) Unrestricted (start maxSessions listening) serving

theorem Reached.attributed {maxSessions : Nat} {listening : Bool}
    (reached : Reached authorOf config maxSessions listening serving) :
    serving.Attributed authorOf := by
  refine Reaches.invariant reached ?_ ?_
  · refine ⟨?_, ⟨?_, ?_⟩, ?_⟩
    · intro client session read
      cases read
    · intro eventId route read
      cases read
    · intro eventId kind read
      cases read
    · intro item member
      cases member
  · intro before action after _ attributed _ taken
    exact attributed.step taken

end Serving

/-! What the cleanup is to remove, and what it removes. -/

/-- A cleanup takes routes and wrap kinds from nobody but the clients whose sessions it drops. -/
structure RemovesOnlyExpired (authorOf : String → Option String) (state : ServerState)
    (now timeout : Nat) : Prop where
  routes : ∀ eventId route, state.held.eventRoutes.getRoute eventId = some route →
    (state.cleanupSessions now timeout).2.held.eventRoutes.getRoute eventId = none →
    route.clientPubkey ∈ state.sessions.expiredKeys now timeout
  kinds : ∀ eventId kind, state.held.requestWrapKinds.lookup eventId = some kind →
    (state.cleanupSessions now timeout).2.held.requestWrapKinds.lookup eventId = none →
    ∃ client ∈ state.sessions.expiredKeys now timeout, authorOf eventId = some client
  unchanged : ∀ eventId route, state.held.eventRoutes.getRoute eventId = some route →
    (state.cleanupSessions now timeout).2.sessions.contains route.clientPubkey = true →
    (state.cleanupSessions now timeout).2.held.eventRoutes.getRoute eventId = some route

/--
A session to be dropped has a progress token that is the id of somebody else's event.

The token names an event that is tracked, of a client whose session is not dropped.
-/
def TokenNamesForeignEvent (authorOf : String → Option String) (state : ServerState)
    (now timeout : Nat) : Prop :=
  ∃ client ∈ state.sessions.expiredKeys now timeout, ∃ session,
    state.sessions.sessions.peek client = some session ∧
    ∃ token eventId, session.pendingRequests.lookup token = some (.string eventId) ∧
      authorOf eventId = some client ∧
      ∃ owner, authorOf token = some owner ∧ owner ∉ state.sessions.expiredKeys now timeout ∧
        ((state.held.eventRoutes.getRoute token).isSome = true ∨
          (state.held.requestWrapKinds.lookup token).isSome = true)

namespace ServerState

variable {authorOf : String → Option String} {state : ServerState} {now timeout : Nat}

theorem getRoute_cleanupSessions (state : ServerState) (now timeout : Nat) (eventId : String) :
    (state.cleanupSessions now timeout).2.held.eventRoutes.getRoute eventId =
      if eventId ∈ state.staleEventIds now timeout then none
      else state.held.eventRoutes.getRoute eventId :=
  getRoute_popRoutes _ _ eventId

theorem lookup_cleanupSessions (state : ServerState) (now timeout : Nat) (eventId : String) :
    (state.cleanupSessions now timeout).2.held.requestWrapKinds.lookup eventId =
      if eventId ∈ state.staleEventIds now timeout then none
      else state.held.requestWrapKinds.lookup eventId :=
  lookup_forgetKinds _ _ eventId

theorem mem_staleEventIds {key : String} :
    key ∈ state.staleEventIds now timeout ↔
      ∃ client ∈ state.sessions.expiredKeys now timeout, ∃ session,
        state.sessions.sessions.peek client = some session ∧
          ((∃ value, session.pendingRequests.lookup key = some value) ∨
            ∃ token, session.eventToProgressToken.lookup key = some token) := by
  -- A key of a map is one that reads something.
  have keys {α : Type} (map : AList fun _ : String => α) :
      key ∈ map.keys ↔ ∃ value, map.lookup key = some value := by
    rw [← AList.mem_keys, ← AList.lookup_isSome, Option.isSome_iff_exists]
  rw [staleEventIds, List.mem_flatMap]
  refine exists_congr fun client => and_congr_right fun _ => ?_
  cases found : state.sessions.sessions.peek client with
  | none => simp
  | some session => simp [ClientSession.staleEventIds, keys]

theorem stale_key_cases (owned : state.sessions.All (ClientSession.OwnedBy authorOf))
    {key : String} (stale : key ∈ state.staleEventIds now timeout) :
    ∃ client ∈ state.sessions.expiredKeys now timeout, authorOf key = some client ∨
      ∃ session eventId, state.sessions.sessions.peek client = some session ∧
        session.pendingRequests.lookup key = some (.string eventId) ∧
          authorOf eventId = some client := by
  obtain ⟨client, expired, session, found, pending | tokens⟩ := mem_staleEventIds.mp stale
  · obtain ⟨value, read⟩ := pending
    refine ⟨client, expired, ?_⟩
    rcases (owned client session found).pending key value read with own | ⟨eventId, named, own⟩
    · exact .inl own
    · exact .inr ⟨session, eventId, found, named ▸ read, own⟩
  · obtain ⟨token, read⟩ := tokens
    exact ⟨client, expired, .inl ((owned client session found).tokens key token read)⟩

theorem owner_expired (owned : state.sessions.All (ClientSession.OwnedBy authorOf))
    (apart : ¬ TokenNamesForeignEvent authorOf state now timeout) {eventId owner : String}
    (own : authorOf eventId = some owner) (stale : eventId ∈ state.staleEventIds now timeout)
    (tracked : (state.held.eventRoutes.getRoute eventId).isSome = true ∨
      (state.held.requestWrapKinds.lookup eventId).isSome = true) :
    owner ∈ state.sessions.expiredKeys now timeout := by
  by_contra live
  obtain ⟨client, expired, same | ⟨session, named, found, read, author⟩⟩ :=
    stale_key_cases owned stale
  · grind
  · exact apart ⟨client, expired, session, found, eventId, named, read, author, owner, own, live,
      tracked⟩

end ServerState

/--
In every server that can be reached, the cleanup touches nobody but the clients it drops, just when
no progress token of a dropped client is the id of a tracked event of another client.
-/
theorem cleanup_removesOnlyExpired_iff (authorOf : String → Option String) (config : ServerConfig)
    (maxSessions : Nat) (listening : Bool) (serving : Serving)
    (reached : Serving.Reached authorOf config maxSessions listening serving) (now timeout : Nat) :
    RemovesOnlyExpired authorOf serving.server now timeout ↔
      ¬ TokenNamesForeignEvent authorOf serving.server now timeout := by
  obtain ⟨owned, held, -⟩ := reached.attributed
  constructor
  · rintro only
      ⟨client, expired, session, found, token, eventId, read, _, owner, own, live, tracked⟩
    have stale : token ∈ serving.server.staleEventIds now timeout :=
      mem_staleEventIds.mpr ⟨client, expired, session, found, .inl ⟨_, read⟩⟩
    rcases tracked with routed | wrapped
    · -- The route under the token leads to its author, whose session stays.
      obtain ⟨route, present⟩ := Option.isSome_iff_exists.mp routed
      have gone := only.routes token route present (by rw [getRoute_cleanupSessions, if_pos stale])
      have leads := held.routes token route present
      rw [own] at leads
      cases leads
      exact live gone
    · obtain ⟨kind, present⟩ := Option.isSome_iff_exists.mp wrapped
      obtain ⟨author, gone, same⟩ := only.kinds token kind present
        (by rw [lookup_cleanupSessions, if_pos stale])
      rw [own] at same
      cases same
      exact live gone
  · intro apart
    have routes (eventId : String) (route : RouteEntry)
        (present : serving.server.held.eventRoutes.getRoute eventId = some route)
        (gone : (serving.server.cleanupSessions now timeout).2.held.eventRoutes.getRoute eventId =
          none) : route.clientPubkey ∈ serving.server.sessions.expiredKeys now timeout := by
      rw [getRoute_cleanupSessions] at gone
      split at gone
      · rename_i stale
        exact owner_expired owned apart (held.routes eventId route present) stale
          (.inl (by rw [present]; rfl))
      · grind
    refine ⟨routes, ?_, ?_⟩
    · intro eventId kind present gone
      rw [lookup_cleanupSessions] at gone
      split at gone
      · rename_i stale
        obtain ⟨owner, own⟩ := held.kinds eventId kind present
        exact ⟨owner, owner_expired owned apart own stale (.inr (by rw [present]; rfl)), own⟩
      · grind
    · -- A client that still has a session was not dropped, so its routes are all there.
      intro eventId route present live
      rw [getRoute_cleanupSessions]
      split
      · rename_i stale
        have dropped := routes eventId route present
          (by rw [getRoute_cleanupSessions, if_pos stale])
        have absent : (serving.server.cleanupSessions now timeout).2.sessions.sessions.peek
            route.clientPubkey = none :=
          (Lru.peek_foldl_pop _ _ _).trans (if_pos dropped)
        simp [SessionStore.contains, absent] at live
      · exact present

/-- The authors of the events below. -/
def aliceAndBob (eventId : String) : Option String :=
  if eventId = "alice-1" ∨ eventId = "alice-2" then some "alice"
  else if eventId = "bob-1" ∨ eventId = "bob-2" then some "bob"
  else none

/-- A tool call that asks for progress under a token. -/
def toolCallWith (id : UInt64) (token : String) : JsonRpcMessage :=
  .request ⟨"2.0", .ofU64 id, "tools/call",
    some (.object [("_meta", .object [("progressToken", .string token)])])⟩

/-- Two clients call a tool, Alice with a token of choice, and Bob is heard of again later. -/
def callsWithToken (token : String) : List ServerAction :=
  [.receive 0 ⟨"bob-1", "bob", [], none, toolCallWith 1 "0"⟩,
    .receive 1 ⟨"alice-1", "alice", [], none, toolCallWith 1 token⟩,
    .receive 100 ⟨"bob-2", "bob", [], none, .notification ⟨"2.0", "notifications/message", none⟩⟩]

/-- Bob's route is there, while Alice is the only client to be dropped. -/
def bobIsServed (serving : Serving) : Bool :=
  (serving.server.held.eventRoutes.getRoute "bob-1").map RouteEntry.clientPubkey = some "bob" ∧
    serving.server.sessions.expiredKeys 150 100 = ["alice"]

/-- Alice is waiting for something, and under no id of anybody else's event. -/
def aliceWaitsAlone (serving : Serving) : Bool :=
  (serving.server.sessions.sessions.peek "alice").any fun session =>
    session.pendingRequests.keys ≠ [] ∧
      ∀ token ∈ session.pendingRequests.keys, (aliceAndBob token).all (· = "alice")

/-- With a token that is nobody's event, Alice's cleanup leaves Bob alone. -/
theorem cleanup_removesOnlyExpired_iff_ownToken :
    ∃ serving, Serving.Reached aliceAndBob (.public pingPrimitives) 10 false serving ∧
      (bobIsServed serving = true ∧ aliceWaitsAlone serving = true) ∧
      RemovesOnlyExpired aliceAndBob serving.server 150 100 := by
  refine Reaches.exists_of_run (callsWithToken "0")
    (fun serving => bobIsServed serving = true ∧ aliceWaitsAlone serving = true) (by decide) ?_
  rintro serving reached ⟨served, alone⟩
  refine ⟨⟨served, alone⟩, (cleanup_removesOnlyExpired_iff _ _ _ _ serving reached 150 100).mpr ?_⟩
  -- The one session to be dropped is Alice's, whose tokens name Alice's events or none.
  rintro ⟨client, expired, session, found, token, eventId, pending, -, owner, author, kept, -⟩
  have dropped := (of_decide_eq_true served).2
  rw [dropped] at expired kept
  cases List.mem_singleton.mp expired
  obtain ⟨held, read, waits⟩ := (Option.any_eq_true _ _).mp alone
  rw [found] at read
  cases read
  have named : token ∈ session.pendingRequests.keys := by
    rw [← AList.mem_keys, ← AList.lookup_isSome, pending]
    rfl
  have own := (of_decide_eq_true waits).2 token named
  rw [author] at own
  exact kept (List.mem_singleton.mpr (of_decide_eq_true own))

/-- With the id of Bob's event as the token, Alice's cleanup takes Bob's route. -/
theorem cleanup_removes_foreign_route :
    ∃ serving, Serving.Reached aliceAndBob (.public pingPrimitives) 10 false serving ∧
      bobIsServed serving = true ∧
      (serving.server.cleanupSessions 150 100).2.sessions.contains "bob" = true ∧
      (serving.server.cleanupSessions 150 100).2.held.eventRoutes.getRoute "bob-1" = none := by
  exact Reaches.of_run (callsWithToken "bob-1") _ (by decide)

end ContextVm
