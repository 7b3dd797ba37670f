import ContextVm.Transport.RouteIndex
import ContextVm.Transport.SendResponse

/-! Whether there is a session for every request that has not been answered. -/

namespace ContextVm

open Correlation Lru RouteStore ServerState SessionStore

namespace RouteStore

/-- Whether a client has a route. -/
def serves (store : RouteStore) (clientPubkey : String) : Bool :=
  store.routes.iter.any fun item => item.2.clientPubkey = clientPubkey

/-- Every route is in the index of its client. -/
def Listed (store : RouteStore) : Prop :=
  ∀ eventId route, store.getRoute eventId = some route → eventId ∈ store.eventsOf route.clientPubkey

variable {store : RouteStore}

theorem serves_iff {clientPubkey : String} :
    store.serves clientPubkey = true ↔
      ∃ eventId route, store.getRoute eventId = some route ∧ route.clientPubkey = clientPubkey := by
  simp [serves, getRoute, peek_eq_some_iff]

theorem Listed.active (listed : store.Listed) {eventId : String} {route : RouteEntry}
    (found : store.getRoute eventId = some route) :
    store.hasActiveRoutesForClient route.clientPubkey = true := by
  have member := listed eventId route found
  unfold eventsOf at member
  unfold hasActiveRoutesForClient
  cases indexed : store.clientEventIds.lookup route.clientPubkey with
  | none => simp [indexed] at member
  | some events => grind

theorem mem_eventsOf_cleanupIndexes {eventId other client : String} {route : RouteEntry}
    (member : other ∈ store.eventsOf client) (different : other ≠ eventId) :
    other ∈ (store.cleanupIndexes eventId route).eventsOf client := by
  grind [eventsOf_cleanupIndexes]

/-- A new route is listed, and so are those that stay. -/
theorem Listed.register (listed : store.Listed) (now : Nat) (eventId clientPubkey : String)
    (originalRequestId : Json) (progressToken : Option String) :
    (store.register now eventId clientPubkey originalRequestId progressToken).Listed := by
  intro other route found
  rw [getRoute_register] at found
  -- Before anything is cleaned up, the new event is listed besides the old ones.
  have member : other ∈ (store.added now eventId clientPubkey originalRequestId
      progressToken).eventsOf route.clientPubkey := by
    by_cases new : other = eventId
    · rw [if_pos new] at found
      cases found
      simp [new, eventsOf, added]
    · rw [if_neg new] at found
      split at found
      · cases found
      · have old := listed other route found
        by_cases same : route.clientPubkey = clientPubkey
        · rw [same] at old ⊢
          simp only [eventsOf, added, AList.lookup_insert, Option.getD_some]
          exact Finset.mem_insert_of_mem old
        · simpa [eventsOf, added, AList.lookup_insert_ne same] using old
  rcases register_cases store now eventId clientPubkey originalRequestId progressToken with
    ⟨-, same⟩ | ⟨evicted, lost, given, -, same⟩
  · rw [same]
    exact member
  · rw [same]
    apply mem_eventsOf_cleanupIndexes member
    -- The evicted event reads no route, and is not the new one.
    rintro rfl
    simp [if_neg (victim_held given).2, if_pos given] at found

theorem Listed.pop (listed : store.Listed) (eventId : String) : (store.pop eventId).2.Listed := by
  grind [Listed, pop, eventsOf, getRoute_pop, mem_eventsOf_cleanupIndexes]

theorem Listed.foldl_pop (listed : store.Listed) (eventIds : List String) :
    (eventIds.foldl (fun store eventId => (store.pop eventId).2) store).Listed := by
  induction eventIds generalizing store with
  | nil => exact listed
  | cons first rest ih => exact ih (listed.pop first)

end RouteStore

/-! Who has a session after an event. -/

/-- A client with routes keeps its session, unless it is the one that makes room for another. -/
theorem SessionStore.contains_ensureSession {store : SessionStore} {eventRoutes : RouteStore}
    {client : String} (present : store.contains client = true)
    (active : eventRoutes.hasActiveRoutesForClient client = true) (senderPubkey : String)
    (isEncrypted : Bool) (now : Nat)
    (spared : client ∉ (store.displaced senderPubkey isEncrypted eventRoutes now).tail) :
    (store.ensureSession senderPubkey isEncrypted eventRoutes now).1.contains client = true := by
  unfold displaced at spared
  unfold ensureSession
  by_cases held : store.contains senderPubkey = true
  · rw [if_pos held]
    exact present
  · rw [if_neg held] at spared ⊢
    rw [Bool.not_eq_true] at held
    cases given : store.sessions.victim senderPubkey with
    | none =>
      rw [insertSession_of_fits _ _ _ held given, contains_put, given, present]
      simp
    | some oldest =>
      obtain ⟨encrypted, inserted⟩ := insertSession_of_victim isEncrypted eventRoutes now held given
      rw [inserted]
      by_cases kept : eventRoutes.hasActiveRoutesForClient oldest = true
      · -- The oldest one comes back, and the next is somebody else.
        simp only [given, if_pos kept, List.tail_cons, Option.mem_toList] at spared
        rw [if_pos kept]
        by_cases same : client = oldest
        · simp [contains, same]
        · have still : { store with
              sessions := store.sessions.put senderPubkey (.new now isEncrypted) }.contains client =
                true := by
            rw [contains_put, given, present]
            simp [Ne.symm same]
          refine (contains_put
            { store with sessions := store.sessions.put senderPubkey (.new now isEncrypted) } oldest
            client (.new now encrypted)).trans ?_
          rw [if_neg same, if_neg spared, still]
      · grind [contains_put]

namespace ServerState

theorem contains_put_of_held {store : SessionStore} {client : String} {session : ClientSession}
    (held : store.sessions.peek client = some session) (changed : ClientSession) (other : String) :
    { store with sessions := store.sessions.put client changed }.contains other =
      store.contains other := by
  grind [contains, contains_put, victim_of_held]

section

variable (config : ServerConfig)

theorem contains_route (now : Nat) (state : ServerState)
    (ctx : InboundContext) (known : Bool) (message : JsonRpcMessage) (client : String) :
    (route config now state ctx known message).1.sessions.contains client =
      state.sessions.contains client := by
  cases message with
  | request request => exact contains_getMut _ _ _ _
  | notification body =>
    unfold route
    simp only
    split
    · rw [sessions_handleOversizedFrame]
    · split
      · rfl
      · split
        · exact contains_getMut _ _ _ _
        · rfl
  | response body | errorResponse body => rfl

theorem contains_receive (now : Nat) (state : ServerState)
    (event : ReceivedEvent) (client : String) :
    (receive config now state event).1.sessions.contains client =
      if config.authorizes event then
        (state.sessions.ensureSession event.senderPubkey event.isEncrypted state.held.eventRoutes
          now).1.contains client
      else state.sessions.contains client := by
  unfold receive
  split
  · grind [contains_put_of_held, contains_route]
  · show (refuse config state event).1.sessions.contains client = _
    unfold refuse
    split
    · split
      · simp only
        split
        · rfl
        · exact contains_getMut _ _ _ _
      · rfl
    · rfl

theorem held_receive (now : Nat) (state : ServerState) (event : ReceivedEvent) :
    (receive config now state event).1.held = state.held ∨
      (receive config now state event).1.sessions.contains event.senderPubkey = true := by
  by_cases authorized : config.authorizes event = true
  · rw [contains_receive, if_pos authorized]
    unfold receive
    rw [if_pos authorized]
    simp only
    split
    · exact .inl rfl
    · rename_i found
      exact .inr (Option.isSome_iff_exists.mpr ⟨_, found⟩)
  · left
    unfold receive
    rw [if_neg authorized]
    exact held_refuse config state event

end

end ServerState

/-! The system. -/

namespace Serving

/--
Whether something that happens takes no session from a client with routes.

An event must not push out such a client in place of another one that comes back; a cleanup must
find the routes of the clients it drops among the keys of their sessions; a client that does not
answer must have no routes; and a route must not come back to a client that is gone.
-/
def spares (config : ServerConfig) (serving : Serving) : ServerAction → Bool
  | .receive now event => config.authorizes event = true →
      (serving.server.sessions.displaced event.senderPubkey event.isEncrypted
        serving.server.held.eventRoutes now).tail.all fun client =>
          serving.server.held.eventRoutes.serves client = false
  | .restore _ item => serving.server.sessions.contains item.2.clientPubkey
  | .cleanupSessions now timeout => serving.server.held.eventRoutes.routes.iter.all fun item =>
      item.2.clientPubkey ∈ serving.server.sessions.expiredKeys now timeout →
        item.1 ∈ serving.server.staleEventIds now timeout
  | .dropSession clientPubkey => serving.server.held.eventRoutes.serves clientPubkey = false
  | _ => true

/-- Every client with a route has a session. -/
structure Answerable (serving : Serving) : Prop where
  listed : serving.server.held.eventRoutes.Listed
  sessions : ∀ eventId route, serving.server.held.eventRoutes.getRoute eventId = some route →
    serving.server.sessions.contains route.clientPubkey = true

/-- Some of the routes are left, and they are listed if they were before. -/
structure Thins (before after : RouteStore) : Prop where
  routes : ∀ eventId route, after.getRoute eventId = some route →
    before.getRoute eventId = some route
  listed : before.Listed → after.Listed

theorem Thins.popRoutes (held : Correlation) (eventIds : List String) :
    Thins held.eventRoutes (held.popRoutes eventIds).eventRoutes := by
  grind [Thins, popRoutes, getRoute_popRoutes, Listed.foldl_pop]

variable {authorOf : String → Option String} {config : ServerConfig} {serving : Serving}

section

variable (answerable : serving.Answerable)
include answerable

theorem Answerable.thin {after : Serving}
    (thins : Thins serving.server.held.eventRoutes after.server.held.eventRoutes)
    (kept : ∀ eventId route, after.server.held.eventRoutes.getRoute eventId = some route →
      serving.server.sessions.contains route.clientPubkey = true →
      after.server.sessions.contains route.clientPubkey = true) : after.Answerable := by
  refine ⟨thins.listed answerable.listed, ?_⟩
  intro eventId route found
  exact kept eventId route found
    (answerable.sessions eventId route (thins.routes eventId route found))

theorem Answerable.register {after : Serving} {now : Nat}
    {eventId clientPubkey : String} {original : Json} {token : Option String}
    (registers : after.server.held.eventRoutes =
      serving.server.held.eventRoutes.register now eventId clientPubkey original token)
    (kept : ∀ eventId route, serving.server.held.eventRoutes.getRoute eventId = some route →
      after.server.sessions.contains route.clientPubkey = true)
    (present : after.server.sessions.contains clientPubkey = true) : after.Answerable := by
  refine ⟨?_, ?_⟩
  · rw [registers]
    exact answerable.listed.register _ _ _ _ _
  · intro other route found
    rw [registers, getRoute_register] at found
    split at found
    · cases found
      exact present
    · split at found
      · cases found
      · exact kept other route found

/-- An event that spares the clients with routes leaves every route answerable. -/
theorem Answerable.receive {now : Nat} {event : ReceivedEvent}
    (spared : serving.spares config (.receive now event) = true) (looping : Bool) :
    { serving with
      server := (serving.server.receive config now event).1, looping }.Answerable := by
  -- Whoever had a session and a route still has a session.
  have kept (eventId : String) (route : RouteEntry)
      (found : serving.server.held.eventRoutes.getRoute eventId = some route) :
      (serving.server.receive config now event).1.sessions.contains route.clientPubkey = true := by
    have present := answerable.sessions eventId route found
    rw [contains_receive]
    split
    · rename_i authorized
      apply contains_ensureSession present (answerable.listed.active found)
      intro member
      have unserved := List.all_eq_true.mp (of_decide_eq_true spared authorized) _ member
      have served := serves_iff.mpr ⟨eventId, route, found, rfl⟩
      simp [served] at unserved
    · exact present
  have untracked (same : (serving.server.receive config now event).1.held = serving.server.held) :
      { serving with
        server := (serving.server.receive config now event).1, looping }.Answerable := by
    refine ⟨?_, ?_⟩
    · rw [same]
      exact answerable.listed
    · grind
  rcases held_receive config now serving.server event with same | present
  · exact untracked same
  · rcases tracks_receive config now serving.server event with
      same | ⟨kind, original, token, same⟩
    · exact untracked same
    · -- The new route leads to the sender, who has a session.
      exact answerable.register (congrArg eventRoutes same) kept present

theorem Answerable.cleanupSessions {now timeout : Nat}
    (spared : serving.spares config (.cleanupSessions now timeout) = true) :
    { serving with server := (serving.server.cleanupSessions now timeout).2 }.Answerable := by
  refine answerable.thin (Thins.popRoutes _ _) ?_
  intro eventId route found present
  -- A route that is left is not among the stale keys, so its client is not dropped.
  rw [getRoute_cleanupSessions] at found
  split at found
  · cases found
  · rename_i fresh
    have live : route.clientPubkey ∉ serving.server.sessions.expiredKeys now timeout := by
      intro expired
      have listed := (peek_eq_some_iff _ _ _).mp found
      exact fresh (of_decide_eq_true (List.all_eq_true.mp spared _ listed) expired)
    show (((serving.server.sessions.expiredKeys now timeout).foldl pop
      serving.server.sessions.sessions).peek route.clientPubkey).isSome = true
    rw [peek_foldl_pop, if_neg live]
    exact present

/-- Whatever happens that spares the clients with routes, every route stays answerable. -/
theorem Answerable.step {action : ServerAction} {after : Serving}
    (spared : serving.spares config action = true)
    (taken : serving.step authorOf config action = some after) : after.Answerable := by
  cases action with
  | receive now event =>
    obtain ⟨-, rfl⟩ := Option.ite_some_none_eq_some.mp taken
    exact answerable.receive spared _
  | respond eventId =>
    -- The route is taken, whatever else is found.
    simp only [Serving.step, Option.some.injEq] at taken
    subst taken
    refine answerable.thin ?_ fun _ _ _ present => present
    rw [correlateResponse_snd]
    exact Thins.popRoutes serving.server.held [eventId]
  | settle item =>
    obtain ⟨-, rfl⟩ := Option.ite_some_none_eq_some.mp taken
    refine answerable.thin ⟨fun _ _ found => found, id⟩ ?_
    intro eventId route _ present
    exact (contains_getMut _ _ _ _).trans present
  | abandon item =>
    obtain ⟨-, rfl⟩ := Option.ite_some_none_eq_some.mp taken
    exact ⟨answerable.listed, answerable.sessions⟩
  | restore now item =>
    obtain ⟨-, rfl⟩ := Option.ite_some_none_eq_some.mp taken
    exact answerable.register rfl answerable.sessions spared
  | release eventId =>
    cases taken
    refine answerable.thin ?_ fun _ _ _ present => present
    unfold release
    split
    · exact Thins.popRoutes serving.server.held [eventId]
    · exact ⟨fun _ _ found => found, id⟩
  | cleanupSessions now timeout =>
    cases taken
    exact answerable.cleanupSessions spared
  | sweepStaleRoutes now timeout =>
    cases taken
    exact answerable.thin (Thins.popRoutes serving.server.held _) fun _ _ _ present => present
  | publishTo clientPubkey =>
    cases taken
    refine answerable.thin ⟨fun _ _ found => found, id⟩ ?_
    intro eventId route _ present
    exact (contains_getMut _ _ _ _).trans present
  | dropSession clientPubkey =>
    cases taken
    refine answerable.thin ⟨fun _ _ found => found, id⟩ ?_
    intro eventId route found present
    have other : route.clientPubkey ≠ clientPubkey := by
      intro same
      have served : serving.server.held.eventRoutes.serves clientPubkey = true :=
        serves_iff.mpr ⟨eventId, route, found, same⟩
      simp [spares, served] at spared
    show ((serving.server.sessions.sessions.pop clientPubkey).peek route.clientPubkey).isSome = true
    rw [peek_pop, if_neg other]
    exact present
  | close =>
    cases taken
    refine ⟨?_, ?_⟩
    · intro eventId route found
      cases found
    · intro eventId route found
      cases found

end

theorem answerable_start (maxSessions : Nat) (listening : Bool) :
    (start maxSessions listening).Answerable := by
  refine ⟨?_, ?_⟩
  · intro eventId route found
    cases found
  · intro eventId route found
    cases found

end Serving

namespace ResponseState

theorem deferred_ne_missing (setting : ResponseSetting) (relay : RelayOutcome)
    (state : ResponseState) (eventId : String) (snapshot : RouteSnapshot)
    (response : JsonRpcMessage) (text : String) :
    (state.sendOpenStreamDeferredResponse setting relay eventId snapshot response).1 ≠
      .failed (.other text) := by
  unfold sendOpenStreamDeferredResponse
  split
  · split <;> simp
  · simp

/-- A call does not fail for want of a session if every client with a route has one. -/
theorem sendResponse_ne_missing {state : ResponseState}
    (answerable : ∀ eventId route, state.held.eventRoutes.getRoute eventId = some route →
      state.sessions.contains route.clientPubkey = true)
    (setting : ResponseSetting) (now : Nat) (relay : RelayOutcome) (eventId : String)
    (response : JsonRpcMessage) (client : String) :
    (state.sendResponse setting now relay eventId response).1 ≠
      .failed (.other ("No session for client " ++ client)) := by
  cases streams : state.streaming setting eventId with
  | some slot =>
    cases finished : slot.terminated with
    | true =>
      obtain ⟨openStream, -, sent⟩ := sendResponse_terminated streams finished now relay response
      rw [sent]
      exact deferred_ne_missing _ _ _ _ _ _ _
    | false => grind [sendResponse_deferred]
  | none =>
    obtain ⟨openStream, -, sent⟩ := sendResponse_plain streams now relay response
    rw [sent]
    cases routed : state.held.eventRoutes.getRoute eventId with
    | some route =>
      -- The session is there, and every other fault has a text of its own.
      obtain ⟨session, found⟩ := Option.isSome_iff_exists.mp (answerable eventId route routed)
      have kept : (state.taken eventId openStream).held.eventRoutes.getRoute eventId = some route :=
        routed
      rw [sendPlain_route kept]
      simp only [sendByRoute, taken, found]
      split
      · simp
      · split
        · simp
        · split <;> simp
    | none =>
      have gone : (state.taken eventId openStream).held.eventRoutes.getRoute eventId = none :=
        routed
      cases state.held.paymentRouteSnapshots.peek eventId with
      | some entry => grind [sendPlain_snapshot, deferred_ne_missing]
      | none =>
        -- The texts differ at their fourth letter.
        simp only [sendPlain, pop_fst, gone]
        intro same
        injection same with same
        injection same with same
        have letters := congrArg String.toList same
        simp at letters

end ResponseState

/--
Every client with a route has a session, as long as everything that happens spares such clients.

A response for a request in flight is then never turned away for want of a session.
-/
theorem answerable_of_spares (authorOf : String → Option String) (config : ServerConfig)
    (maxSessions : Nat) (listening : Bool) (serving : Serving)
    (reached : Reaches (Serving.step authorOf config)
      (fun serving action => serving.spares config action = true)
      (Serving.start maxSessions listening) serving) :
    (∀ eventId route, serving.server.held.eventRoutes.getRoute eventId = some route →
      serving.server.sessions.contains route.clientPubkey = true) ∧
    ∀ setting now relay openStream eventId response client,
      (ResponseState.sendResponse setting now relay
        ⟨serving.server.sessions, serving.server.held, openStream⟩ eventId response).1 ≠
          .failed (.other ("No session for client " ++ client)) := by
  have answerable : serving.Answerable := by
    refine Reaches.invariant reached (Serving.answerable_start maxSessions listening) ?_
    intro before action after _ kept spared taken
    exact kept.step spared taken
  refine ⟨answerable.sessions, ?_⟩
  intro setting now relay openStream eventId response client
  exact ResponseState.sendResponse_ne_missing answerable.sessions _ _ _ _ _ _

/-- Bob has a route and a session after Alice is dropped with all that was kept for the session. -/
theorem answerable_of_spares_cleanup :
    ∃ serving, Reaches (Serving.step aliceAndBob (.public pingPrimitives))
        (fun serving action => serving.spares (.public pingPrimitives) action = true)
        (Serving.start 10 false) serving ∧
      serving.server.sessions.contains "alice" = false ∧
      ∃ route, serving.server.held.eventRoutes.getRoute "bob-1" = some route ∧
        serving.server.sessions.contains route.clientPubkey = true := by
  refine Reaches.exists_of_any (fun _ _ passed => passed)
    (callsWithToken "0" ++ [.cleanupSessions 150 100])
    (fun serving => serving.server.sessions.contains "alice" = false ∧
      (serving.server.held.eventRoutes.getRoute "bob-1").isSome = true) (by decide +kernel) ?_
  rintro serving reached ⟨gone, served⟩
  obtain ⟨route, found⟩ := Option.isSome_iff_exists.mp served
  exact ⟨gone, route, found, (answerable_of_spares _ _ _ _ serving reached).1 "bob-1" route found⟩

/-- The authors of the events of four clients. -/
def fourClients (eventId : String) : Option String :=
  [("alice-1", "alice"), ("bob-1", "bob"), ("carol-1", "carol"), ("dave-1", "dave")].lookup eventId

/-- Alice and Bob call a tool, and then Carol and Dave are heard of. -/
def crowdedActions : List ServerAction :=
  [.receive 0 ⟨"alice-1", "alice", [], none, toolCallWith 1 "0"⟩,
    .receive 1 ⟨"bob-1", "bob", [], none, toolCallWith 1 "1"⟩,
    .receive 2 ⟨"carol-1", "carol", [], none,
      .notification ⟨"2.0", "notifications/message", none⟩⟩,
    .receive 3 ⟨"dave-1", "dave", [], none, .notification ⟨"2.0", "notifications/message", none⟩⟩]

/--
With room for three sessions, two clients with routes and one without, one with a route loses its
session.

A new client pushes Alice out, who comes back because of a route and pushes Bob out, who has one as
well. Bob's response then fails.
-/
theorem crowded_client_unanswerable :
    ∃ serving, Serving.Reached fourClients (.public pingPrimitives) 3 false serving ∧
      (serving.server.held.eventRoutes.routes.iter.map fun item => item.2.clientPubkey).dedup =
        ["bob", "alice"] ∧
      (serving.server.held.eventRoutes.getRoute "bob-1").map RouteEntry.clientPubkey = some "bob" ∧
      serving.server.sessions.contains "bob" = false ∧
      (ResponseState.sendResponse plainSetting 4 openRelay
        ⟨serving.server.sessions, serving.server.held, .empty⟩ "bob-1"
        (.response ⟨"2.0", .null, .null⟩)).1 = .failed (.other "No session for client bob") := by
  exact Reaches.of_run crowdedActions _ (by decide +kernel)

end ContextVm
