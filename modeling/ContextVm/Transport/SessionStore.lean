import ContextVm.Lib.History
import ContextVm.Payments.Types
import ContextVm.Transport.RouteStore

/-! The sessions of a server's clients, and what becomes of the one that has to make room. -/

namespace ContextVm

open Lru

/-- What a server keeps about one of its clients. -/
structure ClientSession where
  isInitialized : Bool
  isEncrypted : Bool
  hasSentCommonTags : Bool
  supportsEphemeralGiftWrap : Bool
  supportsEncryption : Bool
  supportsEphemeralEncryption : Bool
  supportsOversizedTransfer : Bool
  supportsOpenStream : Bool
  requestedPaymentInteraction : Option PaymentInteractionMode
  effectivePaymentInteraction : Option PaymentInteractionMode
  hasDisclosedPaymentInteraction : Bool
  lastActivity : Nat
  pendingRequests : AList fun _ : String => Json
  eventToProgressToken : AList fun _ : String => String

namespace ClientSession

/-- The session of a client that nothing is known about yet. -/
def new (now : Nat) (isEncrypted : Bool) : ClientSession where
  isInitialized := false
  isEncrypted := isEncrypted
  hasSentCommonTags := false
  supportsEphemeralGiftWrap := false
  supportsEncryption := false
  supportsEphemeralEncryption := false
  supportsOversizedTransfer := false
  supportsOpenStream := false
  requestedPaymentInteraction := none
  effectivePaymentInteraction := none
  hasDisclosedPaymentInteraction := false
  lastActivity := now
  pendingRequests := ∅
  eventToProgressToken := ∅

/-- The session of a client that has just been heard of. -/
def updateActivity (session : ClientSession) (now : Nat) : ClientSession :=
  { session with lastActivity := now }

end ClientSession

/-- The sessions by client, and whether somebody is to be told of evictions. -/
structure SessionStore where
  sessions : Lru String ClientSession
  onEvicted : Bool

namespace SessionStore

/-- An empty store, which nobody listens to. -/
def withCapacity (maxSessions : Nat) : SessionStore where
  sessions := .withCapacity maxSessions
  onEvicted := false

/-- The store with a listener for evictions. -/
def setEvictionCallback (store : SessionStore) : SessionStore := { store with onEvicted := true }

/-- Whether a client has a session. -/
def contains (store : SessionStore) (clientPubkey : String) : Bool :=
  (store.sessions.peek clientPubkey).isSome

/--
Deal with the session that an insertion pushed out, if it did.

Returns the sessions left, and the clients that the listener is told of.
-/
def handleEviction (insertedKey : String) (evicted : Option (String × ClientSession))
    (sessions : Lru String ClientSession) (onEvicted : Bool) (eventRoutes : RouteStore)
    (now : Nat) :
    Lru String ClientSession × List String :=
  match evicted with
  | none => (sessions, [])
  | some (evictedKey, evictedSession) =>
    -- An update of the same key reports the old value, which is no eviction.
    if evictedKey ≠ insertedKey then
      if eventRoutes.hasActiveRoutesForClient evictedKey then
        -- The client gets a clean session, and what that pushes out is not looked at.
        ((sessions.push evictedKey (.new now evictedSession.isEncrypted)).1, [])
      else (sessions, if onEvicted then [evictedKey] else [])
    else (sessions, [])

/-- Give a client a new session, at the cost of an older one in a full store. -/
def insertSession (store : SessionStore) (clientPubkey : String) (isEncrypted : Bool)
    (eventRoutes : RouteStore) (now : Nat) : SessionStore × List String :=
  let (sessions, evicted) := store.sessions.push clientPubkey (.new now isEncrypted)
  let (left, told) :=
    handleEviction clientPubkey evicted sessions store.onEvicted eventRoutes now
  ({ store with sessions := left }, told)

/-- Change the session of a client, counting that as a use; there is none to change without one. -/
def getMut (store : SessionStore) (clientPubkey : String)
    (change : ClientSession → ClientSession) : Option SessionStore :=
  (store.sessions.peek clientPubkey).map fun session =>
    { store with sessions := store.sessions.put clientPubkey (change session) }

/-- The session of a client, which is created if there is none; tells whether it was. -/
def getOrCreateSession (store : SessionStore) (clientPubkey : String) (isEncrypted : Bool)
    (eventRoutes : RouteStore) (now : Nat) : Bool × SessionStore × List String :=
  match store.getMut clientPubkey fun session => { session with isEncrypted } with
  | some existing => (false, existing, [])
  | none => (true, store.insertSession clientPubkey isEncrypted eventRoutes now)

/-- The event loop's way to a session for the sender of an event. -/
def ensureSession (store : SessionStore) (senderPubkey : String) (isEncrypted : Bool)
    (eventRoutes : RouteStore) (now : Nat) : SessionStore × List String :=
  if store.contains senderPubkey then (store, [])
  else store.insertSession senderPubkey isEncrypted eventRoutes now

/-- The clients whose sessions have to make room when the sender of an event gets one. -/
def displaced (store : SessionStore) (senderPubkey : String) (isEncrypted : Bool)
    (eventRoutes : RouteStore) (now : Nat) : List String :=
  if store.contains senderPubkey then []
  else match store.sessions.victim senderPubkey with
    | none => []
    | some oldest =>
      -- The oldest one comes back with a clean session, at the cost of the next.
      oldest :: if eventRoutes.hasActiveRoutesForClient oldest then
          ((store.sessions.put senderPubkey (.new now isEncrypted)).victim oldest).toList
        else []

/-- Mark a session as initialized, if there is one. -/
def markInitialized (store : SessionStore) (clientPubkey : String) : SessionStore :=
  (store.getMut clientPubkey fun session => { session with isInitialized := true }).getD store

/-- Note that a client has been sent the common tags, if it has a session. -/
def markCommonTagsSent (store : SessionStore) (clientPubkey : String) : SessionStore :=
  (store.getMut clientPubkey fun session => { session with hasSentCommonTags := true }).getD store

end SessionStore

/-! Insertions one after the other, each with the routes of its time. -/

/-- A session is asked for, by the store's own function or by the event loop. -/
structure SessionInsertion where
  byEventLoop : Bool
  clientPubkey : String
  isEncrypted : Bool
  eventRoutes : RouteStore
  now : Nat

namespace SessionInsertion

/-- The store afterwards, and the clients the listener was told of. -/
def perform (store : SessionStore) (insertion : SessionInsertion) : SessionStore × List String :=
  if insertion.byEventLoop then
    let (ensured, told) := store.ensureSession insertion.clientPubkey insertion.isEncrypted
      insertion.eventRoutes insertion.now
    -- The loop goes on with the session it asked for, and panics without one.
    let used := ensured.getMut insertion.clientPubkey fun session =>
      { session.updateActivity insertion.now with isEncrypted := insertion.isEncrypted }
    (used.getD ensured, told)
  else
    (store.getOrCreateSession insertion.clientPubkey insertion.isEncrypted
      insertion.eventRoutes insertion.now).2

/-- What an insertion is to have done to the sessions of a store for so many of them. -/
structure Safe (maxSessions : Nat) (store : SessionStore) (insertion : SessionInsertion) :
    Prop where
  inserted : (insertion.perform store).1.contains insertion.clientPubkey = true
  bounded : (insertion.perform store).1.sessions.len ≤ max maxSessions 1
  -- The listener is told once of each session that is gone, and of no other.
  told : ∀ client, (insertion.perform store).2.count client =
    if store.contains client = true ∧ (insertion.perform store).1.contains client = false then 1
    else 0
  -- While somebody without routes has a session, nobody with routes loses theirs.
  kept : (∃ other, other ≠ insertion.clientPubkey ∧ store.contains other = true ∧
      insertion.eventRoutes.hasActiveRoutesForClient other = false) →
    ∀ client, insertion.eventRoutes.hasActiveRoutesForClient client = true →
      store.contains client = true → (insertion.perform store).1.contains client = true

/-- Whether a session has to make room whose client still has routes. -/
def EvictsActive (store : SessionStore) (insertion : SessionInsertion) : Prop :=
  ∃ oldest, store.sessions.victim insertion.clientPubkey = some oldest ∧
    insertion.eventRoutes.hasActiveRoutesForClient oldest = true

end SessionInsertion

namespace SessionStore

variable {store : SessionStore} {clientPubkey : String}

theorem contains_put (store : SessionStore) (clientPubkey other : String)
    (session : ClientSession) :
    { store with sessions := store.sessions.put clientPubkey session }.contains other =
      if other = clientPubkey then true
      else if store.sessions.victim clientPubkey = some other then false
      else store.contains other := by
  unfold contains
  rw [peek_put]
  split
  · rfl
  · split <;> rfl

@[simp] theorem contains_getMut (store : SessionStore) (clientPubkey other : String)
    (change : ClientSession → ClientSession) :
    ((store.getMut clientPubkey change).getD store).contains other = store.contains other := by
  unfold getMut
  cases found : store.sessions.peek clientPubkey with
  | none => rfl
  | some session =>
    -- Writing a client that has a session pushes nobody out.
    rw [Option.map_some, Option.getD_some, contains_put, victim_of_held found]
    by_cases same : other = clientPubkey
    · simp [same, contains, found]
    · simp [same]

theorem peek_getMut (store : SessionStore) (clientPubkey other : String)
    (change : ClientSession → ClientSession) :
    ((store.getMut clientPubkey change).getD store).sessions.peek other =
      if other = clientPubkey then (store.sessions.peek clientPubkey).map change
      else store.sessions.peek other := by
  unfold getMut
  cases found : store.sessions.peek clientPubkey with
  | none => grind
  | some session =>
    -- Writing a client that has a session pushes nobody out.
    simp [peek_put, victim_of_held found]

theorem settings_getMut (store : SessionStore) (clientPubkey : String)
    (change : ClientSession → ClientSession) :
    ((store.getMut clientPubkey change).getD store).sessions.cap = store.sessions.cap ∧
      ((store.getMut clientPubkey change).getD store).onEvicted = store.onEvicted := by
  unfold getMut
  cases store.sessions.peek clientPubkey <;> exact ⟨rfl, rfl⟩

theorem getMut_eq_none {change : ClientSession → ClientSession} :
    store.getMut clientPubkey change = none ↔ store.contains clientPubkey = false := by
  simp [getMut, contains]

variable (isEncrypted : Bool) (eventRoutes : RouteStore) (now : Nat)

theorem insertSession_of_fits (absent : store.contains clientPubkey = false)
    (fits : store.sessions.victim clientPubkey = none) :
    store.insertSession clientPubkey isEncrypted eventRoutes now =
      ({ store with sessions := store.sessions.put clientPubkey (.new now isEncrypted) }, []) := by
  have unread : store.sessions.peek clientPubkey = none := by simpa [contains] using absent
  simp [insertSession, push, unread, fits, handleEviction]

theorem insertSession_of_victim (absent : store.contains clientPubkey = false) {oldest : String}
    (given : store.sessions.victim clientPubkey = some oldest) :
    ∃ encrypted, store.insertSession clientPubkey isEncrypted eventRoutes now =
      let inserted := store.sessions.put clientPubkey (.new now isEncrypted)
      if eventRoutes.hasActiveRoutesForClient oldest then
        ({ store with sessions := inserted.put oldest (.new now encrypted) }, [])
      else ({ store with sessions := inserted }, if store.onEvicted then [oldest] else []) := by
  have unread : store.sessions.peek clientPubkey = none := by simpa [contains] using absent
  obtain ⟨held, distinct⟩ := victim_held given
  obtain ⟨session, found⟩ := Option.ne_none_iff_exists'.mp held
  refine ⟨session.isEncrypted, ?_⟩
  simp only [insertSession, push, unread, given, found, handleEviction, Option.bind_some,
    Option.map_some, if_pos distinct]
  -- Both ways of dealing with the oldest session are read off.
  split <;> rfl

/-- Who does not have to make room keeps the session they have. -/
theorem peek_ensureSession_of_spared {other : String}
    (spared : other ∉ store.displaced clientPubkey isEncrypted eventRoutes now)
    (different : other ≠ clientPubkey) :
    (store.ensureSession clientPubkey isEncrypted eventRoutes now).1.sessions.peek other =
      store.sessions.peek other := by
  unfold ensureSession
  unfold displaced at spared
  split
  · rfl
  · rename_i absent
    rw [if_neg absent] at spared
    rw [Bool.not_eq_true] at absent
    cases given : store.sessions.victim clientPubkey with
    | none =>
      rw [insertSession_of_fits _ _ _ absent given]
      simp [peek_put, different, given]
    | some oldest =>
      obtain ⟨encrypted, inserted⟩ :=
        insertSession_of_victim isEncrypted eventRoutes now absent given
      rw [inserted]
      simp only [given, List.mem_cons, not_or] at spared
      obtain ⟨older, next⟩ := spared
      -- The client is neither the oldest one nor the one that makes room for it.
      split
      · grind [peek_put]
      · simp [peek_put, different, given, Ne.symm older]

/-- A client that asks for a session has the one it had, or a new one unless it made room itself. -/
theorem peek_ensureSession_self :
    (store.ensureSession clientPubkey isEncrypted eventRoutes now).1.sessions.peek clientPubkey =
      match store.sessions.peek clientPubkey with
      | some session => some session
      | none => if clientPubkey ∈ store.displaced clientPubkey isEncrypted eventRoutes now then none
          else some (.new now isEncrypted) := by
  unfold ensureSession displaced
  cases found : store.sessions.peek clientPubkey with
  | some session => simp [contains, found]
  | none =>
    have absent : store.contains clientPubkey = false := by simp [contains, found]
    rw [absent, if_neg Bool.false_ne_true, if_neg Bool.false_ne_true]
    cases given : store.sessions.victim clientPubkey with
    | none =>
      rw [insertSession_of_fits _ _ _ absent given]
      simp
    | some oldest =>
      obtain ⟨-, distinct⟩ := victim_held given
      obtain ⟨encrypted, inserted⟩ :=
        insertSession_of_victim isEncrypted eventRoutes now absent given
      rw [inserted]
      split
      · grind [peek_put]
      · rename_i idle
        simp [Ne.symm distinct, idle]

theorem settings_ensureSession (store : SessionStore) (clientPubkey : String) :
    let ensured := (store.ensureSession clientPubkey isEncrypted eventRoutes now).1
    ensured.sessions.cap = store.sessions.cap ∧ ensured.onEvicted = store.onEvicted := by
  unfold ensureSession
  split
  · exact ⟨rfl, rfl⟩
  · rename_i absent
    rw [Bool.not_eq_true] at absent
    cases given : store.sessions.victim clientPubkey with
    | none =>
      rw [insertSession_of_fits _ _ _ absent given]
      exact ⟨rfl, rfl⟩
    | some oldest =>
      obtain ⟨encrypted, inserted⟩ :=
        insertSession_of_victim isEncrypted eventRoutes now absent given
      rw [inserted]
      split <;> exact ⟨rfl, rfl⟩

end SessionStore

namespace SessionInsertion

variable {store : SessionStore} {insertion : SessionInsertion}

/-- Both ways to ask for a session come down to the event loop's, with the session used after it. -/
theorem perform_spec (store : SessionStore) (insertion : SessionInsertion) :
    let ensured := store.ensureSession insertion.clientPubkey insertion.isEncrypted
      insertion.eventRoutes insertion.now
    (insertion.perform store).2 = ensured.2 ∧
      ((insertion.perform store).1.sessions.cap = ensured.1.sessions.cap ∧
        (insertion.perform store).1.onEvicted = ensured.1.onEvicted) ∧
      ∀ client, (insertion.perform store).1.contains client = ensured.1.contains client := by
  intro ensured
  unfold perform
  by_cases loop : insertion.byEventLoop = true
  · grind [SessionStore.settings_getMut, SessionStore.contains_getMut]
  · rw [if_neg loop, SessionStore.getOrCreateSession]
    cases held : store.contains insertion.clientPubkey with
    | false =>
      -- There is nothing to use, so the session is created.
      rw [SessionStore.getMut_eq_none.mpr held]
      simp [ensured, SessionStore.ensureSession, held]
    | true =>
      have kept : ensured = (store, []) := by simp [ensured, SessionStore.ensureSession, held]
      generalize (fun session : ClientSession =>
        { session with isEncrypted := insertion.isEncrypted }) = change
      have contained (other : String) := store.contains_getMut insertion.clientPubkey other change
      have settings := store.settings_getMut insertion.clientPubkey change
      cases used : store.getMut insertion.clientPubkey change with
      | none => simp [SessionStore.getMut_eq_none, held] at used
      | some changed => grind

theorem settings_perform (store : SessionStore) (insertion : SessionInsertion) :
    (insertion.perform store).1.sessions.cap = store.sessions.cap ∧
      (insertion.perform store).1.onEvicted = store.onEvicted := by
  obtain ⟨capacity, listener⟩ := (insertion.perform_spec store).2.1
  obtain ⟨room, same⟩ := store.settings_ensureSession insertion.isEncrypted insertion.eventRoutes
    insertion.now insertion.clientPubkey
  exact ⟨capacity.trans room, listener.trans same⟩

theorem safe_of_kept {maxSessions : Nat}
    (inserted : (insertion.perform store).1.contains insertion.clientPubkey = true)
    (bounded : (insertion.perform store).1.sessions.len ≤ max maxSessions 1)
    (told : (insertion.perform store).2 = [])
    (still : ∀ client, store.contains client = true →
      (insertion.perform store).1.contains client = true) : insertion.Safe maxSessions store := by
  refine ⟨inserted, bounded, ?_, fun _ client _ => still client⟩
  intro client
  rw [told, List.count_nil, if_neg]
  rintro ⟨here, gone⟩
  simp [still client here] at gone

/-- An insertion is safe unless a client with routes has to make room for it. -/
theorem safe_of_not_evictsActive {maxSessions : Nat} (listening : store.onEvicted = true)
    (capacity : store.sessions.cap = max maxSessions 1) (calm : ¬ insertion.EvictsActive store) :
    insertion.Safe maxSessions store := by
  obtain ⟨told, -, contained⟩ := insertion.perform_spec store
  have bounded : (insertion.perform store).1.sessions.len ≤ max maxSessions 1 := by
    grind [settings_perform, len_le_cap]
  cases held : store.contains insertion.clientPubkey with
  | true =>
    -- The client has a session, so nothing is inserted and nobody loses theirs.
    simp only [SessionStore.ensureSession, held, if_true] at told contained
    refine safe_of_kept (by rw [contained, held]) bounded told ?_
    intro client here
    rw [contained]
    exact here
  | false =>
    simp only [SessionStore.ensureSession, held, Bool.false_eq_true, if_false] at told contained
    cases given : store.sessions.victim insertion.clientPubkey with
    | none =>
      -- There is room, so everybody who had a session still has it.
      rw [SessionStore.insertSession_of_fits _ _ _ held given] at told contained
      refine safe_of_kept ?_ bounded told ?_
      · rw [contained, SessionStore.contains_put, if_pos rfl]
      · grind [SessionStore.contains_put]
    | some oldest =>
      -- The oldest session goes, whose client has no routes.
      have idle : insertion.eventRoutes.hasActiveRoutesForClient oldest = false := by
        rw [← Bool.not_eq_true]
        exact fun active => calm ⟨oldest, given, active⟩
      obtain ⟨encrypted, inserted⟩ := SessionStore.insertSession_of_victim insertion.isEncrypted
        insertion.eventRoutes insertion.now held given
      simp only [inserted, idle, Bool.false_eq_true, if_false] at told contained
      simp only [listening, if_true] at told
      have present : store.contains oldest = true :=
        Option.isSome_iff_ne_none.mpr (victim_held given).1
      have distinct : oldest ≠ insertion.clientPubkey := (victim_held given).2
      have still (client : String) (other : client ≠ oldest) (here : store.contains client = true) :
          (insertion.perform store).1.contains client = true := by grind [SessionStore.contains_put]
      refine ⟨?_, bounded, ?_, ?_⟩
      · rw [contained, SessionStore.contains_put, if_pos rfl]
      · intro client
        rw [told]
        by_cases same : client = oldest
        · -- The oldest session was there, and is there no more.
          subst same
          rw [List.count_singleton_self, contained, SessionStore.contains_put, if_neg distinct,
            if_pos given, if_pos ⟨present, rfl⟩]
        · rw [List.count_singleton, if_neg (by simpa using Ne.symm same), if_neg]
          rintro ⟨here, gone⟩
          simp [still client same here] at gone
      · intro _ client active here
        apply still client _ here
        rintro rfl
        simp [idle] at active

/--
No insertion is safe that takes a session from a client with routes.

Giving that client a new session pushes out another one, which nobody is told of.
-/
theorem not_safe_of_evictsActive {maxSessions : Nat} (evicts : insertion.EvictsActive store) :
    ¬ insertion.Safe maxSessions store := by
  obtain ⟨oldest, given, active⟩ := evicts
  intro safe
  obtain ⟨told, -, contained⟩ := insertion.perform_spec store
  -- Room is only made for a client without a session.
  have absent : store.contains insertion.clientPubkey = false := by
    rw [← Bool.not_eq_true]
    intro held
    obtain ⟨session, found⟩ := Option.isSome_iff_exists.mp held
    simp [victim_of_held found] at given
  simp only [SessionStore.ensureSession, absent, Bool.false_eq_true, if_false] at told contained
  obtain ⟨encrypted, inserted⟩ := SessionStore.insertSession_of_victim insertion.isEncrypted
    insertion.eventRoutes insertion.now absent given
  simp only [inserted, active, if_true] at told contained
  -- The store is full again when the oldest client comes back, so another one has to go.
  have again := overflows_put_victim given (.new insertion.now insertion.isEncrypted)
  obtain ⟨lost, second⟩ := Option.isSome_iff_exists.mp (victim_isSome again)
  have gone : (insertion.perform store).1.contains lost = false := by
    rw [contained, SessionStore.contains, peek_put, if_neg (victim_held second).2, if_pos second]
    rfl
  by_cases new : lost = insertion.clientPubkey
  · -- The session just inserted is the one to go.
    have here := safe.inserted
    simp [← new, gone] at here
  · -- Somebody else's session is gone, and nobody was told.
    have before : store.contains lost = true := by
      have held := (victim_held second).1
      rw [peek_put, if_neg new] at held
      split at held
      · exact absurd rfl held
      · exact Option.isSome_iff_ne_none.mpr held
    have counted := safe.told lost
    rw [told, if_pos ⟨before, gone⟩] at counted
    cases counted

/-- The insertions of a sequence, each with the store it was made on. -/
def record (maxSessions : Nat) (insertions : List SessionInsertion) :
    List (SessionStore × SessionInsertion) :=
  history (fun store insertion => (perform store insertion).1) Prod.mk
    (SessionStore.withCapacity maxSessions).setEvictionCallback insertions

theorem record_settings {maxSessions : Nat} {insertions : List SessionInsertion}
    {call : SessionStore × SessionInsertion} (made : call ∈ record maxSessions insertions) :
    call.1.onEvicted = true ∧ call.1.sessions.cap = max maxSessions 1 := by
  -- The insertions before this one left the settings as they were at the start.
  obtain ⟨earlier, later, split⟩ := List.append_of_mem made
  obtain ⟨first, insertion, -, noted, -⟩ := history_split split
  rw [noted]
  clear noted split
  induction first using List.reverseRecOn with
  | nil => exact ⟨rfl, rfl⟩
  | append_singleton before last ih =>
    rw [List.foldl_append, List.foldl_cons, List.foldl_nil]
    obtain ⟨room, listener⟩ := settings_perform
      (before.foldl (fun store insertion => (perform store insertion).1) _) last
    exact ⟨listener.trans ih.1, room.trans ih.2⟩

/-- Of the insertions of a sequence, those are safe that evict no client with routes. -/
theorem safe_iff_not_evictsActive (maxSessions : Nat) (insertions : List SessionInsertion) :
    ∀ call ∈ record maxSessions insertions,
      call.2.Safe maxSessions call.1 ↔ ¬ call.2.EvictsActive call.1 := by
  intro call made
  obtain ⟨listening, capacity⟩ := record_settings made
  constructor
  · grind [not_safe_of_evictsActive]
  · exact safe_of_not_evictsActive listening capacity

/-- The route store of a server that is handling a request of one client. -/
def handling (clientPubkey : String) : RouteStore :=
  (RouteStore.withMaxRoutes 10).register 0 "e1" clientPubkey (.number (.posInt 1)) none

/-- Clients ask for sessions one after the other while a request of Alice is handled. -/
def crowding (byEventLoop : Bool) (clients : List String) : List SessionInsertion :=
  clients.map fun clientPubkey => ⟨byEventLoop, clientPubkey, false, handling "alice", 0⟩

/-- In a full store of two, Bob without routes makes room for Carol; Alice with routes stays. -/
def bobMakesRoom (call : SessionStore × SessionInsertion) : Bool :=
  call.2.clientPubkey = "carol" ∧ call.1.sessions.len = 2 ∧
    call.1.sessions.victim "carol" = some "bob" ∧
    call.2.eventRoutes.hasActiveRoutesForClient "bob" = false ∧
    call.2.eventRoutes.hasActiveRoutesForClient "alice" = true ∧
    (call.2.perform call.1).2 = ["bob"] ∧ (call.2.perform call.1).1.contains "alice" = true

/-- An idle client is evicted with one callback, a client with routes is not, and that is safe. -/
theorem safe_iff_not_evictsActive_idle :
    ∃ call ∈ record 2 (crowding true ["bob", "alice", "carol"]),
      bobMakesRoom call = true ∧ call.2.Safe 2 call.1 := by
  obtain ⟨call, listed, checked⟩ := (Option.any_eq_true _ _).mp
    (by decide : ((record 2 (crowding true ["bob", "alice", "carol"]))[2]?).any bobMakesRoom = true)
  have made := List.mem_of_getElem? listed
  refine ⟨call, made, checked, (safe_iff_not_evictsActive 2 _ call made).mpr ?_⟩
  -- The only client that has to make room is Bob, who has no routes.
  obtain ⟨carol, -, victim, idle, -⟩ := of_decide_eq_true checked
  rintro ⟨oldest, given, active⟩
  rw [carol, victim] at given
  cases given
  simp [idle] at active

/--
A client with routes costs the new client its session, or somebody else theirs.

In a store for one, the session just inserted is not there; in a store for two, the session of
a client without routes is gone, and nobody has been told.
-/
theorem vetoed_eviction_evicts :
    (∀ byEventLoop : Bool,
      let last := (record 1 (crowding byEventLoop ["alice", "bob"])).getLast?
      last.map (fun call => (call.2.perform call.1).1.contains call.2.clientPubkey) = some false) ∧
    ∀ byEventLoop : Bool,
      let last := (record 2 (crowding byEventLoop ["alice", "bob", "carol"])).getLast?
      last.map (fun call => call.1.contains "bob") = some true ∧
        last.map (fun call => (call.2.perform call.1).1.contains "bob") = some false ∧
        last.map (fun call => (call.2.perform call.1).2) = some [] := by
  decide

end SessionInsertion

end ContextVm
