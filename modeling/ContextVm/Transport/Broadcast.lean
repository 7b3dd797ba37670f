import ContextVm.Transport.Worker

/-! What the rmcp service has a server publish, and to which of its clients. -/

namespace ContextVm

/-- The kind of gift wrap for a notification: that of the request it is about, if any. -/
def selectOutboundNotificationGiftWrapKind (mode : GiftWrapMode) (isEncrypted : Bool)
    (correlatedWrapKind : Option Nat) (clientSupportsEphemeral : Bool) : Option Nat :=
  if isEncrypted then
    match correlatedWrapKind.filter mode.allowsKind with
    | some kind => some kind
    | none =>
      if clientSupportsEphemeral ∧ mode.supportsEphemeral then
        some ephemeralGiftWrapKind
      else match mode with
        | .persistent => some giftWrapKind
        | .ephemeral => some ephemeralGiftWrapKind
        | .optional => some giftWrapKind
  else none

/-- What a server is configured with for what it sends. -/
structure OutboundConfig where
  encryptionMode : EncryptionMode
  giftWrapMode : GiftWrapMode
  -- What every client is told about the server once.
  commonTags : List (List String)

/-- An event that is handed to the relays. -/
structure Publication where
  recipient : String
  tags : List (List String)
  message : JsonRpcMessage
  -- The kind of the gift wrap around it; a plain event has none.
  wrapKind : Option Nat
  deriving DecidableEq

/-- What can go wrong with a notification outside the server, each with the text of its error. -/
structure PublishOutcome where
  -- Reading a text as a public key or as an event id.
  refusesPublicKey : String → Option String
  refusesEventId : String → Option String
  -- Building and signing the event, wrapping it and handing it to the relays.
  fails : Option String

/-- Send a client a notification, perhaps about one of its requests. -/
def publishPaymentNotification (outbound : OutboundConfig) (outcome : PublishOutcome)
    (sessions : SessionStore) (correlatedWrapKind : Option Nat) (clientPubkey : String)
    (correlatedEventId : Option String) (notification : JsonRpcMessage) :
    SessionStore × Except String Publication :=
  match sessions.sessions.peek clientPubkey with
  | none => (sessions, .error ("No session for " ++ clientPubkey))
  | some session =>
    let discoveryTags := if session.hasSentCommonTags then [] else outbound.commonTags
    let selected := selectOutboundNotificationGiftWrapKind outbound.giftWrapMode
      session.isEncrypted correlatedWrapKind session.supportsEphemeralGiftWrap
    -- The tags count as sent from here on, also when the notification does not get out.
    let marked := sessions.markCommonTagsSent clientPubkey
    match (outcome.refusesPublicKey clientPubkey).or
      ((correlatedEventId.bind outcome.refusesEventId).or outcome.fails) with
    | some error => (marked, .error error)
    | none =>
      (marked, .ok
        { recipient := clientPubkey
          tags := [["p", clientPubkey]] ++
            (correlatedEventId.toList.map fun eventId => ["e", eventId]) ++ discoveryTags
          message := notification
          wrapKind :=
            if outbound.encryptionMode.shouldEncrypt session.isEncrypted then
              some (selected.getD giftWrapKind)
            else none })

/-- Send a client a notification that may be about one of its requests. -/
def sendNotification (outbound : OutboundConfig) (outcome : PublishOutcome)
    (requestWrapKinds : AList fun _ : String => Option Nat) (sessions : SessionStore)
    (clientPubkey : String) (notification : JsonRpcMessage) (correlatedEventId : Option String) :
    SessionStore × Except String Publication :=
  let correlatedWrapKind := (correlatedEventId.bind requestWrapKinds.lookup).join
  publishPaymentNotification outbound outcome sessions correlatedWrapKind clientPubkey
    correlatedEventId notification

/-! Broadcasts. -/

/-- The clients whose sessions are initialized. -/
def SessionStore.initialized (store : SessionStore) : List String :=
  (store.sessions.iter.filter fun item => item.2.isInitialized).map Prod.fst

/-- What happens around the turns of a broadcast. -/
structure Surroundings where
  -- What other tasks do to the sessions before a turn.
  meanwhile : Nat → SessionStore → SessionStore
  -- What comes of the parts of a turn that are outside the server.
  outcome : Nat → PublishOutcome

section Broadcast

variable (outbound : OutboundConfig) (requestWrapKinds : AList fun _ : String => Option Nat)
  (around : Surroundings) (notification : JsonRpcMessage)

/-- Send clients a notification one after the other, and note how each turn went. -/
def sendToEach (turn : Nat) (sessions : SessionStore) :
    List String → SessionStore × List (String × Except String Publication)
  | [] => (sessions, [])
  | clientPubkey :: rest =>
    let (sent, outcome) := sendNotification outbound (around.outcome turn) requestWrapKinds
      (around.meanwhile turn sessions) clientPubkey notification none
    -- A failure is logged, and the next client has its turn.
    let (after, outcomes) := sendToEach (turn + 1) sent rest
    (after, (clientPubkey, outcome) :: outcomes)

/-- Send a notification to all clients that are initialized at the start. -/
def broadcastNotification (sessions : SessionStore) :
    SessionStore × List (String × Except String Publication) :=
  sendToEach outbound requestWrapKinds around notification 0 sessions sessions.initialized

end Broadcast

/-- The id of the requests that a server makes of itself to announce what it offers. -/
def announcementRequestId : String := "announcement"

/-- The id of the worker's own request that opens the service. -/
def statelessSyntheticEventId : String := "contextvm-stateless-init"

/-- What becomes of a message of the service. -/
inductive Forwarded where
  -- It answers one of the server's own requests.
  | announcement (response : JsonRpcMessage)
  | dropped
  -- It answers the request of an event.
  | response (eventId : String) (response : JsonRpcMessage)
  -- It is sent to all initialized clients.
  | broadcast (sessions : SessionStore) (outcomes : List (String × Except String Publication))

/-- Where a response goes, by the event id that its request was handed over with. -/
def forwardResponse (id : Json) (notAString : String) (response : JsonRpcMessage) :
    Except String Forwarded :=
  match id.asStr with
  | none => .error notAString
  | some eventId =>
    .ok <| if eventId = announcementRequestId then .announcement response
      else if eventId = statelessSyntheticEventId then .dropped
      else .response eventId response

/-- Forward a message of the service to its clients. -/
def forwardServerInternal (outbound : OutboundConfig)
    (requestWrapKinds : AList fun _ : String => Option Nat) (around : Surroundings)
    (sessions : SessionStore) (message : JsonRpcMessage) : Except String Forwarded :=
  match message with
  | .response body =>
    forwardResponse body.id "rmcp server response id is not a string event_id" message
  | .errorResponse body =>
    forwardResponse body.id "rmcp server error response id is not a string event_id" message
  | .notification _ | .request _ =>
    let (after, outcomes) :=
      broadcastNotification outbound requestWrapKinds around message sessions
    .ok (.broadcast after outcomes)

/-- Why a turn cannot get a message out to a client that has a session; none if it can. -/
def Surroundings.obstacle (around : Surroundings) (turn : Nat) (client : String) : Option String :=
  ((around.outcome turn).refusesPublicKey client).or (around.outcome turn).fails

/-- What a broadcast to the initialized clients of a store comes to. -/
structure Broadcasts (around : Surroundings) (sessions : SessionStore) (message : JsonRpcMessage)
    (outcomes : List (String × Except String Publication)) : Prop where
  -- Every initialized client has one turn, and nobody else has any.
  turns : ∀ client, (outcomes.map Prod.fst).count client =
    if (sessions.sessions.peek client).any ClientSession.isInitialized then 1 else 0
  -- In its turn a client is sent the message, and nobody else is sent anything.
  sent : ∀ client publication, (client, .ok publication) ∈ outcomes →
    publication.recipient = client ∧ publication.message = message
  -- A turn fails for want of a session, or for what is outside the server in that very turn.
  failed : ∀ turn client error, outcomes[turn]? = some (client, .error error) →
    error = "No session for " ++ client ∨ around.obstacle turn client = some error
  -- A turn with such an obstacle fails.
  blocked : ∀ turn client publication, outcomes[turn]? = some (client, .ok publication) →
    around.obstacle turn client = none

/-- No session is lost while a broadcast is under way. -/
def KeepsSessions (around : Surroundings) : Prop :=
  ∀ turn store client, store.contains client = true →
    (around.meanwhile turn store).contains client = true

section Sending

variable {outbound : OutboundConfig} {requestWrapKinds : AList fun _ : String => Option Nat}
  {around : Surroundings} {message : JsonRpcMessage} {sessions : SessionStore} {turn : Nat}
  {clients : List String} {client : String}

/-- A turn gets out, or fails for want of a session, or meets an obstacle. -/
theorem sendNotification_cases (turn : Nat) (sessions : SessionStore) (client : String) :
    let sent := (sendNotification outbound (around.outcome turn) requestWrapKinds sessions client
      message none).2
    (∃ publication, sent = .ok publication ∧ publication.recipient = client ∧
        publication.message = message ∧ around.obstacle turn client = none) ∨
      (sessions.contains client = false ∧ sent = .error ("No session for " ++ client)) ∨
      ∃ error, sent = .error error ∧ around.obstacle turn client = some error := by
  simp only [sendNotification, publishPaymentNotification, SessionStore.contains,
    Surroundings.obstacle]
  -- Without a session the turn is over before anything outside is tried.
  cases sessions.sessions.peek client with
  | none => simp
  | some session =>
    simp only [Option.bind_none, Option.none_or]
    -- With one, the first obstacle decides.
    split
    · rename_i error met
      exact .inr (.inr ⟨error, rfl, met⟩)
    · rename_i clear
      exact .inl ⟨_, rfl, rfl, rfl, clear⟩

/-- A turn takes nobody's session away. -/
theorem contains_sendNotification (outcome : PublishOutcome) (sessions : SessionStore)
    (client other : String) :
    (sendNotification outbound outcome requestWrapKinds sessions client message none).1.contains
      other = sessions.contains other := by
  unfold sendNotification publishPaymentNotification
  simp only
  split
  · rfl
  · split <;> exact SessionStore.contains_getMut _ client other _

/-- The turns are those of the clients, in their order. -/
theorem clients_sendToEach (turn : Nat) (sessions : SessionStore) (clients : List String) :
    (sendToEach outbound requestWrapKinds around message turn sessions clients).2.map Prod.fst =
      clients := by
  -- The sessions change from turn to turn, so they are general.
  induction clients generalizing turn sessions with
  | nil => rfl
  | cons client rest ih => simp [sendToEach, ih]

/-- What each turn of a broadcast comes to. -/
theorem getElem?_sendToEach {index : Nat} {outcome : Except String Publication}
    (listed :
      (sendToEach outbound requestWrapKinds around message turn sessions clients).2[index]? =
      some (client, outcome)) :
    (∃ publication, outcome = .ok publication ∧ publication.recipient = client ∧
        publication.message = message ∧ around.obstacle (turn + index) client = none) ∨
      outcome = .error ("No session for " ++ client) ∨
      ∃ error, outcome = .error error ∧ around.obstacle (turn + index) client = some error := by
  induction clients generalizing turn sessions index with
  | nil => cases listed
  | cons first rest ih =>
    cases index with
    | zero =>
      cases listed
      exact (sendNotification_cases turn _ client).imp_right (Or.imp_left And.right)
    | succ index =>
      -- The rest is the broadcast that starts one turn later.
      have later := ih listed
      rwa [Nat.add_assoc, Nat.add_comm 1 index] at later

/-- Where no session is lost, a turn without an obstacle gets out. -/
theorem sent_sendToEach (kept : KeepsSessions around)
    (present : ∀ client ∈ clients, sessions.contains client = true) {index : Nat}
    {outcome : Except String Publication}
    (listed :
      (sendToEach outbound requestWrapKinds around message turn sessions clients).2[index]? =
      some (client, outcome)) (clear : around.obstacle (turn + index) client = none) :
    ∃ publication, outcome = .ok publication := by
  induction clients generalizing turn sessions index with
  | nil => cases listed
  | cons first rest ih =>
    cases index with
    | zero =>
      cases listed
      rcases sendNotification_cases turn (around.meanwhile turn sessions) client with
        ⟨publication, sent, -⟩ | ⟨absent, -⟩ | ⟨error, -, met⟩
      · exact ⟨publication, sent⟩
      · have still := kept turn sessions client (present client List.mem_cons_self)
        simp [absent] at still
      · cases clear.symm.trans met
    | succ index =>
      -- The others still have their sessions after this turn.
      refine ih ?_ listed (by rwa [Nat.add_assoc, Nat.add_comm 1 index])
      intro client among
      have still := kept turn sessions client (present client (List.mem_cons_of_mem first among))
      exact (contains_sendNotification _ _ first client).trans still

/-- The clients of a broadcast are those that have initialized. -/
theorem mem_initialized {client : String} :
    client ∈ sessions.initialized ↔
      (sessions.sessions.peek client).any ClientSession.isInitialized = true := by
  rw [SessionStore.initialized, Option.any_eq_true]
  simp only [List.mem_map, List.mem_filter]
  constructor
  · grind [Lru.peek_eq_some_iff]
  · grind [Lru.peek_eq_some_iff]

/-- None of them is listed twice. -/
theorem nodup_initialized (sessions : SessionStore) : sessions.initialized.Nodup :=
  (sessions.sessions.nodup_keys_iter).sublist (List.filter_sublist.map Prod.fst)

/-- A broadcast gives each initialized client its turn, and a turn is about that client alone. -/
theorem broadcasts (sessions : SessionStore) :
    Broadcasts around sessions message
      (broadcastNotification outbound requestWrapKinds around message sessions).2 := by
  refine ⟨?_, ?_, ?_, ?_⟩
  · grind [broadcastNotification, clients_sendToEach, nodup_initialized, mem_initialized]
  · intro client publication member
    obtain ⟨index, listed⟩ := List.getElem?_of_mem member
    rcases getElem?_sendToEach listed with ⟨_, same, recipient, sent, -⟩ | failed | ⟨_, failed, -⟩
    · cases same
      exact ⟨recipient, sent⟩
    · cases failed
    · cases failed
  · intro turn client error listed
    rcases getElem?_sendToEach listed with ⟨_, same, -⟩ | failed | ⟨_, failed, met⟩
    · cases same
    · cases failed
      exact .inl rfl
    · cases failed
      exact .inr (by simpa using met)
  · intro turn client publication listed
    rcases getElem?_sendToEach listed with ⟨_, -, -, -, clear⟩ | failed | ⟨_, failed, -⟩
    · simpa using clear
    · cases failed
    · cases failed

/-- An initialized client has a turn. -/
theorem Broadcasts.exists_turn {outcomes : List (String × Except String Publication)}
    (broadcast : Broadcasts around sessions message outcomes)
    (initialized : client ∈ sessions.initialized) :
    ∃ (turn : Nat) (outcome : Except String Publication),
      outcomes[turn]? = some (client, outcome) := by
  have once := broadcast.turns client
  rw [if_pos (mem_initialized.mp initialized)] at once
  have member : client ∈ outcomes.map Prod.fst := List.count_pos_iff.mp (by omega)
  obtain ⟨⟨named, outcome⟩, listed, same⟩ := List.mem_map.mp member
  cases same
  obtain ⟨turn, found⟩ := List.getElem?_of_mem listed
  exact ⟨turn, outcome, found⟩

/-- Where no session is lost, a turn of a broadcast without an obstacle gets out. -/
theorem sent_broadcast (kept : KeepsSessions around) {outcome : Except String Publication}
    (listed : (broadcastNotification outbound requestWrapKinds around message sessions).2[turn]? =
      some (client, outcome)) (clear : around.obstacle turn client = none) :
    ∃ publication, outcome = .ok publication := by
  refine sent_sendToEach kept ?_ listed (by simpa using clear)
  intro client among
  obtain ⟨session, found, -⟩ := (Option.any_eq_true _ _).mp (mem_initialized.mp among)
  rw [SessionStore.contains, found]
  rfl

end Sending

/--
Every notification of the service, progress among them, goes to all clients that are initialized,
once to each and to nobody else, whoever made the request it is about; so do its own requests.

A turn fails when its session is gone, when the client's key is not read as one, or when the event
cannot be built or published.
-/
theorem notification_reaches_initialized (outbound : OutboundConfig)
    (requestWrapKinds : AList fun _ : String => Option Nat) (around : Surroundings)
    (sessions : SessionStore) (message : JsonRpcMessage) (method : String)
    (named : message.method = some method) :
    ∃ after outcomes, forwardServerInternal outbound requestWrapKinds around sessions message =
        .ok (.broadcast after outcomes) ∧
      Broadcasts around sessions message outcomes ∧
      (KeepsSessions around → ∀ (turn : Nat) client outcome,
        outcomes[turn]? = some (client, outcome) → around.obstacle turn client = none →
          ∃ publication, outcome = .ok publication) := by
  let run := broadcastNotification outbound requestWrapKinds around message sessions
  refine ⟨run.1, run.2, ?_, broadcasts sessions, ?_⟩
  · -- Only requests and notifications name a method, and both are broadcast.
    cases message with
    | request body | notification body => rfl
    | response body | errorResponse body => cases named
  · intro kept turn client outcome listed clear
    exact sent_broadcast kept listed clear

/-- The progress of a request, under the token that its client chose. -/
def progressOf (token : Json) : JsonRpcMessage :=
  .notification ⟨"2.0", "notifications/progress",
    some (.object [("progressToken", token), ("progress", .ofU64 1)])⟩

/-- A server that encrypts for those who encrypt. -/
def mirroringOutbound : OutboundConfig := ⟨.optional, .optional, [["name", "server"]]⟩

/-- A notification by which a client says that it is ready. -/
def initializedNotification : JsonRpcMessage :=
  .notification ⟨"2.0", "notifications/initialized", none⟩

/-- The authors of the events below. -/
def aliceAndBobByKey (eventId : String) : Option String :=
  if eventId = "alice-1" ∨ eventId = "alice-2" then some aliceKey
  else if eventId = "bob-1" then some bobKey
  else none

/-- Two clients are ready, and Alice calls a tool with the token 0. -/
def aliceCallsBobListens : List ServerAction :=
  [.receive 0 ⟨"bob-1", bobKey, [], none, initializedNotification⟩,
    .receive 0 ⟨"alice-1", aliceKey, [], none, initializedNotification⟩,
    .receive 0 ⟨"alice-2", aliceKey, [], none, toolCallWith 1 "0"⟩]

/-- Both clients are initialized, and the token 0 is that of Alice's request in flight. -/
def aliceIsServed (serving : Serving) : Bool :=
  ((serving.server.held.eventRoutes.getRoute "alice-2").any fun route =>
    route.clientPubkey = aliceKey ∧ route.progressToken = some "0") ∧
  aliceKey ∈ serving.server.sessions.initialized ∧ bobKey ∈ serving.server.sessions.initialized

/-- Nothing else goes on, keys and ids of 64 hex digits are read, and every event gets out. -/
def quiet : Surroundings where
  meanwhile := fun _ store => store
  outcome := fun _ =>
    { refusesPublicKey := fun text => if isHex64 text then none else some "malformed public key"
      refusesEventId := fun text => if isHex64 text then none else some "malformed event id"
      fails := none }

/-- Nothing is in the way of a valid key there. -/
theorem quiet_obstacle {key : String} (hex : isHex64 key = true) (turn : Nat) :
    quiet.obstacle turn key = none := by
  simp [Surroundings.obstacle, quiet, hex]

/-- The progress of Alice's request goes to both clients. -/
theorem notification_reaches_both :
    ∃ serving, Serving.Reached aliceAndBobByKey (.public pingPrimitives) 10 false serving ∧
      aliceIsServed serving = true ∧
      ∃ after outcomes, forwardServerInternal mirroringOutbound
          serving.server.held.requestWrapKinds quiet serving.server.sessions
          (progressOf (.string "0")) = .ok (.broadcast after outcomes) ∧
        Broadcasts quiet serving.server.sessions (progressOf (.string "0")) outcomes ∧
        ∀ client ∈ [aliceKey, bobKey], ∃ publication, (client, .ok publication) ∈ outcomes := by
  refine Reaches.exists_of_run aliceCallsBobListens (aliceIsServed ·) (by decide) ?_
  intro serving _ served
  refine ⟨served, ?_⟩
  obtain ⟨after, outcomes, forwarded, broadcast, sent⟩ :=
    notification_reaches_initialized mirroringOutbound serving.server.held.requestWrapKinds quiet
      serving.server.sessions (progressOf (.string "0")) "notifications/progress" rfl
  obtain ⟨-, alice, bob⟩ := of_decide_eq_true served
  refine ⟨after, outcomes, forwarded, broadcast, ?_⟩
  intro client among
  have initialized : client ∈ serving.server.sessions.initialized := by
    rcases List.mem_pair.mp among with rfl | rfl
    · exact alice
    · exact bob
  have clear (turn : Nat) : quiet.obstacle turn client = none := by
    rcases List.mem_pair.mp among with rfl | rfl <;> exact quiet_obstacle (by decide) turn
  -- Either has a turn, in which nothing stands in the way.
  obtain ⟨turn, outcome, listed⟩ := broadcast.exists_turn initialized
  obtain ⟨publication, rfl⟩ := sent (fun _ _ _ held => held) turn client outcome listed (clear turn)
  exact ⟨publication, List.mem_of_getElem? listed⟩

/-- Bob is sent the progress of Alice's request. -/
theorem progress_reaches_other_client :
    ∃ serving, Serving.Reached aliceAndBobByKey (.public pingPrimitives) 10 false serving ∧
      aliceIsServed serving = true ∧
      ∃ after outcomes publication,
        forwardServerInternal mirroringOutbound serving.server.held.requestWrapKinds quiet
          serving.server.sessions (progressOf (.string "0")) = .ok (.broadcast after outcomes) ∧
        (bobKey, .ok publication) ∈ outcomes ∧ publication.recipient = bobKey ∧
        publication.message = progressOf (.string "0") := by
  refine Reaches.exists_of_run aliceCallsBobListens (aliceIsServed ·) (by decide) ?_
  intro serving _ served
  refine ⟨served, ?_⟩
  obtain ⟨-, -, listening⟩ := of_decide_eq_true served
  let run := broadcastNotification mirroringOutbound serving.server.held.requestWrapKinds quiet
    (progressOf (.string "0")) serving.server.sessions
  have broadcast : Broadcasts quiet serving.server.sessions (progressOf (.string "0")) run.2 :=
    broadcasts serving.server.sessions
  -- Bob has a turn, in which a session is there.
  obtain ⟨turn, outcome, listed⟩ := broadcast.exists_turn listening
  obtain ⟨publication, rfl⟩ :=
    sent_broadcast (fun _ _ _ held => held) listed (quiet_obstacle (by decide) turn)
  have member := List.mem_of_getElem? listed
  obtain ⟨recipient, message⟩ := broadcast.sent _ _ member
  exact ⟨run.1, run.2, publication, rfl, member, recipient, message⟩

end ContextVm
