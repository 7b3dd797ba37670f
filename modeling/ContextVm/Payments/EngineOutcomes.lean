import ContextVm.Lib.Weights
import ContextVm.Payments.PayingClient

/-! What the payment engine makes of the server's messages, seen from outside. -/

namespace ContextVm

open ClientCorrelationStore ClientPaymentsEngine ClientState EngineCall Lru PayingClient
  PendingRequest

variable (setting : PayingSetting) (now : Nat)

/-! The keep-alives are neither messages nor tasks. -/

/-- Calls that push nothing and spawn nothing. -/
def Silent (setting : PayingSetting) (now : Nat) (calls : List EngineCall) : Prop :=
  calls.filterMap EngineCall.pushes = [] ∧ calls.filterMap (EngineCall.errand setting now) = []

theorem silent_stopKeepalives (eventId : String) (entry : Option PendingRequest) :
    Silent setting now (stopKeepalives eventId entry) := by
  constructor <;> simp [stopKeepalives, pushes, errand]

theorem silent_stopped (eventId : Option String) (entry : Option PendingRequest) :
    Silent setting now (eventId.toList.map EngineCall.stopTouchLoop ++
      (entry.bind PendingRequest.progressToken).toList.map EngineCall.stopHeartbeat) := by
  constructor <;> simp [List.filterMap_append, pushes, errand]

theorem Silent.append {setting : PayingSetting} {now : Nat} {calls : List EngineCall}
    (silent : Silent setting now calls) (more : List EngineCall) :
    (calls ++ more).filterMap EngineCall.pushes = more.filterMap EngineCall.pushes ∧
      (calls ++ more).filterMap (EngineCall.errand setting now) =
        more.filterMap (EngineCall.errand setting now) := by
  rw [List.filterMap_append, List.filterMap_append, silent.1, silent.2]
  exact ⟨rfl, rfl⟩

namespace ClientPaymentsEngine

variable (options : ClientPaymentsOptions) (engine : ClientPaymentsEngine)

/-! The end of a request. -/

/-- What becomes of a message that ends a request, with the task that is spawned for it. -/
inductive Ends (options : ClientPaymentsOptions) (engine : ClientPaymentsEngine)
    (entry : Option PendingRequest) (message : JsonRpcMessage) :
    ClientPaymentsEngine → List EngineCall → Option JsonRpcMessage → Prop
  -- It is delivered, and the request is not kept any longer.
  | passed {after : ClientPaymentsEngine}
      (cache : ∀ key, after.rawRequestCache.peek key =
        if entry.map PendingRequest.originalId = some key then none
        else engine.rawRequestCache.peek key) :
      Ends options engine entry message after [] (some message)
  -- It is delivered under the id that the consumer knows.
  | surfaced {after : ClientPaymentsEngine} {pending : PendingRequest}
      {error : JsonRpcErrorResponse} (ended : entry = some pending)
      (raw : message = .errorResponse error)
      (cache : ∀ key, after.rawRequestCache.peek key = engine.rawRequestCache.peek key) :
      Ends options engine entry message after [] (some (normalizedRaw error pending.originalId))
  -- It is put before the callback.
  | called {after : ClientPaymentsEngine} {pending : PendingRequest} {cached : CachedRequest}
      (data : PaymentRequiredErrorData) (ended : entry = some pending)
      (found : engine.rawRequestCache.peek pending.originalId = some cached)
      (cache : ∀ key, after.rawRequestCache.peek key = engine.rawRequestCache.peek key) :
      Ends options engine entry message after
        [.spawnCallback pending.originalId cached.request data] none
  -- The request is tried again, which is counted.
  | waits {after : ClientPaymentsEngine} {pending : PendingRequest} {cached : CachedRequest}
      (retryAfter : UInt64) (ended : entry = some pending)
      (found : engine.rawRequestCache.peek pending.originalId = some cached)
      (room : cached.pendingRetries < options.maxPendingRetries)
      (cache : ∀ key, after.rawRequestCache.peek key =
        if key = pending.originalId then
          some { cached with pendingRetries := cached.pendingRetries + 1 }
        else engine.rawRequestCache.peek key) :
      Ends options engine entry message after
        [.spawnRetry pending.originalId cached.request retryAfter cached.pendingRetries] none

theorem ends_retire (entry : Option PendingRequest) (message : JsonRpcMessage) :
    Ends options engine entry message (engine.retire entry message).1
      (engine.retire entry message).2.1 (engine.retire entry message).2.2 := by
  unfold retire
  split
  · refine .passed fun key => ?_
    rw [peek_pop]
    simp only [Option.map_some, Option.some.injEq, eq_comm]
  · exact .passed fun key => rfl

theorem ends_interceptPaymentPendingError (pending : PendingRequest)
    (error : JsonRpcErrorResponse) (retryAfter : UInt64) :
    let ended := engine.interceptPaymentPendingError options pending error retryAfter
    Ends options engine (some pending) (.errorResponse error) ended.1 ended.2.1 ended.2.2 := by
  unfold interceptPaymentPendingError
  simp only
  split
  · exact .surfaced rfl rfl fun key => peek_get _ _ _
  · rename_i cached found
    rw [get_fst] at found
    split
    · exact .surfaced rfl rfl fun key => peek_get _ _ _
    · rename_i room
      refine .waits retryAfter rfl found (Nat.not_le.mp room) fun key => ?_
      -- The entry is there, so that counting it up gives none up.
      rw [peek_put, victim_get, victim_of_held found]
      simp only [reduceCtorEq, if_false, peek_get]

theorem ends_classify (entry : Option PendingRequest) (message : JsonRpcMessage) :
    let ended := engine.classify options entry message
    Ends options engine entry message ended.1 ended.2.1 ended.2.2 := by
  unfold classify
  split
  · rename_i error pending
    split
    · split
      · simp only [interceptPaymentRequiredError]
        split
        · split
          · exact .surfaced rfl rfl fun key => peek_get _ _ _
          · rename_i cached found
            rw [get_fst] at found
            exact .called _ rfl found fun key => peek_get _ _ _
        · exact .surfaced rfl rfl fun key => rfl
      · exact ends_retire options engine (some pending) (.errorResponse error)
    · grind [ends_interceptPaymentPendingError, ends_retire]
  · exact ends_retire options engine entry message

theorem Ends.pushes {options : ClientPaymentsOptions} {engine after : ClientPaymentsEngine}
    {entry : Option PendingRequest} {message : JsonRpcMessage} {spawned : List EngineCall}
    {delivered : Option JsonRpcMessage}
    (ends : Ends options engine entry message after spawned delivered) :
    spawned.filterMap EngineCall.pushes = [] := by
  cases ends <;> rfl

/-! Payment notifications. -/

/-- What becomes of a payment notification: at most one error, for the request it is about. -/
structure Notices (entry : Option PendingRequest) (after : ClientPaymentsEngine)
    (calls : List EngineCall) : Prop where
  cache : after.rawRequestCache = engine.rawRequestCache
  chains : ∀ errand ∈ calls.filterMap (EngineCall.errand setting now), ∃ task, errand = .chain task
  pushes : calls.filterMap EngineCall.pushes = [] ∨
    ∃ pending error, entry = some pending ∧ error.id = pending.originalId ∧
      calls.filterMap EngineCall.pushes = [.errorResponse error]

theorem notices_of_silent {entry : Option PendingRequest} {calls : List EngineCall}
    (silent : Silent setting now calls) : Notices setting now engine entry engine calls := by
  refine ⟨rfl, ?_, .inl silent.1⟩
  intro errand member
  simp [silent.2] at member

theorem notices_engage (params : PaymentRequiredParams) (eventId : String)
    (entry : Option PendingRequest) :
    let engaged := engine.engage options params eventId entry
    Notices setting now engine entry engaged.1 engaged.2 := by
  have quiet (ttl : Nat) : Silent setting now (keepAlive eventId entry ttl) := by
    unfold keepAlive
    split
    · constructor <;> simp [List.filterMap_append, pushes, errand]
    · exact ⟨rfl, rfl⟩
  unfold engage
  simp only
  split
  · exact notices_of_silent setting now engine (quiet _)
  · split
    · exact notices_of_silent setting now engine (quiet _)
    · obtain ⟨pushes, errands⟩ := (quiet _).append [_]
      refine ⟨rfl, ?_, .inl pushes⟩
      intro errand member
      rw [errands] at member
      exact ⟨_, List.mem_singleton.mp member⟩

/-- A payment notification is answered in one of these ways. -/
theorem notices_handlePaymentNotification (notification : JsonRpcNotification) (eventId : String)
    (entry : Option PendingRequest) (requestedGating effectiveGating : Bool) :
    let handled := (engine.handlePaymentNotification options notification eventId entry
      requestedGating effectiveGating).2
    Notices setting now engine entry handled.1 handled.2 := by
  have stopped := fun entry => silent_stopKeepalives setting now eventId entry
  unfold handlePaymentNotification
  split
  · -- Only an offer for a pending request is looked at.
    unfold onPaymentRequiredNotification
    split
    · exact notices_of_silent setting now engine ⟨rfl, rfl⟩
    · split
      · exact notices_of_silent setting now engine ⟨rfl, rfl⟩
      · split
        · refine ⟨rfl, ?_, .inr ⟨_, _, rfl, rfl, rfl⟩⟩
          intro errand member
          cases member
        · exact notices_engage setting now options engine _ eventId _
  · split
    · exact notices_of_silent setting now engine (stopped entry)
    · split
      · split
        · exact notices_of_silent setting now engine (stopped none)
        · rename_i pending
          obtain ⟨pushes, errands⟩ := (stopped (some pending)).append [_]
          refine ⟨rfl, ?_, .inr ⟨pending, _, rfl, rfl, pushes⟩⟩
          intro errand member
          rw [errands] at member
          cases member
      · exact notices_of_silent setting now engine ⟨rfl, rfl⟩

end ClientPaymentsEngine

/-! How often a request is pending. -/

/-- What a pending request counts for an id. -/
def PendingRequest.countsFor (id : Json) (entry : PendingRequest) : Nat :=
  if entry.originalId = id then 1 else 0

/-- The message that is handed over for good, with the request that it ends. -/
def Handled.answer : Handled → Option (Option PendingRequest × JsonRpcMessage)
  | .answered entry message => some (entry, message)
  | _ => none

/-- The request that an event ends. -/
def Handled.ended (handled : Handled) : Option PendingRequest := handled.answer.bind Prod.fst

namespace ClientCorrelationStore

variable (store : ClientCorrelationStore) (id : Json) (eventId : String)

/-- How many pending requests have an id. -/
def awaiting : Nat := store.pendingRequests.weight (PendingRequest.countsFor id)

theorem awaiting_remove :
    (store.remove eventId).2.awaiting id +
      (store.pendingRequests.peek eventId).elim 0 (PendingRequest.countsFor id) =
        store.awaiting id :=
  weight_pop _ _ _

theorem awaiting_touch (now : Nat) : (store.touch now eventId).awaiting id = store.awaiting id := by
  grind [awaiting, touch, countsFor, weight_put_held]

end ClientCorrelationStore

namespace ClientState

variable {client middle : ClientState} {correlatedId : Option String}
  {result : ClientState × Handled}

/-- What an event does to the pending requests: at most the one it refers to is ended. -/
structure Hears (client : ClientState) (correlatedId : Option String)
    (result : ClientState × Handled) : Prop where
  awaiting : ∀ id, result.1.pending.awaiting id +
    result.2.ended.elim 0 (PendingRequest.countsFor id) = client.pending.awaiting id
  known : result.2.ended = none → result.1.pending.known = client.pending.known
  -- A response ends the request that it refers to, if that is pending.
  matched : ∀ entry message, result.2 = .answered entry message →
    entry.map PendingRequest.identity =
      if message.isResponse then correlatedId.bind client.pending.known else none

theorem Hears.none (other : result.2.answer = none)
    (awaiting : ∀ id, result.1.pending.awaiting id = client.pending.awaiting id)
    (known : result.1.pending.known = client.pending.known) :
    client.Hears correlatedId result := by
  have ended : result.2.ended = Option.none := by rw [Handled.ended, other, Option.bind_none]
  refine ⟨?_, fun _ => known, ?_⟩
  · grind
  · intro entry message same
    rw [same] at other
    cases other

theorem Hears.trans (hears : middle.Hears correlatedId result)
    (awaiting : ∀ id, middle.pending.awaiting id = client.pending.awaiting id)
    (known : middle.pending.known = client.pending.known) : client.Hears correlatedId result := by
  grind [ClientState, Hears]

theorem awaiting_touch (client : ClientState) (now : Nat) (eventId : Option String) (id : Json) :
    (client.touch now eventId).pending.awaiting id = client.pending.awaiting id := by
  cases eventId with
  | none => rfl
  | some eventId => exact ClientCorrelationStore.awaiting_touch client.pending id eventId now

/-- Handing a response over ends its request. -/
theorem hears_consume (client : ClientState) (correlatedId : Option String)
    (message : JsonRpcMessage) :
    client.Hears correlatedId (client.consumeTerminalResponse correlatedId message) := by
  -- The request that is removed is the one the response refers to.
  have removed (eventId : String) (response : message.isResponse = true) :
      client.Hears (some eventId)
      ({ client with pending := (client.pending.remove eventId).2 },
        .answered (client.pending.remove eventId).1 message) := by
    refine ⟨?_, ?_, ?_⟩
    · intro id
      exact client.pending.awaiting_remove id eventId
    · intro ended
      have missing : client.pending.pendingRequests.peek eventId = none := ended
      funext other
      rw [known_remove]
      split
      · rename_i same
        rw [same, known, missing, Option.map_none]
      · rfl
    · intro entry other same
      cases same
      rw [response]
      rfl
  unfold consumeTerminalResponse
  split
  · exact removed _ rfl
  · exact removed _ rfl
  · rename_i noResponse noError
    refine ⟨fun _ => rfl, fun _ => rfl, ?_⟩
    intro entry other same
    cases same
    -- A response that refers to no event ends no request either.
    cases message with
    | request body | notification body => rfl
    | response body =>
      cases correlatedId with
      | none => rfl
      | some eventId => exact absurd rfl (noResponse body eventId rfl)
    | errorResponse body =>
      cases correlatedId with
      | none => rfl
      | some eventId => exact absurd rfl (noError body eventId rfl)

/-! The message that an event brings. -/

/-- The message of an event, if the request it refers to is pending. -/
def own (config : ClientConfig) (client : ClientState) (event : InboundEvent) :
    Option JsonRpcMessage :=
  if event.correlatedId.any client.pending.contains then
    validateAndParse config.primitives.serde event.content
  else none

/-- The message that a frame completes. -/
def completed (config : ClientConfig) (now : Nat) (client : ClientState)
    (frame : JsonRpcNotification) : Option JsonRpcMessage :=
  match (client.oversizedReceiver.processFrame config.primitives now frame).1 with
  | .ok message => message
  | .error _ => none

/-- The message that an event brings: its own, or the one that its frame completes. -/
def brings (config : ClientConfig) (now : Nat) (client : ClientState) (event : InboundEvent) :
    Option JsonRpcMessage :=
  if config.takes event ∧ event.pubkey = config.serverPubkey then
    match progressNotification config.primitives.serde event.content with
    | some frame =>
      if config.openStreamEnabled ∧ isOpenStreamFrame frame then none
      else if isOversizedFrame frame then client.completed config now frame
      else client.own config event
    | none => client.own config event
  else none

/-- The ways an event can be taken in, and what it brings then. -/
inductive Takes (config : ClientConfig) (now : Nat) (client : ClientState) (event : InboundEvent) :
    ClientState × Handled → Prop
  | skipped : Takes config now client event (client, .skipped)
  | streamed : Takes config now client event
      ((client.learnServerDiscovery event).touch now event.correlatedId, .streamed)
  | framed (frame : JsonRpcNotification)
      (brings : client.brings config now event = client.completed config now frame) :
      Takes config now client event ((client.learnServerDiscovery event).handleOversizedFrame config
        now event.correlatedId frame)
  | plain (brings : client.brings config now event = client.own config event) :
      Takes config now client event ((client.learnServerDiscovery event).correlate config now event)

section

variable (config : ClientConfig) (now : Nat) (client : ClientState) (event : InboundEvent)

/-- Every event is taken in in one of these ways. -/
theorem takes_handleNotification :
    client.Takes config now event (client.handleNotification config now event) := by
  unfold handleNotification
  split
  · rename_i taken
    split
    · rename_i frame read
      split
      · exact .streamed
      · rename_i unstreamed
        split
        · rename_i framed
          exact .framed frame (by simp only [brings, taken, and_self, if_true, read, unstreamed,
            if_false, framed])
        · rename_i unframed
          exact .plain (by simp only [brings, taken, and_self, if_true, read, unstreamed,
            unframed, if_false, Bool.false_eq_true])
    · rename_i read
      exact .plain (by simp only [brings, taken, and_self, if_true, read])
  · exact .skipped

theorem hears_handleNotification :
    client.Hears event.correlatedId (client.handleNotification config now event) := by
  have takes := takes_handleNotification config now client event
  generalize client.handleNotification config now event = result at takes ⊢
  cases takes with
  | skipped => exact .none rfl (fun _ => rfl) rfl
  | streamed => exact .none rfl (awaiting_touch _ now _) (known_touch _ now _)
  | framed frame =>
    refine Hears.trans (?_ : (client.learnServerDiscovery event).Hears _ _) (fun _ => rfl) rfl
    unfold handleOversizedFrame
    split
    · split
      · exact .none rfl (fun _ => rfl) rfl
      · split <;> exact .none rfl (fun _ => rfl) rfl
    · have awaiting := awaiting_touch (client.learnServerDiscovery event) now event.correlatedId
      have known := known_touch (client.learnServerDiscovery event) now event.correlatedId
      simp only
      split
      · exact .none rfl awaiting known
      · exact (hears_consume _ _ _).trans awaiting known
      · exact .none rfl awaiting known
  | plain =>
    refine Hears.trans (?_ : (client.learnServerDiscovery event).Hears _ _) (fun _ => rfl) rfl
    simp only [correlate]
    split
    · exact .none rfl (fun _ => rfl) rfl
    · split
      · exact .none rfl (fun _ => rfl) rfl
      · exact .none rfl (fun _ => rfl) rfl
      · refine .none rfl ?_ ?_
        · grind [awaiting_touch]
        · grind [known_touch]
      · split
        · exact .none rfl (fun _ => rfl) rfl
        · exact hears_consume _ _ _

end

section

variable {config : ClientConfig} {now : Nat} {event : InboundEvent}

theorem answered_consume {correlatedId : Option String} {message : JsonRpcMessage}
    {handled : Handled} (same : (client.consumeTerminalResponse correlatedId message).2 = handled) :
    ∃ entry, handled = .answered entry message := by
  unfold consumeTerminalResponse at same
  split at same <;> exact ⟨_, same.symm⟩

/-- What an event that is no frame hands over is its own message. -/
theorem own_of_answered {message : JsonRpcMessage} {entry : Option PendingRequest}
    (answered : (client.correlate config now event).2 = .answered entry message) :
    client.own config event = some message := by
  unfold correlate at answered
  simp only at answered
  split at answered
  · cases answered
  · rename_i gate
    split at answered
    · cases answered
    · cases answered
    · cases answered
    · rename_i read
      split at answered
      · cases answered
      · rename_i correlated
        obtain ⟨_, same⟩ := answered_consume answered
        cases same
        obtain ⟨eventId, refers⟩ := Option.ne_none_iff_exists'.mp correlated
        have pending : event.correlatedId.any client.pending.contains = true := by grind
        rw [own, if_pos pending]
        exact read

theorem own_of_forwarded {message : JsonRpcMessage}
    (forwarded : (client.correlate config now event).2 = .forwarded message) :
    ∃ body, message = .notification body ∧
      (event.correlatedId.any client.pending.contains = true →
        client.own config event = some message) := by
  unfold correlate at forwarded
  simp only at forwarded
  split at forwarded
  · cases forwarded
  · split at forwarded
    · cases forwarded
    · cases forwarded
    · rename_i read
      cases forwarded
      refine ⟨_, rfl, fun pending => ?_⟩
      rw [own, if_pos pending]
      exact read
    · split at forwarded
      · cases forwarded
      · obtain ⟨_, same⟩ := answered_consume forwarded
        cases same

/-- A frame of a transfer forwards nothing, and hands over the message that it completes. -/
theorem completed_of_frame {correlatedId : Option String} {frame : JsonRpcNotification}
    {message : JsonRpcMessage} :
    (∀ entry, (client.handleOversizedFrame config now correlatedId frame).2 =
        .answered entry message → client.completed config now frame = some message) ∧
      (client.handleOversizedFrame config now correlatedId frame).2 ≠ .forwarded message := by
  unfold handleOversizedFrame
  split
  · grind
  · -- The receiver is the same before and after the request is kept pending.
    have same : (client.touch now correlatedId).oversizedReceiver = client.oversizedReceiver := rfl
    simp only [same]
    split
    · exact ⟨fun _ same => (by cases same), fun same => by cases same⟩
    · rename_i whole
      constructor
      · intro entry answered
        obtain ⟨_, same⟩ := answered_consume answered
        cases same
        rw [completed, whole]
      · intro forwarded
        obtain ⟨_, same⟩ := answered_consume forwarded
        cases same
    · exact ⟨fun _ same => (by cases same), fun same => by cases same⟩

theorem brings_of_answered {message : JsonRpcMessage} {entry : Option PendingRequest}
    (answered : (client.handleNotification config now event).2 = .answered entry message) :
    client.brings config now event = some message := by
  have takes := takes_handleNotification config now client event
  generalize client.handleNotification config now event = result at takes answered
  cases takes with
  | skipped | streamed => cases answered
  | framed frame brings =>
    have whole := completed_of_frame.1 entry answered
    exact brings.trans whole
  | plain brings =>
    have read := own_of_answered answered
    exact brings.trans read

theorem brings_of_forwarded {message : JsonRpcMessage}
    (forwarded : (client.handleNotification config now event).2 = .forwarded message) :
    ∃ body, message = .notification body ∧
      (event.correlatedId.any client.pending.contains = true →
        client.brings config now event = some message) := by
  have takes := takes_handleNotification config now client event
  generalize client.handleNotification config now event = result at takes forwarded
  cases takes with
  | skipped | streamed => cases forwarded
  | framed frame brings => exact absurd forwarded completed_of_frame.2
  | plain brings =>
    obtain ⟨body, same, read⟩ := own_of_forwarded forwarded
    exact ⟨body, same, fun pending => brings.trans (read pending)⟩

end

end ClientState

/-! What an event does to a paying client. -/

/-- What one event of the server's leaves of a paying client. -/
inductive Handling (setting : PayingSetting) (state : PayingClient) (now : Nat)
    (event : InboundEvent) (after : PayingClient) : Prop
  -- No request is ended or failed; an offer may have got a task.
  | quiet (chains : List Errand) (notes : List JsonRpcNotification)
      (awaiting : ∀ id, after.client.pending.awaiting id = state.client.pending.awaiting id)
      (cache : after.engine.rawRequestCache = state.engine.rawRequestCache)
      (offers : ∀ errand ∈ chains, ∃ task, errand = .chain task)
      (errands : after.errands = state.errands ++ chains)
      (pushed : after.pushed = state.pushed ++ notes.map .notification)
      (declined : after.declined = state.declined)
  -- A pending request is failed, and stays pending.
  | failed (chains : List Errand) (notes : List JsonRpcNotification) (pending : PendingRequest)
      (error : JsonRpcErrorResponse) (body : JsonRpcNotification)
      (noticed : (state.client.handleNotification setting.config now event).2 =
        .forwarded (.notification body))
      (payment : isPaymentNotificationMethod body.method = true)
      (refers : event.correlatedId.bind state.client.pending.known = some pending.identity)
      (waits : 1 ≤ state.client.pending.awaiting pending.originalId)
      (awaiting : ∀ id, after.client.pending.awaiting id = state.client.pending.awaiting id)
      (cache : after.engine.rawRequestCache = state.engine.rawRequestCache)
      (offers : ∀ errand ∈ chains, ∃ task, errand = .chain task)
      (errands : after.errands = state.errands ++ chains)
      (own : error.id = pending.originalId)
      (pushed : after.pushed =
        state.pushed ++ .errorResponse error :: notes.map .notification)
      (declined : after.declined = state.declined ++ [error.id])
  -- A message is handed over for good, and ends the request it answers.
  | ended (entry : Option PendingRequest) (message : JsonRpcMessage) (spawned : List EngineCall)
      (delivered : Option JsonRpcMessage)
      (answered : (state.client.handleNotification setting.config now event).2 =
        .answered entry message)
      (awaiting : ∀ id, after.client.pending.awaiting id +
        entry.elim 0 (PendingRequest.countsFor id) = state.client.pending.awaiting id)
      (matched : entry.map PendingRequest.identity =
        if message.isResponse then event.correlatedId.bind state.client.pending.known else none)
      (ends : ClientPaymentsEngine.Ends setting.options state.engine entry message after.engine
        spawned delivered)
      (errands : after.errands =
        state.errands ++ spawned.filterMap (EngineCall.errand setting now))
      (pushed : after.pushed = state.pushed ++ delivered.toList)
      (declined : after.declined = state.declined)

variable (state : PayingClient) (event : InboundEvent) {result : ClientState × Handled}

section

variable (same : state.client.handleNotification setting.config now event = result)
include same

theorem handle_of_delivery {pending : ClientCorrelationStore} {engine : ClientPaymentsEngine}
    {calls : List EngineCall} {messages : List JsonRpcMessage}
    (delivery : ClientState.deliver (some ⟨setting.options, state.engine⟩) event.correlatedId
      result = ⟨pending, some ⟨setting.options, engine⟩, calls, messages⟩) :
    state.handle setting now event =
      PayingClient.absorb setting now { state with client := result.1, engine } calls messages := by
  simp only [handle, same, delivery]
  rfl

/-- A message that is handed over for good goes through the engine. -/
theorem handling_answered {entry : Option PendingRequest} {message : JsonRpcMessage}
    (hears : state.client.Hears event.correlatedId result)
    (handled : result.2 = .answered entry message) :
    Handling setting state now event (state.handle setting now event) := by
  have ends := ends_classify setting.options state.engine entry message
  obtain ⟨pushes, errands⟩ := (silent_stopped setting now event.correlatedId entry).append
    (state.engine.classify setting.options entry message).2.1
  obtain ⟨output, outputs⟩ : ∃ output, state.engine.onTerminalResponse setting.options entry
      event.correlatedId message = output := ⟨_, rfl⟩
  have delivery : deliver (some ⟨setting.options, state.engine⟩) event.correlatedId
      result = ⟨result.1.pending, some ⟨setting.options, output.1⟩, output.2.1,
        output.2.2.toList⟩ := by
    simp only [deliver, handled, handOver, outputs]
  rw [handle_of_delivery setting now state event same delivery]
  subst outputs
  unfold onTerminalResponse
  refine .ended entry message _ _ (by rw [same, handled]) ?_
    (hears.matched entry message handled) ends ?_ ?_ ?_
  · intro id
    have awaiting := hears.awaiting id
    rwa [handled] at awaiting
  · simp only [absorb, errands]
  · simp only [absorb, pushes, ends.pushes, List.append_nil]
  · simp only [absorb, pushes, ends.pushes, List.filterMap_nil, List.append_nil]

/-- A payment notification goes through the engine before it is forwarded. -/
theorem handling_noticed {eventId : String} {body : JsonRpcNotification}
    (hears : state.client.Hears event.correlatedId result)
    (refers : event.correlatedId = some eventId)
    (payment : isPaymentNotificationMethod body.method = true)
    (handled : result.2 = .forwarded (.notification body)) :
    Handling setting state now event (state.handle setting now event) := by
  have notices := notices_handlePaymentNotification setting
    now setting.options state.engine body eventId (result.1.pending.pendingRequests.peek eventId)
    (result.1.negotiation.requested = some .explicitGating)
    (result.1.negotiation.effective = some .explicitGating)
  obtain ⟨output, outputs⟩ : ∃ output, state.engine.handlePaymentNotification setting.options body
      eventId (result.1.pending.pendingRequests.peek eventId)
      (result.1.negotiation.requested = some .explicitGating)
      (result.1.negotiation.effective = some .explicitGating) = output := ⟨_, rfl⟩
  rw [outputs] at notices
  obtain ⟨cache, chains, pushes⟩ := notices
  have ended : result.2.ended = none := by
    rw [handled]
    rfl
  have awaiting : ∀ id, result.1.pending.awaiting id = state.client.pending.awaiting id := by
    intro id
    have counted := hears.awaiting id
    rwa [ended] at counted
  -- The notification is forwarded, or it is not.
  obtain ⟨notes, delivery⟩ : ∃ notes : List JsonRpcNotification,
      deliver (some ⟨setting.options, state.engine⟩) event.correlatedId result =
        ⟨result.1.pending, some ⟨setting.options, output.2.1⟩, output.2.2,
          notes.map .notification⟩ := by
    simp only [deliver, handled, forward, refers, payment, if_true, outputs]
    split
    · exact ⟨[body], rfl⟩
    · exact ⟨[], rfl⟩
  rw [handle_of_delivery setting now state event same delivery]
  rcases pushes with silent | ⟨pending, error, found, own, pushes⟩
  · refine .quiet _ notes awaiting cache chains rfl ?_ ?_
    · simp only [absorb, silent, List.append_nil]
    · simp only [absorb, silent, List.filterMap_nil, List.append_nil]
  · refine .failed _ notes pending error body (by rw [same, handled]) payment ?_ ?_ awaiting cache
      chains rfl own ?_ ?_
    · rw [refers, Option.bind_some, ← hears.known ended, known, found, Option.map_some]
    · rw [← awaiting]
      have counted := le_weight (countsFor pending.originalId) _ _ found
      rwa [countsFor, if_pos rfl] at counted
    · simp only [absorb, pushes, List.append_assoc, List.singleton_append]
    · simp only [absorb, pushes, List.filterMap_cons, List.filterMap_nil, JsonRpcMessage.id]

end

theorem handling_quiet (notes : List JsonRpcNotification)
    (same : state.client.handleNotification setting.config now event = result)
    (hears : state.client.Hears event.correlatedId result) (ended : result.2.ended = none)
    (delivery : ClientState.deliver (some ⟨setting.options, state.engine⟩) event.correlatedId
      result = ⟨result.1.pending, some ⟨setting.options, state.engine⟩, [],
        notes.map .notification⟩) :
    Handling setting state now event (state.handle setting now event) := by
  rw [handle_of_delivery setting now state event same delivery]
  refine .quiet [] notes ?_ rfl (fun _ member => by cases member) rfl ?_ ?_
  · intro id
    have counted := hears.awaiting id
    rwa [ended] at counted
  · simp only [absorb, List.filterMap_nil, List.append_nil]
  · simp only [absorb, List.filterMap_nil, List.append_nil]

/-- Every event is handled in one of these ways. -/
theorem handling_handle : Handling setting state now event (state.handle setting now event) := by
  have hears := hears_handleNotification setting.config now state.client event
  obtain ⟨result, same⟩ : ∃ result,
      state.client.handleNotification setting.config now event = result := ⟨_, rfl⟩
  rw [same] at hears
  cases handled : result.2 with
  | answered entry message => exact handling_answered setting now state event same hears handled
  | forwarded message =>
    obtain ⟨body, rfl, -⟩ := brings_of_forwarded (same ▸ handled)
    have ended : result.2.ended = none := by
      rw [handled]
      rfl
    cases refers : event.correlatedId with
    | none =>
      refine handling_quiet setting now state event [body] same hears ended ?_
      simp only [deliver, handled, forward, refers, List.map_cons, List.map_nil]
    | some eventId =>
      cases payment : isPaymentNotificationMethod body.method with
      | true => exact handling_noticed setting now state event same hears refers payment handled
      | false =>
        refine handling_quiet setting now state event [body] same hears ended ?_
        simp only [deliver, handled, forward, refers, payment,
          Bool.false_eq_true, if_false, List.map_cons, List.map_nil]
  | skipped | streamed | accepted _ | reassembling | transferFailed _ | unknown | dropped =>
    refine handling_quiet setting now state event [] same hears (by rw [handled]; rfl) ?_
    simp only [deliver, handled, List.map_nil]

end ContextVm
