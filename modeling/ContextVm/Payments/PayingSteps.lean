import ContextVm.Payments.EngineOutcomes

/-! What a move of a paying client can do, and where the requests that it carries come from. -/

namespace ContextVm

variable {setting : PayingSetting} {state after : PayingClient} {move : PayingMove}

/-! The moves. -/

/-- Whether an answer of the policy's or a wallet's turns an offer down. -/
def ChainInput.declines : ChainInput → Bool
  | .decide (some false) | .ask (some false) => true
  | _ => false

/-- The moves of a paying client, with what each leaves of it. -/
inductive PayingClient.Does (setting : PayingSetting) (state : PayingClient) :
    PayingMove → PayingClient → Prop
  | send (message : JsonRpcMessage) : Does setting state (.send message) (state.send message)
  -- The transport answers a message itself, or takes it to send it.
  | emulate {errand : Nat} {origin : SendOrigin} {message : JsonRpcMessage}
      (found : state.errands[errand]? = some (.sending origin message)) :
      Does setting state (.enter errand)
        { state with
          errands := state.errands.set errand .done
          resent := resentAfter state origin message
          pushed := state.pushed ++ message.asRequest.toList.map fun request =>
            emulateInitializeResponse setting.mcpProtocolVersion request.id }
  | enter {errand : Nat} {origin : SendOrigin} {message : JsonRpcMessage}
      (found : state.errands[errand]? = some (.sending origin message)) :
      Does setting state (.enter errand)
        { state with
          errands := state.errands.set errand .done
          resent := resentAfter state origin message
          sends := state.sends ++ [⟨origin, state.client.compose setting.config message, false⟩] }
  | advance {index now : Nat} {ok : Bool} {sending : Sending} {phase : SendPhase} {deed : Deed}
      (found : state.sends[index]? = some sending)
      (advanced : sending.task.advance setting.config state.client index
        ⟨now, setting.eventId sending.task now, ok⟩ = some (phase, deed)) :
      Does setting state (.advance index now ok)
        { state with
          client := state.client.perform index sending.task deed
          sends := state.sends.set index (sending.goTo phase)
          attempts := state.attempts ++
            (sending.task.attempt setting.config now phase).toList }
  | report {index : Nat} {reason : String} {sending : Sending} {request : JsonRpcRequest}
      {error : JsonRpcErrorResponse} (found : state.sends[index]? = some sending)
      (waited : sending.origin = .waited) (failed : sending.task.phase = .finished false)
      (carried : sending.task.message = .request request) (unnoted : sending.noted = false)
      (own : error.id = request.id) :
      Does setting state (.report index reason)
        { state with
          sends := state.sends.set index sending.note
          pushed := state.pushed ++ [.errorResponse error] }
  | handle (now : Nat) (event : InboundEvent) :
      Does setting state (.handle now event) (state.handle setting now event)
  -- The timer and the touch loops are only about what is pending.
  | sweep {now timeout : Nat} (client : ClientState)
      (fewer : ∀ id, client.pending.awaiting id ≤ state.client.pending.awaiting id) :
      Does setting state (.sweep now timeout) { state with client }
  | touch {now : Nat} {eventId : String} (client : ClientState)
      (fewer : ∀ id, client.pending.awaiting id ≤ state.client.pending.awaiting id) :
      Does setting state (.touch now eventId) { state with client }
  -- An answer about an offer is taken, and if it is turned down its request is failed.
  | proceed {errand : Nat} {input : ChainInput} {task : ChainTask} (phase : ChainPhase)
      (engine : ClientPaymentsEngine) (found : state.errands[errand]? = some (.chain task))
      (cache : engine.rawRequestCache = state.engine.rawRequestCache) :
      Does setting state (.proceed errand input)
        { state with
          engine
          errands := state.errands.set errand (.chain { task with phase }) }
  | decline {errand : Nat} {input : ChainInput} {task : ChainTask} {pending : PendingRequest}
      {error : JsonRpcErrorResponse} (phase : ChainPhase) (engine : ClientPaymentsEngine)
      (found : state.errands[errand]? = some (.chain task))
      (cache : engine.rawRequestCache = state.engine.rawRequestCache)
      (declines : input.declines = true) (offered : task.chain.entry = some pending)
      (own : error.id = pending.originalId) :
      Does setting state (.proceed errand input)
        { state with
          engine
          errands := state.errands.set errand (.chain { task with phase })
          pushed := state.pushed ++ [.errorResponse error]
          declined := state.declined ++ [error.id] }
  | settle {errand : Nat} {outcome : CallbackOutcome} {originalId : Json}
      {request : JsonRpcRequest} {data : PaymentRequiredErrorData}
      (found : state.errands[errand]? = some (.callback originalId request data)) :
      Does setting state (.settle errand outcome)
        (state.settle errand originalId request outcome)
  | wake {errand now wakeAt : Nat} {originalId : Json} {request : JsonRpcRequest}
      (found : state.errands[errand]? = some (.retry originalId request wakeAt))
      (late : wakeAt ≤ now) :
      Does setting state (.wake errand now)
        { state with errands := state.errands.set errand (.sending .waited (.request request)) }

namespace ChainTask

theorem calls_of_advance {engine : ClientPaymentsEngine} {task : ChainTask} {input : ChainInput}
    {phase : ChainPhase} {calls : List EngineCall}
    (advanced : task.advance engine input = some (phase, calls)) :
    calls = [] ∨ input.declines = true ∧ ∃ message, calls = task.decline engine message := by
  -- One case for each phase and answer.
  unfold advance at advanced
  split at advanced
  · split at advanced <;> cases advanced
    · exact .inl rfl
    · exact .inr ⟨rfl, _, rfl⟩
    · exact .inl rfl
  · split at advanced <;> cases advanced
    · exact .inl rfl
    · exact .inr ⟨rfl, _, rfl⟩
    · exact .inl rfl
  · cases advanced
    exact .inl rfl
  · cases advanced
    exact .inl rfl
  · cases advanced

theorem notices_decline (setting : PayingSetting) (now : Nat) (engine : ClientPaymentsEngine)
    (task : ChainTask) (message : String) :
    (task.decline engine message).filterMap (EngineCall.errand setting now) = [] ∧
      ((task.decline engine message).filterMap EngineCall.pushes = [] ∨
        ∃ pending error, task.chain.entry = some pending ∧ error.id = pending.originalId ∧
          (task.decline engine message).filterMap EngineCall.pushes = [.errorResponse error]) := by
  obtain ⟨pushes, errands⟩ := (silent_stopKeepalives setting now
    task.chain.request.requestEventId task.chain.entry).append
      (engine.synthesizeDecline task.chain.entry message task.chain.request.pmi
        task.chain.request.amount)
  cases offered : task.chain.entry with
  | none =>
    simp only [decline, offered] at pushes errands ⊢
    exact ⟨errands, .inl pushes⟩
  | some pending =>
    simp only [decline, offered] at pushes errands ⊢
    exact ⟨errands, .inr ⟨pending, _, rfl, rfl, pushes⟩⟩

end ChainTask

theorem PayingClient.does_proceed {errand : Nat} {input : ChainInput} {task : ChainTask}
    (found : state.errands[errand]? = some (.chain task))
    (taken : state.proceed setting errand task input = some after) :
    state.Does setting (.proceed errand input) after := by
  unfold proceed at taken
  split at taken
  · cases taken
  · rename_i phase calls advanced
    cases taken
    rcases ChainTask.calls_of_advance advanced with rfl | ⟨declines, message, rfl⟩
    · simp only [absorb, List.filterMap_nil, List.append_nil]
      exact .proceed phase _ found rfl
    · obtain ⟨errands, silent | ⟨pending, error, offered, own, pushes⟩⟩ :=
        task.notices_decline setting state.clock state.engine message
      · simp only [absorb, silent, errands, List.filterMap_nil, List.append_nil]
        exact .proceed phase _ found rfl
      · simp only [absorb, pushes, errands, List.filterMap_cons, List.filterMap_nil,
          List.append_nil, JsonRpcMessage.id]
        exact .decline phase _ found rfl declines offered own

/-- Every move does one of these. -/
theorem PayingClient.does_of_perform (taken : state.perform setting move = some after) :
    state.Does setting move after := by
  cases move with
  | send message =>
    cases taken
    exact .send message
  | enter errand =>
    simp only [perform] at taken
    split at taken
    · rename_i found
      cases taken
      unfold PayingClient.enter
      split
      · exact .emulate found
      · exact .enter found
    · cases taken
  | advance index now ok =>
    simp only [perform, Option.bind_eq_some_iff, PayingClient.advance, Option.map_eq_some_iff]
      at taken
    obtain ⟨sending, found, ⟨phase, deed⟩, advanced, rfl⟩ := taken
    exact .advance found advanced
  | report index reason =>
    simp only [perform, Option.bind_eq_some_iff] at taken
    obtain ⟨sending, found, reported⟩ := taken
    unfold PayingClient.report at reported
    split at reported
    · rename_i waited failed carried
      split at reported
      · cases reported
      · rename_i unnoted
        cases reported
        exact .report found waited failed carried (Bool.eq_false_of_not_eq_true unnoted) rfl
    · cases reported
  | handle now event =>
    cases taken
    exact .handle now event
  | sweep now timeout =>
    cases taken
    exact .sweep _ fun id => Lru.weight_foldl_pop _ _ _
  | touch now eventId =>
    cases taken
    exact .touch _ fun id => (ClientState.awaiting_touch state.client now (some eventId) id).le
  | proceed errand input =>
    simp only [perform] at taken
    split at taken
    · grind [does_proceed]
    · cases taken
  | settle errand outcome =>
    simp only [perform] at taken
    split at taken
    · rename_i found
      cases taken
      exact .settle found
    · cases taken
  | wake errand now =>
    simp only [perform] at taken
    split at taken
    · rename_i found
      split at taken
      · rename_i late
        cases taken
        exact .wake found late
      · cases taken
    · cases taken

theorem PayingClient.does_of_step (taken : state.step setting move = some after) :
    ∃ middle, state.Does setting move middle ∧
      after = { middle with clock := move.time.getD state.clock } := by
  obtain ⟨middle, performed, rfl⟩ := Option.map_eq_some_iff.mp taken
  exact ⟨middle, does_of_perform performed, rfl⟩

/-! Where the requests come from. -/

/-- A task is about a request that the consumer has sent, and knows it by its id. -/
def Errand.Sent (sent : List JsonRpcRequest) : Errand → Prop
  | .callback originalId request _ | .retry originalId request _ =>
    request.id = originalId ∧ request ∈ sent
  | .sending _ (.request request) => request ∈ sent
  | _ => True

/-- All the requests in a paying client are ones that the consumer has sent. -/
structure PayingClient.Owned (state : PayingClient) : Prop where
  cached : ∀ key cached, state.engine.rawRequestCache.peek key = some cached →
    cached.request.id = key ∧ cached.request ∈ state.sent
  errands : ∀ errand ∈ state.errands, errand.Sent state.sent
  sends : ∀ sending ∈ state.sends, ∀ request, sending.task.message = .request request →
    request ∈ state.sent
  resent : ∀ again ∈ state.resent, again.2 ∈ state.sent
  attempts : ∀ attempt ∈ state.attempts, ∃ request ∈ state.sent, request.id = attempt.originalId

@[simp] theorem JsonRpcMessage.asRequest_eq_some {message : JsonRpcMessage}
    {request : JsonRpcRequest} : message.asRequest = some request ↔ message = .request request := by
  cases message <;> simp [asRequest]

theorem SendTask.attempt_eq_some {config : ClientConfig} {task : SendTask} {now : Nat}
    {phase : SendPhase} {attempt : Attempt} :
    task.attempt config now phase = some attempt ↔
      ∃ request, task.message = .request request ∧ ∃ eventId, phase.built = some eventId ∧
        attempt = ⟨request.id, eventId, (task.outbound config).1, now⟩ := by
  constructor
  · intro same
    obtain ⟨request, carried, later⟩ := Option.bind_eq_some_iff.mp same
    obtain ⟨eventId, built, last⟩ := Option.bind_eq_some_iff.mp later
    cases last
    exact ⟨request, JsonRpcMessage.asRequest_eq_some.mp carried, eventId, built, rfl⟩
  · rintro ⟨request, carried, eventId, built, rfl⟩
    simp [attempt, carried, built, JsonRpcMessage.asRequest]

theorem Errand.sent_sending {sent : List JsonRpcRequest} {origin : SendOrigin}
    {message : JsonRpcMessage} : (Errand.sending origin message).Sent sent ↔
      ∀ request, message = .request request → request ∈ sent := by
  cases message <;> simp [Errand.Sent]

theorem Errand.Sent.mono {sent more : List JsonRpcRequest} {errand : Errand}
    (known : errand.Sent sent) (grown : sent ⊆ more) : errand.Sent more := by
  cases errand with
  | callback originalId request data | retry originalId request wakeAt =>
    exact ⟨known.1, grown known.2⟩
  | sending origin message =>
    cases message with
    | request request => exact grown known
    | response body | errorResponse body | notification body => trivial
  | chain task | done => trivial

theorem Errand.Sent.set {sent : List JsonRpcRequest} {errands : List Errand}
    (known : ∀ errand ∈ errands, errand.Sent sent) (next : Errand) (sound : next.Sent sent)
    (index : Nat) :
    ∀ errand ∈ errands.set index next, errand.Sent sent := by
  grind

namespace ClientPaymentsEngine

theorem cached_cacheRawRequest {engine : ClientPaymentsEngine} {message : JsonRpcMessage}
    {key : Json} {cached : CachedRequest}
    (found : (engine.cacheRawRequest message).rawRequestCache.peek key = some cached) :
    engine.rawRequestCache.peek key = some cached ∨
      ∃ request, message = .request request ∧ key = request.id ∧
        cached = ⟨request, ((engine.rawRequestCache.peek request.id).map
          CachedRequest.pendingRetries).getD 0⟩ := by
  cases message with
  | request request =>
    simp only [cacheRawRequest, Lru.peek_put] at found
    split at found
    · grind
    · -- Another request may have been given up for it, but none is changed.
      split at found
      · cases found
      · exact .inl found
  | response body | errorResponse body | notification body => exact .inl found

end ClientPaymentsEngine

/-- The end of a request changes at most how often a kept one was tried. -/
theorem Handling.cached {now : Nat} {event : InboundEvent}
    (handling : Handling setting state now event after) {key : Json} {cached : CachedRequest}
    (found : after.engine.rawRequestCache.peek key = some cached) :
    ∃ earlier, state.engine.rawRequestCache.peek key = some earlier ∧
      earlier.request = cached.request := by
  cases handling with
  | quiet chains notes awaiting cache
  | failed chains notes pending error body noticed payment refers waits awaiting cache => grind
  | ended entry message spawned delivered answered awaiting matched ends =>
    cases ends with
    | passed cache => grind
    | surfaced _ _ cache | called _ _ _ cache => grind
    | waits retryAfter ended counted room cache => grind

/-- The tasks that an event leads to are about offers, or about requests that are kept. -/
theorem Handling.spawned {now : Nat} {event : InboundEvent}
    (handling : Handling setting state now event after) {errand : Errand}
    (member : errand ∈ after.errands) :
    errand ∈ state.errands ∨ (∃ task, errand = .chain task) ∨
      ∃ originalId cached, state.engine.rawRequestCache.peek originalId = some cached ∧
        ((∃ data, errand = .callback originalId cached.request data) ∨
          ∃ seconds retries, errand = .retry originalId cached.request
            (now + computeBackoff setting.doubles seconds retries)) := by
  cases handling with
  | quiet chains notes awaiting cache offers errands => grind
  | failed chains notes pending error body noticed payment refers waits awaiting cache offers
      errands =>
    rw [errands] at member
    rcases List.mem_append.mp member with old | new
    · exact .inl old
    · exact .inr (.inl (offers errand new))
  | ended entry message spawned delivered answered awaiting matched ends errands =>
    rw [errands] at member
    rcases List.mem_append.mp member with old | new
    · exact .inl old
    · right
      right
      cases ends with
      | passed | surfaced => cases new
      | called data ended found cache =>
        exact ⟨_, _, found, .inl ⟨data, List.mem_singleton.mp new⟩⟩
      | waits retryAfter ended found room cache =>
        exact ⟨_, _, found, .inr ⟨_, _, List.mem_singleton.mp new⟩⟩

namespace PayingClient

variable {middle : PayingClient}

theorem owned_start (maxPending : Nat) (pmis : List String)
    (requested : Option PaymentInteractionMode) :
    (start setting maxPending pmis requested).Owned where
  cached := by
    intro key cached found
    cases found
  errands := by
    intro errand member
    cases member
  sends := by
    intro sending member
    cases member
  resent := by
    intro again member
    cases member
  attempts := by
    intro attempt member
    cases member

section

variable (owned : state.Owned)
include owned

/-- A message that is sent is one of the consumer's. -/
theorem owned_send (message : JsonRpcMessage) : (state.send message).Owned := by
  have grown : state.sent ⊆ (state.send message).sent := List.subset_append_left _ _
  have added : ∀ request, message = .request request → request ∈ (state.send message).sent := by
    rintro request rfl
    exact List.mem_append_right _ (List.mem_singleton_self request)
  refine ⟨?_, ?_, ?_, ?_, ?_⟩
  · intro key cached found
    rcases ClientPaymentsEngine.cached_cacheRawRequest found with kept | ⟨request, same, rfl, rfl⟩
    · exact ⟨(owned.cached key cached kept).1, grown (owned.cached key cached kept).2⟩
    · exact ⟨rfl, added request same⟩
  · intro errand member
    rcases List.mem_append.mp member with old | new
    · exact (owned.errands errand old).mono grown
    · cases List.mem_singleton.mp new
      exact Errand.sent_sending.mpr added
  · intro sending member request carried
    exact grown (owned.sends sending member request carried)
  · intro again member
    exact grown (owned.resent again member)
  · intro attempt member
    obtain ⟨request, known, same⟩ := owned.attempts attempt member
    exact ⟨request, grown known, same⟩

theorem owned_resentAfter {errand : Nat} {origin : SendOrigin} {message : JsonRpcMessage}
    (found : state.errands[errand]? = some (.sending origin message)) :
    ∀ again ∈ state.resentAfter origin message, again.2 ∈ state.sent := by
  have carried := Errand.sent_sending.mp (owned.errands _ (List.mem_of_getElem? found))
  intro again member
  unfold resentAfter at member
  split at member
  · exact owned.resent again member
  · rcases List.mem_append.mp member with old | new
    · exact owned.resent again old
    · grind [JsonRpcMessage.asRequest_eq_some]

theorem owned_advance {index now : Nat} {sending : Sending}
    {phase : SendPhase} (found : state.sends[index]? = some sending) (client : ClientState) :
    { state with
      client
      sends := state.sends.set index (sending.goTo phase)
      attempts := state.attempts ++
        (sending.task.attempt setting.config now phase).toList }.Owned := by
  have carried := owned.sends sending (List.mem_of_getElem? found)
  refine { owned with sends := ?_, attempts := ?_ }
  · intro other among request same
    rcases List.mem_or_eq_of_mem_set among with old | rfl
    · exact owned.sends other old request same
    · exact carried request same
  · intro attempt among
    rcases List.mem_append.mp among with old | new
    · exact owned.attempts attempt old
    · obtain ⟨request, message, eventId, built, rfl⟩ :=
        SendTask.attempt_eq_some.mp (Option.mem_toList.mp new)
      exact ⟨request, carried request message, rfl⟩

theorem owned_handle (now : Nat) (event : InboundEvent) :
    (state.handle setting now event).Owned := by
  have handling := handling_handle setting now state event
  refine { owned with cached := ?_, errands := ?_ }
  · intro key cached found
    obtain ⟨earlier, kept, same⟩ := handling.cached found
    rw [← same]
    exact owned.cached key earlier kept
  · intro errand member
    rcases handling.spawned member with old | ⟨task, rfl⟩ |
      ⟨originalId, cached, kept, ⟨data, rfl⟩ | ⟨seconds, retries, rfl⟩⟩
    · exact owned.errands errand old
    · trivial
    · exact owned.cached originalId cached kept
    · exact owned.cached originalId cached kept

/-- Every move keeps it so. -/
theorem owned_does (does : state.Does setting move after) : after.Owned := by
  cases does with
  | send message => exact owned_send owned message
  | emulate found =>
    exact { owned with
      errands := Errand.Sent.set owned.errands .done trivial _
      resent := owned_resentAfter owned found }
  | enter found =>
    have carried := Errand.sent_sending.mp (owned.errands _ (List.mem_of_getElem? found))
    refine { owned with
      errands := Errand.Sent.set owned.errands .done trivial _
      resent := owned_resentAfter owned found
      sends := ?_ }
    intro sending member request same
    rcases List.mem_append.mp member with old | new
    · exact owned.sends sending old request same
    · cases List.mem_singleton.mp new
      exact carried request same
  | advance found advanced => exact owned_advance owned found _
  | report found waited failed carried unnoted own =>
    refine { owned with sends := ?_ }
    intro other among request same
    rcases List.mem_or_eq_of_mem_set among with old | rfl
    · exact owned.sends other old request same
    · exact owned.sends _ (List.mem_of_getElem? found) request same
  | handle now event => exact owned_handle owned now event
  | sweep client fewer | touch client fewer => exact { owned with }
  | proceed phase engine found cache | decline phase engine found cache declines offered own =>
    exact { owned with
      cached := by
        intro key cached kept
        exact owned.cached key cached (cache ▸ kept)
      errands := Errand.Sent.set owned.errands (.chain _) trivial _ }
  | settle found =>
    rename_i errand outcome originalId request data
    have known := owned.errands _ (List.mem_of_getElem? found)
    cases outcome with
    | paid =>
      exact { owned with
        errands :=
          Errand.Sent.set owned.errands (.sending .paid (.request request)) known.2 errand }
    | declined reason | failed reason | panicked =>
      exact { owned with errands := Errand.Sent.set owned.errands .done trivial errand }
  | wake found late =>
    have known := owned.errands _ (List.mem_of_getElem? found)
    exact { owned with
      errands := Errand.Sent.set owned.errands (.sending .waited (.request _)) known.2 _ }

end

theorem owned_of_reaches {permitted : PayingClient → PayingMove → Prop} {first : PayingClient}
    (initially : first.Owned) (reached : Reaches (step setting) permitted first state) :
    state.Owned := by
  refine reached.invariant initially ?_
  intro before move after _ owned _ taken
  obtain ⟨middle, does, rfl⟩ := does_of_step taken
  exact { owned_does owned does with }

end PayingClient

/-! Requests under new ids. -/

/-- A request is sent under an id that no earlier one has. -/
def PayingMove.fresh (id : Json) (state : PayingClient) : PayingMove → Prop
  | .send (.request request) => request.id = id → ∀ earlier ∈ state.sent, earlier.id ≠ id
  | _ => True

instance (id : Json) (state : PayingClient) : (move : PayingMove) → Decidable (move.fresh id state)
  | .send (.request request) =>
    inferInstanceAs (Decidable (request.id = id → ∀ earlier ∈ state.sent, earlier.id ≠ id))
  | .send (.response _) | .send (.errorResponse _) | .send (.notification _) | .enter _
  | .advance .. | .report .. | .handle .. | .sweep .. | .touch .. | .proceed .. | .settle ..
  | .wake .. => inferInstanceAs (Decidable True)

/-! A client to look at. -/

/-- The text of the request that it makes. -/
def payingText : String := "\x7b\"jsonrpc\":\"2.0\",\"id\":2,\"method\":\"tools/call\"\x7d"

/-- The text of the error that puts it off for a second. -/
def pendingText : String :=
  "\x7b\"jsonrpc\":\"2.0\",\"id\":2,\"error\":\x7b\"code\":-32043," ++
    "\"message\":\"Payment Pending\",\"data\":\x7b\"retry_after\":1\x7d\x7d\x7d"

/-- The text of the error that asks it to pay. -/
def requiredText : String :=
  "\x7b\"jsonrpc\":\"2.0\",\"id\":2,\"error\":\x7b\"code\":-32042," ++
    "\"message\":\"Payment Required\",\"data\":\x7b\"payment_options\":[\x7b\"amount\":1," ++
    "\"pmi\":\"bitcoin-lightning-bolt11\",\"pay_req\":\"lnbc10n1\"\x7d]\x7d\x7d\x7d"

/-- The text of the notification that its payment is rejected. -/
def rejectedText : String :=
  "\x7b\"jsonrpc\":\"2.0\",\"method\":\"notifications/payment_rejected\"," ++
    "\"params\":\x7b\"pmi\":\"bitcoin-lightning-bolt11\"\x7d\x7d"

/-- What a server may answer, read as JSON. -/
def payingSerde : SerdeJson where
  fromStr text :=
    let answer (rest : Fields) : Option Json :=
      some (.object (("jsonrpc", .string "2.0") :: rest))
    let error (code : Int) (message : String) (data : Fields) : Option Json :=
      answer [("id", .ofU64 2), ("error", .object
        [("code", .ofI64 code), ("message", .string message), ("data", .object data)])]
    if text = replyText then answer [("id", .ofU64 2), ("result", .object [])]
    else if text = pendingText then error (-32043) "Payment Pending" [("retry_after", .ofU64 1)]
    else if text = requiredText then
      error (-32042) "Payment Required" [("payment_options", .array [.object
        [("amount", .ofU64 1), ("pmi", .string "bitcoin-lightning-bolt11"),
          ("pay_req", .string "lnbc10n1")]])]
    else if text = rejectedText then
      answer [("method", .string "notifications/payment_rejected"),
        ("params", .object [("pmi", .string "bitcoin-lightning-bolt11")])]
    else none
  floatText := fun _ => ""
  fromStr_empty := by decide +kernel

/-- Arithmetic without rounding, which is what doubles do on the numbers of a short delay. -/
def exactDoubles : DoubleArithmetic where
  ofU64 number := .finite number.toNat
  mul
    | .finite value, .finite other => .finite (value * other)
    | _, _ => .nan
  powi
    | .finite base, exponent => .finite (base ^ exponent.toNat)
    | _, _ => .nan

/-- A client that has a callback for payments, tries again twice, and says nothing of itself. -/
def payingSetting : PayingSetting where
  config :=
    { callingClient with
      oversizedEnabled := false
      primitives := ⟨payingSerde, fun _ => []⟩
      toText := fun _ => payingText }
  options := ⟨[], 0, false, 2, true⟩
  doubles := exactDoubles
  hash := .spelledOut
  mcpProtocolVersion := ""

/-- The request that it makes. -/
def payingRequest : JsonRpcRequest := ⟨"2.0", .ofU64 2, "tools/call", none⟩

/-- The event that the request goes out as in some second. -/
def payingEventId (second : Nat) : String :=
  payingSetting.hash.idOf "alice" second ctxvmMessagesKind [["p", "server"]] payingText

/-- The server answers to that event. -/
def serverAnswer (second : Nat) (text : String) : InboundEvent :=
  ⟨none, "server", [["e", payingEventId second]], text⟩

/-- A message enters the transport and goes out as a single event. -/
def goesOut (errand index now : Nat) : List PayingMove :=
  [.enter errand, .advance index now true, .advance index now true, .advance index now true]

end ContextVm
