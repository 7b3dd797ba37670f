import ContextVm.Payments.PayingSteps

/-! How often the payment engine sends one and the same request again. -/

namespace ContextVm

open ClientPaymentsEngine ClientState Errand JsonRpcRequest PayingClient

variable {setting : PayingSetting} {state after : PayingClient} {move : PayingMove} {id : Json}

/-! What counts as sending a request again. -/

/-- What a request counts for an id, if it is sent for the one who is asked about. -/
def JsonRpcRequest.countsFor (id : Json) (asked origin : SendOrigin) (request : JsonRpcRequest) :
    Nat :=
  if origin = asked ∧ request.id = id then 1 else 0

/-- What a task counts for: it will send a request. -/
def Errand.resends (id : Json) (asked : SendOrigin) : Errand → Nat
  | .retry _ request _ => request.countsFor id asked .waited
  | .sending origin message => message.asRequest.elim 0 (·.countsFor id asked origin)
  | _ => 0

/-- How often a request was or will be sent again for one of two reasons. -/
def PayingClient.tries (id : Json) (asked : SendOrigin) (state : PayingClient) : Nat :=
  tableWeight (Errand.resends id asked) state.errands +
    tableWeight (fun again => again.2.countsFor id asked again.1) state.resent

/-! One move. -/

namespace PayingClient

variable {asked : SendOrigin}

theorem countsFor_consumer (engine : asked ≠ .consumer) (request : JsonRpcRequest) :
    request.countsFor id asked .consumer = 0 :=
  if_neg fun both => engine both.1.symm

theorem resends_sending {origin : SendOrigin} {message : JsonRpcMessage}
    (light : ∀ request, message = .request request → request.countsFor id asked origin = 0) :
    (Errand.sending origin message).resends id asked = 0 := by
  cases carried : message.asRequest with
  | none => simp only [Errand.resends, carried, Option.elim_none]
  | some request => grind [Errand.resends, JsonRpcMessage.asRequest_eq_some]

/-- A request that enters the transport counts as sent again, and no longer as a task. -/
theorem tries_enter {errand : Nat} {origin : SendOrigin} {message : JsonRpcMessage}
    (engine : asked ≠ .consumer)
    (found : state.errands[errand]? = some (.sending origin message)) :
    tableWeight (Errand.resends id asked) (state.errands.set errand .done) +
        tableWeight (fun again => again.2.countsFor id asked again.1)
          (state.resentAfter origin message) = state.tries id asked := by
  have exchanged := tableWeight_set (Errand.resends id asked) .done found
  have done : Errand.resends id asked .done = 0 := rfl
  unfold tries resentAfter
  split
  · grind [resends_sending, countsFor_consumer]
  · have moved : tableWeight (fun again => again.2.countsFor id asked again.1)
        (message.asRequest.toList.map fun request => (origin, request)) =
          (sending origin message).resends id asked := by
      cases carried : message.asRequest with
      | none => simp only [resends, carried, Option.elim_none, Option.toList_none,
          List.map_nil, tableWeight_nil]
      | some request => simp [resends, carried, tableWeight]
    rw [tableWeight_append_list]
    omega

theorem tries_of_unsent (owned : state.Owned) (unsent : ∀ request ∈ state.sent, request.id ≠ id) :
    state.tries id asked = 0 := by
  have none (request : JsonRpcRequest) (origin : SendOrigin) (known : request ∈ state.sent) :
      request.countsFor id asked origin = 0 :=
    if_neg fun both => unsent request known both.2
  have tasks : tableWeight (resends id asked) state.errands = 0 := by
    refine tableWeight_eq_zero ?_
    intro errand member
    have known := owned.errands errand member
    cases errand with
    | retry originalId request wakeAt => exact none request .waited known.2
    | sending origin message => grind [resends_sending, Errand.sent_sending]
    | chain task | callback originalId request data | done => rfl
  have already :
      tableWeight (fun again => again.2.countsFor id asked again.1) state.resent = 0 := by
    refine tableWeight_eq_zero ?_
    intro again member
    exact none again.2 again.1 (owned.resent again member)
  rw [tries, tasks, already]

end PayingClient

/-! The budget. -/

/-- How things stand with the requests of one id. -/
structure PayingClient.Budgeted (options : ClientPaymentsOptions) (id : Json)
    (state : PayingClient) : Prop where
  -- What is counted is what was spent, for as long as the request is kept.
  counted : ∀ cached, state.engine.rawRequestCache.peek id = some cached →
    cached.pendingRetries = state.tries id .waited
  within : state.tries id .waited ≤ options.maxPendingRetries
  paid : state.tries id .paid ≤ state.paidFor.count id
  -- Only the engine sends again, and only one request has the id.
  engine : ∀ again ∈ state.resent, again.1 ≠ .consumer
  sole : ∀ one ∈ state.sent, ∀ other ∈ state.sent, one.id = id → other.id = id → one = other

namespace PayingClient

variable {options : ClientPaymentsOptions}

/-- A request that is sent under a new id has its whole budget. -/
theorem budgeted_send (owned : state.Owned) (budgeted : state.Budgeted options id)
    (message : JsonRpcMessage) (fresh : (PayingMove.send message).fresh id state) :
    (state.send message).Budgeted options id := by
  have same (asked : SendOrigin) (engine : asked ≠ .consumer) :
      (state.send message).tries id asked = state.tries id asked := by
    have light : (sending .consumer message).resends id asked = 0 :=
      resends_sending fun request _ => countsFor_consumer engine request
    simp only [tries, send, tableWeight_append, light, Nat.add_zero]
  have waited := same .waited (by decide)
  refine ⟨?_, ?_, ?_, budgeted.engine, ?_⟩
  · intro cached found
    rw [waited]
    rcases cached_cacheRawRequest found with kept | ⟨request, rfl, own, rfl⟩
    · exact budgeted.counted cached kept
    · -- There was nothing under the id before.
      have unsent := fresh own.symm
      have missing : state.engine.rawRequestCache.peek request.id = none := by
        cases kept : state.engine.rawRequestCache.peek request.id with
        | none => rfl
        | some earlier =>
          obtain ⟨key, known⟩ := owned.cached request.id earlier kept
          exact absurd (key.trans own.symm) (unsent earlier.request known)
      rw [tries_of_unsent owned unsent, missing]
      rfl
  · rw [waited]
    exact budgeted.within
  · rw [same .paid (by decide)]
    exact budgeted.paid
  · -- A second request with the id would not be new.
    have added (request : JsonRpcRequest) (member : request ∈ (state.send message).sent) :
        request ∈ state.sent ∨ message = .request request := by
      rcases List.mem_append.mp member with old | new
      · exact .inl old
      · exact .inr (JsonRpcMessage.asRequest_eq_some.mp (Option.mem_toList.mp new))
    intro one first other second oneId otherId
    rcases added one first with old | rfl
    · rcases added other second with known | rfl
      · exact budgeted.sole one old other known oneId otherId
      · exact absurd oneId (fresh otherId one old)
    · rcases added other second with known | same
      · exact absurd otherId (fresh oneId other known)
      · cases same
        rfl

theorem Budgeted.of_same (budgeted : state.Budgeted options id)
    (tries : ∀ asked, asked ≠ .consumer → after.tries id asked = state.tries id asked)
    (cache : ∀ cached, after.engine.rawRequestCache.peek id = some cached →
      state.engine.rawRequestCache.peek id = some cached)
    (engine : ∀ again ∈ after.resent, again.1 ≠ .consumer) (sent : after.sent = state.sent)
    (paidFor : after.paidFor = state.paidFor) : after.Budgeted options id := by
  have waited := tries .waited (by decide)
  refine ⟨?_, ?_, ?_, engine, ?_⟩
  · intro cached kept
    rw [waited]
    exact budgeted.counted cached (cache cached kept)
  · rw [waited]
    exact budgeted.within
  · rw [tries .paid (by decide), paidFor]
    exact budgeted.paid
  · rw [sent]
    exact budgeted.sole

theorem tries_append {more : List Errand} (errands : after.errands = state.errands ++ more)
    (resent : after.resent = state.resent)
    (light : ∀ errand ∈ more, errand.resends id asked = 0) :
    after.tries id asked = state.tries id asked := by
  rw [tries, errands, resent, tableWeight_append_list, tableWeight_eq_zero light, Nat.add_zero]
  rfl

theorem tries_set {index : Nat} {old next : Errand}
    (errands : after.errands = state.errands.set index next) (resent : after.resent = state.resent)
    (found : state.errands[index]? = some old)
    (same : next.resends id asked = old.resends id asked) :
    after.tries id asked = state.tries id asked := by
  grind [tableWeight_set, tries]

theorem resends_chains {chains : List Errand}
    (offers : ∀ errand ∈ chains, ∃ task, errand = .chain task) :
    ∀ errand ∈ chains, errand.resends id asked = 0 := by
  grind [resends]

/-- An event spends at most one try, which is counted. -/
theorem budgeted_handle (owned : state.Owned) (budgeted : state.Budgeted setting.options id)
    (now : Nat) (event : InboundEvent) :
    (state.handle setting now event).Budgeted setting.options id := by
  have handling := handling_handle setting now state event
  have resent : (state.handle setting now event).resent = state.resent := rfl
  have engine := budgeted.engine
  cases handling with
  | quiet chains notes awaiting cache offers errands =>
    refine budgeted.of_same ?_ ?_ engine rfl rfl
    · grind [tries_append, resends_chains]
    · grind
  | failed chains notes pending error body noticed payment refers waits awaiting cache offers
      errands =>
    refine budgeted.of_same ?_ ?_ engine rfl rfl
    · grind [tries_append, resends_chains]
    · grind
  | ended entry message spawned delivered answered awaiting matched ends errands pushed declined =>
    cases ends with
    | passed cache =>
      refine budgeted.of_same ?_ ?_ engine rfl rfl
      · grind [tries_append]
      · grind
    | surfaced ended raw cache =>
      refine budgeted.of_same ?_ ?_ engine rfl rfl
      · grind [tries_append]
      · grind
    | called data ended found cache =>
      refine budgeted.of_same ?_ ?_ engine rfl rfl
      · intro asked _
        refine tries_append errands resent fun errand member => ?_
        cases List.mem_singleton.mp member
        rfl
      · grind
    | waits retryAfter ended found room cache =>
      rename_i pending cached
      obtain ⟨own, known⟩ := owned.cached pending.originalId cached found
      have spent (asked : SendOrigin) : (state.handle setting now event).tries id asked =
          state.tries id asked + cached.request.countsFor id asked .waited := by
        have grown : (state.handle setting now event).errands = state.errands ++ [_] := errands
        rw [tries, grown, resent, tableWeight_append, tries]
        exact Nat.add_right_comm _ _ _
      by_cases same : pending.originalId = id
      · -- The try is for this id, and both the count and what was spent go up.
        have one : cached.request.countsFor id .waited .waited = 1 := if_pos ⟨rfl, own.trans same⟩
        have other : cached.request.countsFor id .paid .waited = 0 :=
          if_neg fun both => by cases both.1
        have counted := budgeted.counted cached (same ▸ found)
        refine ⟨?_, ?_, ?_, engine, budgeted.sole⟩
        · grind
        · grind
        · rw [spent, other]
          exact budgeted.paid
      · have none (asked : SendOrigin) : cached.request.countsFor id asked .waited = 0 :=
          if_neg fun both => same (own.symm.trans both.2)
        refine budgeted.of_same ?_ ?_ engine rfl rfl
        · grind
        · grind

theorem engine_resentAfter (engine : ∀ again ∈ state.resent, again.1 ≠ .consumer)
    (origin : SendOrigin) (message : JsonRpcMessage) :
    ∀ again ∈ state.resentAfter origin message, again.1 ≠ .consumer := by
  grind [resentAfter]

/-- A payment that the callback has made pays for one more try. -/
theorem budgeted_paid (owned : state.Owned) (budgeted : state.Budgeted options id) {errand : Nat}
    {originalId : Json} {request : JsonRpcRequest} {data : PaymentRequiredErrorData}
    (found : state.errands[errand]? = some (.callback originalId request data)) :
    (state.settle errand originalId request .paid).Budgeted options id := by
  obtain ⟨own, known⟩ := owned.errands _ (List.mem_of_getElem? found)
  have spent (asked : SendOrigin) : (state.settle errand originalId request .paid).tries id asked =
      state.tries id asked + request.countsFor id asked .paid := by
    have exchanged := tableWeight_set (resends id asked) (.sending .paid (.request request)) found
    have old : (Errand.callback originalId request data).resends id asked = 0 := rfl
    have new : (Errand.sending .paid (.request request)).resends id asked =
      request.countsFor id asked .paid := rfl
    simp only [tries, settle]
    omega
  have free : request.countsFor id .waited .paid = 0 := if_neg fun both => by cases both.1
  have waited : (state.settle errand originalId request .paid).tries id .waited =
      state.tries id .waited := by
    rw [spent, free]
    rfl
  refine ⟨?_, ?_, ?_, budgeted.engine, budgeted.sole⟩
  · intro cached kept
    rw [waited]
    exact budgeted.counted cached kept
  · rw [waited]
    exact budgeted.within
  · have paid := budgeted.paid
    rw [spent]
    show _ ≤ (state.paidFor ++ [originalId]).count id
    rw [List.count_append, List.count_singleton, ← own, countsFor]
    split <;> simp_all

/-- Every move stays within the budget. -/
theorem budgeted_does (owned : state.Owned) (budgeted : state.Budgeted setting.options id)
    (fresh : move.fresh id state) (does : state.Does setting move after) :
    after.Budgeted setting.options id := by
  have engine := budgeted.engine
  cases does with
  | send message => exact budgeted_send owned budgeted message fresh
  | emulate found | enter found =>
    exact budgeted.of_same (fun asked other => tries_enter other found) (fun _ kept => kept)
      (engine_resentAfter engine _ _) rfl rfl
  | advance found advanced | report found waited failed carried unnoted own | sweep client fewer
  | touch client fewer =>
    exact budgeted.of_same (fun _ _ => rfl) (fun _ kept => kept) engine rfl rfl
  | handle now event => exact budgeted_handle owned budgeted now event
  | proceed phase middle found cache | decline phase middle found cache declines offered own =>
    exact budgeted.of_same (fun _ _ => tries_set rfl rfl found rfl)
      (fun _ kept => cache ▸ kept) engine rfl rfl
  | settle found =>
    rename_i errand outcome originalId request data
    cases outcome with
    | paid => exact budgeted_paid owned budgeted found
    | declined reason | failed reason | panicked =>
      exact budgeted.of_same (fun _ _ => tries_set rfl rfl found rfl)
        (fun _ kept => kept) engine rfl rfl
  | wake found late =>
    exact budgeted.of_same (fun _ _ => tries_set rfl rfl found rfl)
      (fun _ kept => kept) engine rfl rfl

theorem budgeted_of_reaches {maxPending : Nat} {pmis : List String}
    {requested : Option PaymentInteractionMode}
    (reached : Reaches (step setting) (PayingMove.fresh id)
      (start setting maxPending pmis requested) state) : state.Budgeted setting.options id := by
  refine reached.invariant ⟨?_, Nat.zero_le _, Nat.zero_le _, ?_, ?_⟩ ?_
  · intro cached found
    cases found
  · intro again member
    cases member
  · intro one member
    cases member
  intro before move after earlier budgeted fresh taken
  have owned := owned_of_reaches (owned_start maxPending pmis requested) earlier
  obtain ⟨middle, does, rfl⟩ := does_of_step taken
  exact { budgeted_does owned budgeted fresh does with }

end PayingClient

/-! What is surfaced. -/

/-- What the consumer gets and what is tried again when an error that a payment is pending ends a
request that is not to be tried again. -/
theorem PayingClient.surfaced_of_handled {now : Nat} {event : InboundEvent}
    {entry : PendingRequest} {error : JsonRpcErrorResponse} {seconds : UInt64}
    (handled : (state.client.handleNotification setting.config now event).2 =
      .answered (some entry) (.errorResponse error))
    (pending : error.error.code = paymentPendingErrorCode)
    (readable : error.error.data.bind retryAfter = some seconds)
    (spent : ∀ cached, state.engine.rawRequestCache.peek entry.originalId = some cached →
      setting.options.maxPendingRetries ≤ cached.pendingRetries) :
    (state.handle setting now event).pushed =
        state.pushed ++ [normalizedRaw error entry.originalId] ∧
      (state.handle setting now event).errands = state.errands := by
  have surfaced :
      (state.engine.interceptPaymentPendingError setting.options entry error seconds).2 =
        ([], some (normalizedRaw error entry.originalId)) := by
    grind [interceptPaymentPendingError, Lru.get_fst]
  obtain ⟨silentPushes, silentErrands⟩ := silent_stopped setting now event.correlatedId (some entry)
  have other : paymentPendingErrorCode ≠ paymentRequiredErrorCode := by decide
  have classified : state.engine.classify setting.options (some entry) (.errorResponse error) =
      state.engine.interceptPaymentPendingError setting.options entry error seconds := by
    simp only [classify, pending, other, if_false, if_true, readable]
  have delivery : deliver (some ⟨setting.options, state.engine⟩) event.correlatedId
      (state.client.handleNotification setting.config now event) =
      ⟨(state.client.handleNotification setting.config now event).1.pending, some ⟨setting.options,
        (state.engine.interceptPaymentPendingError setting.options entry error seconds).1⟩,
        event.correlatedId.toList.map EngineCall.stopTouchLoop ++
          ((some entry).bind PendingRequest.progressToken).toList.map EngineCall.stopHeartbeat,
        [normalizedRaw error entry.originalId]⟩ := by
    simp only [deliver, handled, handOver,
      onTerminalResponse, classified, surfaced, List.append_nil,
      Option.toList_some]
  rw [handle_of_delivery setting now state event rfl delivery]
  constructor
  · simp only [absorb, silentPushes, List.append_nil]
  · simp only [absorb, silentErrands, List.append_nil]

theorem countP_resent_eq {resent : List (SendOrigin × JsonRpcRequest)}
    (engine : ∀ again ∈ resent, again.1 ≠ .consumer) :
    resent.countP (fun again => again.2.id = id) =
      tableWeight (fun again => again.2.countsFor id .waited again.1) resent +
        tableWeight (fun again => again.2.countsFor id .paid again.1) resent := by
  induction resent with
  | nil => rfl
  | cons again rest ih =>
    have counted := ih fun other member => engine other (List.mem_cons_of_mem _ member)
    have someone := engine again List.mem_cons_self
    obtain ⟨origin, request⟩ := again
    simp only [List.countP_cons, tableWeight, List.map_cons, List.sum_cons,
      countsFor, decide_eq_true_eq] at counted ⊢
    cases origin with
    | consumer => exact absurd rfl someone
    | paid | waited => grind

/-- However the server answers, a request is sent again as often as is allowed and paid for. -/
theorem retries_are_bounded (setting : PayingSetting) (maxPending : Nat) (pmis : List String)
    (requested : Option PaymentInteractionMode) (id : Json) (state : PayingClient)
    (reached : Reaches (PayingClient.step setting) (PayingMove.fresh id)
      (.start setting maxPending pmis requested) state) :
    state.resent.countP (fun again => again.2.id = id) ≤
        setting.options.maxPendingRetries + state.paidFor.count id ∧
      (∀ again ∈ state.resent, again.2.id = id →
        again.2 ∈ state.sent ∧ ∀ original ∈ state.sent, original.id = id → again.2 = original) ∧
      ∀ now event entry error seconds,
        (state.client.handleNotification setting.config now event).2 =
          .answered (some entry) (.errorResponse error) →
        entry.originalId = id → error.error.code = paymentPendingErrorCode →
        error.error.data.bind retryAfter = some seconds →
        (state.engine.rawRequestCache.peek id = none ∨
          setting.options.maxPendingRetries ≤ state.tries id .waited) →
        (state.handle setting now event).pushed = state.pushed ++ [normalizedRaw error id] ∧
          (state.handle setting now event).errands = state.errands := by
  have owned := owned_of_reaches (owned_start maxPending pmis requested) reached
  have budgeted := budgeted_of_reaches reached
  refine ⟨?_, ?_, ?_⟩
  · have within := budgeted.within
    have paid := budgeted.paid
    unfold tries at within paid
    rw [countP_resent_eq budgeted.engine]
    omega
  · intro again member own
    have known := owned.resent again member
    exact ⟨known, fun original sent same => budgeted.sole again.2 known original sent own same⟩
  · rintro now event entry error seconds handled rfl pending readable exhausted
    refine surfaced_of_handled handled pending readable ?_
    intro cached found
    rcases exhausted with missing | spent
    · grind
    · rw [budgeted.counted cached found]
      exact spent

/-- A server that puts the client off, is paid, and then puts it off until it gives up. -/
def puttingOff : List PayingMove :=
  [.send (.request payingRequest)] ++ goesOut 0 0 0 ++
    [.handle 0 (serverAnswer 0 pendingText), .wake 1 (Duration.fromSecs 1)] ++
    goesOut 1 1 (Duration.fromSecs 1) ++
    [.handle (Duration.fromSecs 1) (serverAnswer 1 requiredText), .settle 2 .paid] ++
    goesOut 2 2 (Duration.fromSecs 2) ++
    [.handle (Duration.fromSecs 2) (serverAnswer 2 pendingText), .wake 3 (Duration.fromSecs 4)] ++
    goesOut 3 3 (Duration.fromSecs 4)

/-- The error that puts a client off. -/
def puttingOffError : JsonRpcErrorResponse :=
  ⟨"2.0", .ofU64 2, ⟨paymentPendingErrorCode, "Payment Pending",
    some (.object [("retry_after", .ofU64 1)])⟩⟩

/-- The request is sent again three times, and the next error is surfaced. -/
theorem retries_are_bounded_putting_off :
    ∃ state, Reaches (PayingClient.step payingSetting) (PayingMove.fresh (.ofU64 2))
        (.start payingSetting 10 [] none) state ∧
      state.resent.countP (fun again => again.2.id = .ofU64 2) = 3 ∧
      3 ≤ payingSetting.options.maxPendingRetries + state.paidFor.count (.ofU64 2) ∧
      (state.handle payingSetting (Duration.fromSecs 4) (serverAnswer 4 pendingText)).pushed =
        state.pushed ++ [normalizedRaw puttingOffError (.ofU64 2)] := by
  refine Reaches.exists_of_any (fun _ _ passed => of_decide_eq_true passed) puttingOff
    (fun state => state.resent.countP (fun again => again.2.id = .ofU64 2) = 3 ∧
      (state.client.handleNotification payingSetting.config (Duration.fromSecs 4)
        (serverAnswer 4 pendingText)).2 = .answered
          (some ⟨.ofU64 2, false, Duration.fromSecs 4, none⟩) (.errorResponse puttingOffError) ∧
      2 ≤ state.tries (.ofU64 2) .waited) (by decide +kernel) ?_
  rintro state reached ⟨thrice, handled, spent⟩
  obtain ⟨bounded, -, surfaced⟩ :=
    retries_are_bounded payingSetting 10 [] none (.ofU64 2) state reached
  rw [thrice] at bounded
  exact ⟨thrice, bounded, (surfaced _ _ _ _ 1 handled rfl rfl (by decide) (.inr spent)).1⟩

end ContextVm
