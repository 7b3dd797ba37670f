import ContextVm.Payments.PayingSteps

/-! A request that was sent once is under way once at most, however it gets along. -/

namespace ContextVm

variable {setting : PayingSetting} {state after : PayingClient} {move : PayingMove} {id : Json}

/-! Where a request can be. -/

/-- What a request counts for an id. -/
def JsonRpcRequest.named (id : Json) (request : JsonRpcRequest) : Nat :=
  if request.id = id then 1 else 0

/-- What a message counts for an id as a request. -/
def JsonRpcMessage.asks (id : Json) (message : JsonRpcMessage) : Nat :=
  message.asRequest.elim 0 (JsonRpcRequest.named id)

/-- Whether a send has yet to note its request as pending. -/
def SendPhase.carrying : SendPhase → Bool
  | .composed | .resolved .. | .enlisted .. | .waiting _ | .streaming .. | .failing .. | .ended ..
  | .delisted _ => true
  | .registered _ | .unpublished _ | .latching | .finished _ => false

/-- Whether a send has failed. -/
def SendPhase.failed : SendPhase → Bool
  | .finished false => true
  | _ => false

/-- What a send counts for, until its request is noted as pending. -/
def Sending.carries (id : Json) (sending : Sending) : Nat :=
  if sending.task.phase.carrying then sending.task.message.asks id else 0

/-- What a task counts for: it may send a request yet. -/
def Errand.carries (id : Json) : Errand → Nat
  | .callback _ request _ | .retry _ request _ => request.named id
  | .sending _ message => message.asks id
  | .chain _ | .done => 0

/-- How often a request is on its way out. -/
def PayingClient.outgoing (id : Json) (state : PayingClient) : Nat :=
  tableWeight (Sending.carries id) state.sends + tableWeight (Errand.carries id) state.errands

/-- How often a request is on its way out or pending. -/
def PayingClient.underWay (id : Json) (state : PayingClient) : Nat :=
  state.outgoing id + state.client.pending.awaiting id

/-- What a move adds: the consumer sends a request. -/
def PayingMove.opens (id : Json) : PayingMove → Nat
  | .send message => message.asks id
  | _ => 0

/-! The steps of a send. -/

/-- What a deed counts for: a request is noted as pending. -/
def Deed.pends (id : Json) : Deed → Nat
  | .register _ _ request => request.named id
  | _ => 0

theorem Deed.pends_registering (now : Nat) (eventId : String) (message : JsonRpcMessage) :
    (Deed.registering now eventId message).pends id = message.asks id := by
  cases message <;> rfl

theorem Deed.pends_delisting (needsAccept : Bool) (token : String) :
    (Deed.delisting needsAccept token).pends id = 0 := by
  cases needsAccept <;> rfl

/-- What a send counts for goes over to what is pending, or into a failure. -/
theorem SendTask.Moves.carries {config : ClientConfig} {task : SendTask} {met : Circumstances}
    {before next : SendPhase} {deed : Deed} (moves : task.Moves config met before next deed)
    (id : Json) (count : Nat) (asks : task.message.asks id = count) :
    (if next.carrying then count else 0) + deed.pends id ≤ (if before.carrying then count else 0) ∧
      ((if next.carrying then count else 0) + (if next.failed then count else 0) + deed.pends id ≤
          (if before.carrying then count else 0) + (if before.failed then count else 0) ∨
        ∃ eventId, before = .unpublished eventId ∧ next = .finished false ∧
          deed = .remove eventId) := by
  cases moves with
  | note eventId | pend eventId =>
    -- The request is pending from now on.
    rw [Deed.pends_registering, asks]
    simp [SendPhase.carrying, SendPhase.failed]
  | forget eventId => exact ⟨Nat.le_refl 0, .inr ⟨eventId, rfl, rfl, rfl⟩⟩
  | fail needsAccept token under =>
    have still : before.carrying = true ∧ before.failed = false := by
      cases before <;> first | exact ⟨rfl, rfl⟩ | cases under
    rw [still.1, still.2]
    simp [SendPhase.carrying, SendPhase.failed, Deed.pends]
  | abandon needsAccept token | leave needsAccept token endId =>
    rw [Deed.pends_delisting]
    simp [SendPhase.carrying, SendPhase.failed]
  | publish | miss | resolve | refuse | enlist | skip | knock | enter | resume | piece | close
  | latch =>
    simp [SendPhase.carrying, SendPhase.failed, Deed.pends, Deed.publishing]

theorem ClientState.awaiting_perform_le (client : ClientState) (index : Nat) (task : SendTask)
    (deed : Deed) (id : Json) :
    (client.perform index task deed).pending.awaiting id ≤
      client.pending.awaiting id + deed.pends id := by
  cases deed with
  | register now eventId request => exact Lru.weight_put_le _ _ _ _
  | remove eventId =>
    have removed := client.pending.awaiting_remove id eventId
    simp only [perform, Deed.pends]
    omega
  | nothing | enlist token | delist token | publish published | latch => exact Nat.le_refl _

/-! The moves. -/

namespace PayingClient

theorem outgoing_send (message : JsonRpcMessage) :
    (state.send message).outgoing id = state.outgoing id + message.asks id := by
  simp only [outgoing, send, tableWeight_append]
  exact (Nat.add_assoc _ _ _).symm

theorem carries_chains {chains : List Errand}
    (offers : ∀ errand ∈ chains, ∃ task, errand = .chain task) :
    tableWeight (Errand.carries id) (state.errands ++ chains) =
      tableWeight (Errand.carries id) state.errands := by
  have light : tableWeight (Errand.carries id) chains = 0 := by
    refine tableWeight_eq_zero ?_
    intro errand member
    obtain ⟨task, rfl⟩ := offers errand member
    rfl
  rw [tableWeight_append_list, light, Nat.add_zero]

theorem carries_spawned (owned : state.Owned) {now : Nat} {entry : Option PendingRequest}
    {message : JsonRpcMessage} {engine : ClientPaymentsEngine} {spawned : List EngineCall}
    {delivered : Option JsonRpcMessage}
    (ends : state.engine.Ends setting.options entry message engine spawned delivered) :
    tableWeight (Errand.carries id) (spawned.filterMap (EngineCall.errand setting now)) =
      if delivered.isSome then 0 else entry.elim 0 (PendingRequest.countsFor id) := by
  -- What is kept under an id is a request with that id.
  have own {pending : PendingRequest} {cached : CachedRequest}
      (found : state.engine.rawRequestCache.peek pending.originalId = some cached) :
      cached.request.named id = pending.countsFor id := by
    rw [JsonRpcRequest.named, (owned.cached _ cached found).1]
    rfl
  cases ends with
  | passed cache | surfaced ended raw cache => rfl
  | called data ended found cache | waits retryAfter ended found room cache =>
    rw [ended]
    exact own found

theorem underWay_handle (owned : state.Owned) (now : Nat) (event : InboundEvent) :
    (state.handle setting now event).underWay id ≤ state.underWay id := by
  have sends : (state.handle setting now event).sends = state.sends := rfl
  unfold underWay outgoing
  rw [sends]
  cases handling_handle setting now state event with
  | quiet chains notes awaiting cache offers errands =>
    rw [errands, carries_chains offers, awaiting]
  | failed chains notes pending error body noticed payment refers waits awaiting cache offers
      errands =>
    rw [errands, carries_chains offers, awaiting]
  | ended entry message spawned delivered answered awaiting matched ends errands =>
    have ended := awaiting id
    rw [errands, tableWeight_append_list, carries_spawned owned ends]
    split <;> omega

theorem carries_set_le {index : Nat} {old : Errand} (next : Errand)
    (found : state.errands[index]? = some old) (less : next.carries id ≤ old.carries id) :
    tableWeight (Sending.carries id) state.sends +
        tableWeight (Errand.carries id) (state.errands.set index next) +
      state.client.pending.awaiting id ≤ state.underWay id := by
  grind [tableWeight_set, underWay, outgoing]

/-- Only the consumer adds to what is under way. -/
theorem underWay_does (owned : state.Owned) (does : state.Does setting move after) :
    after.underWay id ≤ state.underWay id + move.opens id := by
  cases does with
  | send message =>
    show (state.send message).outgoing id + state.client.pending.awaiting id ≤
      state.underWay id + message.asks id
    rw [outgoing_send, underWay]
    omega
  | emulate found => exact carries_set_le .done found (Nat.zero_le _)
  | enter found =>
    rename_i errand origin message
    have exchanged := tableWeight_set (Errand.carries id) .done found
    have send : Sending.carries id ⟨origin, state.client.compose setting.config message, false⟩ =
      message.asks id := rfl
    apply Nat.add_le_add_right
    show tableWeight _ (_ ++ _) + tableWeight _ (state.errands.set errand .done) ≤ _
    rw [tableWeight_append, send]
    change _ + message.asks id = _ + 0 at exchanged
    unfold outgoing
    omega
  | advance found advanced =>
    rename_i index now ok sending phase deed
    have carried := ((SendTask.moves_of_advance advanced).carries id _ rfl).1
    have pending := state.client.awaiting_perform_le index sending.task deed id
    have exchanged := tableWeight_set (Sending.carries id) (sending.goTo phase) found
    change _ + (if sending.task.phase.carrying then sending.task.message.asks id else 0) =
      _ + if phase.carrying then sending.task.message.asks id else 0 at exchanged
    show tableWeight _ (state.sends.set index _) + tableWeight _ state.errands +
      (state.client.perform index sending.task deed).pending.awaiting id ≤ _
    unfold underWay outgoing
    omega
  | report found waited failed carried unnoted own =>
    rename_i sending request error
    have exchanged := tableWeight_set (Sending.carries id) sending.note found
    have same : sending.note.carries id = sending.carries id := rfl
    refine Nat.add_le_add_right (Nat.add_le_add_right ?_ _) _
    show tableWeight _ (state.sends.set _ sending.note) ≤ _
    omega
  | handle now event => exact underWay_handle owned now event
  | sweep client fewer | touch client fewer => exact Nat.add_le_add_left (fewer id) _
  | proceed phase engine found cache => exact carries_set_le _ found (Nat.zero_le _)
  | decline phase engine found cache declines offered own =>
    exact carries_set_le _ found (Nat.zero_le _)
  | settle found =>
    rename_i errand outcome originalId request data
    cases outcome with
    | paid => exact carries_set_le _ found (Nat.le_refl _)
    | declined reason | failed reason | panicked => exact carries_set_le .done found (Nat.zero_le _)
  | wake found late => exact carries_set_le _ found (Nat.le_refl _)

/-! Requests under new ids. -/

/-- No request with an id was sent. -/
def Unsent (id : Json) (state : PayingClient) : Prop := ∀ request ∈ state.sent, request.id ≠ id

theorem asks_eq_zero_iff {message : JsonRpcMessage} :
    message.asks id = 0 ↔ ∀ request, message = .request request → request.id ≠ id := by
  cases message with
  | request request => simp [JsonRpcMessage.asks, JsonRpcMessage.asRequest, JsonRpcRequest.named]
  | response body | errorResponse body | notification body =>
    simp [JsonRpcMessage.asks, JsonRpcMessage.asRequest]

theorem asks_le_one (id : Json) (message : JsonRpcMessage) : message.asks id ≤ 1 := by
  unfold JsonRpcMessage.asks JsonRpcRequest.named
  cases message.asRequest with
  | none => exact Nat.zero_le 1
  | some request => grind

theorem unsent_of_does (does : state.Does setting move after) (unsent : after.Unsent id) :
    state.Unsent id ∧ move.opens id = 0 := by
  cases does with
  | send message =>
    constructor
    · intro request member
      exact unsent request (List.mem_append_left _ member)
    · refine asks_eq_zero_iff.mpr ?_
      rintro request rfl
      exact unsent request (List.mem_append_right _ (List.mem_singleton_self request))
  | settle found =>
    rename_i outcome originalId request data
    cases outcome <;> exact ⟨unsent, rfl⟩
  | emulate found | enter found | advance found advanced | handle now event | sweep client fewer
  | touch client fewer | report found waited failed carried unnoted own
  | proceed phase engine found cache | decline phase engine found cache declines offered own
  | wake found late => exact ⟨unsent, rfl⟩

theorem unsent_of_fresh (fresh : move.fresh id state) (opens : move.opens id ≠ 0) :
    state.Unsent id := by
  cases move with
  | send message =>
    -- A message that counts for the id is a request with it.
    by_contra sent
    refine opens (asks_eq_zero_iff.mpr ?_)
    rintro request rfl same
    exact sent (fresh same)
  | enter | advance | report | handle | sweep | touch | proceed | settle | wake =>
    exact absurd rfl opens

/-- A request that is sent once is under way once at most. -/
structure Single (id : Json) (state : PayingClient) : Prop where
  once : state.underWay id ≤ 1
  never : state.Unsent id → state.underWay id = 0

theorem single_does (owned : state.Owned) (single : state.Single id) (fresh : move.fresh id state)
    (does : state.Does setting move after) : after.Single id := by
  have grows : after.underWay id ≤ state.underWay id + move.opens id := underWay_does owned does
  constructor
  · by_cases opens : move.opens id = 0
    · have once := single.once
      omega
    · -- The request is new, so that nothing was under way.
      have none := single.never (unsent_of_fresh fresh opens)
      have one : move.opens id ≤ 1 := by
        cases move with
        | send message => exact asks_le_one id message
        | enter | advance | report | handle | sweep | touch | proceed | settle | wake =>
          exact Nat.zero_le 1
      omega
  · intro unsent
    obtain ⟨before, opens⟩ := unsent_of_does does unsent
    have none := single.never before
    omega

theorem single_of_reaches {maxPending : Nat} {pmis : List String}
    {requested : Option PaymentInteractionMode}
    {permitted : PayingClient → PayingMove → Prop}
    (fresh : ∀ before move, permitted before move → move.fresh id before)
    (reached : Reaches (step setting) permitted (start setting maxPending pmis requested) state) :
    state.Single id := by
  refine reached.invariant ⟨Nat.zero_le 1, fun _ => rfl⟩ ?_
  intro before move after earlier single allowed taken
  have owned := owned_of_reaches (owned_start maxPending pmis requested) earlier
  obtain ⟨middle, does, rfl⟩ := does_of_step taken
  exact { single_does owned single (fresh before move allowed) does with }

end PayingClient

end ContextVm
