import ContextVm.Payments.UnderWay

/-! How many outcomes of one and the same request the consumer gets to see. -/

namespace ContextVm

open ClientState Duration JsonRpcMessage JsonRpcRequest PendingRequest SendPhase Sending

variable {setting : PayingSetting} {state after : PayingClient} {move : PayingMove} {id : Json}

/-! What an outcome is, and what may still become one. -/

/-- Whether a message ends a request with an id for the consumer. -/
def JsonRpcMessage.answers (id : Json) : JsonRpcMessage → Bool
  | .response body => body.id = id
  | .errorResponse body => body.id = id
  | _ => false

/-- Whether a message is a payment notification. -/
def JsonRpcMessage.isPaymentNotification : JsonRpcMessage → Bool
  | .notification body => isPaymentNotificationMethod body.method
  | _ => false

/-- What a send may still come to: it carries its request, or its failure is to be reported. -/
def Sending.claims (id : Json) (sending : Sending) : Nat :=
  sending.carries id +
    if sending.origin = .waited ∧ sending.task.phase.failed = true ∧ sending.noted = false then
      sending.task.message.asks id
    else 0

/-- The event under which a send could not be published. -/
def SendPhase.unpublishedAs : SendPhase → Option String
  | .unpublished eventId => some eventId
  | _ => none

/-- The offer that a task is about. -/
def Errand.asChain : Errand → Option ChainTask
  | .chain task => some task
  | _ => none

namespace PayingClient

/-- How many outcomes of a request the consumer has got. -/
def outcomes (id : Json) (state : PayingClient) : Nat :=
  state.pushed.countP (JsonRpcMessage.answers id)

/-- How many more there may be, apart from those of pending requests. -/
def owed (id : Json) (state : PayingClient) : Nat :=
  tableWeight (Sending.claims id) state.sends + tableWeight (Errand.carries id) state.errands

/-- An event refers to a pending request with an id. -/
def RefersTo (id : Json) (state : PayingClient) (event : InboundEvent) : Prop :=
  (event.correlatedId.bind state.client.pending.known).map Prod.fst = some id

instance (id : Json) (state : PayingClient) (event : InboundEvent) :
    Decidable (state.RefersTo id event) :=
  inferInstanceAs (Decidable (_ = _))

end PayingClient

/-- A move that gives a request no second outcome. -/
def PayingMove.orderly (setting : PayingSetting) (id : Json) (state : PayingClient) :
    PayingMove → Prop
  | .handle now event => ∀ message ∈ state.client.brings setting.config now event,
    -- A response with the id refers to a request with the id,
    (message.answers id = true → state.RefersTo id event) ∧
      -- and a request that was failed gets neither a response nor a word about payments.
      (id ∈ state.declined → state.RefersTo id event →
        message.isResponse = false ∧ message.isPaymentNotification = false)
  | .proceed errand input => ∀ task ∈ state.errands[errand]?.bind Errand.asChain,
    -- An offer is turned down while its request is pending and has not been failed.
    input.declines = true → task.chain.entry.map PendingRequest.originalId = some id →
      id ∉ state.declined ∧ 1 ≤ state.client.pending.awaiting id
  | .advance index _ _ => ∀ sending ∈ state.sends[index]?,
    -- So is a request that was to be tried again and could not be published.
    ∀ eventId ∈ sending.task.phase.unpublishedAs,
      sending.origin = .waited → sending.task.message.asks id = 1 → id ∉ state.declined ∧
        (state.client.pending.pendingRequests.peek eventId).map PendingRequest.originalId = some id
  | move => move.fresh id state

instance (setting : PayingSetting) (id : Json) (state : PayingClient) :
    (move : PayingMove) → Decidable (move.orderly setting id state)
  | .handle .. => inferInstanceAs (Decidable (∀ _ ∈ _, (_ → _) ∧ (_ → _ → _ ∧ _)))
  | .proceed .. => inferInstanceAs (Decidable (∀ _ ∈ _, _ → _ → _ ∧ _))
  | .advance .. => inferInstanceAs (Decidable (∀ _ ∈ _, ∀ _ ∈ _, _ → _ → _ ∧ _))
  | .send message => inferInstanceAs (Decidable (PayingMove.fresh id state (.send message)))
  | .enter _ | .report .. | .sweep .. | .touch .. | .settle .. | .wake .. =>
    inferInstanceAs (Decidable True)

/-! The books. -/

/-- What a move does to the outcomes of a request, and to what may become one. -/
inductive PayingClient.Books (id : Json) (state after : PayingClient) : Prop
  -- Nothing is made of what is pending.
  | kept
      (owed : after.outcomes id + after.owed id ≤ state.outcomes id + state.owed id)
      (total : after.outcomes id + after.owed id + after.client.pending.awaiting id ≤
        state.outcomes id + state.owed id + state.client.pending.awaiting id)
      (declined : id ∈ after.declined ↔ id ∈ state.declined)
  -- A request that has not been failed is ended.
  | ended
      (total : after.outcomes id + after.owed id + after.client.pending.awaiting id ≤
        state.outcomes id + state.owed id + state.client.pending.awaiting id)
      (before : id ∉ state.declined) (still : id ∉ after.declined)
  -- A pending request is failed for the first time.
  | failed (waits : 1 ≤ state.client.pending.awaiting id)
      (outcomes : after.outcomes id = state.outcomes id + 1) (owed : after.owed id = state.owed id)
      (before : id ∉ state.declined) (declined : id ∈ after.declined)
  -- A request is sent under a new id.
  | sent
      (total : after.outcomes id + after.owed id + after.client.pending.awaiting id ≤
        state.outcomes id + state.owed id + state.client.pending.awaiting id + 1)
      (unsent : state.Unsent id) (since : ¬ after.Unsent id)
      (declined : after.declined = state.declined)

/-- How things stand with the outcomes of a request. -/
structure PayingClient.Balanced (id : Json) (state : PayingClient) : Prop where
  undisputed : id ∉ state.declined →
    state.outcomes id + state.owed id + state.client.pending.awaiting id ≤ 1
  failed : id ∈ state.declined → state.outcomes id ≤ 1 ∧ state.owed id = 0
  unsent : state.Unsent id → id ∉ state.declined ∧
    state.outcomes id + state.owed id + state.client.pending.awaiting id = 0

/-- Orderly books keep the balance. -/
theorem PayingClient.Books.balanced (books : state.Books id after) (balanced : state.Balanced id)
    (grows : state.outcomes id ≤ after.outcomes id)
    (before : after.Unsent id → state.Unsent id) : after.Balanced id := by
  obtain ⟨undisputed, failed, unsent⟩ := balanced
  cases books with
  | kept owed total declined =>
    refine ⟨?_, ?_, ?_⟩
    · grind
    · grind
    · grind
  | ended total unfailed still =>
    refine ⟨?_, fun closed => absurd closed still, ?_⟩
    · grind
    · grind
  | failed waits outcomes owed unfailed declined =>
    -- All that there was is the pending request.
    have one := undisputed unfailed
    refine ⟨fun still => absurd declined still, ?_, ?_⟩
    · intro _
      omega
    · grind
  | sent total never since declined =>
    obtain ⟨unfailed, nothing⟩ := unsent never
    refine ⟨?_, ?_, fun again => absurd again since⟩
    · intro _
      omega
    · grind

/-! The moves. -/

namespace PayingClient

variable {index now : Nat} {error : JsonRpcErrorResponse} {message : JsonRpcMessage}
  {sending : Sending} {old next : Errand} {event : InboundEvent} {request : JsonRpcRequest}

theorem outcomes_append {more : List JsonRpcMessage}
    (pushed : after.pushed = state.pushed ++ more) :
    after.outcomes id = state.outcomes id + more.countP (JsonRpcMessage.answers id) := by
  rw [outcomes, pushed, List.countP_append, outcomes]

theorem countP_notifications (notes : List JsonRpcNotification) :
    (notes.map JsonRpcMessage.notification).countP (JsonRpcMessage.answers id) = 0 := by
  grind [answers]

theorem answers_error {originalId : Json} (own : error.id = originalId) :
    (JsonRpcMessage.errorResponse error).answers id = decide (originalId = id) := by
  rw [answers, own]

theorem owed_append {more : List Errand} (sends : after.sends = state.sends)
    (errands : after.errands = state.errands ++ more) :
    after.owed id = state.owed id + tableWeight (Errand.carries id) more := by
  rw [owed, sends, errands, tableWeight_append_list, owed, Nat.add_assoc]

section

variable (sends : after.sends = state.sends)
  (errands : after.errands = state.errands.set index next)
  (found : state.errands[index]? = some old)
include sends errands found

theorem owed_set : after.owed id + old.carries id = state.owed id + next.carries id := by
  grind [tableWeight_set, owed]

theorem owed_of_set (same : next.carries id = old.carries id) : after.owed id = state.owed id := by
  have exchanged : after.owed id + _ = state.owed id + _ := owed_set sends errands found
  omega

end

theorem owed_set_sends {old next : Sending} (errands : after.errands = state.errands)
    (sends : after.sends = state.sends.set index next) (found : state.sends[index]? = some old) :
    after.owed id + old.claims id = state.owed id + next.claims id := by
  grind [tableWeight_set, owed]

/-- A pending request that is failed, if it has the id. -/
theorem books_failed {pending : PendingRequest} (notes : List JsonRpcNotification)
    (own : error.id = pending.originalId)
    (pushed : after.pushed = state.pushed ++ .errorResponse error :: notes.map .notification)
    (declined : after.declined = state.declined ++ [error.id])
    (owed : after.owed id = state.owed id)
    (awaiting : after.client.pending.awaiting id = state.client.pending.awaiting id)
    (undisputed : pending.originalId = id →
      id ∉ state.declined ∧ 1 ≤ state.client.pending.awaiting id) :
    state.Books id after := by
  have outcomes : after.outcomes id = state.outcomes id + _ := outcomes_append pushed
  rw [List.countP_cons, countP_notifications, answers_error own] at outcomes
  by_cases same : pending.originalId = id
  · obtain ⟨before, waits⟩ := undisputed same
    refine .failed waits ?_ owed before ?_
    · simpa [same] using outcomes
    · grind
  · -- The request is another one.
    simp only [same, decide_false, Bool.false_eq_true, if_false, Nat.add_zero] at outcomes
    refine .kept (by omega) (by omega) ?_
    rw [declined, own, List.mem_append, List.mem_singleton]
    exact or_iff_left (Ne.symm same)

theorem countsFor_le_one (id : Json) (entry : Option PendingRequest) :
    entry.elim 0 (PendingRequest.countsFor id) ≤ 1 := by
  cases entry with
  | none => exact Nat.zero_le 1
  | some pending =>
    simp only [Option.elim_some, PendingRequest.countsFor]
    split <;> omega

theorem refersTo_iff_ended {entry : Option PendingRequest}
    (matched : entry.map PendingRequest.identity =
      if message.isResponse then event.correlatedId.bind state.client.pending.known else none)
    (response : message.isResponse = true) :
    state.RefersTo id event ↔ entry.elim 0 (PendingRequest.countsFor id) = 1 := by
  rw [response, if_pos rfl] at matched
  rw [RefersTo, ← matched]
  cases entry with
  | none => simp
  | some pending =>
    show some pending.originalId = some id ↔ pending.countsFor id = 1
    simp [PendingRequest.countsFor]

section

variable (owned : state.Owned) (orderly : (PayingMove.handle now event).orderly setting id state)
include owned orderly

/-- A message that is handed over for good. -/
theorem books_ended {entry : Option PendingRequest} {spawned : List EngineCall}
    {delivered : Option JsonRpcMessage}
    (answered : (state.client.handleNotification setting.config now event).2 =
      .answered entry message) (awaiting : after.client.pending.awaiting id +
      entry.elim 0 (PendingRequest.countsFor id) = state.client.pending.awaiting id)
    (matched : entry.map PendingRequest.identity =
      if message.isResponse then event.correlatedId.bind state.client.pending.known else none)
    (ends : state.engine.Ends setting.options entry message after.engine spawned delivered)
    (sends : after.sends = state.sends)
    (errands : after.errands = state.errands ++ spawned.filterMap (EngineCall.errand setting now))
    (pushed : after.pushed = state.pushed ++ delivered.toList)
    (declined : after.declined = state.declined) : state.Books id after := by
  obtain ⟨own, silent⟩ := orderly message (brings_of_answered answered)
  have owed : after.owed id = state.owed id + _ := owed_append sends errands
  rw [carries_spawned owned ends] at owed
  have outcomes : after.outcomes id = state.outcomes id + _ := outcomes_append pushed
  -- What is delivered is an outcome only of the request that it ends.
  have counted : delivered.toList.countP (answers id) ≤
      if delivered.isSome then entry.elim 0 (PendingRequest.countsFor id) else 0 := by
    cases ends with
    | passed cache =>
      simp only [Option.toList_some, List.countP_singleton, Option.isSome_some, if_true]
      split
      · rename_i answers
        have response : message.isResponse = true := by
          cases message with
          | request body | notification body => cases answers
          | response body | errorResponse body => rfl
        rw [(refersTo_iff_ended matched response).mp (own answers)]
      · exact Nat.zero_le _
    | surfaced ended raw cache =>
      rw [ended]
      simp only [Option.toList_some, List.countP_singleton, Option.isSome_some, if_true,
        normalizedRaw, answers, decide_eq_true_eq, Option.elim_some,
        PendingRequest.countsFor, le_refl]
    | called | waits => exact Nat.le_refl 0
  rcases Nat.le_one_iff_eq_zero_or_eq_one.mp (countsFor_le_one id entry) with another | one
  · refine .kept ?_ ?_ (by rw [declined])
    · split at counted <;> split at owed <;> omega
    · split at counted <;> split at owed <;> omega
  · -- The request that is ended has the id, so that it has not been failed.
    have response : message.isResponse = true := by
      by_contra other
      rw [if_neg other, Option.map_eq_none_iff] at matched
      simp [matched] at one
    have unfailed : id ∉ state.declined := by
      intro failed
      have silence := silent failed ((refersTo_iff_ended matched response).mpr one)
      rw [response] at silence
      cases silence.1
    refine .ended ?_ unfailed (by rwa [declined])
    split at counted <;> split at owed <;> omega

/-- An event. -/
theorem books_handle : state.Books id (state.handle setting now event) := by
  have sends : (state.handle setting now event).sends = state.sends := rfl
  -- Tasks for offers owe nothing.
  have offered {chains : List Errand}
      (errands : (state.handle setting now event).errands = state.errands ++ chains)
      (offers : ∀ errand ∈ chains, ∃ task, errand = .chain task) :
      (state.handle setting now event).owed id = state.owed id := by
    rw [owed, sends, errands, carries_chains offers, owed]
  cases handling_handle setting now state event with
  | quiet chains notes awaiting cache offers errands pushed declined =>
    have outcomes : (state.handle setting now event).outcomes id = state.outcomes id + _ :=
      outcomes_append pushed
    rw [countP_notifications] at outcomes
    have same := offered errands offers
    have pending := awaiting id
    exact .kept (by omega) (by omega) (by rw [declined])
  | failed chains notes pending error body noticed payment refers waits awaiting cache offers
      errands own pushed declined =>
    refine books_failed notes own pushed declined (offered errands offers) (awaiting id) ?_
    rintro rfl
    refine ⟨?_, waits⟩
    -- A request that was failed gets no word about payments any more.
    intro failed
    obtain ⟨eventId, correlated, known⟩ := Option.bind_eq_some_iff.mp refers
    have held : event.correlatedId.any state.client.pending.contains = true := by
      obtain ⟨entry, found, -⟩ := Option.map_eq_some_iff.mp known
      rw [correlated]
      simp [ClientCorrelationStore.contains, found]
    obtain ⟨_, _, brings⟩ := brings_of_forwarded noticed
    have silence := (orderly _ (brings held)).2 failed (by rw [RefersTo, refers]; rfl)
    rw [isPaymentNotification, payment] at silence
    cases silence.2
  | ended entry message spawned delivered answered awaiting matched ends errands pushed declined =>
    exact books_ended owned orderly answered (awaiting id) matched ends sends errands pushed
      declined

end

theorem claims_of_reported (id : Json) (waited : sending.origin = .waited)
    (unnoted : sending.noted = false) : sending.claims id =
      (if sending.task.phase.carrying then sending.task.message.asks id else 0) +
        if sending.task.phase.failed then sending.task.message.asks id else 0 := by
  simp [Sending.claims, Sending.carries, waited, unnoted]

/-- What a step of a send leaves of what the send may come to. -/
theorem claims_advance (id : Json) {ok : Bool} {phase : SendPhase} {deed : Deed}
    (advanced : sending.task.advance setting.config state.client index
      ⟨now, setting.eventId sending.task now, ok⟩ = some (phase, deed)) :
    (sending.goTo phase).claims id + deed.pends id ≤ sending.claims id ∨
      ∃ eventId, sending.task.phase = .unpublished eventId ∧ sending.origin = .waited ∧
        deed = .remove eventId ∧ (sending.goTo phase).claims id = sending.task.message.asks id ∧
        sending.claims id = 0 := by
  obtain ⟨carried, moved⟩ := (SendTask.moves_of_advance advanced).carries id _ rfl
  by_cases engine : sending.origin = .waited ∧ sending.noted = false
  · -- A failure of this send is to be reported.
    have old := claims_of_reported id engine.1 engine.2
    have new : (sending.goTo phase).claims id =
        (if phase.carrying then sending.task.message.asks id else 0) +
          if phase.failed then sending.task.message.asks id else 0 :=
      claims_of_reported id engine.1 engine.2
    rcases moved with less | ⟨eventId, unpublished, rfl, removes⟩
    · exact .inl (by omega)
    · rw [unpublished] at old
      exact .inr ⟨eventId, unpublished, engine.1, removes, by simpa [carrying,
        failed] using new, by simpa [carrying, failed] using old⟩
  · have unreported (other : Sending) (same : other.origin = sending.origin ∧
        other.noted = sending.noted) : other.claims id = other.carries id := by
      rw [claims, if_neg, Nat.add_zero]
      rintro ⟨waited, -, unnoted⟩
      exact engine ⟨same.1.symm.trans waited, same.2.symm.trans unnoted⟩
    rw [unreported sending ⟨rfl, rfl⟩, unreported (sending.goTo phase) ⟨rfl, rfl⟩]
    exact .inl carried

/-- A step of a send. -/
theorem books_advance {ok : Bool} {phase : SendPhase} {deed : Deed}
    (orderly : (PayingMove.advance index now ok).orderly setting id state)
    (found : state.sends[index]? = some sending)
    (advanced : sending.task.advance setting.config state.client index
      ⟨now, setting.eventId sending.task now, ok⟩ = some (phase, deed))
    (client : after.client = state.client.perform index sending.task deed)
    (sends : after.sends = state.sends.set index (sending.goTo phase))
    (errands : after.errands = state.errands) (pushed : after.pushed = state.pushed)
    (declined : after.declined = state.declined) : state.Books id after := by
  have outcomes : after.outcomes id = state.outcomes id := by rw [outcomes, pushed, outcomes]
  have owed : after.owed id + sending.claims id =
    state.owed id + (sending.goTo phase).claims id := owed_set_sends errands sends found
  have pending := state.client.awaiting_perform_le index sending.task deed id
  rw [← client] at pending
  rcases claims_advance id advanced with less | ⟨eventId, unpublished, waited, rfl, new, old⟩
  · exact .kept (by omega) (by omega) (by rw [declined])
  · rcases Nat.le_one_iff_eq_zero_or_eq_one.mp (asks_le_one id sending.task.message) with
      another | one
    · have nothing : (Deed.remove eventId).pends id = 0 := rfl
      exact .kept (by omega) (by omega) (by rw [declined])
    · -- The failure takes the place of the pending request.
      obtain ⟨unfailed, held⟩ := orderly sending found eventId (by rw [unpublished]; rfl) waited one
      obtain ⟨entry, kept, same⟩ := Option.map_eq_some_iff.mp held
      have removed := state.client.pending.awaiting_remove id eventId
      have counts : entry.countsFor id = 1 := if_pos same
      rw [kept, Option.elim_some, counts] at removed
      have gone : after.client.pending = (state.client.pending.remove eventId).2 := by
        rw [client]
        rfl
      rw [← gone] at removed
      exact .ended (by omega) unfailed (by rwa [declined])

theorem books_set {more : List JsonRpcMessage} (found : state.errands[index]? = some old)
    (errands : after.errands = state.errands.set index next) (sends : after.sends = state.sends)
    (pushed : after.pushed = state.pushed ++ more) (client : after.client = state.client)
    (declined : after.declined = state.declined)
    (less : more.countP (JsonRpcMessage.answers id) + next.carries id ≤ old.carries id) :
    state.Books id after := by
  have owed : after.owed id + old.carries id = state.owed id + next.carries id :=
    owed_set sends errands found
  have outcomes : after.outcomes id = state.outcomes id + _ := outcomes_append pushed
  exact .kept (by omega) (by rw [client]; omega) (by rw [declined])

theorem countP_error (own : error.id = request.id) :
    [JsonRpcMessage.errorResponse error].countP (JsonRpcMessage.answers id) = request.named id := by
  rw [List.countP_singleton, answers_error own, named]
  simp only [decide_eq_true_eq]

theorem books_send (orderly : (PayingMove.send message).orderly setting id state) :
    state.Books id (state.send message) := by
  have owed : (state.send message).owed id = state.owed id + _ := owed_append rfl rfl
  have added : tableWeight (Errand.carries id) [.sending .consumer message] =
    message.asks id := Nat.add_zero _
  have outcomes : (state.send message).outcomes id = state.outcomes id := rfl
  have pending : (state.send message).client = state.client := rfl
  rcases Nat.le_one_iff_eq_zero_or_eq_one.mp (asks_le_one id message) with another | one
  · exact .kept (by omega) (by rw [pending]; omega) Iff.rfl
  · refine .sent (by rw [pending]; omega) ?_ ?_ rfl
    · exact unsent_of_fresh orderly (by rw [PayingMove.opens]; omega)
    · intro unsent
      have none := (unsent_of_does (.send message : state.Does setting _ _) unsent).2
      rw [PayingMove.opens] at none
      omega

theorem books_report (found : state.sends[index]? = some sending)
    (waited : sending.origin = .waited) (failed : sending.task.phase = .finished false)
    (carried : sending.task.message = .request request) (unnoted : sending.noted = false)
    (own : error.id = request.id) (sends : after.sends = state.sends.set index sending.note)
    (errands : after.errands = state.errands)
    (pushed : after.pushed = state.pushed ++ [.errorResponse error])
    (client : after.client = state.client) (declined : after.declined = state.declined) :
    state.Books id after := by
  have owed : after.owed id + sending.claims id = state.owed id + sending.note.claims id :=
    owed_set_sends errands sends found
  have outcomes : after.outcomes id = state.outcomes id + _ := outcomes_append pushed
  have old : sending.claims id = request.named id := by
    rw [claims_of_reported id waited unnoted, failed, carried]
    exact Nat.zero_add _
  have new : sending.note.claims id = 0 := by
    simp [Sending.claims, Sending.note, Sending.carries, failed, SendPhase.carrying]
  rw [countP_error own] at outcomes
  exact .kept (by omega) (by rw [client]; omega) (by rw [declined])

/-- Every move in its turn. -/
theorem books_does (owned : state.Owned) (orderly : move.orderly setting id state)
    (does : state.Does setting move after) : state.Books id after := by
  cases does with
  | send message => exact books_send orderly
  | emulate found =>
    rename_i message
    refine books_set found rfl rfl rfl rfl rfl (Nat.le_of_eq ?_)
    show _ + 0 = message.asks id
    unfold asks
    cases message.asRequest with
    | none => rfl
    | some request =>
      simp [emulateInitializeResponse, answers, named]
  | enter found =>
    rename_i errand origin message
    have exchanged := tableWeight_set (Errand.carries id) .done found
    change _ + message.asks id = _ + 0 at exchanged
    have send : claims id ⟨origin, state.client.compose setting.config message, false⟩ =
        message.asks id := by
      simp [claims, carries, compose, carrying, failed]
    have same : tableWeight (claims id) (state.sends ++
        [⟨origin, state.client.compose setting.config message, false⟩]) +
          tableWeight (Errand.carries id) (state.errands.set errand .done) = state.owed id := by
      rw [tableWeight_append, send, owed]
      omega
    have total := Nat.add_le_add_left same.le (state.outcomes id)
    exact .kept total (Nat.add_le_add_right total _) Iff.rfl
  | advance found advanced => exact books_advance orderly found advanced rfl rfl rfl rfl rfl
  | report found waited failed carried unnoted own =>
    exact books_report found waited failed carried unnoted own rfl rfl rfl rfl rfl
  | handle now event => exact books_handle owned orderly
  | sweep client fewer | touch client fewer =>
    exact .kept (Nat.le_refl _) (Nat.add_le_add_left (fewer id) _) Iff.rfl
  | proceed phase engine found cache =>
    exact books_set found rfl rfl (List.append_nil _).symm rfl rfl (Nat.le_refl 0)
  | decline phase engine found cache declines offered own =>
    refine books_failed [] own rfl rfl ?_ rfl ?_
    · exact owed_of_set rfl rfl found rfl
    · intro same
      refine orderly _ (by rw [found]; rfl) declines ?_
      rw [offered, Option.map_some, same]
  | @settle errand outcome originalId request data found =>
    have own := (owned.errands _ (List.mem_of_getElem? found)).1
    cases outcome with
    | paid => exact books_set found rfl rfl (List.append_nil _).symm rfl rfl (Nat.zero_add _).le
    | declined reason | failed reason =>
      exact books_set found rfl rfl rfl rfl rfl (countP_error own.symm).le
    | panicked => exact books_set found rfl rfl (List.append_nil _).symm rfl rfl (Nat.zero_le _)
  | wake found late =>
    exact books_set found rfl rfl (List.append_nil _).symm rfl rfl (Nat.zero_add _).le

theorem outcomes_le (does : state.Does setting move after) :
    state.outcomes id ≤ after.outcomes id := by
  have grown : ∃ more, after.pushed = state.pushed ++ more := by
    cases does with
    | send | enter | advance | sweep | touch | proceed | wake =>
      exact ⟨[], (List.append_nil _).symm⟩
    | emulate | report | decline => exact ⟨_, rfl⟩
    | settle found =>
      rename_i outcome originalId request data
      cases outcome with
      | paid | panicked => exact ⟨[], (List.append_nil _).symm⟩
      | declined | failed => exact ⟨_, rfl⟩
    | handle now event =>
      cases handling_handle setting now state event with
      | quiet _ _ _ _ _ _ pushed | failed _ _ _ _ _ _ _ _ _ _ _ _ _ _ pushed
      | ended _ _ _ _ _ _ _ _ _ pushed =>
        exact ⟨_, pushed⟩
  obtain ⟨more, pushed⟩ := grown
  rw [outcomes_append pushed]
  exact Nat.le_add_right _ _

theorem balanced_of_reaches {maxPending : Nat} {pmis : List String}
    {requested : Option PaymentInteractionMode}
    (reached : Reaches (step setting) (PayingMove.orderly setting id)
      (start setting maxPending pmis requested) state) : state.Balanced id := by
  refine reached.invariant ⟨fun _ => Nat.zero_le 1, ?_, fun _ => ⟨?_, rfl⟩⟩ ?_
  · intro declined
    cases declined
  · intro declined
    cases declined
  · intro before move after earlier balanced orderly taken
    have owned := owned_of_reaches (owned_start maxPending pmis requested) earlier
    obtain ⟨middle, does, rfl⟩ := does_of_step taken
    have next := (books_does owned orderly does).balanced balanced (outcomes_le does)
      fun unsent => (unsent_of_does does unsent).1
    exact { next with }

end PayingClient

/-- A request gets one outcome at most, if nothing is made of it after it was failed. -/
theorem single_outcome_of_orderly (setting : PayingSetting) (maxPending : Nat)
    (pmis : List String) (requested : Option PaymentInteractionMode) (id : Json)
    (state : PayingClient)
    (reached : Reaches (PayingClient.step setting) (PayingMove.orderly setting id)
      (.start setting maxPending pmis requested) state) :
    state.pushed.countP (JsonRpcMessage.answers id) ≤ 1 := by
  have balanced := PayingClient.balanced_of_reaches reached
  by_cases declined : id ∈ state.declined
  · exact (balanced.failed declined).1
  · have one := balanced.undisputed declined
    unfold PayingClient.outcomes at one
    omega

/-- A request that is put off once, and then answered. -/
theorem single_outcome_of_orderly_put_off :
    ∃ state, Reaches (PayingClient.step payingSetting) (PayingMove.orderly payingSetting (.ofU64 2))
        (.start payingSetting 10 [] none) state ∧
      state.resent ≠ [] ∧ .response ⟨"2.0", .ofU64 2, .object []⟩ ∈ state.pushed ∧
      state.pushed.countP (JsonRpcMessage.answers (.ofU64 2)) ≤ 1 := by
  refine Reaches.exists_of_any (fun _ _ passed => of_decide_eq_true passed)
    ([.send (.request payingRequest)] ++ goesOut 0 0 0 ++
      [.handle 0 (serverAnswer 0 pendingText), .wake 1 (fromSecs 1)] ++
      goesOut 1 1 (fromSecs 1) ++
      [.handle (fromSecs 1) (serverAnswer 1 replyText)])
    (fun state => state.resent ≠ [] ∧
      .response ⟨"2.0", .ofU64 2, .object []⟩ ∈ state.pushed) (by decide +kernel) ?_
  intro state reached checked
  exact ⟨checked.1, checked.2,
    single_outcome_of_orderly payingSetting 10 [] none (.ofU64 2) state reached⟩

/-- A server that rejects a payment twice gives the request two outcomes. -/
theorem rejections_give_two_outcomes :
    ∃ state, Reaches (PayingClient.step payingSetting) (PayingMove.fresh (.ofU64 2))
        (.start payingSetting 10 [] none) state ∧
      state.sent = [payingRequest] ∧
      state.pushed.countP (JsonRpcMessage.answers (.ofU64 2)) = 2 := by
  exact Reaches.of_any (fun _ _ passed => of_decide_eq_true passed)
    ([.send (.request payingRequest)] ++ goesOut 0 0 0 ++
      [.handle 0 (serverAnswer 0 rejectedText), .handle 0 (serverAnswer 0 rejectedText)]) _
    (by decide +kernel)

end ContextVm
