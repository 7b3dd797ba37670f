import ContextVm.Payments.ClientEngine
import ContextVm.Transport.PendingResponses

/-! What a client makes of a message of the server's that comes as one event, or in frames. -/

namespace ContextVm

open ClientCorrelationStore ClientPaymentsEngine ClientState

/-! Handing a message over, with the payments in between. -/

/-- The payments that are installed in a client. -/
structure ClientPayments where
  options : ClientPaymentsOptions
  engine : ClientPaymentsEngine

/-- What has become of a message. -/
structure ClientDelivery where
  pending : ClientCorrelationStore
  payments : Option ClientPayments
  -- What the payments do, before the messages below are pushed to the consumer.
  calls : List EngineCall
  delivered : List JsonRpcMessage

/-- A message that ends a request goes through the payments, if there are any. -/
def ClientState.handOver (client : ClientState) (payments : Option ClientPayments)
    (correlatedId : Option String) (entry : Option PendingRequest) (message : JsonRpcMessage) :
    ClientDelivery :=
  match payments with
  | none => ⟨client.pending, none, [], [message]⟩
  | some payments =>
    let (engine, calls, delivered) :=
      payments.engine.onTerminalResponse payments.options entry correlatedId message
    ⟨client.pending, some { payments with engine }, calls, delivered.toList⟩

/-- A message that ends no request goes through the payments if it is about one of theirs. -/
def ClientState.forward (client : ClientState) (payments : Option ClientPayments)
    (correlatedId : Option String) (message : JsonRpcMessage) : ClientDelivery :=
  match payments, message, correlatedId with
  | some payments, .notification body, some eventId =>
    if isPaymentNotificationMethod body.method then
      let (forward, engine, calls) := payments.engine.handlePaymentNotification payments.options
        body eventId (client.pending.pendingRequests.peek eventId)
        (client.negotiation.requested = some .explicitGating)
        (client.negotiation.effective = some .explicitGating)
      ⟨client.pending, some { payments with engine }, calls, if forward then [message] else []⟩
    else ⟨client.pending, some payments, [], [message]⟩
  | _, _, _ => ⟨client.pending, payments, [], [message]⟩

/-- What becomes of an event in a client with payments. -/
def ClientState.deliver (payments : Option ClientPayments) (correlatedId : Option String)
    (result : ClientState × Handled) : ClientDelivery :=
  match result.2 with
  | .answered entry message => result.1.handOver payments correlatedId entry message
  | .forwarded message => result.1.forward payments correlatedId message
  | _ => ⟨result.1.pending, payments, [], []⟩

/-- Frames that are taken in one after the other, up to one that does not leave it at that. -/
def ClientState.takeFrames (config : ClientConfig) (correlatedId : Option String) :
    ClientState → List (Nat × JsonRpcNotification) → Option (ClientState × Handled)
  | _, [] => none
  | client, (now, frame) :: later =>
    match client.handleOversizedFrame config now correlatedId frame with
    | (client, .reassembling) => client.takeFrames config correlatedId later
    | result => if later = [] then some result else none

/-! What two ways of delivering a message have in common. -/

/-- A pending request, apart from when it was last heard of. -/
def PendingRequest.identity (entry : PendingRequest) : Json × Bool × Option Json :=
  (entry.originalId, entry.isInitialize, entry.progressToken)

/-- The request that is pending under an event, apart from when it was last heard of. -/
def ClientCorrelationStore.known (store : ClientCorrelationStore) (eventId : String) :
    Option (Json × Bool × Option Json) :=
  (store.pendingRequests.peek eventId).map PendingRequest.identity

/--
Two deliveries come to the same.

The frames of a transfer keep its request pending, so requests are compared but for when they were
last heard of.
-/
structure ClientDelivery.Agrees (one other : ClientDelivery) : Prop where
  pending : ∀ eventId, one.pending.known eventId = other.pending.known eventId
  payments : one.payments = other.payments
  calls : one.calls = other.calls
  delivered : one.delivered = other.delivered

/--
When frames come to the same as one event.

A response has to refer to a pending request. A notification may refer to none; where it refers to
one, there must be no payments, or it must be the news of a settled payment without a heartbeat.
-/
def ClientState.transparent (client : ClientState) (payments : Option ClientPayments)
    (correlatedId : Option String) (message : JsonRpcMessage) : Bool :=
  match correlatedId, message with
  | none, .notification _ => true
  | some eventId, .response _ | some eventId, .errorResponse _ => client.pending.contains eventId
  | some eventId, .notification body =>
    (client.pending.pendingRequests.peek eventId).any fun entry =>
      payments.isNone ∨ body.method = paymentAcceptedMethod ∧ entry.progressToken = none
  | _, _ => false

namespace ClientCorrelationStore

variable (store : ClientCorrelationStore) (eventId other : String)

theorem known_touch (now : Nat) : (store.touch now eventId).known other = store.known other := by
  grind [known, touch, PendingRequest.identity, Lru.peek_put, Lru.victim_of_held]

theorem known_remove :
    (store.remove eventId).2.known other = if other = eventId then none else store.known other := by
  unfold known remove
  simp only [Lru.peek_pop]
  split <;> rfl

end ClientCorrelationStore

namespace ClientState

variable {config : ClientConfig} {correlatedId : Option String} {client after : ClientState}
  {entry : Option PendingRequest} {message : JsonRpcMessage}
variable {eventId : String} {middle : ClientState} {now : Nat}

theorem known_touch (client : ClientState) (now : Nat) (correlatedId : Option String) :
    (client.touch now correlatedId).pending.known = client.pending.known := by
  funext eventId
  cases correlatedId with
  | none => rfl
  | some correlated => exact client.pending.known_touch correlated eventId now

theorem known_reassembling {frame : JsonRpcNotification}
    (handled : client.handleOversizedFrame config now correlatedId frame =
      (after, .reassembling)) : after.pending.known = client.pending.known := by
  unfold handleOversizedFrame at handled
  split at handled
  · grind
  · simp only at handled
    split at handled
    · cases handled
      exact known_touch client now correlatedId
    · -- A message that is handed over is not counted as being put together.
      unfold consumeTerminalResponse at handled
      split at handled <;> cases handled
    · cases handled

/-- A frame that completes its transfer comes to handing the message over. -/
theorem consume_of_answered {frame : JsonRpcNotification}
    (handled : client.handleOversizedFrame config now correlatedId frame =
      (after, .answered entry message)) :
    ∃ middle : ClientState, middle.pending.known = client.pending.known ∧
      middle.consumeTerminalResponse correlatedId message = (after, .answered entry message) := by
  unfold handleOversizedFrame at handled
  split at handled
  · grind
  · simp only at handled
    split at handled
    · cases handled
    · rename_i completed _
      -- What is handed over is the message that was completed.
      have same : completed = message := by
        unfold consumeTerminalResponse at handled
        split at handled <;> (cases handled; rfl)
      subst same
      refine ⟨_, ?_, handled⟩
      exact known_touch client now correlatedId
    · cases handled

theorem consume_of_takeFrames {frames : List (Nat × JsonRpcNotification)}
    (taken : client.takeFrames config correlatedId frames = some (after, .answered entry message)) :
    ∃ middle : ClientState, middle.pending.known = client.pending.known ∧
      middle.consumeTerminalResponse correlatedId message = (after, .answered entry message) := by
  -- The frames before the last one leave the same requests pending.
  induction frames generalizing client with
  | nil => cases taken
  | cons head later ih =>
    simp only [takeFrames] at taken
    split at taken
    · grind [known_reassembling]
    · grind [Option.some.injEq, consume_of_answered]

theorem handOver_none (client : ClientState) (payments : Option ClientPayments)
    (correlatedId : Option String) (message : JsonRpcMessage) :
    client.handOver payments correlatedId none message =
      ⟨client.pending, payments,
        if payments.isSome then correlatedId.toList.map EngineCall.stopTouchLoop else [],
        [message]⟩ := by
  cases payments with
  | none => rfl
  | some payments =>
    have retired : payments.engine.classify payments.options none message =
        (payments.engine, [], some message) := by
      cases message <;> rfl
    simp [handOver, onTerminalResponse, retired]

/-- What is done about an offer never stops a touch loop. -/
theorem stopTouchLoop_not_mem {options : ClientPaymentsOptions} {engine : ClientPaymentsEngine}
    {body : JsonRpcNotification} {other : String} {requestedGating effectiveGating : Bool} :
    .stopTouchLoop other ∉ (engine.onPaymentRequiredNotification options body eventId entry
      requestedGating effectiveGating).2 := by
  have kept (ttl : Nat) : .stopTouchLoop other ∉ keepAlive eventId entry ttl := by
    unfold keepAlive
    split <;> simp
  unfold onPaymentRequiredNotification
  split
  · simp
  · split
    · simp
    · split
      · simp [synthesizeDecline, synthesizeError]
      · unfold engage
        simp only
        split
        · exact kept _
        · grind

theorem not_agrees_of_dropped {one : ClientDelivery} (nothing : one.delivered = [])
    (payments : Option ClientPayments) (correlatedId : Option String) (after : ClientState)
    (message : JsonRpcMessage) :
    ¬ one.Agrees (deliver payments correlatedId (after, .answered none message)) := by
  intro agrees
  have same := agrees.delivered
  rw [nothing] at same
  simp [deliver, handOver_none] at same

theorem consume_of_not_response (other : message.isResponse = false)
    (consumed : middle.consumeTerminalResponse correlatedId message =
      (after, .answered entry message)) : after = middle ∧ entry = none := by
  grind [JsonRpcMessage, JsonRpcMessage.isResponse, consumeTerminalResponse]

theorem consume_of_response (response : message.isResponse = true)
    (consumed : middle.consumeTerminalResponse (some eventId) message =
      (after, .answered entry message)) :
    after.pending = (middle.pending.remove eventId).2 ∧
      entry = middle.pending.pendingRequests.peek eventId := by
  grind [JsonRpcMessage, JsonRpcMessage.isResponse, consumeTerminalResponse, remove]

/-- A notification about a pending request, as one event and in frames. -/
theorem agrees_notification {payments : Option ClientPayments} {body : JsonRpcNotification}
    {pending : PendingRequest} (now : Nat)
    (found : client.pending.pendingRequests.peek eventId = some pending)
    (known : middle.pending.known = client.pending.known) :
    ((if body.method = paymentRequiredMethod then client.touch now (some eventId)
        else client).forward payments (some eventId) (.notification body)).Agrees
        (middle.handOver payments (some eventId) none (.notification body)) ↔
      payments.isNone = true ∨
        body.method = paymentAcceptedMethod ∧ pending.progressToken = none := by
  rw [handOver_none]
  -- Either way the same requests stay pending.
  have kept : (if body.method = paymentRequiredMethod then client.touch now (some eventId)
      else client).pending.known = middle.pending.known := by
    rw [known]
    split
    · exact known_touch client now (some eventId)
    · rfl
  cases payments with
  | none => exact ⟨fun _ => .inl rfl, fun _ => ⟨congrFun kept, rfl, rfl, rfl⟩⟩
  | some payments =>
    simp only [Option.isNone_some, Bool.false_eq_true, false_or, Option.isSome_some, if_true,
      Option.toList_some, List.map_cons, List.map_nil]
    by_cases required : body.method = paymentRequiredMethod
    · -- Nothing that is done about an offer stops the touch loop.
      constructor
      · intro agrees
        have calls := agrees.calls
        simp only [forward, isPaymentNotificationMethod, required,
          handlePaymentNotification, if_true, true_or, decide_true] at calls
        exact absurd (calls ▸ List.mem_singleton.mpr rfl) stopTouchLoop_not_mem
      · rintro ⟨accepted, -⟩
        rw [required] at accepted
        exact absurd accepted (by decide)
    · rw [if_neg required] at kept ⊢
      by_cases accepted : body.method = paymentAcceptedMethod
      · -- The news of a settled payment stops the heartbeat as well.
        have different : paymentAcceptedMethod ≠ paymentRequiredMethod := by decide
        simp only [forward, isPaymentNotificationMethod, accepted, different,
          handlePaymentNotification, if_true, if_false, true_or, or_true,
          decide_true, found, stopKeepalives, Option.bind_some, true_and]
        constructor
        · intro agrees
          have calls := agrees.calls
          cases token : pending.progressToken with
          | none => rfl
          | some token => simp [token] at calls
        · intro tokenless
          exact ⟨congrFun kept, rfl, by simp [tokenless], rfl⟩
      · constructor
        · intro agrees
          by_cases rejected : body.method = paymentRejectedMethod
          · -- A rejected payment fails its request in place of the notification.
            have delivered := agrees.delivered
            have unlike : paymentRejectedMethod ≠ paymentRequiredMethod ∧
                paymentRejectedMethod ≠ paymentAcceptedMethod := by decide
            simp [forward, isPaymentNotificationMethod, rejected, unlike,
              handlePaymentNotification, found] at delivered
          · have calls := agrees.calls
            simp [forward, isPaymentNotificationMethod, required, accepted, rejected] at calls
        · grind

/-- A response to a pending request, as one event and in frames. -/
theorem agrees_response {payments : Option ClientPayments} {pending : PendingRequest}
    (response : message.isResponse = true)
    (found : client.pending.pendingRequests.peek eventId = some pending)
    (known : middle.pending.known = client.pending.known)
    (consumed : middle.consumeTerminalResponse (some eventId) message =
      (after, .answered entry message)) :
    (deliver payments (some eventId)
      (client.consumeTerminalResponse (some eventId) message)).Agrees
        (deliver payments (some eventId) (after, .answered entry message)) := by
  have direct : client.consumeTerminalResponse (some eventId) message =
      ({ client with pending := (client.pending.remove eventId).2 },
        .answered (some pending) message) := by
    cases message with
    | request body | notification body => cases response
    | response body | errorResponse body =>
      simp [consumeTerminalResponse, remove, found]
  obtain ⟨left, removed⟩ := consume_of_response response consumed
  -- Both find the request, heard of at different times.
  have same := congrFun known eventId
  rw [ClientCorrelationStore.known, ClientCorrelationStore.known, found, ← removed] at same
  obtain ⟨other, rfl, identical⟩ := Option.map_eq_some_iff.mp same
  have gone (other : String) : (client.pending.remove eventId).2.known other =
      after.pending.known other := by
    rw [left, known_remove, known_remove, known]
  rw [direct]
  cases payments with
  | none => exact ⟨gone, rfl, rfl, rfl⟩
  | some payments =>
    -- Only the id and the token of the request are looked at.
    have terminal : payments.engine.onTerminalResponse payments.options (some pending)
        (some eventId) message =
        payments.engine.onTerminalResponse payments.options (some other) (some eventId)
          message := by
      obtain ⟨_, _, heardOf, _⟩ := other
      cases identical
      cases message with
      | request body | response body | notification body | errorResponse error => rfl
    simp only [deliver, handOver, terminal]
    exact ⟨gone, rfl, rfl, rfl⟩

end ClientState

/--
Frames come to the same as one event exactly for the messages above.

The frames are intercepted before it is looked at what they refer to, and their message is handed
over as the end of a request, whatever it is. A message that is itself such a frame, or a frame of
an open stream, is read here as one event past the interception that it would get.
-/
theorem reassembly_transparent_iff (config : ClientConfig) (payments : Option ClientPayments)
    (client : ClientState) (now : Nat) (event : InboundEvent) (message : JsonRpcMessage)
    (single : validateAndParse config.primitives.serde event.content = some message)
    (frames : List (Nat × JsonRpcNotification)) (after : ClientState)
    (entry : Option PendingRequest)
    (complete : client.takeFrames config event.correlatedId frames =
      some (after, .answered entry message)) :
    (ClientState.deliver payments event.correlatedId (client.correlate config now event)).Agrees
        (ClientState.deliver payments event.correlatedId (after, .answered entry message)) ↔
      client.transparent payments event.correlatedId message = true := by
  obtain ⟨middle, known, consumed⟩ := consume_of_takeFrames complete
  -- What the event refers to, and whether that is pending.
  cases refers : event.correlatedId with
  | none =>
    rw [refers] at consumed
    cases message with
    | notification body =>
      obtain ⟨rfl, rfl⟩ := consume_of_not_response rfl consumed
      refine ⟨fun _ => rfl, fun _ => ?_⟩
      -- A notification that refers to nothing is none of the payments' business.
      have forwarded : ClientState.deliver payments none (client.correlate config now event) =
          ⟨client.pending, payments, [], [.notification body]⟩ := by
        simp only [ClientState.correlate, refers, single, ClientState.deliver, Option.any_none,
          Bool.false_eq_true, if_false, ClientState.forward, ClientState.touch, ite_self]
      rw [forwarded]
      simp only [deliver, handOver_none]
      refine ⟨fun eventId => (congrFun known eventId).symm, rfl, ?_, rfl⟩
      simp
    | request body | response body | errorResponse body =>
      -- One event with such a message is dropped.
      have handedOver : entry = none := by
        cases consumed
        rfl
      subst handedOver
      refine iff_of_false (not_agrees_of_dropped ?_ _ _ _ _) (by simp [transparent])
      simp [correlate, refers, single, deliver]
  | some eventId =>
    rw [refers] at consumed
    cases found : client.pending.pendingRequests.peek eventId with
    | none =>
      -- One event that refers to no pending request is dropped.
      have handedOver : entry = none := by
        cases response : message.isResponse with
        | false => exact (consume_of_not_response response consumed).2
        | true =>
          have absent := congrFun known eventId
          rw [ClientCorrelationStore.known, ClientCorrelationStore.known, found] at absent
          rw [(ClientState.consume_of_response response consumed).2]
          exact Option.map_eq_none_iff.mp absent
      subst handedOver
      refine iff_of_false (not_agrees_of_dropped ?_ _ _ _ _) ?_
      · simp [correlate, refers, deliver, contains, found]
      · cases message <;> simp [transparent, contains, found]
    | some pending =>
      have present : client.pending.contains eventId = true := by
        simp [contains, found]
      cases message with
      | request body =>
        obtain ⟨rfl, rfl⟩ := consume_of_not_response rfl consumed
        refine iff_of_false (not_agrees_of_dropped ?_ _ _ _ _) (by simp [transparent])
        simp [correlate, refers, single, deliver, present]
      | notification body =>
        obtain ⟨rfl, rfl⟩ := consume_of_not_response rfl consumed
        have correlated : client.correlate config now event =
            (if body.method = paymentRequiredMethod then client.touch now (some eventId)
              else client,
              .forwarded (.notification body)) := by
          simp [correlate, refers, present, single]
        rw [correlated]
        refine (agrees_notification now found known).trans ?_
        simp [transparent, found]
      | response body | errorResponse body =>
        refine iff_of_true ?_ present
        simpa [correlate, refers, present, single] using agrees_response rfl found known consumed

/-- The frames of a reply. -/
def replyFrames : List (Nat × JsonRpcNotification) :=
  match buildOversizedFrames callPrimitives replyText ⟨"7", 100, false⟩ with
  | .ok frames => (frames.start :: frames.chunks ++ [frames.end_]).map fun frame => (0, frame)
  | .error _ => []

/-- A client with one pending request. -/
def waitingClient : ClientState :=
  { ClientState.start callingClient 10 [] none with
    pending := (ClientCorrelationStore.withMaxPending 10).register 0 "call" (.ofU64 2) false none }

/-- The frames of the reply complete it, with the request that they refer to. -/
def completesReply (eventId : String) (entry : Option PendingRequest) : Bool :=
  (waitingClient.takeFrames callingClient (some eventId) replyFrames).any fun result =>
    result.2 = .answered entry replyMessage

/-- A reply to a pending request is the same in frames. -/
theorem reassembly_transparent_iff_pending :
    ∃ after entry, waitingClient.takeFrames callingClient (reply "call").correlatedId replyFrames =
        some (after, .answered entry replyMessage) ∧
      (ClientState.deliver none (reply "call").correlatedId
        (waitingClient.correlate callingClient 0 (reply "call"))).Agrees
          (ClientState.deliver none (reply "call").correlatedId
            (after, .answered entry replyMessage)) := by
  obtain ⟨⟨after, handled⟩, complete, answered⟩ := (Option.any_eq_true _ _).mp
    (show completesReply "call" (some ⟨.ofU64 2, false, 0, none⟩) = true by decide +kernel)
  simp only [decide_eq_true_eq] at answered
  subst answered
  exact ⟨after, _, complete, (reassembly_transparent_iff callingClient none waitingClient 0
    (reply "call") replyMessage (by decide) replyFrames after _ complete).mpr (by decide)⟩

/-- A reply to a request that nobody made is dropped as one event, and delivered in frames. -/
theorem reassembly_delivers_stray_reply :
    ∃ after, waitingClient.takeFrames callingClient (reply "other").correlatedId replyFrames =
        some (after, .answered none replyMessage) ∧
      waitingClient.pending.contains "other" = false ∧
      (ClientState.deliver none (reply "other").correlatedId
        (waitingClient.correlate callingClient 0 (reply "other"))).delivered = [] ∧
      (ClientState.deliver none (reply "other").correlatedId
        (after, .answered none replyMessage)).delivered = [replyMessage] := by
  obtain ⟨⟨after, handled⟩, complete, answered⟩ := (Option.any_eq_true _ _).mp
    (show completesReply "other" none = true by decide +kernel)
  simp only [decide_eq_true_eq] at answered
  subst answered
  exact ⟨after, complete, by decide, by decide, rfl⟩

end ContextVm
