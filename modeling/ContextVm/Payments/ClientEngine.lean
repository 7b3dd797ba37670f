import ContextVm.Payments.Pricing
import ContextVm.Transport.Client

/-! The payment engine of a client: what it does about offers, and about gating errors. -/

namespace ContextVm

/-! The payment data that a client reads. -/

/-- The fields of a struct, in an object by their names or in an array in their order. -/
def Json.structFields (names : List String) : Json → Option Fields
  | .object fields => some fields
  | .array items => if items.length ≤ names.length then some (names.zip items) else none
  | _ => none

/-- The fields of an object. -/
def Json.asObject : Json → Option Fields
  | .object fields => some fields
  | _ => none

/-- The items of an array. -/
def Json.asArray : Json → Option (List Json)
  | .array items => some items
  | _ => none

/-- A field that has to be there. -/
def Fields.required {α : Type} (fields : Fields) (key : String) (read : Json → Option α) :
    Option α :=
  (fields.lookup key).bind read

/-- A field that may be left out or be null. -/
def Fields.optional {α : Type} (fields : Fields) (key : String) (read : Json → Option α) :
    Option (Option α) :=
  match fields.lookup key with
  | none | some .null => some none
  | some value => (read value).map some

/-- The parameters of a notification that asks for a payment. -/
def PaymentRequiredParams.fromValue (value : Json) : Option PaymentRequiredParams := do
  let fields ← value.structFields ["amount", "pay_req", "pmi", "description", "ttl", "_meta"]
  let amount ← fields.required "amount" Json.asI64
  let payReq ← fields.required "pay_req" Json.asStr
  let pmi ← fields.required "pmi" Json.asStr
  let description ← fields.optional "description" Json.asStr
  let ttl ← fields.optional "ttl" OversizedFrame.asU64
  let requestMeta ← fields.optional "_meta" Json.asObject
  return { amount, payReq, pmi, description, ttl, requestMeta }

/-- The message of a notification that a payment was rejected. -/
def rejectionMessage (value : Json) : Option String := do
  let fields ← value.structFields ["pmi", "amount", "message"]
  let _ ← fields.required "pmi" Json.asStr
  let _ ← fields.optional "amount" Json.asI64
  let message ← fields.optional "message" Json.asStr
  message

/-- One way to pay, as an error offers it. -/
structure PaymentOption where
  amount : Int
  pmi : String
  payReq : String
  description : Option String
  ttl : Option UInt64
  optionMeta : Option Meta
  deriving DecidableEq

/-- One way to pay, read from an error. -/
def PaymentOption.fromValue (value : Json) : Option PaymentOption := do
  let fields ← value.structFields ["amount", "pmi", "pay_req", "description", "ttl", "_meta"]
  let amount ← fields.required "amount" Json.asI64
  let pmi ← fields.required "pmi" Json.asStr
  let payReq ← fields.required "pay_req" Json.asStr
  let description ← fields.optional "description" Json.asStr
  let ttl ← fields.optional "ttl" OversizedFrame.asU64
  let optionMeta ← fields.optional "_meta" Json.asObject
  return { amount, pmi, payReq, description, ttl, optionMeta }

/-- The data of an error that asks for a payment. -/
structure PaymentRequiredErrorData where
  instructions : Option String
  paymentOptions : List PaymentOption
  deriving DecidableEq

/-- The data of an error that asks for a payment, which has to offer a way to pay. -/
def PaymentRequiredErrorData.fromValue (value : Json) : Option PaymentRequiredErrorData := do
  let fields ← value.structFields ["instructions", "payment_options"]
  let instructions ← fields.optional "instructions" Json.asStr
  let options ← fields.required "payment_options" Json.asArray
  let paymentOptions ← options.mapM PaymentOption.fromValue
  if paymentOptions = [] then none else some { instructions, paymentOptions }

/-- The seconds after which to try again, in the data of an error that a payment is pending. -/
def retryAfter (value : Json) : Option UInt64 := do
  let fields ← value.structFields ["instructions", "retry_after"]
  let _ ← fields.optional "instructions" Json.asStr
  let seconds ← fields.optional "retry_after" OversizedFrame.asU64
  seconds

/-! The engine. -/

/-- The method of the notification that a payment was settled. -/
def paymentAcceptedMethod : String := "notifications/payment_accepted"

/-- The method of the notification that a payment was rejected. -/
def paymentRejectedMethod : String := "notifications/payment_rejected"

/-- Whether a method is that of a payment notification. -/
def isPaymentNotificationMethod (method : String) : Bool :=
  method = paymentRequiredMethod ∨ method = paymentAcceptedMethod ∨ method = paymentRejectedMethod

/-- A wallet, known by its payment method identifier. -/
structure PaymentHandler where
  pmi : String
  deriving DecidableEq

/-- What a client's payments are configured with. -/
structure ClientPaymentsOptions where
  handlers : List PaymentHandler
  defaultPaymentTtl : Nat
  -- Whether there is a policy to ask before a wallet is.
  paymentPolicy : Bool
  maxPendingRetries : Nat
  -- Whether there is a callback for errors that ask for a payment.
  onPaymentRequired : Bool

/-- The wallet for a payment method; of several the last one wins. -/
def ClientPaymentsOptions.handlerByPmi (options : ClientPaymentsOptions) (pmi : String) :
    Option PaymentHandler :=
  options.handlers.reverse.find? (·.pmi = pmi)

/-- What a wallet is asked to pay. -/
structure PaymentHandlerRequest where
  amount : Int
  payReq : String
  pmi : String
  description : Option String
  ttl : Option UInt64
  requestMeta : Option Meta
  requestEventId : String
  deriving DecidableEq

/-- The task that puts an offer before the policy and a wallet. -/
structure PaymentChain where
  handler : PaymentHandler
  request : PaymentHandlerRequest
  entry : Option PendingRequest
  deriving DecidableEq

/-- Something that the engine does. -/
inductive EngineCall where
  -- A message is pushed to the consumer.
  | push (message : JsonRpcMessage)
  -- The keep-alives of a request, by its token and by its event.
  | registerHeartbeat (token : Json) (ttl : Nat)
  | stopHeartbeat (token : Json)
  | startTouchLoop (eventId : String) (ttl : Nat)
  | stopTouchLoop (eventId : String)
  -- A task is spawned: for an offer, for the callback, or to try again.
  | spawnChain (chain : PaymentChain)
  | spawnCallback (originalId : Json) (request : JsonRpcRequest) (data : PaymentRequiredErrorData)
  | spawnRetry (originalId : Json) (request : JsonRpcRequest) (retryAfter : UInt64) (retries : Nat)
  deriving DecidableEq

/-- A request as it was sent, with the number of times it was tried again. -/
structure CachedRequest where
  request : JsonRpcRequest
  pendingRetries : Nat
  deriving DecidableEq

/-- How many requests are kept to be tried again. -/
def rawRequestCacheCapacity : Nat := 1000

/-- What the engine keeps. -/
structure ClientPaymentsEngine where
  inFlightPayReqs : List String
  -- The text of an id stands for the id, so the requests are kept under the ids themselves.
  rawRequestCache : Lru Json CachedRequest

/-- The capability that a request is about. -/
def capabilityOf (request : JsonRpcRequest) : Option String :=
  (request.params.bind fun params => (params.get "name").or (params.get "uri")).bind Json.asStr

/-- An error that the engine makes up. -/
def synthesizeError (id : Json) (code : Int) (message : String) (data : Option Json) : EngineCall :=
  .push (.errorResponse ⟨"2.0", id, ⟨code, message, data⟩⟩)

/-- Stop both keep-alives of a request. -/
def stopKeepalives (eventId : String) (entry : Option PendingRequest) : List EngineCall :=
  .stopTouchLoop eventId ::
    ((entry.bind PendingRequest.progressToken).toList.map EngineCall.stopHeartbeat)

/-- An error as the server sent it, under the id that the consumer knows. -/
def normalizedRaw (error : JsonRpcErrorResponse) (originalId : Json) : JsonRpcMessage :=
  .errorResponse ⟨error.jsonrpc, originalId, error.error⟩

namespace ClientPaymentsEngine

/-- An engine that has just been installed. -/
def new : ClientPaymentsEngine := ⟨[], .withCapacity rawRequestCacheCapacity⟩

/-- Keep a request that is sent; one that is sent again keeps its count. -/
def cacheRawRequest (engine : ClientPaymentsEngine) (message : JsonRpcMessage) :
    ClientPaymentsEngine :=
  match message with
  | .request request =>
    let pendingRetries :=
      ((engine.rawRequestCache.peek request.id).map CachedRequest.pendingRetries).getD 0
    { engine with
      rawRequestCache := engine.rawRequestCache.put request.id ⟨request, pendingRetries⟩ }
  | _ => engine

/-- Fail a request because an offer was declined. -/
def synthesizeDecline (engine : ClientPaymentsEngine) (entry : Option PendingRequest)
    (message pmi : String) (amount : Int) : List EngineCall :=
  match entry with
  | none => []
  | some entry =>
    let cached := (engine.rawRequestCache.peek entry.originalId).map CachedRequest.request
    [synthesizeError entry.originalId (-32000) message (some (.object (Fields.present
      [("pmi", some (.string pmi)), ("amount", some (.ofI64 amount)),
        ("method", cached.map fun request => .string request.method),
        ("capability", (cached.bind capabilityOf).map .string)])))]

/-- The keep-alives of a request that is to be paid for within a time. -/
def keepAlive (eventId : String) (entry : Option PendingRequest) (ttl : Nat) : List EngineCall :=
  if 0 < ttl then
    (entry.bind PendingRequest.progressToken).toList.map (.registerHeartbeat · ttl) ++
      [.startTouchLoop eventId ttl]
  else []

/-- What is done about an offer that may be paid. -/
def engage (options : ClientPaymentsOptions) (engine : ClientPaymentsEngine)
    (params : PaymentRequiredParams) (eventId : String) (entry : Option PendingRequest) :
    ClientPaymentsEngine × List EngineCall :=
  let ttl := match params.ttl with
    | some ttl => Duration.fromSecs ttl.toNat
    | none => options.defaultPaymentTtl
  let kept := keepAlive eventId entry ttl
  match options.handlerByPmi params.pmi with
  | none => (engine, kept)
  | some handler =>
    -- The claim, which another delivery of the offer finds taken.
    if params.payReq ∈ engine.inFlightPayReqs then (engine, kept)
    else
      ({ engine with inFlightPayReqs := params.payReq :: engine.inFlightPayReqs },
        kept ++ [.spawnChain
          { handler
            request :=
              { amount := params.amount
                payReq := params.payReq
                pmi := params.pmi
                description := params.description
                ttl := params.ttl
                requestMeta := params.requestMeta
                requestEventId := eventId }
            entry }])

/-- A notification that asks for a payment. -/
def onPaymentRequiredNotification (options : ClientPaymentsOptions) (engine : ClientPaymentsEngine)
    (notification : JsonRpcNotification) (eventId : String) (entry : Option PendingRequest)
    (requestedGating effectiveGating : Bool) : ClientPaymentsEngine × List EngineCall :=
  match entry with
  | none => (engine, [])
  | some _ =>
    match notification.params.bind PaymentRequiredParams.fromValue with
    | none => (engine, [])
    | some params =>
      -- A client that insists on explicit gating pays nothing in a session without it.
      if requestedGating ∧ effectiveGating = false then
        (engine, engine.synthesizeDecline entry
          "Payment declined: explicit_gating was not accepted by the server" params.pmi
          params.amount)
      else engine.engage options params eventId entry

/-- A payment notification for a pending request; tells whether it is still to be forwarded. -/
def handlePaymentNotification (options : ClientPaymentsOptions) (engine : ClientPaymentsEngine)
    (notification : JsonRpcNotification) (eventId : String) (entry : Option PendingRequest)
    (requestedGating effectiveGating : Bool) :
    Bool × ClientPaymentsEngine × List EngineCall :=
  if notification.method = paymentRequiredMethod then
    (true, engine.onPaymentRequiredNotification options notification eventId entry
      requestedGating effectiveGating)
  else if notification.method = paymentAcceptedMethod then
    (true, engine, stopKeepalives eventId entry)
  else if notification.method = paymentRejectedMethod then
    match entry with
    | none => (true, engine, stopKeepalives eventId none)
    | some pending =>
      -- The request is failed at once, since the server will not answer it.
      let message := match notification.params.bind rejectionMessage with
        | some reason => "Payment rejected: " ++ reason
        | none => "Payment rejected"
      (false, engine, stopKeepalives eventId entry ++
        [synthesizeError pending.originalId (-32000) message none])
  else (true, engine, [])

/-- An error that asks for a payment, which is left to the callback if there is one. -/
def interceptPaymentRequiredError (options : ClientPaymentsOptions) (engine : ClientPaymentsEngine)
    (entry : PendingRequest) (error : JsonRpcErrorResponse) (data : PaymentRequiredErrorData) :
    ClientPaymentsEngine × List EngineCall × Option JsonRpcMessage :=
  if options.onPaymentRequired then
    let (cached, rawRequestCache) := engine.rawRequestCache.get entry.originalId
    match cached with
    | none => ({ engine with rawRequestCache }, [], some (normalizedRaw error entry.originalId))
    | some cached =>
      ({ engine with rawRequestCache },
        [.spawnCallback entry.originalId cached.request data], none)
  else (engine, [], some (normalizedRaw error entry.originalId))

/-- An error that a payment is pending, after which the request is tried again so many times. -/
def interceptPaymentPendingError (options : ClientPaymentsOptions) (engine : ClientPaymentsEngine)
    (entry : PendingRequest) (error : JsonRpcErrorResponse) (retryAfter : UInt64) :
    ClientPaymentsEngine × List EngineCall × Option JsonRpcMessage :=
  let (cached, rawRequestCache) := engine.rawRequestCache.get entry.originalId
  match cached with
  | none => ({ engine with rawRequestCache }, [], some (normalizedRaw error entry.originalId))
  | some cached =>
    let retries := cached.pendingRetries
    if options.maxPendingRetries ≤ retries then
      ({ engine with rawRequestCache }, [], some (normalizedRaw error entry.originalId))
    else
      let counted := { cached with pendingRetries := retries + 1 }
      ({ engine with rawRequestCache := rawRequestCache.put entry.originalId counted },
        [.spawnRetry entry.originalId cached.request retryAfter retries], none)

/-- The end of a request, unless it is an error that is answered by paying or trying again. -/
def retire (engine : ClientPaymentsEngine) (entry : Option PendingRequest)
    (message : JsonRpcMessage) :
    ClientPaymentsEngine × List EngineCall × Option JsonRpcMessage :=
  match entry with
  | some entry =>
    ({ engine with rawRequestCache := engine.rawRequestCache.pop entry.originalId }, [],
      some message)
  | none => (engine, [], some message)

/-- What is done about a message once the keep-alives of its request are stopped. -/
def classify (options : ClientPaymentsOptions) (engine : ClientPaymentsEngine)
    (entry : Option PendingRequest) (message : JsonRpcMessage) :
    ClientPaymentsEngine × List EngineCall × Option JsonRpcMessage :=
  match message, entry with
  | .errorResponse error, some pending =>
    if error.error.code = paymentRequiredErrorCode then
      match error.error.data.bind PaymentRequiredErrorData.fromValue with
      | some data => engine.interceptPaymentRequiredError options pending error data
      | none => engine.retire entry message
    else if error.error.code = paymentPendingErrorCode then
      match error.error.data.bind retryAfter with
      | some seconds => engine.interceptPaymentPendingError options pending error seconds
      | none => engine.retire entry message
    else engine.retire entry message
  | _, _ => engine.retire entry message

/-- The message that ends a request, and what is left of it for the consumer. -/
def onTerminalResponse (options : ClientPaymentsOptions) (engine : ClientPaymentsEngine)
    (entry : Option PendingRequest) (eventId : Option String) (message : JsonRpcMessage) :
    ClientPaymentsEngine × List EngineCall × Option JsonRpcMessage :=
  let stopped := eventId.toList.map EngineCall.stopTouchLoop ++
    (entry.bind PendingRequest.progressToken).toList.map EngineCall.stopHeartbeat
  let (engine, calls, delivered) := engine.classify options entry message
  (engine, stopped ++ calls, delivered)

end ClientPaymentsEngine

end ContextVm
