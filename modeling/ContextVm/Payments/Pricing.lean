import ContextVm.Payments.Types

/-! From a priced request to a rejection, a waiver, or an invoice, and what the client is told. -/

namespace ContextVm

/-- The processors by payment method, where the last registration of a method wins. -/
def buildProcessorsByPmi (processors : List PaymentProcessor) (pmi : String) :
    Option PaymentProcessor :=
  processors.reverse.find? fun processor => processor.pmi = pmi

/-- The name a pricing entry addresses, for the methods that address one. -/
def capabilityNameForPricing (request : JsonRpcRequest) : Option String :=
  request.params.bind fun params =>
    let field (key : String) := (params.get key).bind Json.asStr
    if request.method = "tools/call" ∨ request.method = "prompts/get" then field "name"
    else if request.method = "resources/read" then field "uri"
    else none

/-- The first priced entry a request matches. -/
def matchPricedCapability (request : JsonRpcRequest) (priced : List PricedCapability) :
    Option PricedCapability :=
  priced.find? fun entry =>
    entry.method = request.method &&
      -- An entry without a name prices every invocation of its method.
      match entry.name with
      | none => true
      | some name => some name = capabilityNameForPricing request

/-- How long a payment request without a usable lifetime is verified: five minutes. -/
def defaultVerificationTimeout : Nat := Duration.fromSecs (5 * 60)

/-- The verification timeout of a payment request with this lifetime in seconds. -/
def verificationTimeout (ttlSeconds : Option UInt64) : Nat :=
  match ttlSeconds with
  | none => defaultVerificationTimeout
  | some ttl =>
    -- Zero and a lifetime whose milliseconds overflow a word both mean the default.
    if ttl = 0 ∨ u64Max < ttl.toNat * 1000 then defaultVerificationTimeout
    else Duration.fromMillis (ttl.toNat * 1000)

/-- The first advertised method with a processor, or else the first processor. -/
def resolvePaymentProcessor (clientPmis : Option (List String))
    (processorsByPmi : String → Option PaymentProcessor) (processors : List PaymentProcessor) :
    Except PaymentError PaymentProcessor :=
  match (clientPmis.bind fun pmis => pmis.findSome? processorsByPmi).or processors.head? with
  | some chosen => .ok chosen
  | none => .error (.processor "no payment processors configured")

/-- A payment request together with what verifying it needs. -/
structure Invoice where
  processor : PaymentProcessor
  paymentRequired : PaymentRequiredParams
  mergedMeta : Option Meta
  verifyTimeout : Nat

/-- What became of a priced request once its price was known. -/
inductive InitiationOutcome where
  | rejected (pmi : String) (amount : Int) (message : Option String)
  | waived
  | paymentRequired (invoice : Invoice)

/-- The metadata of a quote written over the metadata of the processor. -/
def mergeMeta : Option Meta → Option Meta → Option Meta
  | none, none => none
  | processorMeta, quoteMeta =>
    some ((quoteMeta.getD []).foldl (fun merged field => Fields.insert merged field.1 field.2)
      (processorMeta.getD []))

/--
Select a processor, resolve the price, and create the payment request.

The two answers are those of the pricing callback and of the processor.
Each is consulted only where the code makes the call.
-/
def resolveAndInitiatePayment (options : ServerPaymentsOptions) (ctx : InboundContext)
    (priced : PricedCapability) (price : Answer PaymentError ResolvePriceResult)
    (created : Answer PaymentError PaymentRequiredParams) : Answer PaymentError InitiationOutcome :=
  -- The processor is selected first, so that a rejection can name its method.
  match resolvePaymentProcessor ctx.clientPmis (buildProcessorsByPmi options.processors)
      options.processors with
  | .error fault => .err fault
  | .ok processor =>
    match if options.resolvePrice then price
      else .ok (.quote priced.amount priced.description none) with
    | .panicked => .panicked
    | .err fault => .err fault
    -- A rejection reports the listed price.
    | .ok (.reject message) => .ok (.rejected processor.pmi priced.amount message)
    | .ok (.waive _) => .ok .waived
    | .ok (.quote _ _ quoteMeta) =>
      match created with
      | .panicked => .panicked
      | .err fault => .err fault
      | .ok paymentRequired => .ok (.paymentRequired
        { processor
          paymentRequired
          mergedMeta := mergeMeta paymentRequired.requestMeta quoteMeta
          verifyTimeout := verificationTimeout paymentRequired.ttl })

/-- The milliseconds a request stays pending, cut to an unsigned 64-bit word. -/
def ServerPaymentsOptions.paymentTtlMs (options : ServerPaymentsOptions) : Nat :=
  min (Duration.asMillis options.paymentTtl) u64Max

/-- The milliseconds a grant for this payment request lives. -/
def grantTtlMs (options : ServerPaymentsOptions) (ttl : Option UInt64) : Nat :=
  match ttl with
  | none => options.paymentTtlMs
  -- A lifetime of zero counts as none, and a large one stops at the word size.
  | some ttl => if 0 < ttl then min (ttl.toNat * 1000) u64Max else options.paymentTtlMs

/-! The messages a client is sent. -/

/-- The error code of an offer. -/
def paymentRequiredErrorCode : Int := -32042

/-- The error code of a payment that is still being verified. -/
def paymentPendingErrorCode : Int := -32043

/-- What an offer tells the client to do. -/
def paymentRequiredInstructions : String :=
  "Payment is required to process this request. Pay one of the offered options, then retry the " ++
    "same request with exactly the same method and params."

/-- What a pending answer tells the client to do. -/
def paymentPendingInstructions : String :=
  "A payment is already pending for this invocation. Retry the same request later with exactly " ++
    "the same method and params."

/-- The offer of one payment request, as the data of an error carries it. -/
def paymentOption (invoice : Invoice) : Json :=
  let required := invoice.paymentRequired
  .object (Fields.present
    [("amount", some (.ofI64 required.amount)), ("pmi", some (.string required.pmi)),
      ("pay_req", some (.string required.payReq)),
      ("description", required.description.map .string), ("ttl", required.ttl.map .ofU64),
      ("_meta", invoice.mergedMeta.map .object)])

/-- The answer that offers exactly one payment option. -/
def buildPaymentRequiredError (id : Json) (option : Json) : JsonRpcErrorResponse where
  jsonrpc := "2.0"
  id
  error :=
    { code := paymentRequiredErrorCode
      message := "Payment Required"
      data := some (.object (Fields.present
        [("instructions", some (.string paymentRequiredInstructions)),
          ("payment_options", some (.array [option]))])) }

/-- The seconds after which a client polls again, between one and two. -/
def retryAfterSecs (remainingMs : Nat) : Nat := min (max ((remainingMs + 999) / 1000) 1) 2

/-- The answer to an invocation whose payment is still being verified. -/
def buildPaymentPendingError (id : Json) (remainingMs : Nat) : JsonRpcErrorResponse where
  jsonrpc := "2.0"
  id
  error :=
    { code := paymentPendingErrorCode
      message := "Payment Pending"
      data := some (.object (Fields.present
        [("instructions", some (.string paymentPendingInstructions)),
          ("retry_after", some (.ofU64 (UInt64.ofNat (retryAfterSecs remainingMs))))])) }

/-- The answer to an invocation the pricing callback refused, without a data field. -/
def buildPaymentRejectedError (id : Json) (message : Option String) : JsonRpcErrorResponse where
  jsonrpc := "2.0"
  id
  error := { code := -32000, message := message.getD "Payment rejected by policy", data := none }

/-- A payment notification with its parameters. -/
def paymentNotification (method : String) (params : List (String × Option Json)) :
    JsonRpcNotification where
  jsonrpc := "2.0"
  method
  params := some (.object (Fields.present params))

/-- The notification that asks for a payment. -/
def paymentRequiredNotification (invoice : Invoice) : JsonRpcNotification :=
  let required := invoice.paymentRequired
  paymentNotification "notifications/payment_required"
    [("amount", some (.ofI64 required.amount)), ("pay_req", some (.string required.payReq)),
      ("pmi", some (.string required.pmi)), ("description", required.description.map .string),
      ("ttl", required.ttl.map .ofU64), ("_meta", invoice.mergedMeta.map .object)]

/-- The notification that a payment was settled. -/
def paymentAcceptedNotification (invoice : Invoice) (outcome : VerifyOutcome) :
    JsonRpcNotification :=
  paymentNotification "notifications/payment_accepted"
    [("amount", some (.ofI64 invoice.paymentRequired.amount)),
      ("pmi", some (.string invoice.paymentRequired.pmi)),
      ("_meta", outcome.settlementMeta.map .object)]

/-- The notification that service is refused. -/
def paymentRejectedNotification (pmi : String) (amount : Int) (message : Option String) :
    JsonRpcNotification :=
  paymentNotification "notifications/payment_rejected"
    [("pmi", some (.string pmi)), ("amount", some (.ofI64 amount)),
      ("message", message.map .string)]

end ContextVm
