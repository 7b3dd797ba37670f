import ContextVm.Core.Double
import ContextVm.Lib.Delimited
import ContextVm.Payments.Wallet
import ContextVm.Transport.ClientReassembly

/-! A client that pays: its requests, the server's events, and the tasks of its payment engine. -/

namespace ContextVm

/-! What the engine's tasks depend on. -/

/-- A number of retries as the exponent of a power, which is a signed word. -/
def retriesExponent (retries : Nat) : Int := (UInt32.ofNat retries).toInt32.toInt

/-- The time before a request is tried again. -/
def computeBackoff (doubles : DoubleArithmetic) (retryAfterSecs : UInt64) (retries : Nat) : Nat :=
  let baseMs := doubles.mul (doubles.ofU64 retryAfterSecs) (.finite 1000)
  let cappedMs :=
    (doubles.mul baseMs (doubles.powi (.finite (3 / 2)) (retriesExponent retries))).min
      (.finite 10000)
  Duration.fromMillis (cappedMs.max (.finite 1000)).toU64

/-- How the id of an event comes from its author, time, kind, tags and content. -/
structure EventHash where
  idOf : String → Nat → Nat → List (List String) → String → String
  -- Different events have different ids.
  injective : ∀ {author other : String} {second later kind kind' : Nat}
    {tags tags' : List (List String)} {content content' : String},
    idOf author second kind tags content = idOf other later kind' tags' content' →
    author = other ∧ second = later ∧ kind = kind' ∧ tags = tags' ∧ content = content'

/-- A string that says where it ends. -/
def quoted (text : String) : List Char := delimited (fun char => [char]) text.toList

/-- A number that says where it ends. -/
def numeral (number : Nat) : List Char := delimited (fun char => [char]) (Nat.toDigits 10 number)

/-- Quoted texts delimit themselves. -/
theorem selfDelimiting_quoted : SelfDelimiting quoted :=
  selfDelimiting_singleton.delimited.comp fun _ _ same => String.toList_inj.mp same

/-- So do numerals. -/
theorem selfDelimiting_numeral : SelfDelimiting numeral := by
  refine selfDelimiting_singleton.delimited.comp fun one other same => ?_
  -- A number is the value of its digits.
  rw [← Nat.ofDigitChars_toDigits (b := 10) (n := one) (by decide) (by decide), same,
    Nat.ofDigitChars_toDigits (by decide) (by decide)]

/-- Ids that spell out all that they come from. -/
def EventHash.spelledOut : EventHash where
  idOf author second kind tags content :=
    .ofList (quoted author ++ (numeral second ++ (numeral kind ++
      (delimited (delimited quoted) tags ++ quoted content))))
  injective := by
    intro author other second later kind kind' tags tags' content content' same
    -- The parts are read off one by one.
    obtain ⟨authors, same⟩ := selfDelimiting_quoted _ _ _ _ (String.ofList_injective same)
    obtain ⟨seconds, same⟩ := selfDelimiting_numeral _ _ _ _ same
    obtain ⟨kinds, same⟩ := selfDelimiting_numeral _ _ _ _ same
    obtain ⟨lists, same⟩ := selfDelimiting_quoted.delimited.delimited _ _ _ _ same
    exact ⟨authors, seconds, kinds, lists, selfDelimiting_quoted.injective same⟩

/-- What a paying client is configured with, and what it takes as given. -/
structure PayingSetting where
  config : ClientConfig
  options : ClientPaymentsOptions
  doubles : DoubleArithmetic
  hash : EventHash
  mcpProtocolVersion : String

/-- The kind of the events that carry messages. -/
def ctxvmMessagesKind : Nat := 25910

/-- What an event that a send publishes next is made of. -/
def SendTask.outbound (config : ClientConfig) (task : SendTask) :
    List (List String) × JsonRpcMessage :=
  match task.phase with
  | .enlisted _ transfer => (task.tags, .notification transfer.frames.start)
  | .streaming _ _ (chunk :: _) => (config.recipientTags, .notification chunk)
  | .streaming _ transfer [] => (config.recipientTags, .notification transfer.frames.end_)
  | _ => (task.tags, task.message)

/-- The id of the event that a send publishes next, when it is built at an instant. -/
def PayingSetting.eventId (setting : PayingSetting) (task : SendTask) (now : Nat) : String :=
  let (tags, message) := task.outbound setting.config
  setting.hash.idOf setting.config.publicKey (now / Duration.fromSecs 1) ctxvmMessagesKind tags
    (setting.config.toText message)

/-- The answer that a client without a handshake gives itself. -/
def emulateInitializeResponse (mcpProtocolVersion : String) (requestId : Json) : JsonRpcMessage :=
  .response ⟨"2.0", requestId, .object
    [("capabilities", .object
      [("prompts", .object [("listChanged", .bool true)]),
        ("resources", .object [("listChanged", .bool true), ("subscribe", .bool true)]),
        ("tools", .object [("listChanged", .bool true)])]),
      ("protocolVersion", .string mcpProtocolVersion),
      ("serverInfo", .object
        [("name", .string "Emulated-Stateless-Server"), ("version", .string "1.0.0")])]⟩

/-! The tasks. -/

/-- Who a message is sent for. -/
inductive SendOrigin where
  | consumer
  -- The engine, after the callback has paid.
  | paid
  -- The engine, after it has waited for a pending payment.
  | waited
  deriving DecidableEq

/-- A message on its way out. -/
structure Sending where
  origin : SendOrigin
  task : SendTask
  -- Whether the engine has taken note that it could not be sent.
  noted : Bool

/-- A send that has come to a phase. -/
def Sending.goTo (sending : Sending) (phase : SendPhase) : Sending :=
  { sending with task := { sending.task with phase } }

/-- A send whose failure the engine has taken note of. -/
def Sending.note (sending : Sending) : Sending := { sending with noted := true }

/-- A task beside the event loop. -/
inductive Errand where
  -- An offer is put before the policy and a wallet.
  | chain (task : ChainTask)
  -- The callback for an error that asks for a payment.
  | callback (originalId : Json) (request : JsonRpcRequest) (data : PaymentRequiredErrorData)
  -- The wait before a request is tried again.
  | retry (originalId : Json) (request : JsonRpcRequest) (wakeAt : Nat)
  -- A message that is about to be sent.
  | sending (origin : SendOrigin) (message : JsonRpcMessage)
  | done

/-- What the callback makes of an error that asks for a payment. -/
inductive CallbackOutcome where
  | paid
  | declined (reason : Option String)
  | failed (error : String)
  | panicked
  deriving DecidableEq

/-- An attempt to get a request to the server: the event that it went out as, and when. -/
structure Attempt where
  originalId : Json
  eventId : String
  tags : List (List String)
  builtAt : Nat
  deriving DecidableEq

/-- A paying client, with what has happened. -/
structure PayingClient where
  -- The sends are kept here and not with the transport, since the engine is told of some.
  client : ClientState
  engine : ClientPaymentsEngine
  sends : List Sending
  errands : List Errand
  -- What was pushed to the consumer.
  pushed : List JsonRpcMessage
  -- The requests that the consumer has sent, and those that the engine has sent again.
  sent : List JsonRpcRequest
  resent : List (SendOrigin × JsonRpcRequest)
  -- The requests that the callback has paid for, and those that were failed while pending.
  paidFor : List Json
  declined : List Json
  attempts : List Attempt
  clock : Nat

/-- The request that a message is. -/
def JsonRpcMessage.asRequest : JsonRpcMessage → Option JsonRpcRequest
  | .request body => some body
  | _ => none

/-- The message that a call pushes. -/
def EngineCall.pushes : EngineCall → Option JsonRpcMessage
  | .push message => some message
  | _ => none

/-- The task that a call spawns. -/
def EngineCall.errand (setting : PayingSetting) (now : Nat) : EngineCall → Option Errand
  | .spawnChain chain => some (.chain (.spawn setting.options chain))
  | .spawnCallback originalId request data => some (.callback originalId request data)
  | .spawnRetry originalId request retryAfter retries =>
    some (.retry originalId request (now + computeBackoff setting.doubles retryAfter retries))
  | _ => none

/-- The event that an attempt goes out as, if a send has just built it. -/
def SendPhase.built : SendPhase → Option String
  | .registered eventId => some eventId
  | .ended _ _ eventId => some eventId
  | _ => none

/-- The attempt that a send makes when it goes over to a phase at an instant. -/
def SendTask.attempt (config : ClientConfig) (task : SendTask) (now : Nat) (phase : SendPhase) :
    Option Attempt := do
  let request ← task.message.asRequest
  let eventId ← phase.built
  return ⟨request.id, eventId, (task.outbound config).1, now⟩

namespace PayingClient

/-- A paying client that has just been started. -/
def start (setting : PayingSetting) (maxPending : Nat) (pmis : List String)
    (requested : Option PaymentInteractionMode) : PayingClient where
  client := .start setting.config maxPending pmis requested
  engine := .new
  sends := []
  errands := []
  pushed := []
  sent := []
  resent := []
  paidFor := []
  declined := []
  attempts := []
  clock := 0

/-- What the engine does, and then what is delivered to the consumer. -/
def absorb (setting : PayingSetting) (now : Nat) (state : PayingClient) (calls : List EngineCall)
    (delivered : List JsonRpcMessage) : PayingClient :=
  let pushes := calls.filterMap EngineCall.pushes
  { state with
    pushed := state.pushed ++ pushes ++ delivered
    declined := state.declined ++ pushes.filterMap JsonRpcMessage.id
    errands := state.errands ++ calls.filterMap (EngineCall.errand setting now) }

/-- The consumer sends a message: a request is kept, and then sent. -/
def send (state : PayingClient) (message : JsonRpcMessage) : PayingClient :=
  { state with
    engine := state.engine.cacheRawRequest message
    errands := state.errands ++ [.sending .consumer message]
    sent := state.sent ++ message.asRequest.toList }

/-- The requests sent again, with one that enters the transport now. -/
def resentAfter (state : PayingClient) (origin : SendOrigin) (message : JsonRpcMessage) :
    List (SendOrigin × JsonRpcRequest) :=
  if origin = .consumer then state.resent
  else state.resent ++ message.asRequest.toList.map fun request => (origin, request)

/-- A message enters the transport, unless the transport answers it itself. -/
def enter (setting : PayingSetting) (state : PayingClient) (errand : Nat) (origin : SendOrigin)
    (message : JsonRpcMessage) : PayingClient :=
  let entered :=
    { state with
      errands := state.errands.set errand .done
      resent := state.resentAfter origin message }
  if setting.config.emulates message then
    { entered with
      pushed := state.pushed ++ message.asRequest.toList.map fun request =>
        emulateInitializeResponse setting.mcpProtocolVersion request.id }
  else
    { entered with
      sends := state.sends ++ [⟨origin, state.client.compose setting.config message, false⟩] }

/-- The next step of a send. -/
def advance (setting : PayingSetting) (state : PayingClient) (index : Nat) (sending : Sending)
    (now : Nat) (ok : Bool) : Option PayingClient :=
  let task := sending.task
  (task.advance setting.config state.client index ⟨now, setting.eventId task now, ok⟩).map
    fun (phase, deed) =>
      { state with
        client := state.client.perform index task deed
        sends := state.sends.set index (sending.goTo phase)
        attempts := state.attempts ++ (task.attempt setting.config now phase).toList }

/-- The engine takes note that a request it has waited to try again could not be sent. -/
def report (state : PayingClient) (index : Nat) (sending : Sending) (reason : String) :
    Option PayingClient :=
  match sending.origin, sending.task.phase, sending.task.message with
  | .waited, .finished false, .request request =>
    if sending.noted then none
    else some { state with
      sends := state.sends.set index sending.note
      pushed := state.pushed ++ [.errorResponse ⟨"2.0", request.id,
        ⟨paymentPendingErrorCode, "Failed to retry pending request",
          some (.object [("reason", .string reason)])⟩⟩] }
  | _, _, _ => none

/-- One event of the server's. -/
def handle (setting : PayingSetting) (state : PayingClient) (now : Nat) (event : InboundEvent) :
    PayingClient :=
  let result := state.client.handleNotification setting.config now event
  let delivery := ClientState.deliver (some ⟨setting.options, state.engine⟩) event.correlatedId
    result
  let heard :=
    { state with
      client := result.1
      engine := (delivery.payments.map ClientPayments.engine).getD state.engine }
  heard.absorb setting now delivery.calls delivery.delivered

/-- The policy or a wallet answers. -/
def proceed (setting : PayingSetting) (state : PayingClient) (index : Nat) (task : ChainTask)
    (input : ChainInput) : Option PayingClient :=
  match task.advance state.engine input with
  | none => none
  | some (phase, calls) =>
    let moved :=
      { state with
        engine :=
          { state.engine with
            inFlightPayReqs := if phase = ChainPhase.finished then
                state.engine.inFlightPayReqs.filter (· ≠ task.payReq)
              else state.engine.inFlightPayReqs }
        errands := state.errands.set index (.chain { task with phase }) }
    some (moved.absorb setting state.clock calls [])

/-- The callback returns. -/
def settle (state : PayingClient) (index : Nat) (originalId : Json) (request : JsonRpcRequest) :
    CallbackOutcome → PayingClient
  | .paid =>
    { state with
      errands := state.errands.set index (.sending .paid (.request request))
      paidFor := state.paidFor ++ [originalId] }
  | .declined reason =>
    { state with
      errands := state.errands.set index .done
      pushed := state.pushed ++ [.errorResponse ⟨"2.0", originalId,
        ⟨paymentRequiredErrorCode, "Payment Required",
          some (.object [("reason", .string (reason.getD "user_cancelled"))])⟩⟩] }
  | .failed error =>
    { state with
      errands := state.errands.set index .done
      pushed := state.pushed ++ [.errorResponse ⟨"2.0", originalId,
        ⟨paymentRequiredErrorCode, "Payment Required",
          some (.object [("reason", .string error),
            ("type", .string "payment_handler_error")])⟩⟩] }
  | .panicked => { state with errands := state.errands.set index .done }

end PayingClient

/-- What can happen to a paying client. -/
inductive PayingMove where
  | send (message : JsonRpcMessage)
  | enter (errand : Nat)
  | advance (index now : Nat) (ok : Bool)
  | report (index : Nat) (reason : String)
  | handle (now : Nat) (event : InboundEvent)
  -- The event loop's timer, and the touch loops.
  | sweep (now timeout : Nat)
  | touch (now : Nat) (eventId : String)
  | proceed (errand : Nat) (input : ChainInput)
  | settle (errand : Nat) (outcome : CallbackOutcome)
  -- A wait is over.
  | wake (errand now : Nat)

/-- The time of a move that has one. -/
def PayingMove.time : PayingMove → Option Nat
  | .advance _ now _ | .handle now _ | .sweep now _ | .touch now _ | .wake _ now => some now
  | _ => none

/-- One move, without the clock. -/
def PayingClient.perform (setting : PayingSetting) (state : PayingClient) :
    PayingMove → Option PayingClient
  | .send message => some (state.send message)
  | .enter errand =>
    match state.errands[errand]? with
    | some (.sending origin message) => some (state.enter setting errand origin message)
    | _ => none
  | .advance index now ok =>
    state.sends[index]?.bind fun sending => state.advance setting index sending now ok
  | .report index reason =>
    state.sends[index]?.bind fun sending => state.report index sending reason
  | .handle now event => some (state.handle setting now event)
  | .sweep now timeout =>
    some { state with client :=
      { state.client with
        pending := state.client.pending.sweepExpired now timeout
        oversizedReceiver := if setting.config.oversizedEnabled then
            state.client.oversizedReceiver.removeExpired now
          else state.client.oversizedReceiver } }
  | .touch now eventId => some { state with client := state.client.touch now (some eventId) }
  | .proceed errand input =>
    match state.errands[errand]? with
    | some (.chain task) => state.proceed setting errand task input
    | _ => none
  | .settle errand outcome =>
    match state.errands[errand]? with
    | some (.callback originalId request _) =>
      some (state.settle errand originalId request outcome)
    | _ => none
  | .wake errand now =>
    match state.errands[errand]? with
    | some (.retry _ request wakeAt) =>
      if wakeAt ≤ now then
        some { state with
          errands := state.errands.set errand (.sending .waited (.request request)) }
      else none
    | _ => none

/-- One move. -/
def PayingClient.step (setting : PayingSetting) (state : PayingClient) (move : PayingMove) :
    Option PayingClient :=
  (state.perform setting move).map fun after => { after with clock := move.time.getD state.clock }

end ContextVm
