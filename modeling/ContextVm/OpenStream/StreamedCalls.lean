import ContextVm.OpenStream.Accounting
import ContextVm.OpenStream.Registry
import ContextVm.Transport.Client

/-! Calls of tools whose results are streamed, and the readers that they are bound to. -/

namespace ContextVm.OpenStream

/-- Who a request of a client comes from. -/
inductive RequestOrigin where
  -- A call whose result is streamed.
  | streamed (call : Nat)
  | ordinary
  -- The payment engine, which sends a request again.
  | retry
  deriving DecidableEq

/-- How far a request has come on its way through the transport. -/
inductive RequestPhase where
  | issued
  -- It has taken out the placeholder of a call, and is about to look for its reader.
  | binding (waiter : Nat) (token : String)
  | sent
  deriving DecidableEq

/-- A request that was handed to the transport. -/
structure IssuedRequest where
  origin : RequestOrigin
  request : JsonRpcRequest
  phase : RequestPhase

/-- How far a call has come. -/
inductive CallPhase where
  -- It waits for the lock.
  | queued
  -- It holds the lock, and its placeholder is to be bound.
  | waiting
  -- It has returned a token and a reader, by its number.
  | returned (token : String) (session : Nat)
  | failed
  -- The consumer has given it up.
  | abandoned
  deriving DecidableEq

/-- A call whose result is streamed. -/
structure StreamedCall where
  phase : CallPhase
  -- The request that it has issued, by its number.
  issued : Option Nat
  -- What its placeholder was bound to.
  bound : Option (Except OpenStreamError (String × Nat))

/-- What the calls of a client share. -/
structure StreamingClient where
  openStreamBindLock : Option Nat
  -- The placeholders, each for its call, in the order in which they are bound.
  pendingOutboundOpenStream : List Nat
  openStreamRegistry : OpenStreamRegistry
  calls : List StreamedCall
  requests : List IssuedRequest
  -- The placeholders that were taken out, and by what.
  consumed : List (Nat × RequestOrigin)

/-- What a client is configured with. -/
structure StreamingSetting where
  serde : SerdeJson
  enabled : Bool
  arithmetic : Arithmetic

/-- The token to which a request may bind a placeholder. -/
def StreamingSetting.outboundToken (setting : StreamingSetting) (request : JsonRpcRequest) :
    Option String :=
  if setting.enabled ∧ request.method = "tools/call" then
    (originalProgressToken request).bind (progressTokenString setting.serde)
  else none

/-- Get the reader of a token, or make one that can tell the server of an abort. -/
def OpenStreamRegistry.createOutboundOpenStreamSession (registry : OpenStreamRegistry) (now : Nat)
    (token : String) : Except OpenStreamError (Nat × OpenStreamRegistry) :=
  match registry.sessions.lookup token with
  | some existing => .ok (existing.session, registry)
  | none => (registry.createSessionWith now token ⟨true, false, false⟩).map fun (entry, made) =>
    (entry.session, made)

namespace StreamingClient

/-- A client without calls. -/
def start (policy : OpenStreamRegistryPolicy) : StreamingClient :=
  ⟨none, [], .withPolicy policy, [], [], []⟩

/-- Change what a call has come to. -/
def setCall (client : StreamingClient) (index : Nat) (call : StreamedCall) : StreamingClient :=
  { client with calls := client.calls.set index call }

/-- A call gets the lock and registers its placeholder. -/
def prepareOutbound (client : StreamingClient) (index : Nat) (call : StreamedCall) :
    Option StreamingClient :=
  if call.phase = .queued ∧ client.openStreamBindLock = none then
    some { client.setCall index { call with phase := .waiting, bound := none } with
      openStreamBindLock := some index
      pendingOutboundOpenStream := client.pendingOutboundOpenStream ++ [index] }
  else none

/-- The task that a call has spawned issues its request. -/
def issue (client : StreamingClient) (index : Nat) (call : StreamedCall)
    (request : JsonRpcRequest) : Option StreamingClient :=
  if (call.phase = .waiting ∨ call.phase = .abandoned) ∧ call.issued = none then
    some { client.setCall index { call with issued := some client.requests.length } with
      requests := client.requests ++ [⟨.streamed index, request, .issued⟩] }
  else none

/-- A request is about to be sent: if it may, it takes out the oldest placeholder. -/
def bindPendingOutboundOpenStream (setting : StreamingSetting) (client : StreamingClient)
    (number : Nat) (issued : IssuedRequest) : Option StreamingClient :=
  if issued.phase = .issued then
    match setting.outboundToken issued.request, client.pendingOutboundOpenStream with
    | some token, waiter :: rest =>
      some { client with
        pendingOutboundOpenStream := rest
        requests := client.requests.set number { issued with phase := .binding waiter token }
        consumed := client.consumed ++ [(waiter, issued.origin)] }
    | _, _ =>
      some { client with requests := client.requests.set number { issued with phase := .sent } }
  else none

/-- Tell a call what its placeholder was bound to, if the call is still there to hear of it. -/
def resolve (client : StreamingClient) (waiter : Nat)
    (result : Except OpenStreamError (String × Nat)) : StreamingClient :=
  match client.calls[waiter]? with
  | some call => client.setCall waiter { call with bound := some result }
  | none => client

/-- A request that has taken out a placeholder gets its reader. -/
def bindReader (client : StreamingClient) (number : Nat) (issued : IssuedRequest) (now : Nat) :
    Option StreamingClient :=
  match issued.phase with
  | .binding waiter token =>
    let sent :=
      { client with requests := client.requests.set number { issued with phase := .sent } }
    match client.openStreamRegistry.createOutboundOpenStreamSession now token with
    | .ok (session, registry) =>
      some ({ sent with openStreamRegistry := registry }.resolve waiter (.ok (token, session)))
    | .error error => some (sent.resolve waiter (.error error))
  | _ => none

/-- A call ends, and lets go of the lock. -/
def finish (client : StreamingClient) (index : Nat) (call : StreamedCall) (phase : CallPhase) :
    StreamingClient :=
  { client.setCall index { call with phase } with openStreamBindLock := none }

/-- A call hears what its placeholder was bound to. -/
def conclude (client : StreamingClient) (index : Nat) (call : StreamedCall) :
    Option StreamingClient :=
  if call.phase = .waiting then
    match call.bound with
    | some (.ok (token, session)) => some (client.finish index call (.returned token session))
    | some (.error _) => some (client.finish index call .failed)
    | none => none
  else none

/-- A call hears that its request has ended before its placeholder was bound. -/
def settle (client : StreamingClient) (index : Nat) (call : StreamedCall) :
    Option StreamingClient :=
  if call.phase = .waiting ∧ call.bound.isNone then
    -- The newest placeholder is taken for the one of this call.
    some { client.finish index call .failed with
      pendingOutboundOpenStream := client.pendingOutboundOpenStream.dropLast }
  else none

/-- The consumer gives a call up, which leaves its placeholder behind. -/
def abandon (client : StreamingClient) (index : Nat) (call : StreamedCall) :
    Option StreamingClient :=
  if call.phase = .waiting then some (client.finish index call .abandoned) else none

end StreamingClient

/-- What happens to the calls of a client. -/
inductive CallAction where
  | call
  | prepare (index : Nat)
  | issue (index : Nat) (request : JsonRpcRequest)
  | ordinary (request : JsonRpcRequest)
  | retry (request : JsonRpcRequest)
  -- A request reaches the transport, and then the lock of the registry.
  | reach (number : Nat)
  | bind (number now : Nat)
  | conclude (index : Nat)
  | settle (index : Nat)
  | abandon (index : Nat)
  -- The readers are found for frames, used and taken out.
  | admitFrame (now : Nat) (token : String) (frame : OpenStreamFrame)
  | use (session : Nat) (action : SessionAction)
  | remove (token : String) (hook : RegistryHook)

/-- One action. -/
def StreamingClient.step (setting : StreamingSetting) (client : StreamingClient) :
    CallAction → Option StreamingClient
  | .call => some { client with calls := client.calls ++ [⟨.queued, none, none⟩] }
  | .prepare index => client.calls[index]?.bind (client.prepareOutbound index)
  | .issue index request => client.calls[index]?.bind fun call => client.issue index call request
  | .ordinary request =>
    some { client with requests := client.requests ++ [⟨.ordinary, request, .issued⟩] }
  | .retry request =>
    some { client with requests := client.requests ++ [⟨.retry, request, .issued⟩] }
  | .reach number =>
    client.requests[number]?.bind (client.bindPendingOutboundOpenStream setting number)
  | .bind number now => client.requests[number]?.bind fun issued =>
    client.bindReader number issued now
  | .conclude index => client.calls[index]?.bind (client.conclude index)
  | .settle index => client.calls[index]?.bind (client.settle index)
  | .abandon index => client.calls[index]?.bind (client.abandon index)
  | .admitFrame now token frame =>
    match client.openStreamRegistry.admitFrame now token frame with
    | .ok (some (_, registry)) => some { client with openStreamRegistry := registry }
    | .ok none | .error _ => some client
  | .use session action =>
    (client.openStreamRegistry.made[session]?.bind fun reader =>
      reader.step setting.arithmetic action).map fun reader =>
        { client with openStreamRegistry :=
          { client.openStreamRegistry with
            made := client.openStreamRegistry.made.set session reader } }
  | .remove token hook =>
    some { client with openStreamRegistry := client.openStreamRegistry.remove token hook }

end ContextVm.OpenStream
