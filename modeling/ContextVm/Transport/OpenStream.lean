import Mathlib.Data.List.AList
import ContextVm.Transport.EventLoop

/-! The requests of a server whose tools may stream, and what becomes of their responses. -/

namespace ContextVm

/-- Which texts are the hex form of a public key, or of an event id. -/
structure HexForms where
  isPublicKey : String → Bool
  isEventId : String → Bool

/-- What is kept for a request whose tool may stream. -/
structure OpenStreamSlot where
  -- The writer of the stream: what it is addressed by, and whether it has started.
  progressToken : String
  hasStarted : Bool
  snapshot : RouteSnapshot
  -- The response, when it comes before the stream ends.
  pendingResponse : Option JsonRpcMessage
  terminated : Bool
  -- Whether a delivery of the request has reached the handler, and how many are in the chain.
  forwarded : Bool
  liveChains : Nat
  deriving DecidableEq

/-- The slots by event, and the index that finds them by client and token. -/
structure ServerOpenStreamState where
  slots : AList fun _ : String => OpenStreamSlot
  tokenToEvent : AList fun _ : String => String

/-- What is to be done with a response. -/
inductive OpenStreamDeferral where
  -- It waits for the end of the stream.
  | deferred
  -- The stream has ended, so it goes out by the snapshot.
  | sendNow (snapshot : RouteSnapshot)
  -- There is no stream, so it goes out by the route.
  | passthrough
  deriving DecidableEq

namespace ServerOpenStreamState

/-- No slots. -/
def empty : ServerOpenStreamState := ⟨∅, ∅⟩

/-- What a slot is indexed under, since a token is unique only for its client. -/
def clientTokenKey (clientPubkey token : String) : String := clientPubkey ++ ":" ++ token

/-- Change the slot of an event, if there is one. -/
def update (state : ServerOpenStreamState) (eventId : String)
    (change : OpenStreamSlot → OpenStreamSlot) : ServerOpenStreamState :=
  match state.slots.lookup eventId with
  | some slot => { state with slots := state.slots.insert eventId (change slot) }
  | none => state

/-- Note that a delivery of a request has reached the handler. -/
def markForwarded (state : ServerOpenStreamState) (eventId : String) : ServerOpenStreamState :=
  state.update eventId fun slot => { slot with forwarded := true }

/-- Count a run of the chain for a request. -/
def enterChain (state : ServerOpenStreamState) (eventId : String) : ServerOpenStreamState :=
  state.update eventId fun slot => { slot with liveChains := slot.liveChains + 1 }

/-- The writer of a request starts its stream. -/
def startWriter (state : ServerOpenStreamState) (eventId : String) : ServerOpenStreamState :=
  state.update eventId fun slot => { slot with hasStarted := true }

/-- Give the slot of an event up, with the index entry of its client and token. -/
def release (state : ServerOpenStreamState) (eventId : String) (slot : OpenStreamSlot) :
    ServerOpenStreamState where
  slots := state.slots.erase eventId
  tokenToEvent :=
    state.tokenToEvent.erase (clientTokenKey slot.snapshot.clientPubkey slot.progressToken)

/-- End a run of the chain, and with the last one a slot whose request never got to the handler. -/
def leaveChain (state : ServerOpenStreamState) (eventId : String) : ServerOpenStreamState :=
  match state.slots.lookup eventId with
  | none => state
  | some slot =>
    let left := { slot with liveChains := slot.liveChains - 1 }
    if left.liveChains = 0 ∧ left.forwarded = false then state.release eventId left
    else { state with slots := state.slots.insert eventId left }

/-- Make a slot for a request whose tool may stream; the first one of an event stays. -/
def createOpenStreamWriter (forms : HexForms) (state : ServerOpenStreamState)
    (eventId token : String) (snapshot : RouteSnapshot) : ServerOpenStreamState :=
  if forms.isPublicKey snapshot.clientPubkey ∧ forms.isEventId eventId then
    match state.slots.lookup eventId with
    | some _ => state
    | none =>
      { slots := state.slots.insert eventId
          { progressToken := token
            hasStarted := false
            snapshot
            pendingResponse := none
            terminated := false
            forwarded := false
            liveChains := 0 }
        tokenToEvent :=
          state.tokenToEvent.insert (clientTokenKey snapshot.clientPubkey token) eventId }
  else state

/-- The token under which the tool of a message may stream. -/
def writerToken (serde : SerdeJson) : JsonRpcMessage → Option String
  | .request body =>
    if body.method = "tools/call" then Correlation.requestProgressToken serde body else none
  | _ => none

/-- What a message leaves here on its way into the chain. -/
def reserve (forms : HexForms) (config : ServerConfig) (state : ServerOpenStreamState)
    (ctx : InboundContext) (message : JsonRpcMessage) : ServerOpenStreamState :=
  if config.openStreamEnabled then
    match writerToken config.primitives.serde message with
    | some token =>
      state.createOpenStreamWriter forms ctx.requestEventId token
        ⟨ctx.clientPubkey, message.id.getD .null, ctx.mirroredWrapKind.isSome,
          ctx.mirroredWrapKind⟩
    | none => state
  else state

/-- Decide what is to be done with the response of a request. -/
def tryDeferOpenStreamResponse (state : ServerOpenStreamState) (eventId : String)
    (response : JsonRpcMessage) : OpenStreamDeferral × ServerOpenStreamState :=
  match state.slots.lookup eventId with
  | none => (.passthrough, state)
  | some slot =>
    -- A tool that never streamed is answered like any other.
    if slot.hasStarted = false then (.passthrough, state.release eventId slot)
    else if slot.terminated then (.sendNow slot.snapshot, state.release eventId slot)
    else
      (.deferred, { state with
        slots := state.slots.insert eventId { slot with pendingResponse := some response } })

/-- The end of a stream, and the response that was waiting for it. -/
def terminate (state : ServerOpenStreamState) (eventId : String) :
    Option (RouteSnapshot × JsonRpcMessage) × ServerOpenStreamState :=
  match state.slots.lookup eventId with
  | none => (none, state)
  | some slot =>
    let ended := { slot with terminated := true, pendingResponse := none }
    match slot.pendingResponse with
    | some response => (some (slot.snapshot, response), state.release eventId ended)
    -- Without a response the slot stays until there is one.
    | none => (none, { state with slots := state.slots.insert eventId ended })

/-- A response that is not deferred leaves no slot. -/
theorem lookup_tryDefer {state after : ServerOpenStreamState} {eventId : String}
    {response : JsonRpcMessage} {deferral : OpenStreamDeferral}
    (decided : state.tryDeferOpenStreamResponse eventId response = (deferral, after))
    (final : deferral ≠ .deferred) : after.slots.lookup eventId = none := by
  unfold tryDeferOpenStreamResponse at decided
  split at decided
  · grind
  · -- A slot is released, unless the response is left waiting in it.
    split at decided
    · cases decided
      exact AList.lookup_erase _ _
    · split at decided
      · cases decided
        exact AList.lookup_erase _ _
      · grind

end ServerOpenStreamState

end ContextVm
