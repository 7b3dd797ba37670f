import ContextVm.Transport.Cleanup
import ContextVm.Transport.Client
import ContextVm.Transport.Negotiation

/-! Whose messages get into the inbound chain, as one event or in frames. -/

namespace ContextVm

/-- The name of the capability that a message is about. -/
def JsonRpcMessage.capabilityName : JsonRpcMessage → Option String
  | .request body => (body.params.bind fun params => params.get "name").bind Json.asStr
  | _ => none

/-- Whether a message is open to everybody, by its own method and capability. -/
def ServerConfig.opens (config : ServerConfig) (message : JsonRpcMessage) : Bool :=
  isCapabilityExcluded config.excludedCapabilities (message.method.getD "") message.capabilityName

/-- Everyone is let in, or the listed clients, or an opening message. -/
theorem ServerConfig.authorizes_iff (config : ServerConfig) (event : ReceivedEvent) :
    config.authorizes event = true ↔ config.allowedPubkeys = [] ∨
      event.senderPubkey ∈ config.allowedPubkeys ∨ config.opens event.message = true := by
  unfold ServerConfig.authorizes ServerConfig.opens
  simp only [Bool.decide_or, Bool.or_eq_true, decide_eq_true_eq]
  -- The name is read from a request in both, and from nothing else.
  cases event.message <;> exact Iff.rfl

namespace ServerState

variable {event : ReceivedEvent} {known : Bool} {sent : JsonRpcMessage}

/-- The message that an event completes as the last frame of a transfer. -/
def reassembled (config : ServerConfig) (now : Nat) (state : ServerState)
    (event : ReceivedEvent) : Option JsonRpcMessage :=
  match event.message with
  | .notification body =>
    if config.oversizedEnabled ∧ isOversizedFrame body then
      let receiver := (state.oversizedReceivers.peek event.senderPubkey).getD
        (.withPolicy config.transferPolicy)
      match (receiver.processFrame config.primitives now body).1 with
      | .ok completed => completed
      | .error _ => none
    else none
  | _ => none

/-- What an event lets into the chain is open to everybody, or its sender is on the list. -/
def KeepsOut (config : ServerConfig) (now : Nat) (state : ServerState) (event : ReceivedEvent) :
    Prop :=
  ∀ effects ctx message, (receive config now state event).2 = some effects →
    .dispatched ctx message ∈ effects →
    ctx.clientPubkey ∈ config.allowedPubkeys ∨ config.opens message = true

/-- Whether the session that an event asks for is the one that has to make room. -/
def crowdsOut (state : ServerState) (now : Nat) (event : ReceivedEvent) : Bool :=
  event.senderPubkey ∈ state.sessions.displaced event.senderPubkey event.isEncrypted
    state.held.eventRoutes now

/--
An outsider gets a message in that is not open to everybody.

The frame that completes it is let through for the method of the notification that carries it. The
loop gets that far unless it panics for want of the session that it has just asked for.
-/
structure Smuggles (config : ServerConfig) (now : Nat) (state : ServerState)
    (event : ReceivedEvent) : Prop where
  outside : event.senderPubkey ∉ config.allowedPubkeys
  carried : config.opens event.message = true
  roomy : state.crowdsOut now event = false
  completes : ∃ message, reassembled config now state event = some message ∧
    config.opens message = false

variable {config : ServerConfig} {now : Nat} {state : ServerState}

/-- The session that an event asks for is missing exactly if it had to make room itself. -/
theorem ensured_eq_none_iff :
    (state.sessions.ensureSession event.senderPubkey event.isEncrypted
      state.held.eventRoutes now).1.sessions.peek event.senderPubkey = none ↔
      state.crowdsOut now event = true := by
  rw [crowdsOut, decide_eq_true_iff, SessionStore.peek_ensureSession_self]
  cases found : state.sessions.sessions.peek event.senderPubkey with
  | some session =>
    -- Nobody makes room for a client that has a session.
    simp [SessionStore.displaced, SessionStore.contains, found]
  | none => simp

/-- Feeding a frame comes to what the receiver makes of it, whether it is accepted before or not. -/
theorem feedFrame_outcome (config : ServerConfig) (now : Nat) (frame : JsonRpcNotification)
    (accept : Option String) (receiver : OversizedTransferReceiver) :
    (feedFrame config now frame accept receiver).1 =
      (receiver.processFrame config.primitives now frame).1 := by
  unfold feedFrame
  simp only
  split
  · grind
  · rfl

/-- A frame dispatches the message that it completes. -/
theorem dispatched_handleOversizedFrame {frame : JsonRpcNotification} {ctx other : InboundContext} :
    .dispatched other sent ∈ (handleOversizedFrame config now state frame ctx known).2 ↔
      other = ctx ∧ (((state.oversizedReceivers.peek ctx.clientPubkey).getD
        (.withPolicy config.transferPolicy)).processFrame config.primitives now frame).1 =
          .ok (some sent) := by
  rw [← feedFrame_outcome config now frame (issuedAccept config frame known)]
  unfold handleOversizedFrame
  simp only
  split
  · grind
  · grind

/-- What gets into the chain is the message itself, or the one that it completes as a frame. -/
theorem dispatched_route_message {session : ClientSession} {other : InboundContext}
    (member : .dispatched other sent ∈
      (route config now state (contextOf event session) known event.message).2) :
    sent = event.message ∨ reassembled config now state event = some sent := by
  unfold reassembled
  cases shape : event.message with
  | request request =>
    rw [shape] at member
    cases List.mem_singleton.mp member
    exact .inl rfl
  | notification body =>
    rw [shape] at member
    unfold route at member
    simp only at member ⊢
    by_cases framed : config.oversizedEnabled = true ∧ isOversizedFrame body = true
    · grind [dispatched_handleOversizedFrame, contextOf]
    · grind
  | response body | errorResponse body =>
    rw [shape] at member
    cases List.mem_singleton.mp member
    exact .inl rfl

/-- A message that a frame completes gets into the chain. -/
theorem dispatched_route_of_reassembled {session : ClientSession} {message : JsonRpcMessage}
    (completed : reassembled config now state event = some message) :
    .dispatched (contextOf event session) message ∈
      (route config now state (contextOf event session) known event.message).2 := by
  unfold reassembled at completed
  split at completed
  · rename_i body shape
    split at completed
    · rename_i framed
      rw [shape]
      unfold route
      simp only
      rw [if_pos framed]
      refine dispatched_handleOversizedFrame.mpr ⟨rfl, ?_⟩
      -- The context names the sender, so that both look at the same reassembly.
      simp only at completed
      split at completed
      · rename_i outcome
        rw [completed] at outcome
        exact outcome
      · cases completed
    · cases completed
  · cases completed

/-- What is dispatched was authorized, as it came or reassembled. -/
theorem dispatched_receive_message {effects : List LoopEffect} {ctx : InboundContext}
    (handled : (receive config now state event).2 = some effects)
    (member : .dispatched ctx sent ∈ effects) :
    config.authorizes event = true ∧
      (sent = event.message ∨ reassembled config now state event = some sent) := by
  obtain ⟨authorized, session, sessions, -, routed⟩ := routed_of_dispatched handled member
  -- The reassembly is not touched before the event is routed.
  have source := dispatched_route_message routed
  exact ⟨authorized, source⟩

/-- What is not refused is handled only if its session is there. -/
theorem roomy_of_handled {effects : List LoopEffect} (authorized : config.authorizes event = true)
    (handled : (receive config now state event).2 = some effects) :
    state.crowdsOut now event = false := by
  rw [← Bool.not_eq_true]
  intro crowded
  simp [receive, authorized, ensured_eq_none_iff.mpr crowded] at handled

/-- The message of an authorized last frame gets into the chain, if its sender has a session. -/
theorem dispatched_receive_of_reassembled {message : JsonRpcMessage}
    (authorized : config.authorizes event = true) (roomy : state.crowdsOut now event = false)
    (completed : reassembled config now state event = some message) :
    ∃ effects ctx, (receive config now state event).2 = some effects ∧
      ctx.clientPubkey = event.senderPubkey ∧ .dispatched ctx message ∈ effects := by
  -- A frame is a notification, which is never refused for the lifecycle it asks for.
  have framed : event.message.isRequest = false := by
    unfold reassembled at completed
    split at completed
    · rename_i shape
      rw [shape]
      rfl
    · cases completed
  have proceeds (session : ClientSession) : (session.hear config now event).2 = .proceed := by
    rw [ClientSession.outcome_hear]
    simp [framed]
  rw [receive_proceeds authorized proceeds]
  simp only
  split
  · rename_i missing
    simp [ensured_eq_none_iff.mp missing] at roomy
  · exact ⟨_, contextOf event _, rfl, rfl,
      List.mem_append_right _ (dispatched_route_of_reassembled completed)⟩

end ServerState

/--
Authorization keeps outsiders out, except for what they smuggle in.

A frame is checked by the notification that carries it, and the message it completes is not checked
again.
-/
theorem outsiders_kept_out_iff (config : ServerConfig) (listed : config.allowedPubkeys ≠ [])
    (now : Nat) (state : ServerState) (event : ReceivedEvent) :
    state.KeepsOut config now event ↔ ¬ state.Smuggles config now event := by
  constructor
  · rintro kept ⟨outside, carried, roomy, message, completed, closed⟩
    have authorized := (config.authorizes_iff event).mpr (.inr (.inr carried))
    obtain ⟨effects, ctx, handled, sender, member⟩ :=
      ServerState.dispatched_receive_of_reassembled authorized roomy completed
    rcases kept effects ctx message handled member with inside | opened
    · grind
    · grind
  · intro honest effects ctx message handled member
    obtain ⟨authorized, source⟩ := ServerState.dispatched_receive_message handled member
    rw [(ServerState.dispatched_receive handled member).1]
    by_cases inside : event.senderPubkey ∈ config.allowedPubkeys
    · exact .inl inside
    · -- An outsider's event was let through for what it is.
      have carried : config.opens event.message = true := by
        rcases (config.authorizes_iff event).mp authorized with nobody | member | opened
        · exact absurd nobody listed
        · exact absurd member inside
        · exact opened
      rcases source with same | completed
      · exact .inr (same ▸ carried)
      · cases closed : config.opens message with
        | true => exact .inr rfl
        | false =>
          have roomy := ServerState.roomy_of_handled authorized handled
          exact absurd ⟨inside, carried, roomy, message, completed, closed⟩ honest

/-- A server for Bob alone, which is open to others for nothing but the handshake. -/
def bobsServer : ServerConfig :=
    { ServerConfig.public callPrimitives with allowedPubkeys := ["bob"] }

/-- The frames of a tool call. -/
def callFrames : List JsonRpcNotification :=
  match buildOversizedFrames callPrimitives callText ⟨"7", 100, true⟩ with
  | .ok frames => frames.start :: frames.chunks ++ [frames.end_]
  | .error _ => []

/-- A frame that Alice sends as the notification that ends a handshake. -/
def disguised (eventId : String) (frame : JsonRpcNotification) : ReceivedEvent :=
  ⟨eventId, "alice", [], none, .notification { frame with method := "notifications/initialized" }⟩

/-- Alice sends the first two frames of a tool call in disguise. -/
def disguisedActions : List ServerAction :=
  (callFrames.take 2).mapIdx fun index frame => .receive index (disguised (toString index) frame)

/-- The last frame. -/
def lastDisguised : ReceivedEvent :=
  disguised "2" (callFrames.getLastD ⟨"2.0", notificationsProgressMethod, none⟩)

/-- A tool call of Alice in one event. -/
def plainCall : ReceivedEvent := ⟨"2", "alice", [], none, toolCallWith 2 "7"⟩

/-- A tool call that Alice sends in one event stays out. -/
theorem outsiders_kept_out_iff_plain :
    bobsServer.allowedPubkeys ≠ [] ∧ plainCall.senderPubkey ∉ bobsServer.allowedPubkeys ∧
      bobsServer.opens plainCall.message = false ∧
      (Serving.start 10 false).server.KeepsOut bobsServer 2 plainCall := by
  refine ⟨by decide, by decide, by decide,
    (outsiders_kept_out_iff bobsServer (by decide) 2 _ plainCall).mpr ?_⟩
  -- It is no frame, and nothing that everybody may send.
  intro smuggles
  exact absurd smuggles.carried (by decide)

/-- The same call in frames gets in, if the frames come as the end of a handshake. -/
theorem outsider_smuggles_call :
    ∃ serving effects ctx message,
      Serving.Reached (fun _ => some "alice") bobsServer 10 false serving ∧
      (serving.server.receive bobsServer 2 lastDisguised).2 = some effects ∧
      .dispatched ctx message ∈ effects ∧ ctx.clientPubkey = "alice" ∧
      message.method = some "tools/call" ∧ "alice" ∉ bobsServer.allowedPubkeys ∧
      bobsServer.opens message = false := by
  obtain ⟨serving, reached, checked⟩ := Reaches.of_run disguisedActions
    (fun serving : Serving =>
      (serving.server.receive bobsServer 2 lastDisguised).2.any fun effects =>
      (effects.filterMap LoopEffect.dispatch).any fun item => item.1.clientPubkey = "alice" ∧
        item.2.method = some "tools/call" ∧ bobsServer.opens item.2 = false)
    (show (execute (Serving.step (fun _ => some "alice") bobsServer) (Serving.start 10 false)
      _).any _ = true by decide +kernel)
  obtain ⟨effects, handled, checked⟩ := (Option.any_eq_true _ _).mp checked
  obtain ⟨item, member, checked⟩ := List.any_eq_true.mp checked
  obtain ⟨sender, method, closed⟩ := of_decide_eq_true checked
  obtain ⟨effect, inside, dispatched⟩ := List.mem_filterMap.mp member
  cases effect with
  | dispatched ctx message =>
    cases dispatched
    exact ⟨serving, effects, ctx, message, reached, handled, inside, sender, method, by decide,
      closed⟩
  | _ => cases dispatched

end ContextVm
