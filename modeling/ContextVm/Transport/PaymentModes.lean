import ContextVm.Transport.Handshake
import ContextVm.Transport.Negotiation

/-! The payment lifecycle a client asks for, and the one its server handles the requests under. -/

namespace ContextVm

open SessionStore

/-! The system: a client, its server, and the events on the way. -/

/-- A client and its server, with the lifecycle that each request was sent under. -/
structure Negotiating where
  client : ClientState
  serving : Serving
  -- For each send, the lifecycle asked for when it began; only a request has one.
  asked : List (Option PaymentInteractionMode)
  -- The events on the way to the server, in order, each with the lifecycle of its send.
  waiting : List (ReceivedEvent × Option PaymentInteractionMode)

/-- What can happen to a client and its server. -/
inductive NegotiatingAction where
  | client (action : ClientAction)
  | setPaymentInteraction (mode : PaymentInteractionMode)
  -- The server takes the next event of the client.
  | deliver (now : Nat)
  -- Something else happens to the server, events of other clients included.
  | serve (action : ServerAction)

/-- The lifecycle a client asks for, which is the default one if it never asked. -/
def ClientNegotiationState.mode (negotiation : ClientNegotiationState) : PaymentInteractionMode :=
  negotiation.requested.getD .transparent

/-- Ask for a lifecycle. -/
def ClientState.setPaymentInteraction (client : ClientState) (mode : PaymentInteractionMode) :
    ClientState :=
  { client with negotiation := { client.negotiation with requested := some mode } }

namespace Negotiating

/-- The lifecycles of the sends that an action of the client begins. -/
def begun (config : ClientConfig) (state : Negotiating) :
    ClientAction → List (Option PaymentInteractionMode)
  | .send message =>
    if config.emulates message then []
    else [if message.isRequest then some state.client.negotiation.mode else none]
  | _ => []

/-- The lifecycle of the send that an action of the client goes on with. -/
def askedBy (state : Negotiating) : ClientAction → Option PaymentInteractionMode
  | .advance index _ => state.asked[index]?.join
  | _ => none

/-- One thing that happens to a client and its server. -/
def step (setting : HandshakeSetting) (state : Negotiating) :
    NegotiatingAction → Option Negotiating
  | .client action =>
    match state.client.step setting.client action with
    | none => none
    | some (client, published) =>
      let events := published.toList.map PublishedEvent.event
      -- An event of the client's has the client for its author.
      if events.all fun event => setting.authorOf event.eventId = some setting.client.publicKey then
        some { state with
          client
          asked := state.asked ++ state.begun setting.client action
          waiting := state.waiting ++ events.map fun event => (event, state.askedBy action) }
      else none
  | .setPaymentInteraction mode =>
    some { state with client := state.client.setPaymentInteraction mode }
  | .deliver now =>
    match state.waiting with
    | [] => none
    | (event, _) :: waiting =>
      (state.serving.step setting.authorOf setting.server (.receive now event)).map
        fun serving => { state with serving, waiting }
  | .serve action =>
    if action.isForeign setting.client.publicKey then
      (state.serving.step setting.authorOf setting.server action).map
        fun serving => { state with serving }
    else none

/-- The client and the server that have just been started. -/
def start (setting : HandshakeSetting) (maxPending : Nat) (pmis : List String)
    (requested : Option PaymentInteractionMode) (maxSessions : Nat) (listening : Bool) :
    Negotiating where
  client := .start setting.client maxPending pmis requested
  serving := .start maxSessions listening
  asked := []
  waiting := []

end Negotiating

/-- Whether a send is over. -/
def SendPhase.isFinished : SendPhase → Bool
  | .finished _ => true
  | _ => false

/-- Whether a send could not publish what it had to. -/
def SendPhase.hasFailed : SendPhase → Bool
  | .unpublished _ | .failing .. | .finished false => true
  | _ => false

/-- Whether something that happens to a server leaves the session of a client alone. -/
def ServerAction.spares (client : String) (serving : Serving) : ServerAction → Bool
  | .receive now event =>
    client ∉ serving.server.sessions.displaced event.senderPubkey event.isEncrypted
      serving.server.held.eventRoutes now
  | .cleanupSessions now timeout => client ∉ serving.server.sessions.expiredKeys now timeout
  | .dropSession clientPubkey => clientPubkey ≠ client
  | .close => false
  | _ => true

namespace Negotiating

/-- Whether no request is in flight, neither in the client nor on its way. -/
def isQuiet (state : Negotiating) : Bool :=
  (state.client.tasks.all fun task => !task.message.isRequest || task.phase.isFinished) &&
    state.waiting.all fun item => item.2.isNone

/--
What is asked of the caller, the relays and the server: a lifecycle is asked for only while no
request is in flight, requests are published, and the client keeps its session.
-/
def keepsContract (setting : HandshakeSetting) (state : Negotiating) : NegotiatingAction → Bool
  | .client (.advance index met) =>
    match state.client.tasks[index]? with
    | none => true
    | some task => (task.advance setting.client state.client index met).all fun moved =>
      !task.message.isRequest || !moved.1.hasFailed
  | .client _ => true
  | .setPaymentInteraction _ => state.isQuiet
  | .deliver now => state.waiting.head?.all fun item =>
    (ServerAction.receive now item.1).spares setting.client.publicKey state.serving
  | .serve action => action.spares setting.client.publicKey state.serving

/--
The server is told of the lifecycle again whenever it forgets it: no request for a handshake goes
without the tag while explicit gating is asked for, and no event with the tag is turned away.
-/
def tellsAgain (setting : HandshakeSetting) (state : Negotiating) : NegotiatingAction → Bool
  | .client (.send message) =>
    !(message.isRequest ∧ message.method = some "initialize" ∧
      state.client.negotiation.requested = some .explicitGating ∧
      state.client.negotiation.lastSent = some .explicitGating)
  | .deliver _ => state.waiting.head?.all fun item =>
    (extractPaymentInteraction item.1.innerTags).isNone || setting.server.authorizes item.1
  | _ => true

/-- The server handles the next request under the lifecycle that it was sent under. -/
def Agrees (setting : HandshakeSetting) (state : Negotiating) : Prop :=
  ∀ now event asked rest effects ctx message, state.waiting = (event, some asked) :: rest →
    (state.serving.server.receive setting.server now event).2 = some effects →
    .dispatched ctx message ∈ effects → ctx.paymentInteraction = some asked

end Negotiating

/-! The server's side. -/

/-- The lifecycle in force for a client, which is the default one without a session. -/
def SessionStore.modeOf (store : SessionStore) (client : String) : PaymentInteractionMode :=
  ((store.sessions.peek client).map ClientSession.mode).getD .transparent

/-- The lifecycle in force after an event, at a server that has both. -/
def ReceivedEvent.heard (mode : PaymentInteractionMode) (event : ReceivedEvent) :
    PaymentInteractionMode :=
  match extractPaymentInteraction event.innerTags with
  | some raw => ClientSession.namedMode raw
  | none => if event.reopens then .transparent else mode

theorem ClientSession.mode_hear {config : ServerConfig}
    (supports : config.supportsExplicitGating = true) (now : Nat) (event : ReceivedEvent)
    (session : ClientSession) :
    (session.hear config now event).1.mode = event.heard session.mode := by
  grind [ClientSession.mode, ReceivedEvent.heard, ClientSession.grantedMode,
    ClientSession.effective_hear, ClientSession.namedMode]

namespace SessionStore

variable {store : SessionStore} {client : String}

theorem modeOf_getMut {change : ClientSession → ClientSession}
    (same : ∀ session, (change session).mode = session.mode) (changed : String) :
    ((store.getMut changed change).getD store).modeOf client = store.modeOf client := by
  rw [modeOf, peek_getMut, modeOf]
  split
  · rename_i own
    rw [own, Option.map_map]
    congr 2
    exact funext same
  · rfl

theorem mode_ensured {isEncrypted : Bool} {eventRoutes : RouteStore} {now : Nat}
    {session : ClientSession}
    (found : (store.ensureSession client isEncrypted eventRoutes now).1.sessions.peek client =
      some session) : session.mode = store.modeOf client := by
  grind [ClientSession.mode, modeOf, ClientSession.new, peek_ensureSession_self]

end SessionStore

namespace ServerState

variable {config : ServerConfig} {state : ServerState} {event : ReceivedEvent}

/-- What is done with a message is not about the lifecycle of anybody. -/
theorem modeOf_route (config : ServerConfig) (now : Nat) (state : ServerState)
    (ctx : InboundContext) (known : Bool) (message : JsonRpcMessage) (client : String) :
    (route config now state ctx known message).1.sessions.modeOf client =
      state.sessions.modeOf client := by
  cases message with
  | request request =>
    refine modeOf_getMut (fun session => ?_) _
    unfold pend
    split <;> rfl
  | notification body =>
    unfold route
    simp only
    split
    · rw [sessions_handleOversizedFrame]
    · split
      · rfl
      · split
        · refine modeOf_getMut (fun session => ?_) _
          rfl
        · rfl
  | response body | errorResponse body => rfl

theorem modeOf_refuse (config : ServerConfig) (state : ServerState) (event : ReceivedEvent)
    (client : String) :
    (refuse config state event).1.sessions.modeOf client = state.sessions.modeOf client := by
  grind [refuse, markCommonTagsSent, modeOf_getMut, ClientSession.mode]

section

variable (supports : config.supportsExplicitGating = true)
include supports

/-- An event leaves the lifecycle in force for its sender that it asks for. -/
theorem modeOf_receive (now : Nat)
    (kept : event.senderPubkey ∉ state.sessions.displaced event.senderPubkey event.isEncrypted
      state.held.eventRoutes now)
    (told : (extractPaymentInteraction event.innerTags).isNone = true ∨
      config.authorizes event = true) :
    (receive config now state event).1.sessions.modeOf event.senderPubkey =
      event.heard (state.sessions.modeOf event.senderPubkey) := by
  by_cases authorized : config.authorizes event = true
  · have proceeds (session : ClientSession) : (session.hear config now event).2 = .proceed := by
      rw [ClientSession.outcome_hear]
      simp [supports]
    rw [receive_proceeds authorized proceeds]
    simp only
    split
    · -- A client that does not make room itself has a session now.
      rename_i missing
      rw [peek_ensureSession_self, if_neg kept] at missing
      split at missing <;> cases missing
    · rename_i session found
      rw [modeOf_route, ← mode_ensured found, ← ClientSession.mode_hear supports now]
      simp [modeOf]
  · -- An event that is turned away has no tag, and is no request for a handshake.
    have untagged : extractPaymentInteraction event.innerTags = none := by
      simpa [authorized] using told
    have plain : event.reopens = false := by
      rw [Bool.eq_false_iff]
      intro reopens
      simp only [ReceivedEvent.reopens, decide_eq_true_eq] at reopens
      refine authorized ?_
      simp [ServerConfig.authorizes, isCapabilityExcluded, reopens.2]
    unfold receive
    rw [if_neg authorized, modeOf_refuse, ReceivedEvent.heard, untagged, plain]
    rfl

end

/-- An event of another client leaves the lifecycle in force for one whose session is spared. -/
theorem modeOf_receive_other {client : String} (now : Nat) (other : client ≠ event.senderPubkey)
    (spared : client ∉ state.sessions.displaced event.senderPubkey event.isEncrypted
      state.held.eventRoutes now) :
    (receive config now state event).1.sessions.modeOf client = state.sessions.modeOf client := by
  have kept := peek_ensureSession_of_spared event.isEncrypted state.held.eventRoutes
    now spared other
  by_cases authorized : config.authorizes event = true
  · unfold receive
    rw [if_pos authorized]
    simp only
    split
    · rw [modeOf, kept]
      rfl
    · -- The sender has a session, so writing it pushes nobody out.
      rename_i session found
      have written (changed : ClientSession) : modeOf
          { (state.sessions.ensureSession event.senderPubkey event.isEncrypted
              state.held.eventRoutes now).1 with
            sessions := (state.sessions.ensureSession event.senderPubkey event.isEncrypted
              state.held.eventRoutes now).1.sessions.put event.senderPubkey changed } client =
          state.sessions.modeOf client := by
        simp [modeOf, Lru.peek_put, other, Lru.victim_of_held found, kept]
      split
      · exact written _
      · rw [modeOf_route]
        exact written _
  · unfold receive
    rw [if_neg authorized]
    exact modeOf_refuse config state event client

end ServerState

/-- What else happens to a server leaves the lifecycle in force for a client that is spared. -/
theorem Serving.modeOf_step {authorOf : String → Option String} {config : ServerConfig}
    {serving after : Serving} {action : ServerAction} {client : String}
    (foreign : action.isForeign client = true) (spared : action.spares client serving = true)
    (taken : serving.step authorOf config action = some after) :
    after.server.sessions.modeOf client = serving.server.sessions.modeOf client := by
  cases action with
  | receive now event =>
    obtain ⟨-, rfl⟩ := Option.ite_some_none_eq_some.mp taken
    exact ServerState.modeOf_receive_other now (Ne.symm (of_decide_eq_true foreign))
      (of_decide_eq_true spared)
  | settle item =>
    obtain ⟨-, rfl⟩ := Option.ite_some_none_eq_some.mp taken
    refine modeOf_getMut (fun session => ?_) _
    rfl
  | abandon item | restore now item =>
    obtain ⟨-, rfl⟩ := Option.ite_some_none_eq_some.mp taken
    rfl
  | respond eventId | release eventId | sweepStaleRoutes now timeout =>
    cases taken
    rfl
  | publishTo clientPubkey =>
    cases taken
    refine modeOf_getMut (fun session => ?_) _
    rfl
  | cleanupSessions now timeout =>
    cases taken
    have alive := of_decide_eq_true spared
    rw [modeOf, modeOf]
    simp only [ServerState.cleanupSessions]
    rw [Lru.peek_foldl_pop, if_neg alive]
  | dropSession clientPubkey =>
    cases taken
    have alive := of_decide_eq_true spared
    rw [modeOf, modeOf]
    simp only [Serving.update]
    rw [Lru.peek_pop, if_neg (Ne.symm alive)]
  | close => cases spared

end ContextVm
