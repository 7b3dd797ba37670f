import ContextVm.Transport.EventLoop

/-! The payment lifecycle of one session, from what its client sent and what it was told. -/

namespace ContextVm

open ClientSession ReceivedEvent

namespace ClientSession

/-- The lifecycle in force, which is the default one until another is negotiated. -/
def mode (session : ClientSession) : PaymentInteractionMode :=
  session.effectivePaymentInteraction.getD .transparent

/-- The lifecycle that a response has to disclose, which is then noted as disclosed. -/
def takePaymentInteractionDisclosure (session : ClientSession) :
    Option PaymentInteractionMode × ClientSession :=
  match session.requestedPaymentInteraction, session.effectivePaymentInteraction with
  | some requested, some effective =>
    if requested ≠ .transparent ∧ session.hasDisclosedPaymentInteraction = false then
      (some effective, { session with hasDisclosedPaymentInteraction := true })
    else (none, session)
  | _, _ => (none, session)

/-- What the event loop makes of the session of an event's sender. -/
def hear (config : ServerConfig) (now : Nat) (event : ReceivedEvent) (session : ClientSession) :
    ClientSession × NegotiationOutcome :=
  (ServerState.learn config now event session).negotiatePaymentInteraction event.innerTags
    event.message.method event.message.isRequest config.supportsExplicitGating

end ClientSession

/-- What happens to a session. -/
inductive SessionInput where
  -- The event loop takes a message of its client in.
  | inbound (now : Nat) (event : ReceivedEvent)
  -- A response goes out to its client.
  | response

/-- Whether an event holds a request that starts the handshake over. -/
def ReceivedEvent.reopens (event : ReceivedEvent) : Bool :=
  event.message.isRequest ∧ event.message.method = some "initialize"

/-- Whether an input leaves the negotiation where it is: it has no tag, and reopens nothing. -/
def SessionInput.isSilent : SessionInput → Bool
  | .inbound _ event =>
    extractPaymentInteraction event.innerTags = none ∧ event.reopens = false
  | .response => true

/-- The last message with a tag since the handshake was last started asked for explicit gating. -/
def RequestsGating (inputs : List SessionInput) : Prop :=
  ∃ earlier now event later, inputs = earlier ++ .inbound now event :: later ∧
    extractPaymentInteraction event.innerTags = some "explicit_gating" ∧
    ∀ input ∈ later, input.isSilent = true

/-- A session after one more input. -/
def ClientSession.take (config : ServerConfig) (session : ClientSession) :
    SessionInput → ClientSession
  | .inbound now event => (session.hear config now event).1
  | .response => session.takePaymentInteractionDisclosure.2

namespace ClientSession

/-- The lifecycle that the value of a tag asks for; a value nobody knows asks for the default. -/
def namedMode (raw : String) : PaymentInteractionMode :=
  if raw = "explicit_gating" then .explicitGating else .transparent

/-- The lifecycle that a server puts in force for the value of a tag. -/
def grantedMode (supportsExplicitGating : Bool) (raw : String) : PaymentInteractionMode :=
  if raw = "explicit_gating" ∧ supportsExplicitGating = true then .explicitGating else .transparent

section Negotiate

variable (session : ClientSession) (innerTags : List (List String)) (method : Option String)
  (isRequest supportsExplicitGating : Bool)

/-- A session whose negotiation is started over by a request for a handshake. -/
def reopened : ClientSession :=
  if isRequest ∧ method = some "initialize" then
    { session with
      requestedPaymentInteraction := none
      effectivePaymentInteraction := none
      hasDisclosedPaymentInteraction := false }
  else session

theorem negotiate_untagged (untagged : extractPaymentInteraction innerTags = none) :
    session.negotiatePaymentInteraction innerTags method isRequest supportsExplicitGating =
      (session.reopened method isRequest, .proceed) := by
  simp only [negotiatePaymentInteraction, untagged, reopened]

theorem negotiate_tagged {raw : String} (tagged : extractPaymentInteraction innerTags = some raw) :
    session.negotiatePaymentInteraction innerTags method isRequest supportsExplicitGating =
      let base := session.reopened method isRequest
      ({ base with requestedPaymentInteraction := some (namedMode raw) }.applyEffective
          base.effectivePaymentInteraction (grantedMode supportsExplicitGating raw),
        if isRequest ∧ raw = "explicit_gating" ∧ supportsExplicitGating = false then
          .rejectUnsupported .explicitGating else .proceed) := by
  simp only [negotiatePaymentInteraction, tagged]
  -- The value is the one lifecycle that a server may lack, or not.
  by_cases gating : raw = "explicit_gating"
  · cases supportsExplicitGating with
    | false => cases isRequest <;> simp [gating, namedMode, grantedMode, reopened]
    | true => simp [gating, namedMode, grantedMode, reopened]
  · simp [gating, namedMode, grantedMode, reopened]

@[simp] theorem requested_applyEffective (prev : Option PaymentInteractionMode)
    (next : PaymentInteractionMode) :
    (session.applyEffective prev next).requestedPaymentInteraction =
      session.requestedPaymentInteraction := by
  unfold applyEffective
  split <;> rfl

theorem effective_applyEffective (next : PaymentInteractionMode) :
    (session.applyEffective session.effectivePaymentInteraction next).effectivePaymentInteraction =
      some next := by
  unfold applyEffective
  split
  · rfl
  · grind

theorem disclosed_applyEffective (next : PaymentInteractionMode) :
    (session.applyEffective session.effectivePaymentInteraction
      next).hasDisclosedPaymentInteraction = true ↔
      session.effectivePaymentInteraction = some next ∧
        session.hasDisclosedPaymentInteraction = true := by
  unfold applyEffective
  split
  · grind
  · grind

end Negotiate

section

variable (config : ServerConfig) (now : Nat) (event : ReceivedEvent) (session : ClientSession)

theorem requested_hear :
    (session.hear config now event).1.requestedPaymentInteraction =
      match extractPaymentInteraction event.innerTags with
      | some raw => some (namedMode raw)
      | none => if event.reopens then none else session.requestedPaymentInteraction := by
  unfold hear
  cases tagged : extractPaymentInteraction event.innerTags with
  | some raw => simp [negotiate_tagged _ _ _ _ _ tagged]
  | none =>
    rw [negotiate_untagged _ _ _ _ _ tagged]
    simp only [reopened, reopens, decide_eq_true_eq]
    split <;> rfl

theorem effective_hear :
    (session.hear config now event).1.effectivePaymentInteraction =
      match extractPaymentInteraction event.innerTags with
      | some raw => some (grantedMode config.supportsExplicitGating raw)
      | none => if event.reopens then none else session.effectivePaymentInteraction := by
  unfold hear
  cases tagged : extractPaymentInteraction event.innerTags with
  | some raw =>
    rw [negotiate_tagged _ _ _ _ _ tagged]
    exact effective_applyEffective _ _
  | none =>
    rw [negotiate_untagged _ _ _ _ _ tagged]
    simp only [reopened, reopens, decide_eq_true_eq]
    split <;> rfl

end

theorem outcome_hear (config : ServerConfig) (now : Nat) (event : ReceivedEvent)
    (session : ClientSession) :
    (session.hear config now event).2 =
      if event.message.isRequest = true ∧
          extractPaymentInteraction event.innerTags = some "explicit_gating" ∧
          config.supportsExplicitGating = false then
        .rejectUnsupported .explicitGating
      else .proceed := by
  grind [hear, negotiatePaymentInteraction]

@[simp] theorem modes_disclosure (session : ClientSession) :
    session.takePaymentInteractionDisclosure.2.requestedPaymentInteraction =
        session.requestedPaymentInteraction ∧
      session.takePaymentInteractionDisclosure.2.effectivePaymentInteraction =
        session.effectivePaymentInteraction := by
  grind [takePaymentInteractionDisclosure]

end ClientSession

/-! All inputs. -/

/-- The last tag asks for explicit gating if the last message does, or says nothing after it. -/
theorem requestsGating_append (inputs : List SessionInput) (input : SessionInput) :
    RequestsGating (inputs ++ [input]) ↔
      (∃ now event, input = .inbound now event ∧
        extractPaymentInteraction event.innerTags = some "explicit_gating") ∨
      (input.isSilent = true ∧ RequestsGating inputs) := by
  constructor
  · rintro ⟨earlier, now, event, later, split, asks, silent⟩
    -- The message that asks is the last one, or the last one comes after it.
    cases later using List.reverseRecOn with
    | nil => simp_all
    | append_singleton middle last =>
      rw [← List.cons_append, ← List.append_assoc] at split
      obtain ⟨front, same⟩ := List.append_inj' split rfl
      cases same
      refine .inr ⟨silent input (by simp), earlier, now, event, middle, front, asks, ?_⟩
      intro other member
      exact silent other (List.mem_append_left _ member)
  · rintro (⟨now, event, same, asks⟩ | ⟨quiet, earlier, now, event, later, split, asks, silent⟩)
    · exact ⟨inputs, now, event, [], by rw [same], asks, nofun⟩
    · refine ⟨earlier, now, event, later ++ [input], by rw [split]; simp, asks, ?_⟩
      intro other member
      rcases List.mem_append.mp member with inside | last
      · exact silent other inside
      · grind

namespace ClientSession

/-- What the fields of a session say about the inputs so far. -/
structure Negotiated (config : ServerConfig) (inputs : List SessionInput)
    (session : ClientSession) : Prop where
  requested : session.requestedPaymentInteraction = some .explicitGating ↔ RequestsGating inputs
  effective : session.effectivePaymentInteraction = some .explicitGating ↔
    config.supportsExplicitGating = true ∧
      session.requestedPaymentInteraction = some .explicitGating

variable {config : ServerConfig} {inputs : List SessionInput} {session : ClientSession}

theorem Negotiated.inbound (negotiated : session.Negotiated config inputs) (now : Nat)
    (event : ReceivedEvent) :
    (session.hear config now event).1.Negotiated config (inputs ++ [.inbound now event]) := by
  constructor
  · rw [requested_hear, requestsGating_append]
    cases tagged : extractPaymentInteraction event.innerTags with
    | some raw => grind [namedMode, SessionInput.isSilent]
    | none =>
      cases again : event.reopens with
      | true => simp [SessionInput.isSilent, tagged, again]
      | false => simp [SessionInput.isSilent, tagged, again, negotiated.requested]
  · rw [effective_hear, requested_hear]
    cases tagged : extractPaymentInteraction event.innerTags with
    | some raw =>
      by_cases gating : raw = "explicit_gating" <;> simp [namedMode, grantedMode, gating]
    | none =>
      cases event.reopens with
      | true => simp
      | false => simpa using negotiated.effective

theorem Negotiated.response (negotiated : session.Negotiated config inputs) :
    session.takePaymentInteractionDisclosure.2.Negotiated config (inputs ++ [.response]) := by
  grind [Negotiated, modes_disclosure, SessionInput.isSilent, requestsGating_append]

end ClientSession

/-- An authorized event that its negotiation lets go on is routed under what is then in force. -/
theorem ServerState.receive_proceeds {config : ServerConfig} {now : Nat} {state : ServerState}
    {event : ReceivedEvent} (authorized : config.authorizes event = true)
    (proceeds : ∀ session : ClientSession, (session.hear config now event).2 = .proceed) :
    receive config now state event =
      let ensured := state.sessions.ensureSession event.senderPubkey event.isEncrypted
        state.held.eventRoutes now
      match ensured.1.sessions.peek event.senderPubkey with
      | none => ({ state with sessions := ensured.1 }, none)
      | some session =>
        let heard := (session.hear config now event).1
        let routed := route config now
          { state with sessions :=
            { ensured.1 with sessions := ensured.1.sessions.put event.senderPubkey heard } }
          (contextOf event heard) session.supportsOversizedTransfer event.message
        (routed.1, some (ensured.2.map LoopEffect.evicted ++ routed.2)) := by
  unfold receive
  rw [if_pos authorized]
  simp only
  cases state.sessions.ensureSession event.senderPubkey event.isEncrypted state.held.eventRoutes
    now with
  | mk ensured told =>
    cases found : ensured.sessions.peek event.senderPubkey with
    | none => rfl
    | some session =>
      have outcome := proceeds session
      simp only [hear] at outcome ⊢
      rw [outcome]

end ContextVm
