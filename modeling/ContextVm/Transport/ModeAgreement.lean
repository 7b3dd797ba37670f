import ContextVm.Transport.PaymentModes

/-! A client tells its server of the payment lifecycle it asks for, and both keep in step. -/

namespace ContextVm

open ClientNegotiationState Negotiating ServerState

/-! The client's side. -/

/-- Whether a send has published its tags: with its only event, or with its opening frame. -/
def SendPhase.hasPublished : SendPhase → Bool
  | .waiting _ | .streaming .. | .ended .. | .delisted _ | .latching => true
  | _ => false

/-- The value of the tag that asks for a lifecycle. -/
def modeText : PaymentInteractionMode → String
  | .transparent => "transparent"
  | .explicitGating => "explicit_gating"

@[simp] theorem namedMode_modeText (mode : PaymentInteractionMode) :
    ClientSession.namedMode (modeText mode) = mode := by
  cases mode <;> decide

theorem extractPaymentInteraction_append (first second : List (List String)) :
    extractPaymentInteraction (first ++ second) =
      (extractPaymentInteraction first).or (extractPaymentInteraction second) :=
  List.findSome?_append

theorem ClientConfig.extract_recipientTags (config : ClientConfig) :
    extractPaymentInteraction config.recipientTags = none := rfl

/-- The tags for capabilities say nothing about payments. -/
theorem ClientConfig.extract_capabilityTags (config : ClientConfig) :
    extractPaymentInteraction config.capabilityTags = none := by
  unfold extractPaymentInteraction
  rw [List.findSome?_eq_none_iff]
  intro tag member
  -- Each of them is a bare name.
  simp only [capabilityTags, List.mem_append] at member
  rcases member with (encryption | transfer) | stream
  · split at encryption
    · rcases List.mem_cons.mp encryption with same | ephemeral
      · rw [same]
        rfl
      · split at ephemeral
        · rw [List.mem_singleton.mp ephemeral]
          rfl
        · cases ephemeral
    · cases encryption
  · split at transfer
    · rw [List.mem_singleton.mp transfer]
      rfl
    · cases transfer
  · split at stream
    · rw [List.mem_singleton.mp stream]
      rfl
    · cases stream

theorem ClientNegotiationState.extract_pendingTags (negotiation : ClientNegotiationState) :
    extractPaymentInteraction negotiation.pendingTags.1 =
      negotiation.pendingTags.2.map modeText := by
  have methods : extractPaymentInteraction (negotiation.pmis.map fun pmi => ["pmi", pmi]) =
      none := by
    unfold extractPaymentInteraction
    rw [List.findSome?_eq_none_iff]
    intro tag member
    obtain ⟨pmi, -, same⟩ := List.mem_map.mp member
    rw [← same]
    rfl
  simp only [pendingTags, extractPaymentInteraction_append, methods, Option.none_or]
  generalize (if negotiation.requested ≠ negotiation.lastSent then negotiation.requested
    else none) = pendingMode
  cases pendingMode with
  | none => rfl
  | some mode => cases mode <;> rfl

theorem ClientState.extract_compose (config : ClientConfig) (client : ClientState)
    (message : JsonRpcMessage) :
    extractPaymentInteraction (client.compose config message).tags =
      (client.compose config message).paymentInteraction.map modeText := by
  unfold compose
  simp only [extractPaymentInteraction_append, config.extract_recipientTags, Option.none_or]
  have discovery : extractPaymentInteraction
      (if message.isRequest ∧ client.hasSentDiscoveryTags = false then config.capabilityTags
        else []) = none := by
    split
    · exact config.extract_capabilityTags
    · rfl
  rw [discovery, Option.none_or]
  cases message.isRequest with
  | true => exact client.negotiation.extract_pendingTags
  | false => rfl

section Sends

variable {config : ClientConfig} {client : ClientState} {index : Nat} {task : SendTask}
  {met : Circumstances} {before after : SendPhase} {deed : Deed}

/--
What a send publishes: first its tags, with its message or a frame, and then only frames with the
tags of the recipient.
-/
theorem SendTask.Moves.publishes {published : PublishedEvent}
    (moves : task.Moves config met before after (.publish published)) :
    published.event.senderPubkey = config.publicKey ∧ after.hasPublished = true ∧
      ((before.hasPublished = false ∧ published.event.innerTags = task.tags ∧
          (published.event.message = task.message ∨ published.event.message.isRequest = false)) ∨
        (before.hasPublished = true ∧ published.event.innerTags = config.recipientTags ∧
          published.event.message.isRequest = false)) := by
  generalize made : Deed.publish published = deed at moves
  cases moves with
  | publish eventId =>
    cases made
    exact ⟨rfl, rfl, .inl ⟨rfl, rfl, .inl rfl⟩⟩
  | knock | enter =>
    cases made
    exact ⟨rfl, rfl, .inl ⟨rfl, rfl, .inr rfl⟩⟩
  | piece | close =>
    cases made
    exact ⟨rfl, rfl, .inr ⟨rfl, rfl, rfl⟩⟩
  | note eventId | pend endId => exact absurd made.symm (Deed.registering_ne_publish _ _ _ _)
  | abandon needsAccept | leave needsAccept => cases needsAccept <;> cases made
  | _ => cases made

theorem SendTask.Moves.going (moves : task.Moves config met before after deed) :
    before.isFinished = false := by
  cases moves with
  | fail needsAccept token under =>
    cases before with
    | finished sent => cases under
    | _ => rfl
  | _ => rfl

theorem SendTask.Moves.comesTo (moves : task.Moves config met before after deed)
    (client : ClientState) (index : Nat) :
    (∃ published, deed = .publish published) ∨
      (before = .latching ∧ after = .finished true ∧ deed = .latch) ∨
      (deed.published = none ∧ (client.perform index task deed).negotiation = client.negotiation ∧
        (after.hasFailed = true ∨
          (after.isFinished = false ∧ after.hasPublished = before.hasPublished))) := by
  cases moves with
  | publish | knock | enter | piece | close => exact .inl ⟨_, rfl⟩
  | latch => exact .inr (.inl ⟨rfl, rfl, rfl⟩)
  | miss | fail | forget | refuse => exact .inr (.inr ⟨rfl, rfl, .inl rfl⟩)
  | abandon needsAccept => cases needsAccept <;> exact .inr (.inr ⟨rfl, rfl, .inl rfl⟩)
  | note | pend =>
    refine .inr (.inr ?_)
    cases task.message <;> exact ⟨rfl, rfl, .inr ⟨rfl, rfl⟩⟩
  | leave needsAccept => cases needsAccept <;> exact .inr (.inr ⟨rfl, rfl, .inr ⟨rfl, rfl⟩⟩)
  | _ => exact .inr (.inr ⟨rfl, rfl, .inr ⟨rfl, rfl⟩⟩)

theorem SendPhase.isFinished_of_hasPublished {phase : SendPhase}
    (published : phase.hasPublished = true) : phase.isFinished = false := by
  cases phase with
  | finished sent => cases published
  | _ => rfl

end Sends

/-- Two clients with the same sends, which have asked for the same lifecycles. -/
structure ClientState.SameModes (first second : ClientState) : Prop where
  tasks : second.tasks = first.tasks
  requested : second.negotiation.requested = first.negotiation.requested
  lastSent : second.negotiation.lastSent = first.negotiation.lastSent

theorem ClientState.sameModes_consume (client : ClientState) (correlatedId : Option String)
    (message : JsonRpcMessage) :
    client.SameModes (client.consumeTerminalResponse correlatedId message).1 := by
  unfold consumeTerminalResponse
  split <;> exact ⟨rfl, rfl, rfl⟩

/-- No event changes what a client asks for. -/
theorem ClientState.sameModes_handle (config : ClientConfig) (now : Nat) (client : ClientState)
    (event : InboundEvent) :
    client.SameModes (client.handleNotification config now event).1 := by
  -- What an event says is only about what the server does.
  have correlated (learned : ClientState) : learned.SameModes (learned.correlate config now
      event).1 := by
    unfold correlate
    simp only
    split
    · exact ⟨rfl, rfl, rfl⟩
    · split
      · exact ⟨rfl, rfl, rfl⟩
      · exact ⟨rfl, rfl, rfl⟩
      · split <;> exact ⟨rfl, rfl, rfl⟩
      · split
        · exact ⟨rfl, rfl, rfl⟩
        · exact learned.sameModes_consume _ _
  have framed (learned : ClientState) (frame : JsonRpcNotification) : learned.SameModes
      (learned.handleOversizedFrame config now event.correlatedId frame).1 := by
    unfold handleOversizedFrame
    split
    · split
      · exact ⟨rfl, rfl, rfl⟩
      · split <;> exact ⟨rfl, rfl, rfl⟩
    · simp only
      split
      · exact ⟨rfl, rfl, rfl⟩
      · obtain ⟨tasks, requested, lastSent⟩ := sameModes_consume _ event.correlatedId _
        exact ⟨tasks, requested, lastSent⟩
      · exact ⟨rfl, rfl, rfl⟩
  unfold handleNotification
  split
  · split
    · split
      · exact ⟨rfl, rfl, rfl⟩
      · split
        · obtain ⟨tasks, requested, lastSent⟩ := framed (client.learnServerDiscovery event) _
          exact ⟨tasks, requested, lastSent⟩
        · obtain ⟨tasks, requested, lastSent⟩ := correlated (client.learnServerDiscovery event)
          exact ⟨tasks, requested, lastSent⟩
    · obtain ⟨tasks, requested, lastSent⟩ := correlated (client.learnServerDiscovery event)
      exact ⟨tasks, requested, lastSent⟩
  · exact ⟨rfl, rfl, rfl⟩

/-! Both sides together. -/

/-- What is known of a send, by what the client asks for and what the server will be under. -/
structure SendTask.Fits (requested : Option PaymentInteractionMode)
    (foreseen : PaymentInteractionMode) (asked : Option PaymentInteractionMode) (task : SendTask) :
    Prop where
  request : asked.isSome = task.message.isRequest
  plain : asked = none → task.paymentInteraction = none
  tags : extractPaymentInteraction task.tags = task.paymentInteraction.map modeText
  sound : asked.isSome = true → task.phase.hasFailed = false
  -- While it is under way, the client asks for what it asked for when the send began.
  current : task.phase.isFinished = false → ∀ mode, asked = some mode →
    mode = requested.getD .transparent
  tagged : task.phase.isFinished = false → ∀ mode, task.paymentInteraction = some mode →
    requested = some mode
  opens : task.phase.isFinished = false → task.paymentInteraction = none →
    task.message.isRequest = true → task.message.method = some "initialize" →
    requested.getD .transparent = .transparent
  -- A send without a tag relies on what the server knows, and one with a tag has told it.
  told : task.phase.isFinished = false → asked.isSome = true →
    (task.paymentInteraction = none ∨ task.phase.hasPublished = true) →
    foreseen = requested.getD .transparent

/-- Each event on the way leaves the lifecycle in force that it was sent under. -/
def Matches : PaymentInteractionMode → List (ReceivedEvent × Option PaymentInteractionMode) → Prop
  | _, [] => True
  | mode, (event, asked) :: rest =>
    (∀ own, asked = some own → event.heard mode = own) ∧ Matches (event.heard mode) rest

/-- The lifecycle in force once all events on the way are taken. -/
def foreseenMode (mode : PaymentInteractionMode)
    (waiting : List (ReceivedEvent × Option PaymentInteractionMode)) : PaymentInteractionMode :=
  waiting.foldl (fun mode item => item.1.heard mode) mode

theorem matches_append {mode : PaymentInteractionMode}
    {waiting : List (ReceivedEvent × Option PaymentInteractionMode)} {event : ReceivedEvent}
    {asked : Option PaymentInteractionMode} (fits : Matches mode waiting)
    (own : ∀ wanted, asked = some wanted → event.heard (foreseenMode mode waiting) = wanted) :
    Matches mode (waiting ++ [(event, asked)]) := by
  induction waiting generalizing mode with
  | nil => exact ⟨own, trivial⟩
  | cons item rest ih => exact ⟨fits.1, ih fits.2 own⟩

namespace SendTask.Fits

variable {requested : Option PaymentInteractionMode} {foreseen : PaymentInteractionMode}
  {asked : Option PaymentInteractionMode} {task : SendTask}

section

variable (fits : task.Fits requested foreseen asked)
include fits

theorem isRequest (tagged : task.paymentInteraction.isSome = true) : asked.isSome = true := by
  cases asked with
  | some own => rfl
  | none =>
    simp [fits.plain rfl] at tagged

theorem ask (finished : asked.isSome = true → task.phase.isFinished = true)
    (next : Option PaymentInteractionMode) : task.Fits next foreseen asked := by
  -- Only a request that is under way would mind.
  have quiet (going : task.phase.isFinished = false) : asked = none := by simp_all
  refine ⟨fits.request, fits.plain, fits.tags, fits.sound, ?_, ?_, ?_, ?_⟩
  · simp_all
  · intro going mode same
    simp [fits.plain (quiet going)] at same
  · intro going _ isRequest
    simp [← fits.request, quiet going] at isRequest
  · simp_all

end

variable {config : ClientConfig} {met : Circumstances} {phase : SendPhase}
  {published : PublishedEvent}

/-- What a request publishes leaves the server under what the client asks for. -/
theorem heard (fits : task.Fits requested foreseen asked)
    (moves : task.Moves config met task.phase phase (.publish published)) :
    published.event.heard foreseen =
      if asked.isSome then requested.getD .transparent else foreseen := by
  have going := moves.going
  obtain ⟨-, -, ⟨-, tags, message⟩ | ⟨before, tags, plain⟩⟩ := moves.publishes
  · rw [ReceivedEvent.heard, tags, fits.tags]
    cases pending : task.paymentInteraction with
    | some mode =>
      -- The tag says it, and only a request has one.
      rw [Option.map_some, fits.tagged going mode pending]
      cases asked with
      | none => rw [fits.plain rfl] at pending; cases pending
      | some own => simp
    | none =>
      rw [Option.map_none]
      by_cases reopens : published.event.reopens = true
      · rw [if_pos reopens]
        simp only [ReceivedEvent.reopens, decide_eq_true_eq] at reopens
        rcases message with same | other
        · rw [same] at reopens
          rw [fits.request, reopens.1, if_pos rfl, fits.opens going pending reopens.1 reopens.2]
        · grind
      · cases isSome : asked.isSome with
        | true => simpa [reopens] using fits.told going isSome (.inl pending)
        | false => simp [reopens]
  · have silent : published.event.reopens = false := by simp [ReceivedEvent.reopens, plain]
    rw [ReceivedEvent.heard, tags, config.extract_recipientTags, silent]
    cases isSome : asked.isSome with
    | true => simpa using fits.told going isSome (.inr before)
    | false => simp

end SendTask.Fits

namespace Negotiating

variable {setting : HandshakeSetting} {state after : Negotiating}
variable {index : Nat} {task : SendTask} {phase : SendPhase}

/-- The lifecycle that the server will be under once it has taken all events on the way. -/
def foreseen (setting : HandshakeSetting) (state : Negotiating) : PaymentInteractionMode :=
  foreseenMode (state.serving.server.sessions.modeOf setting.client.publicKey) state.waiting

/-- Both sides are in step. -/
structure InStep (setting : HandshakeSetting) (state : Negotiating) : Prop where
  aligned : state.asked.length = state.client.tasks.length
  sends : ∀ (index : Nat) (task : SendTask) (asked : Option PaymentInteractionMode),
    state.client.tasks[index]? = some task → state.asked[index]? = some asked →
    task.Fits state.client.negotiation.requested (state.foreseen setting) asked
  -- What was last noted as sent is what the server will be under, unless a send is to note more.
  latched : state.foreseen setting = state.client.negotiation.lastSent.getD .transparent ∨
    ∃ (index : Nat) (task : SendTask), state.client.tasks[index]? = some task ∧
      task.phase.isFinished = false ∧ task.phase.hasPublished = true ∧
      task.paymentInteraction.isSome = true
  once : state.client.negotiation.lastSent.isSome = true →
    state.client.negotiation.requested.isSome = true
  matching : Matches (state.serving.server.sessions.modeOf setting.client.publicKey) state.waiting
  own : ∀ item ∈ state.waiting, item.1.senderPubkey = setting.client.publicKey

/-- A send that is to note what it sent is still to do so when another one goes on. -/
theorem latched_set (found : state.client.tasks[index]? = some task)
    (kept : task.paymentInteraction.isSome = true → task.phase.hasPublished = true →
      phase.hasPublished = true)
    (noting : ∃ (other : Nat) (held : SendTask), state.client.tasks[other]? = some held ∧
      held.phase.isFinished = false ∧ held.phase.hasPublished = true ∧
      held.paymentInteraction.isSome = true) :
    ∃ (other : Nat) (held : SendTask),
      (state.client.tasks.set index { task with phase })[other]? = some held ∧
      held.phase.isFinished = false ∧ held.phase.hasPublished = true ∧
      held.paymentInteraction.isSome = true := by
  obtain ⟨other, held, read, going, published, tagged⟩ := noting
  by_cases same : other = index
  · subst same
    rw [found] at read
    cases read
    have still := kept tagged published
    refine ⟨other, { task with phase }, ?_, SendPhase.isFinished_of_hasPublished still, still,
      tagged⟩
    rw [getElem?_set_eq _ found, if_pos rfl]
  · refine ⟨other, held, ?_, going, published, tagged⟩
    rw [getElem?_set_eq _ found, if_neg same]
    exact read

section

variable (inStep : state.InStep setting)
include inStep

theorem InStep.noted (found : state.client.tasks[index]? = some task) :
    ∃ asked, state.asked[index]? = some asked ∧
      task.Fits state.client.negotiation.requested (state.foreseen setting) asked := by
  have within : index < state.asked.length := by
    rw [inStep.aligned]
    exact (List.getElem?_eq_some_iff.mp found).1
  have read := List.getElem?_eq_getElem within
  exact ⟨_, read, inStep.sends index task _ found read⟩

theorem InStep.keep {client : ClientState} (same : state.client.SameModes client) :
    InStep setting { state with client } := by
  refine ⟨?_, ?_, ?_, ?_, inStep.matching, inStep.own⟩
  · rw [same.tasks]
    exact inStep.aligned
  · rw [same.tasks, same.requested, foreseen]
    exact inStep.sends
  · rw [same.tasks, same.lastSent, foreseen]
    exact inStep.latched
  · rw [same.lastSent, same.requested]
    exact inStep.once

theorem InStep.relies (silent : state.client.negotiation.pendingTags.2 = none) :
    state.foreseen setting = state.client.negotiation.mode := by
  rcases inStep.latched with last | ⟨index, task, found, going, published, tagged⟩
  · -- What is asked for was sent, or was never asked for.
    simp only [pendingTags] at silent
    rw [last, mode]
    split at silent
    · have never := inStep.once
      rw [silent] at never ⊢
      cases sent : state.client.negotiation.lastSent with
      | none => rfl
      | some mode => rw [sent] at never; cases never rfl
    · grind
  · obtain ⟨asked, -, fits⟩ := inStep.noted found
    exact fits.told going (fits.isRequest tagged) (.inr published)

/-- A send that begins is in step with what the client asks for. -/
theorem InStep.composed {message : JsonRpcMessage}
    (tells : state.tellsAgain setting (.client (.send message)) = true) :
    (state.client.compose setting.client message).Fits state.client.negotiation.requested
      (state.foreseen setting)
      (if message.isRequest then some state.client.negotiation.mode else none) := by
  have pending : (state.client.compose setting.client message).paymentInteraction =
      if message.isRequest then state.client.negotiation.pendingTags.2 else none := by
    unfold ClientState.compose
    cases message.isRequest <;> rfl
  have same : (state.client.compose setting.client message).message = message := rfl
  refine ⟨?_, ?_, state.client.extract_compose setting.client message, ?_, ?_, ?_, ?_, ?_⟩
  · grind
  · grind
  · exact fun _ => rfl
  · intro _ mode wanted
    split at wanted
    · cases wanted
      rfl
    · cases wanted
  · grind [pendingTags]
  · rw [pending, same]
    intro _ silent isRequest opens
    rw [if_pos isRequest] at silent
    -- A request for a handshake goes without the tag only if explicit gating is not asked for.
    simp only [tellsAgain, isRequest, opens, true_and, Bool.not_eq_true',
      decide_eq_false_iff_not, not_and] at tells
    simp only [pendingTags] at silent
    cases wanted : state.client.negotiation.requested with
    | none => rfl
    | some mode =>
      cases mode with
      | transparent => rfl
      | explicitGating => grind
  · intro _ isSome relies
    rw [pending] at relies
    cases isRequest : message.isRequest with
    | false => rw [isRequest] at isSome; cases isSome
    | true =>
      rcases relies with silent | published
      · rw [isRequest, if_pos rfl] at silent
        exact inStep.relies silent
      · cases published

/-- The two sides stay in step when a send begins. -/
theorem InStep.send {message : JsonRpcMessage}
    (tells : state.tellsAgain setting (.client (.send message)) = true) :
    InStep setting
      { state with
        client := { state.client with
          tasks := state.client.tasks ++ [state.client.compose setting.client message] }
        asked := state.asked ++
          [if message.isRequest then some state.client.negotiation.mode else none] } := by
  refine ⟨?_, ?_, ?_, inStep.once, inStep.matching, inStep.own⟩
  · simp [inStep.aligned]
  · intro index task asked found noted
    rcases getElem?_append_singleton found with old | ⟨last, same⟩
    · have before : index < state.asked.length := by
        rw [inStep.aligned]
        exact (List.getElem?_eq_some_iff.mp old).1
      rw [List.getElem?_append_left before] at noted
      exact inStep.sends index task asked old noted
    · subst same
      rw [last, ← inStep.aligned, List.getElem?_concat_length] at noted
      cases noted
      exact inStep.composed tells
  · rcases inStep.latched with last | ⟨index, task, found, kept⟩
    · exact .inl last
    · refine .inr ⟨index, task, ?_, kept⟩
      rw [List.getElem?_append_left (List.getElem?_eq_some_iff.mp found).1]
      exact found

theorem InStep.sends_set {asked : Option PaymentInteractionMode}
    {next : PaymentInteractionMode} (found : state.client.tasks[index]? = some task)
    (noted : state.asked[index]? = some asked) (going : task.phase.isFinished = false)
    (better : next = state.foreseen setting ∨ next = state.client.negotiation.mode)
    (sound : asked.isSome = true → phase.hasFailed = false)
    (told : phase.isFinished = false → asked.isSome = true →
      (task.paymentInteraction = none ∨ phase.hasPublished = true) →
      next = state.client.negotiation.mode) (other : Nat) (held : SendTask)
    (wanted : Option PaymentInteractionMode)
    (read : (state.client.tasks.set index { task with phase })[other]? = some held)
    (own : state.asked[other]? = some wanted) :
    held.Fits state.client.negotiation.requested next wanted := by
  rcases getElem?_set_cases found read with ⟨same, moved⟩ | ⟨-, old⟩
  · subst same moved
    rw [noted] at own
    cases own
    have fits := inStep.sends other task asked found noted
    exact ⟨fits.request, fits.plain, fits.tags, sound, fun _ => fits.current going,
      fun _ => fits.tagged going, fun _ => fits.opens going, told⟩
  · have fits := inStep.sends other held wanted old own
    refine { fits with told := fun going request relies => ?_ }
    rcases better with same | asked
    · rw [same]
      exact fits.told going request relies
    · exact asked

/-- The two sides stay in step when a send publishes an event. -/
theorem InStep.publish {asked : Option PaymentInteractionMode}
    {met : Circumstances} {published : PublishedEvent}
    (found : state.client.tasks[index]? = some task) (noted : state.asked[index]? = some asked)
    (moves : task.Moves setting.client met task.phase phase (.publish published))
    (sound : asked.isSome = true → phase.hasFailed = false) :
    InStep setting
      { state with
        client := { state.client with tasks := state.client.tasks.set index { task with phase } }
        waiting := state.waiting ++ [(published.event, asked)] } := by
  have fits := inStep.sends index task asked found noted
  obtain ⟨sender, after, -⟩ := moves.publishes
  -- A request leaves the server under what the client asks for, and nothing else moves it.
  have foreseen : (foreseenMode (state.serving.server.sessions.modeOf setting.client.publicKey)
      (state.waiting ++ [(published.event, asked)])) =
        if asked.isSome then state.client.negotiation.mode else state.foreseen setting := by
    rw [foreseenMode, List.foldl_append]
    exact fits.heard moves
  refine ⟨?_, ?_, ?_, inStep.once, ?_, ?_⟩
  · rw [List.length_set]
    exact inStep.aligned
  · show ∀ other held wanted, _ → _ → SendTask.Fits _ (foreseenMode _ _) _ _
    rw [foreseen]
    refine inStep.sends_set found noted moves.going ?_ sound ?_
    · split
      · exact .inr rfl
      · exact .inl rfl
    · simp_all
  · show foreseenMode _ _ = _ ∨ _
    rw [foreseen]
    rcases Option.eq_none_or_eq_some task.paymentInteraction with silent | ⟨mode, tagged⟩
    · -- Without a tag nothing has become different.
      have same : (if asked.isSome then state.client.negotiation.mode
          else state.foreseen setting) = state.foreseen setting := by
        split
        · rename_i isSome
          exact (fits.told moves.going isSome (.inl silent)).symm
        · rfl
      rw [same]
      exact inStep.latched.imp id (latched_set found fun _ _ => after)
    · -- This send is to note what it has just sent.
      refine .inr ⟨index, { task with phase }, ?_, SendPhase.isFinished_of_hasPublished after,
        after, ?_⟩
      · rw [getElem?_set_eq _ found, if_pos rfl]
      · rw [tagged]
        rfl
  · refine matches_append inStep.matching ?_
    intro wanted same
    rw [fits.current moves.going wanted same]
    have heard := fits.heard moves
    rw [same] at heard
    exact heard
  · intro item member
    rcases List.mem_append.mp member with old | new
    · exact inStep.own item old
    · simp_all

/-- The two sides stay in step when a send that is done notes what it sent. -/
theorem InStep.latch
    (found : state.client.tasks[index]? = some task) (done : task.phase = .latching) :
    InStep setting
      { state with client := { state.client.perform index task .latch with
          tasks := state.client.tasks.set index { task with phase := .finished true } } } := by
  obtain ⟨asked, noted, fits⟩ := inStep.noted found
  have going : task.phase.isFinished = false := by
    rw [done]
    rfl
  have published : task.phase.hasPublished = true := by
    rw [done]
    rfl
  refine ⟨?_, ?_, ?_, ?_, inStep.matching, inStep.own⟩
  · rw [List.length_set]
    exact inStep.aligned
  · exact inStep.sends_set found noted going (.inl rfl) (fun _ => rfl) nofun
  · show state.foreseen setting =
      (task.paymentInteraction <|> state.client.negotiation.lastSent).getD .transparent ∨ _
    rcases Option.eq_none_or_eq_some task.paymentInteraction with silent | ⟨mode, tagged⟩
    · have same : (task.paymentInteraction <|> state.client.negotiation.lastSent) =
          state.client.negotiation.lastSent := by
        rw [silent]
        rfl
      rw [same]
      refine inStep.latched.imp id (latched_set found ?_)
      intro isSome
      simp [silent] at isSome
    · -- What it notes is what the client asks for, and the server will be under that.
      left
      have isSome := fits.isRequest (by rw [tagged]; rfl)
      rw [fits.told going isSome (.inr published), fits.tagged going mode tagged, tagged]
      rfl
  · show (task.paymentInteraction <|> state.client.negotiation.lastSent).isSome = true → _
    cases tagged : task.paymentInteraction with
    | some mode =>
      intro _
      show state.client.negotiation.requested.isSome = true
      rw [fits.tagged going mode tagged]
      rfl
    | none => exact inStep.once

/-- The two sides stay in step when a send goes on. -/
theorem InStep.advance {met : Circumstances}
    (kept : state.keepsContract setting (.client (.advance index met)) = true)
    (taken : state.step setting (.client (.advance index met)) = some after) :
    after.InStep setting := by
  simp only [step] at taken
  cases stepped : state.client.step setting.client (.advance index met) with
  | none => simp [stepped] at taken
  | some result =>
    obtain ⟨task, phase, deed, found, advanced, made⟩ := ClientState.step_advance stepped
    obtain ⟨asked, noted, fits⟩ := inStep.noted found
    subst made
    simp only [stepped] at taken
    simp only [keepsContract, found, advanced, Option.all_some] at kept
    have sound : asked.isSome = true → phase.hasFailed = false := by
      intro isSome
      rw [← fits.request, isSome] at kept
      simpa using kept
    have moves := SendTask.moves_of_advance advanced
    have whose : state.askedBy (.advance index met) = asked := by simp [askedBy, noted]
    simp only [begun, List.append_nil, whose] at taken
    rcases moves.comesTo state.client index with
      ⟨published, same⟩ | ⟨done, finished, same⟩ | ⟨silent, negotiation, goesOn⟩
    · subst same
      split at taken
      · cases taken
        exact inStep.publish found noted moves sound
      · cases taken
    · subst same finished
      simp only [Deed.published, Option.toList_none, List.map_nil, List.all_nil, if_true,
        List.append_nil] at taken
      cases taken
      exact inStep.latch found done
    · rw [silent] at taken
      simp only [Option.toList_none, List.map_nil, List.all_nil, if_true, List.append_nil] at taken
      cases taken
      -- Nothing is published and nothing noted, so only the send itself has moved.
      have still : asked.isSome = true →
          phase.isFinished = false ∧ phase.hasPublished = task.phase.hasPublished := by
        intro isSome
        rcases goesOn with failed | goes
        · simp_all
        · exact goes
      refine ⟨?_, ?_, ?_, ?_, inStep.matching, inStep.own⟩
      · rw [List.length_set]
        exact inStep.aligned
      · rw [negotiation]
        refine inStep.sends_set found noted moves.going (.inl rfl) sound ?_
        intro _ isSome relies
        rw [(still isSome).2] at relies
        exact fits.told moves.going isSome relies
      · rw [negotiation]
        refine inStep.latched.imp id (latched_set found ?_)
        intro tagged published
        rw [(still (fits.isRequest tagged)).2]
        exact published
      · rw [negotiation]
        exact inStep.once

theorem InStep.set (mode : PaymentInteractionMode) (quiet : state.isQuiet = true) :
    InStep setting { state with client := state.client.setPaymentInteraction mode } := by
  simp only [isQuiet, Bool.and_eq_true, List.all_eq_true] at quiet
  -- A request that has a lifecycle noted is over.
  have finished {index : Nat} {task : SendTask} {asked : Option PaymentInteractionMode}
      (found : state.client.tasks[index]? = some task)
      (fits : task.Fits state.client.negotiation.requested (state.foreseen setting) asked)
      (isSome : asked.isSome = true) : task.phase.isFinished = true := by
    have done := quiet.1 task (List.mem_of_getElem? found)
    rw [← fits.request, isSome] at done
    simpa using done
  refine ⟨inStep.aligned, ?_, ?_, fun _ => rfl, inStep.matching, inStep.own⟩
  · intro index task asked found noted
    have fits := inStep.sends index task asked found noted
    exact fits.ask (finished found fits) (some mode)
  · rcases inStep.latched with last | ⟨index, task, found, going, published, tagged⟩
    · exact .inl last
    · obtain ⟨asked, -, fits⟩ := inStep.noted found
      simp [finished found fits (fits.isRequest tagged)] at going

/-- The two sides stay in step when the server takes an event of the client's. -/
theorem InStep.deliver (supports : setting.server.supportsExplicitGating = true) {now : Nat}
    (kept : state.keepsContract setting (.deliver now) = true)
    (tells : state.tellsAgain setting (.deliver now) = true)
    (taken : state.step setting (.deliver now) = some after) : after.InStep setting := by
  simp only [step] at taken
  split at taken
  · cases taken
  · rename_i event asked rest next
    obtain ⟨serving, served, same⟩ := Option.map_eq_some_iff.mp taken
    subst same
    have sender : event.senderPubkey = setting.client.publicKey :=
      inStep.own (event, asked) (by rw [next]; exact List.mem_cons_self)
    simp only [keepsContract, next, List.head?_cons, Option.all_some, ServerAction.spares,
      decide_eq_true_eq] at kept
    simp only [tellsAgain, next, List.head?_cons, Option.all_some, Bool.or_eq_true] at tells
    -- The server is now under what this event leaves in force.
    have moved : serving.server.sessions.modeOf setting.client.publicKey =
        event.heard (state.serving.server.sessions.modeOf setting.client.publicKey) := by
      obtain ⟨-, rfl⟩ := Option.ite_some_none_eq_some.mp served
      rw [← sender] at kept ⊢
      exact modeOf_receive supports now kept tells
    have foreseen : foreseen setting { state with serving, waiting := rest } =
        state.foreseen setting := by
      simp only [foreseen, next, moved]
      rfl
    have fits := inStep.matching
    rw [next] at fits
    refine ⟨inStep.aligned, ?_, ?_, inStep.once, ?_, ?_⟩
    · rw [foreseen]
      exact inStep.sends
    · rw [foreseen]
      exact inStep.latched
    · simp only [moved]
      exact fits.2
    · intro item member
      exact inStep.own item (by rw [next]; exact List.mem_cons_of_mem _ member)

theorem InStep.serve {action : ServerAction}
    (kept : state.keepsContract setting (.serve action) = true)
    (taken : state.step setting (.serve action) = some after) : after.InStep setting := by
  obtain ⟨foreign, taken⟩ := Option.ite_none_right_eq_some.mp taken
  obtain ⟨serving, served, same⟩ := Option.map_eq_some_iff.mp taken
  subst same
  have mode := Serving.modeOf_step foreign kept served
  have foreseen : foreseen setting { state with serving } = state.foreseen setting := by
    simp only [foreseen, mode]
  refine ⟨inStep.aligned, ?_, ?_, inStep.once, ?_, inStep.own⟩
  · rw [foreseen]
    exact inStep.sends
  · rw [foreseen]
    exact inStep.latched
  · simp only [mode]
    exact inStep.matching

/-- The two sides stay in step whatever the client does. -/
theorem InStep.client {action : ClientAction}
    (kept : state.keepsContract setting (.client action) = true)
    (tells : state.tellsAgain setting (.client action) = true)
    (taken : state.step setting (.client action) = some after) : after.InStep setting := by
  -- A client that publishes and begins nothing has only moved itself.
  have silent {client : ClientState} (moved : { state with client } = after)
      (same : state.client.SameModes client) : after.InStep setting := by
    rw [← moved]
    exact inStep.keep same
  cases action with
  | send message =>
    by_cases emulated : setting.client.emulates message = true
    · simp [step, ClientState.step, begun, emulated] at taken
      exact silent taken ⟨rfl, rfl, rfl⟩
    · simp [step, ClientState.step, begun, emulated] at taken
      rw [← taken]
      exact inStep.send tells
  | advance index met => exact inStep.advance kept taken
  | handle now event =>
    simp [step, ClientState.step, begun] at taken
    exact silent taken (state.client.sameModes_handle setting.client now event)
  | sweep now timeout | touch now eventId =>
    simp [step, ClientState.step, begun] at taken
    exact silent taken ⟨rfl, rfl, rfl⟩

end

theorem InStep.reached {maxPending maxSessions : Nat} {pmis : List String}
    {requested : Option PaymentInteractionMode} {listening : Bool}
    (supports : setting.server.supportsExplicitGating = true)
    (reached : Reaches (step setting)
      (fun state action => state.keepsContract setting action = true ∧
        state.tellsAgain setting action = true)
      (start setting maxPending pmis requested maxSessions listening) state) :
    state.InStep setting := by
  refine Reaches.invariant reached ?_ ?_
  · refine ⟨rfl, ?_, .inl rfl, nofun, trivial, nofun⟩
    intro index task asked found
    cases found
  · intro before action after _ inStep allowed taken
    obtain ⟨kept, tells⟩ := allowed
    cases action with
    | client action => exact inStep.client kept tells taken
    | setPaymentInteraction mode =>
      cases taken
      exact inStep.set mode kept
    | deliver now => exact inStep.deliver supports kept tells taken
    | serve action => exact inStep.serve kept taken

theorem InStep.agrees (inStep : state.InStep setting)
    (supports : setting.server.supportsExplicitGating = true) : state.Agrees setting := by
  intro now event asked rest effects ctx message next handled member
  have sender := inStep.own (event, some asked) (by rw [next]; exact List.mem_cons_self)
  have fits := inStep.matching
  rw [next] at fits
  obtain ⟨-, session, sessions, found, routed⟩ := routed_of_dispatched handled member
  rw [dispatched_route routed]
  show some (session.hear setting.server now event).1.mode = _
  rw [ClientSession.mode_hear supports, SessionStore.mode_ensured found, sender, fits.1 asked rfl]

end Negotiating

/--
A server that offers both lifecycles handles every request under the one it was sent under, in every
run in which the caller, the relays and the server keep their contract, no request for a handshake
goes without the tag while explicit gating is asked for, and no event with the tag is turned away.
-/
theorem modes_agree_of_tellsAgain (setting : HandshakeSetting)
    (supports : setting.server.supportsExplicitGating = true) (maxPending : Nat)
    (pmis : List String) (requested : Option PaymentInteractionMode) (maxSessions : Nat)
    (listening : Bool) (state : Negotiating)
    (reached : Reaches (Negotiating.step setting)
      (fun state action => state.keepsContract setting action = true ∧
        state.tellsAgain setting action = true)
      (.start setting maxPending pmis requested maxSessions listening) state) :
    state.Agrees setting :=
  (Negotiating.InStep.reached supports reached).agrees supports

/-- Alice, and a server that offers both lifecycles. -/
def gatingSetting : HandshakeSetting :=
  { aliceSetting with server := { aliceSetting.server with supportsExplicitGating := true } }

/-- A request of a method is sent as one event. -/
def asksFor (method : String) (index : Nat) (eventId : String) : List NegotiatingAction :=
  [.client (.send (.request ⟨"2.0", .ofU64 1, method, none⟩)),
    .client (.advance index ⟨0, eventId, true⟩), .client (.advance index ⟨0, "", true⟩),
    .client (.advance index ⟨0, "", true⟩)]

/-- The next request was sent under explicit gating, and is handled under the given lifecycle. -/
def Negotiating.handledUnder (mode : PaymentInteractionMode) (state : Negotiating) : Bool :=
  state.waiting.head?.any fun item => item.2 = some .explicitGating ∧
    (state.serving.server.receive gatingSetting.server 0 item.1).2.any fun effects =>
      effects.any fun effect => match effect with
        | .dispatched ctx _ => ctx.paymentInteraction = some mode
        | _ => false

/-- The next request is a call that goes without the tag. -/
def Negotiating.callsUntagged (state : Negotiating) : Bool :=
  state.waiting.head?.any fun item => item.1.message.method = some "tools/call" ∧
    extractPaymentInteraction item.1.innerTags = none

/-- The handshake tells the server, and a call without the tag is still handled as it was sent. -/
theorem modes_agree_of_tellsAgain_first :
    ∃ state, Reaches (Negotiating.step gatingSetting)
        (fun state action => state.keepsContract gatingSetting action = true ∧
          state.tellsAgain gatingSetting action = true)
        (.start gatingSetting 10 [] (some .explicitGating) 10 false) state ∧
      (state.callsUntagged = true ∧ state.handledUnder .explicitGating = true) ∧
      state.Agrees gatingSetting := by
  refine Reaches.exists_of_any (fun _ _ => of_decide_eq_true)
    (asksFor "initialize" 0 "alice-1" ++ [.deliver 0] ++ asksFor "tools/call" 1 "alice-2")
    (fun state => state.callsUntagged = true ∧ state.handledUnder .explicitGating = true)
    (by decide +kernel) ?_
  intro state reached handled
  exact ⟨handled, modes_agree_of_tellsAgain gatingSetting rfl 10 []
    (some .explicitGating) 10 false state reached⟩

/-- A second request for a handshake goes without the tag, and is handled under the default. -/
theorem second_handshake_forgets_mode :
    ∃ state, Reaches (Negotiating.step gatingSetting)
        (fun state action => state.keepsContract gatingSetting action = true)
        (.start gatingSetting 10 [] (some .explicitGating) 10 false) state ∧
      state.handledUnder .transparent = true :=
  Reaches.of_any (fun _ _ passed => passed)
    (asksFor "initialize" 0 "alice-1" ++ [.deliver 0] ++ asksFor "initialize" 1 "alice-2") _
    (by decide +kernel)

end ContextVm
