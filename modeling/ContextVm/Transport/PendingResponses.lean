import ContextVm.Transport.Cleanup
import ContextVm.Transport.Client

/-! The responses to a client's requests: which of them find the request they refer to. -/

namespace ContextVm

open ClientCorrelationStore ClientState Deed

variable {message : JsonRpcMessage}

/-! What is known of the requests of a client from outside. -/

/-- The event that a response to a published event refers to, if there is to be one. -/
def PublishedEvent.answerable (published : PublishedEvent) : Option String :=
  match published.role with
  | .single => if published.event.message.isRequest then some published.event.eventId else none
  -- The server answers a request that came in frames under the last of them.
  | .closing => some published.event.eventId
  | _ => none

/-- Whether a message ends a request. -/
def JsonRpcMessage.isResponse : JsonRpcMessage → Bool
  | .response _ | .errorResponse _ => true
  | _ => false

/-- A client, with the requests it has published, by the events that responses refer to. -/
structure Requesting where
  client : ClientState
  published : List String
  -- The requests that were swept or evicted, or have been answered.
  lost : List String

/-- The requests that a step of a send notes as pending. -/
def Deed.notes : Deed → List String
  | .register _ eventId _ => [eventId]
  | _ => []

/-- The pending requests that have to make room for it. -/
def Deed.evicts (store : ClientCorrelationStore) : Deed → List String
  | .register _ eventId _ => (store.pendingRequests.victim eventId).toList
  | _ => []

/-- What the next step of a send does to what the sends share. -/
def ClientState.deedOf (config : ClientConfig) (client : ClientState) (index : Nat)
    (met : Circumstances) : Deed :=
  match client.tasks[index]? with
  | none => .nothing
  | some task =>
    match task.advance config client index met with
    | none => .nothing
    | some (_, deed) => deed

/-- The requests that are answered by what becomes of an event. -/
def Handled.ends (correlatedId : Option String) : Handled → List String
  | .answered _ message => if message.isResponse then correlatedId.toList else []
  | _ => []

/-- The requests that an action notes as pending, perhaps once more. -/
def ClientState.notes (config : ClientConfig) (client : ClientState) : ClientAction → List String
  | .advance index met => (client.deedOf config index met).notes
  | _ => []

/-- The requests that an action evicts, answers or sweeps. -/
def ClientState.loses (config : ClientConfig) (client : ClientState) : ClientAction → List String
  | .advance index met => (client.deedOf config index met).evicts client.pending
  | .handle now event => (client.handleNotification config now event).2.ends event.correlatedId
  | .sweep now timeout => client.pending.expiredKeys now timeout
  | _ => []

namespace Requesting

/-- A client that has just been started. -/
def start (config : ClientConfig) (maxPending : Nat) (pmis : List String)
    (requested : Option PaymentInteractionMode) : Requesting where
  client := .start config maxPending pmis requested
  published := []
  lost := []

/-- One thing that happens to a client, with what it means for its requests. -/
def step (config : ClientConfig) (state : Requesting) (action : ClientAction) :
    Option Requesting :=
  (state.client.step config action).map fun (client, event) =>
    { client
      published := state.published ++ (event.bind PublishedEvent.answerable).toList
      lost := (state.lost.filter fun eventId => eventId ∉ state.client.notes config action) ++
        state.client.loses config action }

/-- A response that a client takes, and the event it refers to. -/
structure Delivers (config : ClientConfig) (event : InboundEvent) (eventId : String)
    (message : JsonRpcMessage) : Prop where
  taken : config.takes event = true
  server : event.pubkey = config.serverPubkey
  correlated : event.correlatedId = some eventId
  parsed : validateAndParse config.primitives.serde event.content = some message
  response : message.isResponse = true

end Requesting

/-- The event that a send has published and not yet noted as pending. -/
def SendPhase.unnoted : SendPhase → Option String
  | .ended _ _ endId | .delisted endId => some endId
  | _ => none

/--
Responses come in good time, and no failed send takes back another one's request.

A response is not taken in while the send of its request has yet to note it as pending, and a send
that could not be published shares its event with no other.
-/
def Requesting.InGoodTime (config : ClientConfig) (state : Requesting) : ClientAction → Prop
  | .handle _ event => ∀ eventId message, Requesting.Delivers config event eventId message →
      ∀ (index : Nat) (task : SendTask), state.client.tasks[index]? = some task →
        task.phase.unnoted ≠ some eventId
  | .advance index _ => ∀ task eventId, state.client.tasks[index]? = some task →
      task.phase = .unpublished eventId →
      (eventId ∈ state.published → eventId ∈ state.lost) ∧
        ∀ (other : Nat) (task' : SendTask), other ≠ index →
          state.client.tasks[other]? = some task' → task'.phase ≠ .registered eventId
  | _ => True

/-! What becomes of the pending requests. -/

namespace ClientCorrelationStore

section

variable (store : ClientCorrelationStore)
include store

theorem contains_remove (eventId other : String) :
    (store.remove eventId).2.contains other =
      if other = eventId then false else store.contains other := by
  unfold contains remove
  simp only [Lru.peek_pop]
  split <;> rfl

theorem contains_touch (now : Nat) (eventId other : String) :
    (store.touch now eventId).contains other = store.contains other := by
  unfold touch
  cases found : store.pendingRequests.peek eventId with
  | none => rfl
  | some entry =>
    -- Writing an entry that is there pushes none out.
    unfold contains
    simp only [Lru.peek_put, Lru.victim_of_held found]
    split
    · grind
    · rfl

end

end ClientCorrelationStore

/-- What is done with an event ends the requests it answers, and leaves the sends alone. -/
structure ClientState.EndsOnly (client : ClientState) (correlatedId : Option String)
    (result : ClientState × Handled) : Prop where
  tasks : result.1.tasks = client.tasks
  contains : ∀ other, result.1.pending.contains other =
    if other ∈ result.2.ends correlatedId then false else client.pending.contains other

namespace ClientState

variable {client : ClientState} {correlatedId : Option String}

theorem EndsOnly.none {result : ClientState × Handled} (tasks : result.1.tasks = client.tasks)
    (pending : ∀ other, result.1.pending.contains other = client.pending.contains other)
    (ends : result.2.ends correlatedId = []) : client.EndsOnly correlatedId result := by
  grind [EndsOnly]

theorem EndsOnly.trans {middle : ClientState} {result : ClientState × Handled}
    (ended : middle.EndsOnly correlatedId result) (tasks : middle.tasks = client.tasks)
    (pending : ∀ other, middle.pending.contains other = client.pending.contains other) :
    client.EndsOnly correlatedId result := by
  grind [EndsOnly]

theorem contains_touch (client : ClientState) (now : Nat) (eventId : Option String)
    (other : String) :
    (client.touch now eventId).pending.contains other = client.pending.contains other := by
  cases eventId with
  | none => rfl
  | some eventId => exact ClientCorrelationStore.contains_touch client.pending now eventId other

/-- Handing a response over ends its request; nothing else does. -/
theorem endsOnly_consume (client : ClientState) (correlatedId : Option String)
    (message : JsonRpcMessage) :
    client.EndsOnly correlatedId (client.consumeTerminalResponse correlatedId message) := by
  -- The request that is removed is the one the response refers to.
  have removed (eventId : String) (response : message.isResponse = true) :
      client.EndsOnly (some eventId)
        ({ client with pending := (client.pending.remove eventId).2 },
          .answered (client.pending.remove eventId).1 message) := by
    refine ⟨rfl, ?_⟩
    intro other
    simp only [contains_remove, Handled.ends, response, if_true,
      Option.toList_some, List.mem_singleton]
  unfold consumeTerminalResponse
  split
  · exact removed _ rfl
  · exact removed _ rfl
  · rename_i response errorResponse
    refine EndsOnly.none rfl (fun _ => rfl) ?_
    cases correlatedId with
    | none => simp [Handled.ends]
    | some eventId =>
      cases message with
      | response body => exact absurd rfl (response body eventId rfl)
      | errorResponse body => exact absurd rfl (errorResponse body eventId rfl)
      | request body | notification body => rfl

section

variable (config : ClientConfig) (now : Nat) (client : ClientState)

theorem endsOnly_correlate (event : InboundEvent) :
    client.EndsOnly event.correlatedId (client.correlate config now event) := by
  unfold correlate
  simp only
  split
  · exact .none rfl (fun _ => rfl) rfl
  · split
    · exact .none rfl (fun _ => rfl) rfl
    · exact .none rfl (fun _ => rfl) rfl
    · refine .none ?_ ?_ rfl
      · split <;> rfl
      · grind [contains_touch]
    · split
      · exact .none rfl (fun _ => rfl) rfl
      · exact endsOnly_consume client _ _

theorem endsOnly_handleOversizedFrame (correlatedId : Option String) (frame : JsonRpcNotification) :
    client.EndsOnly correlatedId (client.handleOversizedFrame config now correlatedId frame) := by
  unfold handleOversizedFrame
  split
  · split
    · exact .none rfl (fun _ => rfl) rfl
    · split <;> exact .none rfl (fun _ => rfl) rfl
  · have touched := contains_touch client now correlatedId
    simp only
    split
    · exact .none rfl touched rfl
    · exact (endsOnly_consume _ _ _).trans rfl touched
    · exact .none rfl touched rfl

theorem endsOnly_handleNotification (event : InboundEvent) :
    client.EndsOnly event.correlatedId (client.handleNotification config now event) := by
  unfold handleNotification
  split
  · split
    · split
      · exact .none rfl (contains_touch _ now _) rfl
      · split
        · exact (endsOnly_handleOversizedFrame config now _ _ _).trans rfl (fun _ => rfl)
        · exact (endsOnly_correlate config now _ event).trans rfl (fun _ => rfl)
    · exact (endsOnly_correlate config now _ event).trans rfl (fun _ => rfl)
  · exact .none rfl (fun _ => rfl) rfl

end

end ClientState

/-! What the steps of a send do about its request. -/

/-- The phases of a send in frames. -/
def SendPhase.framed : SendPhase → Bool
  | .resolved .. | .enlisted .. | .waiting .. | .streaming .. | .failing .. | .ended ..
  | .delisted .. => true
  | _ => false

/-- The requests that a step of a send takes back. -/
def Deed.removes : Deed → List String
  | .remove eventId => [eventId]
  | _ => []

section Steps

variable {config : ClientConfig} {client : ClientState} {index : Nat} {task : SendTask}
  {met : Circumstances} {before after : SendPhase} {deed : Deed}
variable {eventId : String}

theorem Deed.mem_notes_registering {message : JsonRpcMessage} (request : message.isRequest = true)
    (now : Nat) (eventId : String) : eventId ∈ (Deed.registering now eventId message).notes := by
  cases message with
  | request body => exact List.mem_singleton.mpr rfl
  | _ => cases request

theorem ClientState.contains_perform (client : ClientState) (index : Nat) (task : SendTask)
    (deed : Deed) (other : String) :
    (client.perform index task deed).pending.contains other =
      if other ∈ deed.notes then true
      else if other ∈ deed.evicts client.pending ∨ other ∈ deed.removes then false
      else client.pending.contains other := by
  cases deed with
  | register now eventId request =>
    simp only [perform, ClientCorrelationStore.contains, ClientCorrelationStore.register,
      Lru.peek_put, Deed.notes, Deed.evicts, Deed.removes]
    split
    · simp_all
    · split <;> simp_all
  | remove eventId =>
    refine (ClientCorrelationStore.contains_remove _ _ _).trans ?_
    simp [Deed.notes, Deed.evicts, Deed.removes]
  | _ => simp [perform, Deed.notes, Deed.evicts, Deed.removes]

theorem SendTask.Moves.framed (moves : task.Moves config met before after deed)
    (framed : after.framed = true) : before.framed = true ∨ task.token.isSome = true := by
  cases moves with
  | resolve needsAccept transfer token => exact .inr token
  | fail needsAccept token under => exact .inl (by cases before <;> first | rfl | cases under)
  | enlist | skip | knock | enter | resume | piece | close | leave => exact .inl rfl
  | _ => cases framed

theorem SendTask.Moves.unnoted (moves : task.Moves config met before after deed)
    (unnoted : before.unnoted = some eventId) :
    after.unnoted = some eventId ∨ deed = .registering met.now eventId task.message := by
  cases moves with
  | leave needsAccept token endId => exact .inl unnoted
  | pend endId =>
    cases unnoted
    exact .inr rfl
  | fail needsAccept token under =>
    cases before with
    | ended | delisted => cases under
    | _ => cases unnoted
  | _ => cases unnoted

theorem SendTask.Moves.registered
    (moves : task.Moves config met before (.registered eventId) deed) :
    deed = .registering met.now eventId task.message := by
  cases moves with
  | note => rfl

theorem SendTask.Moves.removes (moves : task.Moves config met before after deed)
    (member : eventId ∈ deed.removes) : before = .unpublished eventId := by
  have registering (now : Nat) (other : String) :
      eventId ∉ (registering now other task.message).removes := by
    cases task.message <;> exact List.not_mem_nil
  cases moves with
  | forget other =>
    cases List.mem_singleton.mp member
    rfl
  | note other | pend other => exact absurd member (registering _ _)
  | abandon needsAccept | leave needsAccept => cases needsAccept <;> cases member
  | _ => cases member

/-- A request that is published has been noted, or is yet to be. -/
theorem SendTask.Moves.answerable {published : PublishedEvent}
    (moves : task.Moves config met before after (.publish published))
    (answerable : published.answerable = some eventId) :
    (before = .registered eventId ∧ task.message.isRequest = true) ∨
      after.unnoted = some eventId := by
  generalize made : Deed.publish published = deed at moves
  cases moves with
  | publish other =>
    cases made
    obtain ⟨request, rfl⟩ := Option.ite_some_none_eq_some.mp answerable
    exact .inl ⟨rfl, request⟩
  | close needsAccept transfer =>
    cases made
    cases answerable
    exact .inr rfl
  | knock | enter | piece =>
    cases made
    cases answerable
  | note other | pend other => exact absurd made.symm (registering_ne_publish _ _ _ _)
  | abandon needsAccept | leave needsAccept => cases needsAccept <;> cases made
  | _ => cases made

end Steps

/-! Every request that is published is accounted for. -/

/-- A request is noted before it is published as one event, and after it is published in frames. -/
structure Requesting.Accounted (state : Requesting) : Prop where
  -- Only a request is sent in frames.
  framed : ∀ (index : Nat) (task : SendTask), state.client.tasks[index]? = some task →
    task.token.isSome = true ∨ task.phase.framed = true → task.message.isRequest = true
  registered : ∀ (index : Nat) (task : SendTask) (eventId : String),
    state.client.tasks[index]? = some task → task.phase = .registered eventId →
    task.message.isRequest = true →
    eventId ∈ state.lost ∨ state.client.pending.contains eventId = true
  published : ∀ eventId ∈ state.published, eventId ∉ state.lost →
    state.client.pending.contains eventId = true ∨
      ∃ (index : Nat) (task : SendTask), state.client.tasks[index]? = some task ∧
        task.phase.unnoted = some eventId

namespace Requesting

variable {config : ClientConfig} {state : Requesting}

section Step

variable {index : Nat} {task : SendTask} {met : Circumstances} {phase : SendPhase} {deed : Deed}
variable {eventId : String}

/-- A client after a step of one of its sends. -/
def stepped (state : Requesting) (index : Nat) (task : SendTask) (phase : SendPhase)
    (deed : Deed) : Requesting where
  client := { state.client.perform index task deed with
    tasks := state.client.tasks.set index { task with phase } }
  published := state.published ++ (deed.published.bind PublishedEvent.answerable).toList
  lost := (state.lost.filter fun eventId => eventId ∉ deed.notes) ++
    deed.evicts state.client.pending

theorem contains_of_notes (noted : eventId ∈ deed.notes) :
    (state.stepped index task phase deed).client.pending.contains eventId = true :=
  (state.client.contains_perform index task deed eventId).trans (if_pos noted)

theorem lost_or_contains
    (gone : eventId ∈ state.lost ∨ eventId ∈ deed.evicts state.client.pending) :
    eventId ∈ (state.stepped index task phase deed).lost ∨
      (state.stepped index task phase deed).client.pending.contains eventId = true := by
  by_cases noted : eventId ∈ deed.notes
  · exact .inr (contains_of_notes noted)
  · left
    rcases gone with old | new
    · exact List.mem_append_left _ (List.mem_filter.mpr ⟨old, decide_eq_true noted⟩)
    · exact List.mem_append_right _ new

theorem contains_or_lost (kept : eventId ∉ deed.removes)
    (pending : state.client.pending.contains eventId = true) :
    eventId ∈ (state.stepped index task phase deed).lost ∨
      (state.stepped index task phase deed).client.pending.contains eventId = true := by
  by_cases evicted : eventId ∈ deed.evicts state.client.pending
  · exact lost_or_contains (.inr evicted)
  · right
    refine (state.client.contains_perform index task deed eventId).trans ?_
    split
    · rfl
    · rw [if_neg (not_or.mpr ⟨evicted, kept⟩)]
      exact pending

theorem stepped_self (found : state.client.tasks[index]? = some task) :
    (state.stepped index task phase deed).client.tasks[index]? = some { task with phase } := by
  show (state.client.tasks.set index { task with phase })[index]? = some { task with phase }
  rw [getElem?_set_eq _ found, if_pos rfl]

section

variable (accounted : state.Accounted) (found : state.client.tasks[index]? = some task)
  (moves : task.Moves config met task.phase phase deed)
include accounted found moves

/-- A send that has yet to note its request still has to, or has noted it. -/
theorem unnoted_step {other : Nat} {row : SendTask}
    (read : state.client.tasks[other]? = some row) (unnoted : row.phase.unnoted = some eventId) :
    (state.stepped index task phase deed).client.pending.contains eventId = true ∨
      ∃ (place : Nat) (row : SendTask),
        (state.stepped index task phase deed).client.tasks[place]? = some row ∧
          row.phase.unnoted = some eventId := by
  by_cases same : other = index
  · subst same
    rw [found] at read
    cases read
    rcases moves.unnoted unnoted with still | noted
    · exact .inr ⟨other, { task with phase }, stepped_self found, still⟩
    · -- Only a request is sent in frames, so that it is noted.
      left
      have framed : task.phase.framed = true := by
        cases here : task.phase with
        | ended | delisted => rfl
        | _ =>
          rw [here] at unnoted
          cases unnoted
      refine contains_of_notes ?_
      rw [noted]
      exact mem_notes_registering (accounted.framed other task found (.inr framed)) _ _
  · refine .inr ⟨other, row, ?_, unnoted⟩
    show (state.client.tasks.set index { task with phase })[other]? = some row
    rw [getElem?_set_eq _ found, if_neg same, read]

/-- A step of a send keeps its request accounted for, and all the others. -/
theorem Accounted.stepped (apart : ∀ eventId, task.phase = .unpublished eventId →
      (eventId ∈ state.published → eventId ∈ state.lost) ∧
        ∀ (other : Nat) (task' : SendTask), other ≠ index →
          state.client.tasks[other]? = some task' → task'.phase ≠ .registered eventId) :
    (state.stepped index task phase deed).Accounted := by
  refine ⟨?_, ?_, ?_⟩
  · intro other row read framed
    rcases getElem?_set_cases found read with ⟨-, new⟩ | ⟨-, old⟩
    · subst new
      refine accounted.framed index task found ?_
      rcases framed with token | phased
      · exact .inl token
      · rcases moves.framed phased with before | token
        · exact .inr before
        · exact .inl token
    · exact accounted.framed other row old framed
  · intro other row eventId read registered request
    rcases getElem?_set_cases found read with ⟨-, new⟩ | ⟨different, old⟩
    · -- It has just been noted.
      subst new
      subst registered
      right
      refine contains_of_notes ?_
      rw [moves.registered]
      exact mem_notes_registering request _ _
    · rcases accounted.registered other row eventId old registered request with lost | pending
      · exact lost_or_contains (.inl lost)
      · refine contains_or_lost ?_ pending
        intro removed
        exact (apart eventId (moves.removes removed)).2 other row different old registered
  · intro eventId member present
    rcases List.mem_append.mp member with old | new
    · by_cases lost : eventId ∈ state.lost
      · exact .inl ((lost_or_contains (.inl lost)).resolve_left present)
      · rcases accounted.published eventId old lost with pending | ⟨other, row, read, unnoted⟩
        · refine .inl ((contains_or_lost ?_ pending).resolve_left present)
          intro removed
          exact lost ((apart eventId (moves.removes removed)).1 old)
        · exact unnoted_step accounted found moves read unnoted
    · -- It is published by this step.
      cases deed with
      | publish published =>
        have answerable : published.answerable = some eventId := by
          simpa [Deed.published] using new
        rcases moves.answerable answerable with ⟨registered, request⟩ | unnoted
        · rcases accounted.registered index task eventId found registered request with
            lost | pending
          · exact .inl ((lost_or_contains (.inl lost)).resolve_left present)
          · exact .inl ((contains_or_lost List.not_mem_nil pending).resolve_left present)
        · exact .inr ⟨index, { task with phase }, stepped_self found, unnoted⟩
      | _ => simp [Deed.published] at new

end

end Step

/-- What leaves the sends alone, and loses some requests, keeps the others accounted for. -/
theorem Accounted.lose (accounted : state.Accounted) {client : ClientState} {loses : List String}
    (tasks : client.tasks = state.client.tasks)
    (contains : ∀ other, client.pending.contains other =
      if other ∈ loses then false else state.client.pending.contains other) :
    Accounted
      { client
        published := state.published ++ []
        lost := (state.lost.filter fun eventId => eventId ∉ ([] : List String)) ++ loses } := by
  -- What is not lost is pending if it was.
  have kept (eventId : String) (pending : state.client.pending.contains eventId = true) :
      eventId ∈ loses ∨ client.pending.contains eventId = true := by grind
  have before (eventId : String) (lost : eventId ∈ state.lost) :
      eventId ∈ (state.lost.filter fun eventId => eventId ∉ ([] : List String)) ++ loses :=
    List.mem_append_left _ (List.mem_filter.mpr ⟨lost, decide_eq_true List.not_mem_nil⟩)
  refine ⟨?_, ?_, ?_⟩
  · rw [tasks]
    exact accounted.framed
  · rw [tasks]
    intro index task eventId read registered request
    rcases accounted.registered index task eventId read registered request with lost | pending
    · exact .inl (before eventId lost)
    · rcases kept eventId pending with gone | still
      · exact .inl (List.mem_append_right _ gone)
      · exact .inr still
  · intro eventId member present
    rw [List.append_nil] at member
    have old : eventId ∉ state.lost := fun lost => present (before eventId lost)
    rw [tasks]
    rcases accounted.published eventId member old with pending | unnoted
    · simp_all
    · exact .inr unnoted

/-- A message that begins to be sent leaves the requests accounted for. -/
theorem Accounted.begin (accounted : state.Accounted) (message : JsonRpcMessage) :
    Accounted
      { client := { state.client with
          tasks := state.client.tasks ++ [state.client.compose config message] }
        published := state.published ++ []
        lost := (state.lost.filter fun eventId => eventId ∉ ([] : List String)) ++ [] } := by
  have idle : Accounted
      { client := state.client
        published := state.published ++ []
        lost := (state.lost.filter fun eventId => eventId ∉ ([] : List String)) ++ [] } :=
    accounted.lose rfl (fun other => rfl)
  obtain ⟨framed, registered, published⟩ := idle
  refine ⟨?_, ?_, ?_⟩
  · intro index task read either
    rcases getElem?_append_singleton read with old | ⟨-, same⟩
    · exact framed index task old either
    · -- Only a request gets a token.
      subst same
      rcases either with token | phased
      · cases message with
        | request body => rfl
        | _ => cases token
      · cases phased
  · intro index task eventId read here request
    rcases getElem?_append_singleton read with old | ⟨-, same⟩
    · exact registered index task eventId old here request
    · subst same
      cases here
  · intro eventId member present
    rcases published eventId member present with pending | ⟨index, task, read, unnoted⟩
    · exact .inl pending
    · refine .inr ⟨index, task, ?_, unnoted⟩
      rw [List.getElem?_append_left (List.getElem?_eq_some_iff.mp read).1]
      exact read

/-- Whatever happens in good time, the requests stay accounted for. -/
theorem Accounted.step (accounted : state.Accounted) {action : ClientAction} {after : Requesting}
    (timely : state.InGoodTime config action) (taken : state.step config action = some after) :
    after.Accounted := by
  obtain ⟨⟨client, event⟩, stepped, same⟩ := Option.map_eq_some_iff.mp taken
  subst same
  cases action with
  | send message =>
    simp only [ClientState.step] at stepped
    split at stepped
    · cases stepped
      exact accounted.lose rfl (fun other => rfl)
    · cases stepped
      exact accounted.begin message
  | advance index met =>
    obtain ⟨task, phase, deed, found, advanced, made⟩ := step_advance stepped
    cases made
    have deeds : state.client.deedOf config index met = deed := by
      simp [deedOf, found, advanced]
    have kept := accounted.stepped found (SendTask.moves_of_advance advanced) fun eventId here =>
      timely task eventId found here
    simp only [ClientState.notes, ClientState.loses, deeds]
    exact kept
  | handle now event =>
    cases stepped
    obtain ⟨tasks, contains⟩ := endsOnly_handleNotification config now state.client event
    exact accounted.lose tasks contains
  | sweep now timeout =>
    cases stepped
    refine accounted.lose rfl ?_
    intro other
    simp only [contains, sweepExpired, Lru.peek_foldl_pop, loses]
    split <;> simp_all
  | touch now eventId =>
    cases stepped
    exact accounted.lose rfl (contains_touch state.client now (some eventId))

theorem Accounted.reached {maxPending : Nat} {pmis : List String}
    {requested : Option PaymentInteractionMode}
    (reached : Reaches (Requesting.step config) (InGoodTime config)
      (start config maxPending pmis requested) state) : state.Accounted := by
  refine Reaches.invariant reached ?_ ?_
  · refine ⟨?_, ?_, ?_⟩
    · intro index task read
      cases read
    · intro index task eventId read
      cases read
    · intro eventId member
      cases member
  · intro before action after _ accounted timely taken
    exact accounted.step timely taken

end Requesting

/-! A response is taken for one. -/

theorem id_of_response {value : Json} (parsed : parseMessage value = some message)
    (response : message.isResponse = true) :
    ∃ id, value.get "id" = some id := by
  cases found : value.get "id" with
  | some id => exact ⟨id, rfl⟩
  | none =>
    -- Without an id, only a notification is left.
    have noRequest : parseRequest value = none := by
      cases version : (value.get "jsonrpc").bind Json.asStr <;> simp [parseRequest, version, found]
    have noResponse : parseResponse value = none := by
      cases version : (value.get "jsonrpc").bind Json.asStr <;> simp [parseResponse, version, found]
    have noError : parseErrorResponse value = none := by
      cases version : (value.get "jsonrpc").bind Json.asStr <;>
        simp [parseErrorResponse, version, found]
    simp [parseMessage, noRequest, noResponse, noError] at parsed
    obtain ⟨body, -, rfl⟩ := parsed
    cases response

theorem parseNotification_of_response {value : Json} (parsed : parseMessage value = some message)
    (response : message.isResponse = true) :
    parseNotification value = none := by
  obtain ⟨id, found⟩ := id_of_response parsed response
  cases read : parseNotification value with
  | none => rfl
  | some notification =>
    -- With an id, a version and a method it reads as a request, which is tried first.
    have request : ∃ body, parseRequest value = some body := by
      obtain ⟨version, versioned, rest⟩ := Option.bind_eq_some_iff.mp read
      obtain ⟨method, named, -⟩ := Option.bind_eq_some_iff.mp rest
      exact ⟨_, by simp [parseRequest, versioned, found, named]; rfl⟩
    obtain ⟨body, isRequest⟩ := request
    simp [parseMessage, isRequest] at parsed
    subst parsed
    cases response

theorem progressNotification_of_response {serde : SerdeJson} {content : String}
    (parsed : validateAndParse serde content = some message)
    (response : message.isResponse = true) : progressNotification serde content = none := by
  unfold validateAndParse validateAndParseOversized at parsed
  split at parsed
  · cases parsed
  · obtain ⟨value, read, valid⟩ := Option.bind_eq_some_iff.mp parsed
    unfold validateMessage at valid
    split at valid
    · rw [progressNotification, read, Option.bind_some,
        parseNotification_of_response valid response]
      rfl
    · cases valid

theorem ClientState.answered_of_contains {config : ClientConfig} {client : ClientState}
    {event : InboundEvent} {eventId : String}
    (delivers : Requesting.Delivers config event eventId message) (now : Nat)
    (pending : client.pending.contains eventId = true) :
    ∃ entry, (client.handleNotification config now event).2 = .answered (some entry) message := by
  obtain ⟨taken, server, correlated, parsed, response⟩ := delivers
  obtain ⟨entry, found⟩ := Option.isSome_iff_exists.mp pending
  refine ⟨entry, ?_⟩
  have gate : (client.learnServerDiscovery event).pending.contains eventId = true := pending
  have noFrame := progressNotification_of_response parsed response
  simp only [handleNotification, taken, server, and_self, if_true, noFrame, correlate, correlated,
    Option.any_some, gate, parsed]
  -- The gate is passed, and the response ends the request.
  cases message with
  | response body | errorResponse body =>
    simp [consumeTerminalResponse, ClientCorrelationStore.remove, learnServerDiscovery, found]
  | request body | notification body => cases response

/--
In every run in which no response is taken in before its request is noted as pending, and no failed
send takes back another one's request, a response to a published request that was not swept,
evicted or answered is handed over with the request it is for.
-/
theorem response_answered_of_inGoodTime (config : ClientConfig) (maxPending : Nat)
    (pmis : List String) (requested : Option PaymentInteractionMode) (state : Requesting)
    (reached : Reaches (Requesting.step config) (Requesting.InGoodTime config)
      (.start config maxPending pmis requested) state)
    (now : Nat) (event : InboundEvent) (timely : state.InGoodTime config (.handle now event))
    (eventId : String) (message : JsonRpcMessage)
    (delivers : Requesting.Delivers config event eventId message)
    (published : eventId ∈ state.published) (present : eventId ∉ state.lost) :
    ∃ entry, (state.client.handleNotification config now event).2 =
      .answered (some entry) message := by
  have accounted := Requesting.Accounted.reached reached
  rcases accounted.published eventId published present with pending | ⟨index, task, read, unnoted⟩
  · exact answered_of_contains delivers now pending
  · exact absurd unnoted (timely eventId message delivers index task read)

/-- The server says that it takes transfers, in an event that says nothing else. -/
def advertisement : InboundEvent := ⟨none, "server", [[supportOversizedTransfer]], ""⟩

/-- The response to the request that ended with a given event. -/
def reply (eventId : String) : InboundEvent := ⟨none, "server", [["e", eventId]], replyText⟩

/-- The message in it. -/
def replyMessage : JsonRpcMessage := .response ⟨"2.0", .ofU64 2, .object []⟩

theorem delivers_reply (eventId : String) :
    Requesting.Delivers callingClient (reply eventId) eventId replyMessage :=
  ⟨rfl, rfl, rfl,
    show validateAndParse callPrimitives.serde replyText = some replyMessage by decide,
    rfl⟩

/-- A request is sent in frames, up to the last of them. -/
def sendsInFrames : List ClientAction :=
  [.handle 0 advertisement, .send (toolCallWith 2 "7"), .advance 0 ⟨0, "", true⟩,
    .advance 0 ⟨0, "", true⟩, .advance 0 ⟨0, "start", true⟩, .advance 0 ⟨0, "chunk", true⟩,
    .advance 0 ⟨0, "end", true⟩]

/-- The request is published and not lost, whether or not it is noted as pending. -/
def Requesting.isOpen (state : Requesting) : Bool := "end" ∈ state.published ∧ "end" ∉ state.lost

/-- Nothing but advertisements is taken in, and no send fails to be published. -/
def Requesting.undisturbed (state : Requesting) : ClientAction → Bool
  | .handle _ event => event.content = ""
  | .advance index _ => (state.client.tasks[index]?).all fun task =>
      match task.phase with
      | .unpublished _ => false
      | _ => true
  | _ => true

theorem inGoodTime_of_undisturbed {state : Requesting} (action : ClientAction)
    (undisturbed : state.undisturbed action = true) : state.InGoodTime callingClient action := by
  cases action with
  | handle now event =>
    -- The empty text holds no response.
    intro eventId message delivers
    have parsed := delivers.parsed
    rw [of_decide_eq_true undisturbed] at parsed
    cases parsed
  | advance index met =>
    intro task eventId found here
    simp [Requesting.undisturbed, found, here] at undisturbed
  | _ => trivial

/-- A response that comes when its request is noted is handed over with it. -/
theorem response_answered_of_inGoodTime_noted :
    ∃ state, Reaches (Requesting.step callingClient) (Requesting.InGoodTime callingClient)
        (.start callingClient 10 [] none) state ∧
      state.isOpen = true ∧
      ∃ entry, (state.client.handleNotification callingClient 0 (reply "end")).2 =
        .answered (some entry) replyMessage := by
  refine Reaches.exists_of_any (fun _ => inGoodTime_of_undisturbed)
    (sendsInFrames ++ [.advance 0 ⟨0, "", true⟩, .advance 0 ⟨0, "", true⟩])
    (fun state => state.isOpen ∧ state.client.tasks.all fun task => task.phase.unnoted = none)
    (by decide +kernel) ?_
  rintro state reached ⟨isOpen, noted⟩
  obtain ⟨published, present⟩ := of_decide_eq_true isOpen
  refine ⟨isOpen, response_answered_of_inGoodTime callingClient 10 [] none state
    reached 0 (reply "end") ?_ "end" replyMessage (delivers_reply "end") published present⟩
  -- No send has yet to note its request.
  intro eventId message _ index task read
  rw [of_decide_eq_true (List.all_eq_true.mp noted task (List.mem_of_getElem? read))]
  exact nofun

/-- A response that comes right after the last frame is discarded as unknown. -/
theorem response_unknown_before_registration :
    ∃ state, Reaches (Requesting.step callingClient) Unrestricted
        (.start callingClient 10 [] none) state ∧
      state.isOpen = true ∧ Requesting.Delivers callingClient (reply "end") "end" replyMessage ∧
      (state.client.handleNotification callingClient 0 (reply "end")).2 = .unknown := by
  refine Reaches.exists_of_run sendsInFrames
    (fun state => state.isOpen ∧
      (state.client.handleNotification callingClient 0 (reply "end")).2 = .unknown)
    (by decide +kernel) ?_
  rintro state - ⟨isOpen, unknown⟩
  exact ⟨isOpen, delivers_reply "end", unknown⟩

end ContextVm
