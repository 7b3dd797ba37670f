import ContextVm.Transport.StreamSlots

/-! The response of a call that streams, and the end of its stream. -/

namespace ContextVm

/-- How far the end of a stream has come. -/
inductive StreamEnd where
  | running
  -- The writer is closed or aborted, and then its last frame was given to the relays.
  | claimed
  | attempted
  -- The slot is marked, and perhaps its response taken, with what it is addressed by.
  | flushing (ready : Option (RouteSnapshot × String × JsonRpcMessage))
  | removed (snapshot : RouteSnapshot) (response : JsonRpcMessage)
  | done
  deriving DecidableEq

namespace StreamEnd

/-- Whether the last frame was given to the relays. -/
def isAttempted (ending : StreamEnd) : Bool := ending ≠ .running ∧ ending ≠ .claimed

/-- Whether the slot was marked. -/
def isMarked (ending : StreamEnd) : Bool := ending.isAttempted ∧ ending ≠ .attempted

/-- The response that was taken from the slot and is yet to be published. -/
def carried : StreamEnd → List (RouteSnapshot × JsonRpcMessage)
  | .flushing (some (snapshot, _, response)) | .removed snapshot response => [(snapshot, response)]
  | _ => []

end StreamEnd

/-- How far the response has come, and whether the stream had started when it was looked at. -/
inductive CallAnswer where
  | waiting
  | decided (started : Bool) (deferral : OpenStreamDeferral)
  | done (started : Bool)
  deriving DecidableEq

namespace CallAnswer

/-- Whether the stream had started when the slot was looked at, if it was. -/
def examined : CallAnswer → Option Bool
  | .waiting => none
  | .decided started _ | .done started => some started

/-- The response on its way out by the snapshot. -/
def carried (response : JsonRpcMessage) : CallAnswer → List (RouteSnapshot × JsonRpcMessage)
  | .decided _ (.sendNow snapshot) => [(snapshot, response)]
  | _ => []

/-- The response on its way out by the route. -/
def routing (response : JsonRpcMessage) : CallAnswer → List JsonRpcMessage
  | .decided _ .passthrough => [response]
  | _ => []

end CallAnswer

/-- A call whose tool holds the writer of a stream. -/
structure StreamedCall where
  streams : ServerOpenStreamState
  -- Whether the writer has started, and whether the slot in the table is the one that it is in.
  started : Bool
  own : Bool
  ending : StreamEnd
  answer : CallAnswer
  -- What went out by the snapshot, and by the route.
  published : List (RouteSnapshot × JsonRpcMessage)
  routed : List JsonRpcMessage

/-- What the tool, the end of its stream, its response and further deliveries do. -/
inductive CallAction where
  | start
  | redeliver (token : String) (snapshot : RouteSnapshot)
  | claim
  | attempt
  | mark
  | remove
  | publish
  | examine
  | finish

namespace ServerOpenStreamState

/-- The first part of the end of a stream marks the slot and takes its response. -/
def markTerminated (state : ServerOpenStreamState) (eventId : String) :
    Option (RouteSnapshot × String × JsonRpcMessage) × ServerOpenStreamState :=
  match state.slots.lookup eventId with
  | none => (none, state)
  | some slot =>
    (slot.pendingResponse.map fun response => (slot.snapshot, slot.progressToken, response),
      { state with slots :=
          state.slots.insert eventId { slot with terminated := true, pendingResponse := none } })

/-- The second part gives the slot of a response up that was taken. -/
def removeEnded (state : ServerOpenStreamState) (eventId : String) (snapshot : RouteSnapshot)
    (token : String) : ServerOpenStreamState where
  slots := state.slots.erase eventId
  tokenToEvent := state.tokenToEvent.erase (clientTokenKey snapshot.clientPubkey token)

/-- The response that waits in the slot of an event. -/
def stashed (state : ServerOpenStreamState) (eventId : String) :
    List (RouteSnapshot × JsonRpcMessage) :=
  ((state.slots.lookup eventId).bind fun slot => slot.pendingResponse.map (slot.snapshot, ·)).toList

end ServerOpenStreamState

namespace StreamedCall

/-- One step. -/
def step (forms : HexForms) (eventId : String) (response : JsonRpcMessage) (call : StreamedCall) :
    CallAction → Option StreamedCall
  | .start => some { call with
      started := true
      streams := if call.own then call.streams.startWriter eventId else call.streams }
  | .redeliver token snapshot => some { call with
      streams := call.streams.createOpenStreamWriter forms eventId token snapshot }
  | .claim => if call.ending = .running then some { call with ending := .claimed } else none
  | .attempt => if call.ending = .claimed then some { call with ending := .attempted } else none
  | .mark =>
    if call.ending = .attempted then
      some { call with
        streams := (call.streams.markTerminated eventId).2
        ending := .flushing (call.streams.markTerminated eventId).1 }
    else none
  | .remove =>
    match call.ending with
    | .flushing (some (snapshot, token, taken)) => some { call with
        streams := call.streams.removeEnded eventId snapshot token
        own := false
        ending := .removed snapshot taken }
    -- Without a response the slot is left to it.
    | .flushing none => some { call with ending := .done }
    | _ => none
  | .publish =>
    match call.ending with
    | .removed snapshot taken =>
      some { call with published := call.published ++ [(snapshot, taken)], ending := .done }
    | _ => none
  | .examine =>
    if call.answer = .waiting then
      let (deferral, streams) := call.streams.tryDeferOpenStreamResponse eventId response
      some { call with
        streams
        own := call.own && (streams.slots.lookup eventId).isSome
        answer := .decided call.started deferral }
    else none
  | .finish =>
    match call.answer with
    | .decided started .passthrough =>
      some { call with routed := call.routed ++ [response], answer := .done started }
    | .decided started (.sendNow snapshot) =>
      some
        { call with
          published := call.published ++ [(snapshot, response)]
          answer := .done started }
    | .decided started .deferred => some { call with answer := .done started }
    | _ => none

/-- A call whose writer has a slot, and has not started. -/
def start (streams : ServerOpenStreamState) : StreamedCall :=
  ⟨streams, false, true, .running, .waiting, [], []⟩

open ServerOpenStreamState CallAnswer

variable {forms : HexForms} {eventId : String} {response : JsonRpcMessage}
  {snapshot : RouteSnapshot} {call after : StreamedCall} {action : CallAction}

/--
The response is in one place at a time.

It is in the slot, with the end of the stream, with the call that answers, or out.
-/
structure Conserved (eventId : String) (snapshot : RouteSnapshot) (response : JsonRpcMessage)
    (call : StreamedCall) : Prop where
  held : call.published ++ call.ending.carried ++ call.streams.stashed eventId ++
      call.answer.carried response =
    if call.answer.examined = some true then [(snapshot, response)] else []
  routed : call.routed ++ call.answer.routing response =
    if call.answer.examined = some false then [response] else []
  -- Nothing is taken out of the slot before the last frame, and nothing put there after.
  late : call.published ++ call.ending.carried ++ call.answer.carried response ≠ [] →
    call.ending.isAttempted = true
  stash : call.streams.stashed eventId ≠ [] → call.ending.isMarked = false
  -- Until the response is there, the slot is that of the writer.
  own : call.answer = .waiting → call.own = true ∧
    ∃ slot, call.streams.slots.lookup eventId = some slot ∧ slot.snapshot = snapshot ∧
      slot.hasStarted = call.started ∧ slot.terminated = call.ending.isMarked

/-- The end of a stream takes the stashed response along. -/
theorem mark_takes (streams : ServerOpenStreamState) (eventId : String) :
    (StreamEnd.flushing (streams.markTerminated eventId).1).carried = streams.stashed eventId ∧
      (streams.markTerminated eventId).2.stashed eventId = [] := by
  cases found : streams.slots.lookup eventId with
  | none =>
    simp [markTerminated, stashed, found, StreamEnd.carried]
  | some slot =>
    cases waiting : slot.pendingResponse with
    | none | some response =>
      simp [markTerminated, stashed, found, waiting, StreamEnd.carried]

/-- Nothing loses the response or makes another one of it. -/
theorem Conserved.step (conserved : call.Conserved eventId snapshot response)
    (taken : step forms eventId response call action = some after) :
    after.Conserved eventId snapshot response := by
  obtain ⟨held, routed, late, stash, own⟩ := conserved
  cases action with
  | start =>
    cases taken
    have same : (if call.own then call.streams.startWriter eventId else call.streams).stashed
        eventId = call.streams.stashed eventId := by
      split
      · rw [startWriter, stashed, lookup_update, stashed]
        cases call.streams.slots.lookup eventId <;> rfl
      · rfl
    refine ⟨by simpa [same] using held, routed, late, by simpa [same] using stash, ?_⟩
    intro waiting
    obtain ⟨owned, slot, found, address, -, marked⟩ := own waiting
    refine ⟨owned, { slot with hasStarted := true }, ?_, address, rfl, marked⟩
    simp only [owned, if_true, startWriter]
    rw [lookup_update, found]
    rfl
  | redeliver token addressed =>
    cases taken
    unfold createOpenStreamWriter
    split
    · split
      · exact ⟨held, routed, late, stash, own⟩
      · -- Where there was no slot there was no response, and the answer is known.
        rename_i absent
        refine ⟨by simpa [stashed, absent] using held, routed, late, by simp [stashed], ?_⟩
        intro waiting
        obtain ⟨-, slot, found, -⟩ := own waiting
        simp [absent] at found
    · exact ⟨held, routed, late, stash, own⟩
  | claim | attempt =>
    obtain ⟨phase, rfl⟩ := Option.ite_some_none_eq_some.mp taken
    simp only [phase, StreamEnd.carried] at held late stash own
    exact ⟨held, routed, fun some => absurd (late some) (by decide), fun _ => rfl, own⟩
  | mark =>
    obtain ⟨phase, rfl⟩ := Option.ite_some_none_eq_some.mp taken
    obtain ⟨moved, empty⟩ := mark_takes call.streams eventId
    simp only [phase, StreamEnd.carried, List.append_nil] at held
    refine ⟨by simpa [moved, empty] using held, routed, fun _ => rfl, by simp [empty], ?_⟩
    intro waiting
    obtain ⟨owned, slot, found, address, started, -⟩ := own waiting
    refine ⟨owned, { slot with terminated := true, pendingResponse := none }, ?_, address, started,
      rfl⟩
    simp [markTerminated, found]
  | remove =>
    simp only [StreamedCall.step] at taken
    split at taken
    · rename_i addressed token answer phase
      cases taken
      -- The slot was marked, so its response has been taken.
      have empty : call.streams.stashed eventId = [] := by
        grind [StreamEnd.isMarked, StreamEnd.isAttempted]
      have gone : (call.streams.removeEnded eventId addressed token).stashed eventId = [] := by
        simp [stashed, removeEnded]
      simp only [phase, empty] at held
      refine ⟨by rw [gone]; exact held, routed, fun _ => rfl, by simp [gone], fun waiting => ?_⟩
      have waiting : call.answer = .waiting := waiting
      simp [StreamEnd.carried, waiting, examined] at held
    · rename_i phase
      cases taken
      simp only [phase] at held stash own
      exact ⟨held, routed, fun _ => rfl, stash, own⟩
    · cases taken
  | publish =>
    simp only [StreamedCall.step] at taken
    split at taken
    · rename_i addressed answer phase
      cases taken
      simp only [phase] at held stash own
      exact ⟨by simpa [StreamEnd.carried] using held, routed, fun _ => rfl, stash, own⟩
    · cases taken
  | examine =>
    simp only [StreamedCall.step] at taken
    split at taken
    · rename_i waiting
      obtain ⟨-, slot, found, address, started, marked⟩ := own waiting
      -- So far the response is nowhere.
      simp only [waiting, examined, CallAnswer.carried, routing,
        reduceCtorEq, if_false, List.append_eq_nil_iff, and_true] at held routed
      obtain ⟨⟨unpublished, untaken⟩, -⟩ := held
      simp only [tryDeferOpenStreamResponse, found] at taken
      have gone : (call.streams.release eventId slot).stashed eventId = [] := by
        simp [stashed, release]
      split at taken
      · rename_i unstarted
        cases taken
        refine ⟨?_, ?_, ?_, by simp [gone], fun waiting => by cases waiting⟩ <;>
          simp [unpublished, untaken, gone, routed, ← started, unstarted, examined,
            CallAnswer.carried, routing]
      · rename_i begun
        have begun : call.started = true := by simpa [started] using begun
        split at taken
        · rename_i terminated
          cases taken
          refine ⟨?_, ?_, ?_, by simp [gone], fun waiting => by cases waiting⟩
          · simp [unpublished, untaken, gone, begun, address, examined, CallAnswer.carried]
          · simp [routed, begun, examined, routing]
          · rw [terminated] at marked
            intro _
            exact (of_decide_eq_true marked.symm).1
        · rename_i running
          cases taken
          refine ⟨?_, ?_, ?_, ?_, fun waiting => by cases waiting⟩
          · simp [unpublished, untaken, begun, address, stashed, examined, CallAnswer.carried]
          · simp [routed, begun, examined, routing]
          · simp [unpublished, untaken, CallAnswer.carried]
          · grind
    · cases taken
  | finish =>
    simp only [StreamedCall.step] at taken
    split at taken
    · rename_i begun phase
      cases taken
      simp only [phase, CallAnswer.carried] at held routed late
      exact ⟨held, by simpa [routing, examined] using routed, late, stash,
        fun waiting => by cases waiting⟩
    · rename_i begun addressed phase
      cases taken
      simp only [phase, CallAnswer.carried] at held routed late
      have attempted := late (by simp)
      refine ⟨?_, routed, fun _ => attempted, stash, fun waiting => by cases waiting⟩
      cases begun with
      | false => simp [examined] at held
      | true =>
        -- It is all there is, so nothing was out before.
        have nowhere := List.append_inj_left' (held.trans (List.nil_append _).symm) rfl
        simp only [List.append_eq_nil_iff] at nowhere
        simpa [nowhere, CallAnswer.carried, examined] using held
    · rename_i begun phase
      cases taken
      simp only [phase, CallAnswer.carried] at held routed late
      exact ⟨held, routed, late, stash, fun waiting => by cases waiting⟩
    · cases taken

/--
The response of a call goes out once.

If the stream had not started when the slot was looked at, it goes out by the route. Otherwise it
goes out by the snapshot, after the last frame of the stream, and once both the stream and the call
are done it has, and is not left in the slot.
-/
theorem streamed_response_once {streams : ServerOpenStreamState} {slot : OpenStreamSlot}
    (found : streams.slots.lookup eventId = some slot)
    (fresh : slot.hasStarted = false ∧ slot.pendingResponse = none ∧ slot.terminated = false)
    (reached : Reaches (step forms eventId response) Unrestricted (start streams) call) :
    (call.answer.examined ≠ some true → call.published = []) ∧
    (call.answer.examined ≠ some false → call.routed = []) ∧
    (call.answer = .done false → call.routed = [response]) ∧
    call.published.length ≤ 1 ∧ (call.published ≠ [] → call.ending.isAttempted = true) ∧
    (call.answer = .done true → call.ending = .done →
      call.published = [(slot.snapshot, response)] ∧ call.streams.stashed eventId = []) := by
  have conserved : call.Conserved eventId slot.snapshot response := by
    refine reached.invariant ⟨?_, rfl, by simp [start, StreamEnd.carried, CallAnswer.carried],
      fun _ => rfl, fun _ => ⟨rfl, slot, found, rfl, fresh.1, fresh.2.2⟩⟩
      fun _ _ _ _ conserved _ taken => conserved.step taken
    simp [start, StreamEnd.carried, CallAnswer.carried, stashed, found, fresh.2.1, examined]
  obtain ⟨held, routed, late, stash, -⟩ := conserved
  refine ⟨?_, ?_, ?_, ?_, ?_, ?_⟩
  · grind [List.append_eq_nil_iff]
  · grind [List.append_eq_nil_iff]
  · intro answered
    simpa [answered, routing, examined] using routed
  · grind [List.length, List.length_append, List.length_singleton, List.length_nil]
  · simp_all
  · intro answered ended
    have empty : call.streams.stashed eventId = [] := by
      by_contra some
      have unmarked := stash some
      rw [ended] at unmarked
      cases unmarked
    simp only [answered, ended, empty, StreamEnd.carried, CallAnswer.carried, List.append_nil,
      examined, if_true] at held
    exact ⟨held, empty⟩

/-- The first slot of a server is the one that was made. -/
theorem lookup_firstWriter {token : String} {snapshot : RouteSnapshot}
    (valid : forms.isPublicKey snapshot.clientPubkey = true ∧ forms.isEventId eventId = true) :
    (ServerOpenStreamState.empty.createOpenStreamWriter forms eventId token snapshot).slots.lookup
      eventId = some ⟨token, false, snapshot, none, false, false, 0⟩ := by
  rw [createOpenStreamWriter, if_pos valid]
  exact AList.lookup_insert _

open SlotHistory (sampleForms sampleResponse)

/-- A response that waits in the slot of a started stream goes out by the snapshot at its end. -/
theorem streamed_response_once_stashed : ∃ (streams : ServerOpenStreamState) (call : StreamedCall),
    streams = ServerOpenStreamState.empty.createOpenStreamWriter sampleForms firstEvent "0"
        ⟨aliceKey, .ofU64 1, false, none⟩ ∧
      Reaches (step sampleForms firstEvent sampleResponse) Unrestricted (start streams) call ∧
      call.ending = .done ∧
      call.published = [(⟨aliceKey, .ofU64 1, false, none⟩, sampleResponse)] := by
  let streams := ServerOpenStreamState.empty.createOpenStreamWriter sampleForms firstEvent "0"
    ⟨aliceKey, .ofU64 1, false, none⟩
  obtain ⟨call, reached, done, answered⟩ := Reaches.of_run
    [.start, .examine, .claim, .attempt, .finish, .mark, .remove, .publish]
    (fun call => call.ending = .done ∧ call.answer = .done true)
    (show (execute (step sampleForms firstEvent sampleResponse) (start streams) _).any _ = true
      by decide +kernel)
  have found : streams.slots.lookup firstEvent =
      some ⟨"0", false, ⟨aliceKey, .ofU64 1, false, none⟩, none, false, false, 0⟩ :=
    lookup_firstWriter (by decide)
  have once := streamed_response_once found ⟨rfl, rfl, rfl⟩ reached
  exact ⟨streams, call, rfl, reached, done, (once.2.2.2.2.2 answered done).1⟩

end StreamedCall

end ContextVm
