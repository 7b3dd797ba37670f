import ContextVm.OpenStream.Protocol

/-! What a writer publishes is what the reader at the other end hands out. -/

namespace ContextVm.OpenStream

open Stage

/-! Both sides. -/

/-- A writer and the registry at the other end, with what has happened between them. -/
structure Streaming where
  writer : OpenStreamWriter
  registry : OpenStreamRegistry
  -- What was published, and what of it has not been delivered yet.
  published : List JsonRpcNotification
  wire : List JsonRpcNotification
  -- The data of the writes that were published.
  written : List String
  -- What the registry has answered, and what the stream has yielded to its consumer.
  outcomes : List (Except OpenStreamError FrameOutcome)
  yielded : List (Option (Except OpenStreamError String))

/-- What happens on either side. -/
inductive StreamingAction where
  | perform (operation : WriterOperation) (outcomes : PublishOutcomes)
  | deliver (now : Nat)
  | poll
  deriving DecidableEq

namespace Streaming

/-- Nothing has happened yet. -/
def new (policy : OpenStreamRegistryPolicy) (token : String) (contentType : Option String) :
    Streaming where
  writer := .new token contentType
  registry := .withPolicy policy
  published := []
  wire := []
  written := []
  outcomes := []
  yielded := []

/-- The data that the consumer has. -/
def received (state : Streaming) : List String :=
  state.yielded.filterMap fun item => item.bind Except.toOption

/-- An operation of the writer, a delivery, or a poll of the consumer who holds the first reader. -/
def step (serde : SerdeJson) (arithmetic : Arithmetic) (state : Streaming) :
    StreamingAction → Option Streaming
  | .perform operation outcomes =>
    let answer := state.writer.perform outcomes operation
    some { state with
      writer := answer.writer
      published := state.published ++ answer.published
      wire := state.wire ++ answer.published
      written := state.written ++ operation.written state.writer answer }
  | .deliver now =>
    match state.wire with
    | [] => none
    | notification :: rest =>
      (state.registry.processFrame serde arithmetic now notification).map fun (outcome, registry) =>
        { state with registry, wire := rest, outcomes := state.outcomes ++ [outcome] }
  | .poll => do
    let session ← state.registry.made[0]?
    let (polled, after) ← session.pollNext arithmetic
    return { state with
      registry := { state.registry with made := state.registry.made.set 0 after }
      yielded := match polled with
        | .ready item => state.yielded ++ [item]
        | .pending => state.yielded }

/-- Whether the consumer has left room for what is delivered next. -/
def roomy (serde : SerdeJson) (state : Streaming) : Bool :=
  match state.wire.head?.map (parseFrame serde), state.registry.made[0]? with
  | some (.ok (_, _, .chunk _ data)), some session =>
    decide (session.queue.length < session.options.maxBufferedChunks.toNat ∧
      session.queuedBytes + data.utf8ByteSize ≤ session.options.maxBufferedBytes.toNat)
  | _, _ => true

/--
What the callers and the consumer see to, for progress values that are signed words.

Every operation has to leave room for two frames, which is what a write or a close publishes that
starts the stream; for those that publish one this is stricter by one value.
-/
def permits (serde : SerdeJson) (state : Streaming) : StreamingAction → Bool
  | .perform operation _ =>
    operation.ready state.writer && decide (state.writer.progress.toNat + 2 < 2 ^ 63)
  | .deliver _ => state.roomy serde
  | .poll => true

/-- The two sides agree on the stream between them. -/
structure Agrees (policy : OpenStreamRegistryPolicy) (token : String) (state : Streaming)
    (delivered inFlight : List (UInt64 × OpenStreamFrame)) (reader writer : Stage)
    (taken : List String) (ends : Nat) : Prop where
  published : state.published = (delivered ++ inFlight).map (notify token)
  wire : state.wire = inFlight.map (notify token)
  reads : Stage.fresh.follow delivered = some reader
  writes : reader.follow inFlight = some writer
  readerAt : ReaderAt policy token reader state.registry
  writerAt : WriterAt token writer state.writer
  small : state.writer.progress.toNat < 2 ^ 63
  rising : (inFlight.map fun frame => frame.1.toNat).Pairwise (· < ·)
  bounds : ∀ frame ∈ inFlight, state.registry.lastProgress < frame.1.toNat ∧
    frame.1.toNat ≤ state.writer.progress.toNat
  behind : state.registry.lastProgress ≤ state.writer.progress.toNat
  written : chunkData (delivered ++ inFlight) = state.written
  emitted : taken ++ state.registry.queue = chunkData delivered
  yielded : state.yielded = taken.map (fun data => some (.ok data)) ++ List.replicate ends none
  ends : 0 < ends → reader = .ended reader.chunks ∧ state.registry.queue = []
  accepted : ∀ outcome ∈ state.outcomes, ∃ result, outcome = .ok result
  closed : reader = .ended reader.chunks → state.outcomes.getLast? = some (.ok .closed)

variable {serde : SerdeJson} {arithmetic : Arithmetic} {policy : OpenStreamRegistryPolicy}
  {token : String} {state after : Streaming} {delivered inFlight : List (UInt64 × OpenStreamFrame)}
  {reader writer : Stage} {taken : List String} {ends : Nat}

section

variable (agrees : Agrees policy token state delivered inFlight reader writer taken ends)
include agrees

/-- An operation of the writer puts its frames behind those that are in flight. -/
theorem Agrees.perform {operation : WriterOperation} {outcomes : PublishOutcomes}
    (permitted : state.permits serde (.perform operation outcomes) = true)
    (taken_eq : state.step serde arithmetic (.perform operation outcomes) = some after) :
    ∃ frames last, Agrees policy token after delivered (inFlight ++ frames) reader last taken
      ends := by
  simp only [permits, Bool.and_eq_true, decide_eq_true_eq] at permitted
  obtain ⟨last, frames, publishes, data⟩ :=
    publishes_perform agrees.writerAt permitted.2 operation permitted.1 outcomes
  cases taken_eq
  have behind := agrees.behind
  have minted := publishes.minted
  refine ⟨frames, last, ⟨?_, ?_, agrees.reads, ?_, agrees.readerAt, publishes.writerAt,
    publishes.small, ?_, ?_, ?_, ?_, agrees.emitted, agrees.yielded, agrees.ends, agrees.accepted,
    agrees.closed⟩⟩
  · rw [agrees.published, publishes.published, ← List.map_append, List.append_assoc]
  · rw [agrees.wire, publishes.published, ← List.map_append]
  · rw [follow_append agrees.writes]
    exact publishes.follows
  · -- What was in flight has a progress that was handed out before.
    rw [List.map_append, List.pairwise_append]
    refine ⟨agrees.rising, publishes.rising, ?_⟩
    intro early inFirst late inSecond
    obtain ⟨frame, member, rfl⟩ := List.mem_map.mp inFirst
    obtain ⟨other, among, rfl⟩ := List.mem_map.mp inSecond
    exact Nat.lt_of_le_of_lt (agrees.bounds frame member).2 (publishes.within other among).1
  · intro frame member
    rcases List.mem_append.mp member with early | late
    · have bounds := agrees.bounds frame early
      exact ⟨bounds.1, Nat.le_trans bounds.2 minted⟩
    · have bounds := publishes.within frame late
      refine ⟨?_, bounds.2⟩
      show state.registry.lastProgress < _
      omega
  · grind
  · rw [← List.append_assoc, chunkData_append, agrees.written, data]

/-- A delivery hands the first frame in flight to the reader, which takes it. -/
theorem Agrees.deliver
    (arithmetic : Arithmetic) (named : token ≠ "") (admitted : 0 < policy.maxConcurrentStreams)
    {now : Nat} (permitted : state.permits serde (.deliver now) = true)
    (waiting : state.wire ≠ []) :
    ∃ after frame rest middle, state.step serde arithmetic (.deliver now) = some after ∧
      inFlight = frame :: rest ∧
      Agrees policy token after (delivered ++ [frame]) rest middle writer taken ends := by
  cases inFlight with
  | nil => exact absurd agrees.wire waiting
  | cons frame rest =>
    obtain ⟨middle, belongs, follows⟩ := follow_cons agrees.writes
    have bounds := agrees.bounds frame List.mem_cons_self
    have small : frame.1.toNat < 2 ^ 63 := Nat.lt_of_le_of_lt bounds.2 agrees.small
    have front := agrees.wire
    rw [List.map_cons] at front
    -- The consumer has left room for a chunk.
    have room : ∀ chunkIndex data, frame.2 = .chunk chunkIndex data →
        ∀ session, state.registry.made[0]? = some session →
          session.queue.length < session.options.maxBufferedChunks.toNat ∧
          session.queuedBytes + data.utf8ByteSize ≤ session.options.maxBufferedBytes.toNat := by
      intro chunkIndex data isChunk session found
      simp only [permits, roomy, front, List.head?_cons, Option.map_some, notify, isChunk,
        parseFrame_intoProgressNotification serde _ named small, found,
        decide_eq_true_eq] at permitted
      exact permitted
    obtain ⟨outcome, registry, answer, readerAt, reached, queue, closed⟩ :=
      agrees.readerAt.deliver serde arithmetic now named admitted small bounds.1 belongs room
    obtain ⟨above, rising⟩ := List.pairwise_cons.mp agrees.rising
    refine ⟨{ state with
        registry
        wire := rest.map (notify token)
        outcomes := state.outcomes ++ [.ok outcome] }, frame, rest, middle, ?_, rfl, ⟨?_, rfl, ?_,
      follows, readerAt, agrees.writerAt, agrees.small, rising, ?_, ?_, ?_, ?_, agrees.yielded, ?_,
      ?_, ?_⟩⟩
    · rw [step, front]
      simp only [answer, Option.map_some]
    · rw [List.append_assoc]
      exact agrees.published
    · rw [follow_append agrees.reads, follow_singleton]
      exact belongs
    · intro other among
      refine ⟨?_, (agrees.bounds other (List.mem_cons_of_mem _ among)).2⟩
      rw [reached]
      exact Int.ofNat_lt.mpr (above _ (List.mem_map_of_mem among))
    · grind
    · rw [List.append_assoc]
      exact agrees.written
    · rw [queue, ← List.append_assoc, agrees.emitted, chunkData_append]
      simp [chunkData]
    · -- Nothing is delivered behind the end.
      intro shown
      rw [(agrees.ends shown).1] at belongs
      cases belongs
    · intro other member
      rcases List.mem_append.mp member with old | new
      · exact agrees.accepted other old
      · exact ⟨outcome, List.mem_singleton.mp new⟩
    · grind [List.getLast?_concat]

/-- A poll takes what is queued, and shows the end when the stream has come to it. -/
theorem Agrees.poll (taken_eq : state.step serde arithmetic .poll = some after) :
    ∃ more shown, Agrees policy token after delivered inFlight reader writer more shown := by
  obtain ⟨session, found, taken_eq⟩ := Option.bind_eq_some_iff.mp taken_eq
  obtain ⟨⟨polled, rest⟩, poll, taken_eq⟩ := Option.bind_eq_some_iff.mp taken_eq
  cases taken_eq
  obtain ⟨registry, rfl, readerAt, reached, found⟩ := agrees.readerAt.poll found poll
  have bounds := agrees.bounds
  have behind := agrees.behind
  rw [← reached] at bounds behind
  -- The end only shows when nothing is queued, and nothing is queued behind it.
  rcases found with ⟨item, rfl, front⟩ | ⟨rfl, same⟩ | ⟨rfl, ended, empty, still⟩
  · have waiting : ends = 0 := by
      by_contra shown
      have none := (agrees.ends (Nat.pos_of_ne_zero shown)).2
      simp [none] at front
    subst waiting
    refine ⟨taken ++ [item], 0, ⟨agrees.published, agrees.wire, agrees.reads, agrees.writes,
      readerAt, agrees.writerAt, agrees.small, agrees.rising, bounds, behind, agrees.written, ?_,
      ?_, by simp, agrees.accepted, agrees.closed⟩⟩
    · rw [List.append_assoc, ← agrees.emitted, front]
      rfl
    · simp [agrees.yielded]
  · refine ⟨taken, ends, ⟨agrees.published, agrees.wire, agrees.reads, agrees.writes, readerAt,
      agrees.writerAt, agrees.small, agrees.rising, bounds, behind, agrees.written, ?_,
      agrees.yielded, ?_, agrees.accepted, agrees.closed⟩⟩
    · rw [same]
      exact agrees.emitted
    · rw [same]
      exact agrees.ends
  · refine ⟨taken, ends + 1, ⟨agrees.published, agrees.wire, agrees.reads, agrees.writes, readerAt,
      agrees.writerAt, agrees.small, agrees.rising, bounds, behind, agrees.written, ?_, ?_,
      fun _ => ⟨ended, still⟩, agrees.accepted, agrees.closed⟩⟩
    · rw [still, ← agrees.emitted, empty]
    · simp [agrees.yielded, List.replicate_succ']

end

/-- Whatever happens between the two sides, they agree on the stream. -/
theorem agrees_of_reaches {contentType : Option String} (named : token ≠ "")
    (admitted : 0 < policy.maxConcurrentStreams)
    (reached : Reaches (step serde arithmetic)
      (fun state action => state.permits serde action = true) (new policy token contentType)
      state) :
    ∃ delivered inFlight reader writer taken ends,
      Agrees policy token state delivered inFlight reader writer taken ends := by
  apply reached.invariant
  · refine ⟨[], [], .fresh, .fresh, [], 0, rfl, rfl, rfl, rfl, .fresh,
      ⟨rfl, rfl, Nat.le_refl _, by simp [new, OpenStreamWriter.new], fun _ => rfl, by simp⟩,
      ?_, .nil, by simp, ?_, rfl, rfl, rfl, by simp, by simp [new], by simp⟩
    · show (0 : UInt64).toNat < 2 ^ 63
      decide
    · show (-1 : Int) ≤ ((0 : UInt64).toNat : Int)
      decide
  · rintro before action after - ⟨delivered, inFlight, reader, writer, taken, ends, agrees⟩
      permitted moved
    cases action with
    | perform operation outcomes =>
      obtain ⟨frames, last, still⟩ := agrees.perform permitted moved
      exact ⟨_, _, _, _, _, _, still⟩
    | deliver now =>
      have waiting : before.wire ≠ [] := by
        intro none
        simp [step, none] at moved
      obtain ⟨other, frame, rest, middle, same, -, still⟩ :=
        agrees.deliver arithmetic named admitted permitted waiting
      rw [moved, Option.some.injEq] at same
      subst same
      exact ⟨_, _, _, _, _, _, still⟩
    | poll =>
      obtain ⟨more, shown, still⟩ := agrees.poll moved
      exact ⟨_, _, _, _, _, _, still⟩

section

variable (agrees : Agrees policy token state delivered inFlight reader writer taken ends)
include agrees

/-- What was written is taken, queued or in flight. -/
theorem Agrees.whole : state.written = taken ++ state.registry.queue ++ chunkData inFlight := by
  rw [← agrees.written, chunkData_append, agrees.emitted]

/-- The consumer has received what was taken. -/
theorem Agrees.received : state.received = taken := by
  rw [Streaming.received, agrees.yielded, List.filterMap_append]
  have data : (taken.map fun data => some (Except.ok data)).filterMap
      (fun item : Option (Except OpenStreamError String) => item.bind Except.toOption) =
        taken := by
    simp [List.filterMap_map, Function.comp_def, Except.toOption]
  have nothing : (List.replicate ends none).filterMap
      (fun item : Option (Except OpenStreamError String) => item.bind Except.toOption) = [] := by
    simp
  rw [data, nothing, List.append_nil]

/-- An empty wire has nothing in flight. -/
theorem Agrees.arrived (arrived : state.wire = []) : inFlight = [] := by
  have wire := agrees.wire
  rw [arrived] at wire
  exact List.map_eq_nil_iff.mp wire.symm

/-- What a poll yields begins what was written. -/
theorem Agrees.yields :
    state.yielded <+: state.written.map (fun data => some (.ok data)) ++
      List.replicate ends none := by
  rw [agrees.yielded]
  rcases Nat.eq_zero_or_pos ends with rfl | shown
  · rw [agrees.whole, List.append_assoc, List.map_append]
    simp
  · -- The end has shown, so everything was taken.
    obtain ⟨ended, none⟩ := agrees.ends shown
    have writes := agrees.writes
    rw [ended] at writes
    obtain ⟨rfl, -⟩ := follow_ended writes
    rw [agrees.whole, none]
    simp [chunkData]

/-- A published close declares the index of the last write. -/
theorem Agrees.declares {last : Option UInt64} {progress : UInt64}
    (published : notify token (progress, .close last) ∈ state.published) :
    writer = .ended writer.chunks ∧ last = declaredIndex state.written.length := by
  rw [agrees.published] at published
  obtain ⟨⟨number, frame⟩, among, same⟩ := List.mem_map.mp published
  have close : frame = .close last := frame_eq_of_notify same
  subst close
  have all : fresh.follow (delivered ++ inFlight) = some writer := by
    rw [follow_append agrees.reads]
    exact agrees.writes
  obtain ⟨ended, declared⟩ := ended_of_close all among
  have count : writer.chunks = state.written.length := by
    rw [chunks_follow all, agrees.written]
    exact Nat.zero_add _
  rw [count] at declared
  exact ⟨ended, declared⟩

end

/-- A stream that ended did so gracefully, with all data. -/
theorem Agrees.graceful (agrees : Agrees policy token state delivered [] reader writer taken ends)
    (ended : reader = .ended reader.chunks) :
    ∃ session, state.registry.made = [session] ∧ session.active = false ∧
      session.terminal = none ∧ state.received ++ session.queue = state.written := by
  have readerAt := agrees.readerAt
  rw [ended] at readerAt
  generalize registryEq : state.registry = registry at readerAt
  cases readerAt with
  | ended chunks registry made sound inactive graceful =>
    rename_i session
    refine ⟨session, made, inactive, graceful, ?_⟩
    rw [agrees.received, agrees.whole, registryEq]
    simp [OpenStreamRegistry.queue, made, chunkData]

end Streaming

/--
What a writer publishes reaches the consumer of the reader at the other end.

Whatever publishes fail, and however operations, deliveries and polls follow each other: no frame is
rejected and no delivery panics; the consumer gets the data of the published writes in order, all of
it once everything is delivered and read; and a published close declares the last of these writes
and ends the stream without an error.
-/
theorem written_data_is_received (serde : SerdeJson) (arithmetic : Arithmetic)
    (policy : OpenStreamRegistryPolicy) (token : String) (contentType : Option String)
    (named : token ≠ "") (admitted : 0 < policy.maxConcurrentStreams) (state : Streaming)
    (reached : Reaches (Streaming.step serde arithmetic)
      (fun state action => state.permits serde action = true) (.new policy token contentType)
      state) :
    (∀ outcome ∈ state.outcomes, ∃ result, outcome = .ok result) ∧
    (∀ now, state.permits serde (.deliver now) = true → state.wire ≠ [] →
      (state.step serde arithmetic (.deliver now)).isSome) ∧
    (∃ ends, state.yielded <+: state.written.map (fun data => some (.ok data)) ++
      List.replicate ends none) ∧
    (state.wire = [] → state.registry.queue = [] → state.received = state.written) ∧
    (∀ last progress, notify token (progress, .close last) ∈ state.published →
      last = declaredIndex state.written.length ∧
      (state.wire = [] → state.outcomes.getLast? = some (.ok .closed) ∧
        ∃ session, state.registry.made = [session] ∧ session.active = false ∧
          session.terminal = none ∧ state.received ++ session.queue = state.written)) := by
  obtain ⟨delivered, inFlight, reader, writer, taken, ends, agrees⟩ :=
    Streaming.agrees_of_reaches named admitted reached
  refine ⟨agrees.accepted, ?_, ⟨ends, agrees.yields⟩, ?_, ?_⟩
  · intro now permitted waiting
    obtain ⟨after, -, -, -, taken, -⟩ := agrees.deliver arithmetic named admitted permitted waiting
    rw [taken]
    rfl
  · intro none empty
    rw [agrees.received, agrees.whole, agrees.arrived none, empty]
    simp [chunkData]
  · intro last progress published
    obtain ⟨ended, declared⟩ := agrees.declares published
    refine ⟨declared, ?_⟩
    -- With nothing in flight, the reader is where the writer is.
    intro none
    have arrived := agrees.arrived none
    subst arrived
    have same : reader = writer := Option.some.inj agrees.writes
    subst same
    exact ⟨agrees.closed ended, agrees.graceful ended⟩

/-- Two writes of which the first is tried twice, and a close, all read in the end. -/
def retriedActions : List StreamingAction :=
  [.perform (.write "a") ⟨true, false⟩, .perform (.write "a") ⟨true, true⟩, .deliver 0,
    .perform .ping ⟨true, true⟩, .deliver 1, .poll, .perform (.write "b") ⟨true, true⟩, .deliver 2,
    .deliver 3, .poll, .perform .close ⟨true, true⟩, .deliver 4, .poll]

/-- A write whose publish has failed leaves no gap. -/
theorem written_data_is_received_retried : ∃ state : Streaming,
    Reaches (Streaming.step .silent .checked)
      (fun state action => state.permits .silent action = true)
      (.new samplePolicy "stream" none) state ∧
    (state.written = ["a", "b"] ∧ state.yielded.length = 3 ∧ state.wire = [] ∧
      state.registry.queue = []) ∧ state.received = state.written := by
  refine Reaches.exists_of_any (fun _ _ passed => passed) retriedActions
    (fun state => state.written = ["a", "b"] ∧ state.yielded.length = 3 ∧ state.wire = [] ∧
      state.registry.queue = []) (by decide +kernel) ?_
  intro state reached facts
  have received := written_data_is_received .silent .checked samplePolicy "stream" none
    (by decide) (by decide) state reached
  exact ⟨facts, received.2.2.2.1 facts.2.2.1 facts.2.2.2⟩

/-- A writer that was closed before any data was written. -/
def closedWriter : OpenStreamWriter :=
  ((OpenStreamWriter.new "stream" none).close ⟨true, true⟩).writer

/--
Where a stream does not get through, and where a write succeeds without being part of it.

A reader takes no frames without a token, and a registry for no streams takes none at all. A writer
that was closed lets a write succeed and publishes nothing. And progress values that are no signed
words look all the same to the reader.
-/
theorem some_streams_get_lost :
    (∃ state : Streaming, Reaches (Streaming.step .silent .checked)
        (fun state action => state.permits .silent action = true) (.new samplePolicy "" none)
        state ∧
      state.outcomes.map Except.toOption = [none]) ∧
    (∃ state : Streaming, Reaches (Streaming.step .silent .checked)
        (fun state action => state.permits .silent action = true)
        (.new { samplePolicy with maxConcurrentStreams := 0 } "stream" none) state ∧
      state.outcomes.map Except.toOption = [none]) ∧
    ((closedWriter.write "a" ⟨true, true⟩).succeeded = true ∧
      (closedWriter.write "a" ⟨true, true⟩).published = []) ∧
    (∀ progress : UInt64, 2 ^ 63 ≤ progress.toNat →
      (parseProgress (some (.ofU64 progress)) "stream").toOption = some Int64.maxValue) := by
  refine ⟨?_, ?_, by decide +kernel, ?_⟩
  · exact Reaches.of_any (fun _ _ passed => passed)
      [.perform .start ⟨true, true⟩, .deliver 0] _ (by decide +kernel)
  · exact Reaches.of_any (fun _ _ passed => passed)
      [.perform .start ⟨true, true⟩, .deliver 0] _ (by decide +kernel)
  · intro progress large
    simp only [parseProgress, Json.ofU64, Json.asI64, if_neg (Nat.not_lt.mpr large)]
    rfl

end ContextVm.OpenStream
