import ContextVm.OpenStream.Accounting
import ContextVm.OpenStream.Registry
import ContextVm.OpenStream.Writer

/-! The stream between a writer and a reader, and how each of them carries it on. -/

namespace ContextVm.OpenStream

open DataPlane OpenStreamFrame OpenStreamRegistry OpenStreamWriter SessionState

variable {token : String} {writer : OpenStreamWriter}

/-! The stream between the two: which frames may follow which. -/

/-- How far a stream has come. -/
inductive Stage where
  | fresh
  | streaming (chunks : Nat)
  | ended (chunks : Nat)
  deriving DecidableEq

/-- The index that a close has to declare after so many chunks. -/
def declaredIndex (chunks : Nat) : Option UInt64 :=
  if chunks = 0 then none else some (UInt64.ofNat (chunks - 1))

namespace Stage

/-- The number of chunks so far. -/
def chunks : Stage → Nat
  | fresh => 0
  | streaming chunks | ended chunks => chunks

/-- The stage after a frame, if the frame belongs there. -/
def next : Stage → OpenStreamFrame → Option Stage
  | fresh, .start _ => some (streaming 0)
  | streaming chunks, .chunk index _ =>
    if index.toNat = chunks then some (streaming (chunks + 1)) else none
  | streaming chunks, .ping nonce =>
    if nonce.utf8ByteSize ≤ maxOpenStreamPingNonceBytes then some (streaming chunks) else none
  | streaming chunks, .pong _ => some (streaming chunks)
  | streaming chunks, .close last =>
    if last = declaredIndex chunks then some (ended chunks) else none
  | _, _ => none

/-- The stage after a row of frames. -/
def follow (stage : Stage) (frames : List (UInt64 × OpenStreamFrame)) : Option Stage :=
  frames.foldlM (fun stage frame => stage.next frame.2) stage

theorem follow_append {stage middle : Stage} {frames : List (UInt64 × OpenStreamFrame)}
    (first : stage.follow frames = some middle) (more : List (UInt64 × OpenStreamFrame)) :
    stage.follow (frames ++ more) = middle.follow more := by
  rw [follow, List.foldlM_append]
  change (stage.follow frames).bind _ = _
  rw [first]
  rfl

theorem follow_singleton (stage : Stage) (frame : UInt64 × OpenStreamFrame) :
    stage.follow [frame] = stage.next frame.2 := by
  simp [follow]

theorem follow_cons {stage last : Stage} {frame : UInt64 × OpenStreamFrame}
    {rest : List (UInt64 × OpenStreamFrame)} (all : stage.follow (frame :: rest) = some last) :
    ∃ middle, stage.next frame.2 = some middle ∧ middle.follow rest = some last := by
  exact Option.bind_eq_some_iff.mp all

theorem follow_ended {chunks : Nat} {last : Stage} {frames : List (UInt64 × OpenStreamFrame)}
    (all : (ended chunks).follow frames = some last) : frames = [] ∧ last = ended chunks := by
  cases frames with
  | nil =>
    cases all
    exact ⟨rfl, rfl⟩
  | cons frame rest =>
    obtain ⟨middle, belongs, -⟩ := follow_cons all
    cases belongs

end Stage

/-- The data that a frame brings, as a list of one or none. -/
def OpenStreamFrame.chunkData : OpenStreamFrame → List String
  | .chunk _ data => [data]
  | _ => []

/-- The data of all chunks of a row of frames. -/
def chunkData (frames : List (UInt64 × OpenStreamFrame)) : List String :=
  frames.flatMap fun frame => frame.2.chunkData

@[simp] theorem chunkData_append (frames more : List (UInt64 × OpenStreamFrame)) :
    chunkData (frames ++ more) = chunkData frames ++ chunkData more := List.flatMap_append

namespace Stage

variable {stage : Stage}

theorem chunks_next {after : Stage} {frame : OpenStreamFrame}
    (belongs : stage.next frame = some after) :
    after.chunks = stage.chunks + frame.chunkData.length := by
  cases stage <;> cases frame <;> simp only [next, reduceCtorEq, Option.some.injEq,
    Option.ite_none_right_eq_some] at belongs
  · subst belongs
    rfl
  · rw [← belongs.2]
    rfl
  · rw [← belongs.2]
    rfl
  · subst belongs
    rfl
  · rw [← belongs.2]
    rfl

theorem chunks_follow {last : Stage} {frames : List (UInt64 × OpenStreamFrame)}
    (all : stage.follow frames = some last) :
    last.chunks = stage.chunks + (chunkData frames).length := by
  -- Frame by frame, from whichever stage they have led to.
  induction frames generalizing stage with
  | nil =>
    cases all
    rfl
  | cons frame rest ih =>
    obtain ⟨middle, belongs, later⟩ := follow_cons all
    have parts : chunkData (frame :: rest) = frame.2.chunkData ++ chunkData rest := rfl
    rw [ih later, chunks_next belongs, parts, List.length_append]
    exact Nat.add_assoc _ _ _

theorem ended_of_close {after : Stage} {frames : List (UInt64 × OpenStreamFrame)}
    (all : stage.follow frames = some after) {progress : UInt64} {declared : Option UInt64}
    (member : (progress, OpenStreamFrame.close declared) ∈ frames) :
    after = ended after.chunks ∧ declared = declaredIndex after.chunks := by
  induction frames generalizing stage with
  | nil => cases member
  | cons frame rest ih =>
    obtain ⟨middle, belongs, later⟩ := follow_cons all
    rcases List.mem_cons.mp member with rfl | further
    · cases stage with
      | fresh | ended => cases belongs
      | streaming chunks =>
        obtain ⟨same, rfl⟩ := Option.ite_some_none_eq_some.mp belongs
        obtain ⟨-, rfl⟩ := follow_ended later
        exact ⟨rfl, same⟩
    · exact ih later further

end Stage

/-- The notification of a frame with its progress. -/
def notify (token : String) (frame : UInt64 × OpenStreamFrame) : JsonRpcNotification :=
  frame.2.intoProgressNotification token frame.1 none

theorem frame_eq_of_notify {first second : UInt64 × OpenStreamFrame}
    (same : notify token first = notify token second) : first.2 = second.2 := by
  obtain ⟨params, given, cvm, -⟩ := first.2.params_intoProgressNotification token first.1 none
  obtain ⟨others, also, value, -⟩ := second.2.params_intoProgressNotification token second.1 none
  -- Both are read from the same object.
  have equal : params = others := by
    have both := given.symm.trans ((congrArg JsonRpcNotification.params same).trans also)
    exact Option.some.inj both
  rw [equal, value, Option.some.injEq] at cvm
  have read := congrArg fromCvmValue cvm
  rw [fromCvmValue_toCvmValue, fromCvmValue_toCvmValue, Option.some.injEq] at read
  exact read.symm

/-! The writer's side. -/

/-- A writer that has published a stream up to a stage. -/
structure WriterAt (token : String) (stage : Stage) (writer : OpenStreamWriter) : Prop where
  token_eq : writer.progressToken = token
  count : writer.chunkIndex.toNat = stage.chunks
  behind : writer.chunkIndex.toNat ≤ writer.progress.toNat
  started : writer.started = true ↔ stage ≠ .fresh
  unstarted : stage = .fresh → writer.active = true
  ended : stage = .ended stage.chunks → writer.active = false

/-- What an operation has published, and how far the stream has come with it. -/
structure Publishes (token : String) (progress : UInt64) (stage : Stage)
    (answer : WriterAnswer) (after : Stage) (frames : List (UInt64 × OpenStreamFrame)) : Prop where
  published : answer.published = frames.map (notify token)
  follows : stage.follow frames = some after
  writerAt : WriterAt token after answer.writer
  minted : progress.toNat ≤ answer.writer.progress.toNat
  small : answer.writer.progress.toNat < 2 ^ 63
  rising : (frames.map fun frame => frame.1.toNat).Pairwise (· < ·)
  within : ∀ frame ∈ frames, progress.toNat < frame.1.toNat ∧
    frame.1.toNat ≤ answer.writer.progress.toNat

namespace Publishes

variable {token : String} {writer : OpenStreamWriter} {stage middle after : Stage}
  {answer next : WriterAnswer} {frames more : List (UInt64 × OpenStreamFrame)}

theorem silent (writerAt : WriterAt token stage writer) (room : writer.progress.toNat < 2 ^ 63)
    (succeeded : Bool) :
    Publishes token writer.progress stage ⟨writer, [], succeeded⟩ stage [] where
  published := rfl
  follows := rfl
  writerAt := writerAt
  minted := Nat.le_refl _
  small := room
  rising := List.Pairwise.nil
  within := by simp

/-- What is published in two parts is published. -/
theorem append {progress : UInt64} (first : Publishes token progress stage answer middle frames)
    (second : Publishes token answer.writer.progress middle next after more) :
    Publishes token progress stage
      { next with published := answer.published ++ next.published } after (frames ++ more) := by
  refine ⟨?_, ?_, second.writerAt, Nat.le_trans first.minted second.minted, second.small, ?_, ?_⟩
  · rw [first.published, second.published, List.map_append]
  · rw [Stage.follow_append first.follows]
    exact second.follows
  · rw [List.map_append, List.pairwise_append]
    refine ⟨first.rising, second.rising, ?_⟩
    -- The progress of the second part was handed out after that of the first.
    intro early inFirst late inSecond
    obtain ⟨frame, member, rfl⟩ := List.mem_map.mp inFirst
    obtain ⟨other, among, rfl⟩ := List.mem_map.mp inSecond
    exact Nat.lt_of_le_of_lt (first.within frame member).2 (second.within other among).1
  · intro frame member
    have before := first.minted
    have behind := second.minted
    rcases List.mem_append.mp member with early | late
    · have bounds := first.within frame early
      exact ⟨bounds.1, Nat.le_trans bounds.2 behind⟩
    · have bounds := second.within frame late
      exact ⟨Nat.lt_of_le_of_lt before bounds.1, bounds.2⟩

end Publishes

theorem progress_nextProgress (room : writer.progress.toNat + 1 < 2 ^ 63) :
    writer.nextProgress.progress.toNat = writer.progress.toNat + 1 := by
  show (writer.progress + 1).toNat = _
  rw [UInt64.toNat_add, UInt64.toNat_one]
  omega

/-- One frame that belongs where the stream is. -/
theorem publishes_publishFrame (writer : OpenStreamWriter) (stage after : Stage)
    (frame : OpenStreamFrame) (settled : OpenStreamWriter → OpenStreamWriter)
    (token_eq : writer.progressToken = token) (room : writer.progress.toNat + 1 < 2 ^ 63)
    (belongs : stage.next frame = some after) (outcome : Bool)
    (failed : WriterAt token stage writer.nextProgress)
    (done : WriterAt token after (settled writer.nextProgress))
    (kept : (settled writer.nextProgress).progress = writer.nextProgress.progress) :
    ∃ frames, Publishes token writer.progress stage (writer.publishFrame frame settled outcome)
      (if outcome then after else stage) frames ∧
      chunkData frames = if outcome then frame.chunkData else [] := by
  have minted := progress_nextProgress room
  cases outcome with
  | false =>
    refine ⟨[], ⟨rfl, rfl, failed, ?_, ?_, List.Pairwise.nil, by simp⟩, rfl⟩
    · show writer.progress.toNat ≤ writer.nextProgress.progress.toNat
      omega
    · show writer.nextProgress.progress.toNat < 2 ^ 63
      omega
  | true =>
    refine ⟨[(writer.nextProgress.progress, frame)], ⟨?_, ?_, done, ?_, ?_, ?_, ?_⟩, ?_⟩
    · show [writer.nextProgress.notification frame] = _
      rw [notification]
      simp only [nextProgress, token_eq, List.map_cons, List.map_nil, notify]
    · rw [Stage.follow_singleton]
      exact belongs
    · show _ ≤ (settled writer.nextProgress).progress.toNat
      rw [kept]
      omega
    · show (settled writer.nextProgress).progress.toNat < _
      rw [kept]
      omega
    · exact List.pairwise_singleton _ _
    · intro single member
      rw [List.mem_singleton] at member
      subst member
      show _ < writer.nextProgress.progress.toNat ∧
        writer.nextProgress.progress.toNat ≤ (settled writer.nextProgress).progress.toNat
      rw [kept]
      omega
    · simp [chunkData]

namespace WriterAt

variable {token : String} {stage : Stage} {writer : OpenStreamWriter}

theorem nextProgress (writerAt : WriterAt token stage writer)
    (room : writer.progress.toNat + 1 < 2 ^ 63) : WriterAt token stage writer.nextProgress := by
  grind [WriterAt, nextProgress, progress_nextProgress]

theorem streaming (writerAt : WriterAt token stage writer) (begun : stage ≠ .fresh)
    (active : writer.active = true) : stage = .streaming writer.chunkIndex.toNat := by
  have count := writerAt.count
  cases stage with
  | fresh => exact absurd rfl begun
  | streaming chunks =>
    rw [count]
    rfl
  | ended chunks =>
    rw [writerAt.ended rfl] at active
    cases active

end WriterAt

/-- The start is published first, and once. -/
theorem publishes_startInternal {stage : Stage} (writerAt : WriterAt token stage writer)
    (room : writer.progress.toNat + 1 < 2 ^ 63) (outcome : Bool) :
    ∃ after frames,
      Publishes token writer.progress stage (writer.startInternal outcome) after frames ∧
      chunkData frames = [] ∧ ((writer.startInternal outcome).succeeded = true → after ≠ .fresh) ∧
      (writer.startInternal outcome).writer.active = writer.active ∧
      (writer.startInternal outcome).writer.progress.toNat ≤ writer.progress.toNat + 1 := by
  by_cases begun : stage = .fresh
  · -- Nothing was published yet, so the start is the next frame.
    subst begun
    have active := writerAt.unstarted rfl
    have unstarted : writer.started = false := by
      rw [← Bool.not_eq_true, writerAt.started]
      simp
    have minted := progress_nextProgress room
    have done : WriterAt token (.streaming 0) { writer.nextProgress with started := true } :=
      ⟨writerAt.token_eq, writerAt.count, (writerAt.nextProgress room).behind, by simp, by simp,
        by simp [Stage.chunks]⟩
    obtain ⟨frames, publishes, data⟩ := publishes_publishFrame writer .fresh (.streaming 0)
      (.start writer.contentType) (fun minted => { minted with started := true })
      writerAt.token_eq room rfl outcome (writerAt.nextProgress room) done rfl
    rw [startInternal, if_neg (by simp [unstarted, active])]
    refine ⟨_, frames, publishes, ?_⟩
    rw [data]
    cases outcome with
    | false => exact ⟨rfl, by simp [publishFrame], rfl, Nat.le_of_eq minted⟩
    | true => exact ⟨rfl, by simp, rfl, Nat.le_of_eq minted⟩
  · have started := writerAt.started.mpr begun
    rw [startInternal, if_pos (.inl started)]
    exact ⟨stage, [], .silent writerAt (Nat.lt_of_succ_lt room) true, rfl, fun _ => begun, rfl,
      Nat.le_succ _⟩

/-- An operation that comes after the start has published what it does then. -/
theorem publishes_afterStart {stage : Stage} {operation : OpenStreamWriter → WriterAnswer}
    {data : WriterAnswer → List String} (writerAt : WriterAt token stage writer)
    (room : writer.progress.toNat + 2 < 2 ^ 63) (outcomes : PublishOutcomes)
    (failed : ∀ answer : WriterAnswer, answer.succeeded = false → data answer = [])
    (goes : ∀ middle opened, WriterAt token middle opened → middle ≠ .fresh →
      opened.active = writer.active → opened.progress.toNat + 1 < 2 ^ 63 →
      ∃ after frames, Publishes token opened.progress middle (operation opened) after frames ∧
        ∀ published, chunkData frames = data { operation opened with published }) :
    ∃ after frames,
      Publishes token writer.progress stage (writer.afterStart outcomes operation) after frames ∧
      chunkData frames = data (writer.afterStart outcomes operation) := by
  obtain ⟨middle, early, opens, silent, begun, active, minted⟩ :=
    publishes_startInternal writerAt (by omega) outcomes.start
  simp only [afterStart]
  split
  · rename_i succeeded
    obtain ⟨after, late, publishes, same⟩ := goes middle _ opens.writerAt (begun succeeded) active
      (by omega)
    refine ⟨after, early ++ late, opens.append publishes, ?_⟩
    rw [chunkData_append, silent, List.nil_append]
    exact same _
  · -- Without the start nothing else is tried.
    rename_i unpublished
    exact ⟨middle, early, opens, silent.trans (failed _ (by simpa using unpublished)).symm⟩

/-- The data that an operation has put into the stream: that of a write which did not fail. -/
def WriterOperation.written (operation : WriterOperation) (writer : OpenStreamWriter)
    (answer : WriterAnswer) : List String :=
  match operation with
  -- A writer that has ended takes data without publishing it.
  | .write data => if answer.succeeded ∧ writer.active then [data] else []
  | .start | .ping | .pong _ | .close => []

/-- What the callers of a writer see to: no ping or pong before the start, and short nonces. -/
def WriterOperation.ready (operation : WriterOperation) (writer : OpenStreamWriter) : Bool :=
  match operation with
  | .ping =>
    writer.started && decide (writer.nextNonce.utf8ByteSize ≤ maxOpenStreamPingNonceBytes)
  | .pong _ => writer.started
  | .start | .write _ | .close => true

section Perform

variable {token : String} {stage : Stage} {writer : OpenStreamWriter}

/-- A write publishes the next chunk. -/
theorem publishes_write (writerAt : WriterAt token stage writer)
    (room : writer.progress.toNat + 2 < 2 ^ 63) (data : String) (outcomes : PublishOutcomes) :
    ∃ after frames,
      Publishes token writer.progress stage (writer.write data outcomes) after frames ∧
      chunkData frames =
        (WriterOperation.write data).written writer (writer.write data outcomes) := by
  refine publishes_afterStart writerAt room outcomes ?_ ?_
  · grind [WriterOperation.written]
  · intro middle opened openedAt begun active small
    simp only [active]
    cases live : writer.active with
    | false =>
      exact ⟨middle, [], .silent openedAt (Nat.lt_of_succ_lt small) true, by
        simp [WriterOperation.written, live, chunkData]⟩
    | true =>
      have place := openedAt.streaming begun (active.trans live)
      have behind := openedAt.behind
      have minted := progress_nextProgress small
      have next : (opened.chunkIndex + 1).toNat = opened.chunkIndex.toNat + 1 := by
        rw [UInt64.toNat_add, UInt64.toNat_one]
        omega
      have done : WriterAt token (.streaming (opened.chunkIndex.toNat + 1))
          { opened.nextProgress with chunkIndex := opened.nextProgress.chunkIndex + 1 } := by
        refine ⟨openedAt.token_eq, next, ?_, ?_, by simp, by simp [Stage.chunks]⟩
        · show (opened.chunkIndex + 1).toNat ≤ opened.nextProgress.progress.toNat
          omega
        · exact ⟨fun _ => by simp, fun _ => openedAt.started.mpr begun⟩
      obtain ⟨frames, publishes, same⟩ := publishes_publishFrame opened middle _
        (.chunk opened.chunkIndex data)
        (fun minted => { minted with chunkIndex := minted.chunkIndex + 1 }) openedAt.token_eq small
        (by rw [place]; exact if_pos rfl) outcomes.frame (openedAt.nextProgress small) done rfl
      refine ⟨_, frames, publishes, ?_⟩
      intro published
      rw [same]
      cases outcomes.frame <;> simp [WriterOperation.written, live, OpenStreamWriter.publishFrame,
        OpenStreamFrame.chunkData]

theorem lastChunkIndex_eq (writer : OpenStreamWriter) :
    writer.lastChunkIndex = declaredIndex writer.chunkIndex.toNat := by
  rw [lastChunkIndex, declaredIndex]
  by_cases none : writer.chunkIndex.toNat = 0
  · rw [if_pos none, if_neg]
    rw [UInt64.lt_iff_toNat_lt, none]
    decide
  · have some : 0 < writer.chunkIndex := by
      exact Nat.pos_of_ne_zero none
    rw [if_neg none, if_pos some, Option.some.injEq, ← UInt64.toNat_inj,
      UInt64.toNat_sub_of_le _ _ (by rw [UInt64.le_iff_toNat_le]; exact Nat.pos_of_ne_zero none),
      UInt64.toNat_ofNat', UInt64.toNat_one]
    have word := writer.chunkIndex.toNat_lt
    omega

/-- A close publishes the end. -/
theorem publishes_close (writerAt : WriterAt token stage writer)
    (room : writer.progress.toNat + 2 < 2 ^ 63) (outcomes : PublishOutcomes) :
    ∃ after frames, Publishes token writer.progress stage (writer.close outcomes) after frames ∧
      chunkData frames = [] := by
  refine publishes_afterStart writerAt room outcomes (fun _ _ => rfl) ?_
  intro middle opened openedAt begun active small
  simp only [active]
  cases live : writer.active with
  | false => exact ⟨middle, [], .silent openedAt (Nat.lt_of_succ_lt small) true, fun _ => rfl⟩
  | true =>
    have place := openedAt.streaming begun (active.trans live)
    have started := openedAt.started.mpr begun
    have later := openedAt.nextProgress small
    -- The writer has ended either way; only with the close published has the stream.
    have failed : WriterAt token middle { opened.nextProgress with active := false } := by
      refine ⟨later.token_eq, later.count, later.behind, later.started, ?_, fun _ => rfl⟩
      intro fresh
      exact absurd fresh begun
    have done : WriterAt token (.ended opened.chunkIndex.toNat)
        { opened.nextProgress with active := false } :=
      ⟨later.token_eq, rfl, later.behind, ⟨fun _ => by simp, fun _ => started⟩, by simp,
        fun _ => rfl⟩
    obtain ⟨frames, publishes, same⟩ := publishes_publishFrame { opened with active := false }
      middle _ (.close opened.lastChunkIndex) id openedAt.token_eq small
      (by rw [place, lastChunkIndex_eq]; exact if_pos rfl) outcomes.frame failed done rfl
    refine ⟨_, frames, publishes, ?_⟩
    intro published
    rw [same]
    cases outcomes.frame <;> rfl

/-- Every operation carries the stream on from where it is. -/
theorem publishes_perform (writerAt : WriterAt token stage writer)
    (room : writer.progress.toNat + 2 < 2 ^ 63) (operation : WriterOperation)
    (ready : operation.ready writer = true) (outcomes : PublishOutcomes) :
    ∃ after frames,
      Publishes token writer.progress stage (writer.perform outcomes operation) after frames ∧
      chunkData frames = operation.written writer (writer.perform outcomes operation) := by
  have small : writer.progress.toNat + 1 < 2 ^ 63 := by omega
  have later := writerAt.nextProgress small
  cases operation with
  | start =>
    obtain ⟨after, frames, publishes, silent, -⟩ := publishes_startInternal writerAt small
      outcomes.start
    exact ⟨after, frames, publishes, silent⟩
  | write data => exact publishes_write writerAt room data outcomes
  | ping =>
    simp only [WriterOperation.ready, Bool.and_eq_true, decide_eq_true_eq] at ready
    simp only [OpenStreamWriter.perform, OpenStreamWriter.ping]
    split
    · rename_i active
      have place := writerAt.streaming (writerAt.started.mp ready.1) active
      have counted : WriterAt token stage
          { writer.nextProgress with controlNonce := writer.controlNonce + 1 } :=
        ⟨later.token_eq, later.count, later.behind, later.started, later.unstarted, later.ended⟩
      obtain ⟨frames, publishes, same⟩ := publishes_publishFrame
        { writer with controlNonce := writer.controlNonce + 1 } stage stage
        (.ping writer.nextNonce) id writerAt.token_eq small
        (by rw [place]; exact if_pos ready.2) outcomes.frame counted counted rfl
      refine ⟨_, frames, publishes, ?_⟩
      rw [same]
      cases outcomes.frame <;> rfl
    · exact ⟨stage, [], .silent writerAt (Nat.lt_of_succ_lt small) true, rfl⟩
  | pong nonce =>
    simp only [OpenStreamWriter.perform, OpenStreamWriter.pong]
    split
    · rename_i active
      have place := writerAt.streaming (writerAt.started.mp ready) active
      obtain ⟨frames, publishes, same⟩ := publishes_publishFrame writer stage stage (.pong nonce)
        id writerAt.token_eq small (by rw [place]; rfl) outcomes.frame later later rfl
      refine ⟨_, frames, publishes, ?_⟩
      rw [same]
      cases outcomes.frame <;> rfl
    · exact ⟨stage, [], .silent writerAt (Nat.lt_of_succ_lt small) true, rfl⟩
  | close => exact publishes_close writerAt room outcomes

end Perform

/-! The reader's side. -/

theorem DataPlane.flushed_store_next {plane : DataPlane} (empty : plane.buffered = ∅)
    (data : String) :
    (plane.store plane.nextExpectedChunk data).flushed =
      (plane.store plane.nextExpectedChunk data).advanced data ∧
    ((plane.store plane.nextExpectedChunk data).advanced data).buffered = ∅ := by
  have single : (plane.store plane.nextExpectedChunk data).buffered.entries =
      [⟨plane.nextExpectedChunk, data⟩] := by
    simp only [store, empty]
    exact AList.entries_insert_of_notMem (AList.notMem_empty _)
  have found : (plane.store plane.nextExpectedChunk data).buffered.lookup
      (plane.store plane.nextExpectedChunk data).nextExpectedChunk = some data :=
    AList.lookup_insert _
  constructor
  · rw [flushed, single, List.length_singleton, drained, found]
    rfl
  · have shorter := (erase_of_held String.utf8ByteSize found).1
    rw [single, List.length_singleton] at shorter
    exact AList.ext (List.eq_nil_of_length_eq_zero (Nat.succ.inj shorter))

/-- A reader in the middle of a stream that has come in order so far. -/
structure SessionState.InOrder (session : SessionState) : Prop where
  sound : session.Sound
  active : session.active = true
  started : session.started = true
  opened : session.closedRemotely = false
  empty : session.buffered = ∅

namespace SessionState.InOrder

variable {session : SessionState} {progress : Int64}

theorem accepts (inOrder : session.InOrder) (later : session.lastProgress < progress.toInt) :
    session.Accepts progress :=
  ⟨inOrder.active, later⟩

theorem noted (inOrder : session.InOrder) (later : session.lastProgress < progress.toInt)
    (now : Nat) : (session.noted now progress).InOrder :=
  ⟨inOrder.sound.noted (inOrder.accepts later) now, inOrder.active, inOrder.started,
    inOrder.opened, inOrder.empty⟩

theorem admits (inOrder : session.InOrder) {chunkIndex : UInt64} {data : String}
    (next : chunkIndex.toNat = session.nextExpectedChunk)
    (slots : session.queue.length < session.options.maxBufferedChunks.toNat)
    (bytes : session.queuedBytes + data.utf8ByteSize ≤ session.options.maxBufferedBytes.toNat) :
    session.toDataPlane.Admits session.options chunkIndex data ∧
      session.fits (.chunk chunkIndex data) := by
  have counted := inOrder.sound.counted
  have none : session.bufferedBytes = 0 := by
    rw [counted.buffered, inOrder.empty]
    rfl
  have limit := toNat_le_u64Max session.options.maxBufferedBytes
  refine ⟨⟨Nat.le_of_eq next.symm, ?_, ?_, ?_⟩, ?_⟩
  · rw [inOrder.empty]
    rfl
  · rw [inOrder.empty]
    simpa using slots
  · omega
  · -- What is held is what is queued, and the limit is a word.
    simp only [fits, inOrder.sound.heldBytes, none, dataBytes]
    omega

theorem takes_start (options : OpenStreamSessionOptions) (arithmetic : Arithmetic) (now : Nat)
    (later : -1 < progress.toInt) (contentType : Option String) :
    ∃ after, (SessionState.new options now).processFrame arithmetic now progress
          (.start contentType) = some (.ok .none, after) ∧ after.InOrder ∧
      after.options = options ∧ after.lastProgress = progress.toInt ∧ after.queue = [] ∧
      after.nextExpectedChunk = 0 := by
  have accepts : (new options now).Accepts progress := ⟨rfl, later⟩
  refine ⟨_, processFrame_of_accepts accepts, ⟨?_, rfl, rfl, rfl, rfl⟩, rfl, rfl, rfl, rfl⟩
  exact ((sound_new options now).noted accepts now).of_untouched ⟨rfl, rfl, rfl, rfl, rfl⟩

section

variable (inOrder : session.InOrder)
include inOrder

theorem handlePong (nonce : String) : (session.handlePong nonce).InOrder := by
  rw [SessionState.handlePong]
  split
  · exact ⟨inOrder.sound.of_untouched ⟨rfl, rfl, rfl, rfl, rfl⟩, inOrder.active, inOrder.started,
      inOrder.opened, inOrder.empty⟩
  · exact inOrder

/-- A chunk in order is queued. -/
theorem takes_chunk (later : session.lastProgress < progress.toInt)
    {chunkIndex : UInt64} {data : String} (next : chunkIndex.toNat = session.nextExpectedChunk)
    (slots : session.queue.length < session.options.maxBufferedChunks.toNat)
    (bytes : session.queuedBytes + data.utf8ByteSize ≤ session.options.maxBufferedBytes.toNat)
    (arithmetic : Arithmetic) (now : Nat) :
    ∃ after, session.processFrame arithmetic now progress (.chunk chunkIndex data) =
        some (.ok .none, after) ∧ after.InOrder ∧ after.options = session.options ∧
      after.lastProgress = progress.toInt ∧ after.queue = session.queue ++ [data] ∧
      after.nextExpectedChunk = session.nextExpectedChunk + 1 := by
  obtain ⟨admitted, fits⟩ := inOrder.admits next slots bytes
  have noted := inOrder.noted later now
  have stored := noted.sound.stored admitted
  have small := noted.sound.reach_le
  have room : (session.noted now progress).toDataPlane.Room data := inOrder.sound.room fits
  obtain ⟨flushed, empty⟩ := flushed_store_next inOrder.empty data
  -- The chunk is stored, and a flush takes it to the queue.
  have answer : session.processFrame arithmetic now progress (.chunk chunkIndex data) =
      some (.ok .none, ((session.noted now progress).stored chunkIndex data).settle) := by
    rw [processFrame_chunk (inOrder.accepts later) inOrder.started,
      handleChunk_of_admits room arithmetic admitted,
      flushContiguousChunks_eq stored.1 (Nat.le_trans (Nat.le_of_eq stored.2) small)]
    have opened : ((session.noted now progress).stored chunkIndex data).closedRemotely = false :=
      inOrder.opened
    rw [if_neg (by rw [opened]; exact Bool.false_ne_true)]
    rfl
  have plane : ((session.noted now progress).stored chunkIndex data).settle.toDataPlane =
      (session.toDataPlane.store session.nextExpectedChunk data).advanced data := by
    show (session.toDataPlane.store chunkIndex.toNat data).flushed = _
    rw [next]
    exact flushed
  refine ⟨_, answer, ⟨?_, inOrder.active, inOrder.started, inOrder.opened, ?_⟩, rfl, rfl, ?_, ?_⟩
  · exact (processFrame_cases inOrder.sound fits answer).sound inOrder.sound
  · rw [plane]
    exact empty
  · rw [plane]
    rfl
  · rw [plane]
    rfl

theorem takes_ping (later : session.lastProgress < progress.toInt)
    {nonce : String} (short : nonce.utf8ByteSize ≤ maxOpenStreamPingNonceBytes)
    (arithmetic : Arithmetic)
    (now : Nat) :
    session.processFrame arithmetic now progress (.ping nonce) =
      some (.ok (.sendPong nonce), session.noted now progress) := by
  have noted := inOrder.noted later now
  rw [processFrame_of_accepts (inOrder.accepts later), handleFrame,
    if_neg (by simp [noted.started]), if_neg (Nat.not_lt.mpr short)]

theorem takes_pong (later : session.lastProgress < progress.toInt)
    (nonce : String) (arithmetic : Arithmetic) (now : Nat) :
    ∃ after, session.processFrame arithmetic now progress (.pong nonce) =
        some (.ok .none, after) ∧ after.InOrder ∧ after.options = session.options ∧
      after.lastProgress = progress.toInt ∧ after.toDataPlane = session.toDataPlane := by
  have noted := inOrder.noted later now
  have untouched := untouched_handlePong (session.noted now progress) nonce
  refine ⟨_, ?_, noted.handlePong nonce, untouched.options, untouched.progress, untouched.plane⟩
  rw [processFrame_of_accepts (inOrder.accepts later), handleFrame,
    if_neg (by simp [noted.started])]

theorem popped {item : String} {rest : List String} (front : session.queue = item :: rest) :
    InOrder { session with toDataPlane := session.toDataPlane.popped item rest } :=
  ⟨⟨inOrder.sound.counted.popped front, inOrder.sound.settled, inOrder.sound.reach,
    inOrder.sound.progress⟩, inOrder.active, inOrder.started, inOrder.opened, inOrder.empty⟩

/-- A close that declares the chunks there are is the end of the stream. -/
theorem takes_close (later : session.lastProgress < progress.toInt)
    (arithmetic : Arithmetic) (now : Nat) :
    ∃ after, session.processFrame arithmetic now progress
          (.close (declaredIndex session.nextExpectedChunk)) = some (.ok .closed, after) ∧
      after.Sound ∧ after.active = false ∧ after.terminal = none ∧
      after.lastProgress = progress.toInt ∧ after.queue = session.queue := by
  have reach := inOrder.sound.reach_le
  -- The reader with the close noted: there is nothing to flush, and all chunks are there.
  obtain ⟨closing, same⟩ : ∃ closing, closing =
      (session.noted now progress).closing (declaredIndex session.nextExpectedChunk) := ⟨_, rfl⟩
  have settled : closing.settle = closing := by
    apply settle_of_settled
    rw [same]
    exact inOrder.sound.settled
  have complete : closing.Complete arithmetic := by
    subst same
    refine ⟨rfl, inOrder.empty, ?_⟩
    intro expected declared
    change declaredIndex session.nextExpectedChunk = some expected at declared
    simp only [declaredIndex, Option.ite_none_left_eq_some, Option.some.injEq] at declared
    obtain ⟨some, rfl⟩ := declared
    have count : (UInt64.ofNat (session.nextExpectedChunk - 1)).toNat + 1 =
        session.nextExpectedChunk := by
      simp only [DataPlane.reach, u64Max] at reach
      rw [UInt64.toNat_ofNat']
      omega
    have word : session.nextExpectedChunk ≤ u64Max :=
      Nat.le_of_lt (Nat.lt_of_le_of_lt (Nat.le_add_right _ _) reach)
    rw [Arithmetic.add_eq arithmetic (by rw [count]; exact word), count]
    rfl
  have answer : session.processFrame arithmetic now progress
      (.close (declaredIndex session.nextExpectedChunk)) =
        some (.ok .closed, closing.finalize none) := by
    rw [processFrame_close (inOrder.accepts later) inOrder.started]
    change (flushContiguousChunks arithmetic ((session.noted now progress).closing
      (declaredIndex session.nextExpectedChunk))).map _ = _
    have counted : closing.toDataPlane.Counted closing.options ∧
        closing.toDataPlane.reach ≤ u64Max := by
      subst same
      exact ⟨inOrder.sound.counted, Nat.le_of_lt reach⟩
    rw [← same, flushContiguousChunks_eq counted.1 counted.2, if_pos complete.closed, settled,
      maybeFinishGracefully_of_complete complete]
    rfl
  have active : closing.active = true := by
    rw [same]
    exact inOrder.active
  refine ⟨_, answer, (processFrame_cases inOrder.sound (inOrder.sound.fits rfl) answer).sound
    inOrder.sound, ?_⟩
  rw [finalize, if_pos active]
  subst same
  exact ⟨rfl, rfl, rfl, rfl⟩

end

end SessionState.InOrder

namespace OpenStreamRegistry

/-- The last progress that the first reader has seen. -/
def lastProgress (registry : OpenStreamRegistry) : Int :=
  (registry.made[0]?.map SessionState.lastProgress).getD (-1)

/-- The chunks that wait for the consumer of the first reader. -/
def queue (registry : OpenStreamRegistry) : List String :=
  (registry.made[0]?.map fun session => session.queue).getD []

end OpenStreamRegistry

/-- The one reader of a registry. -/
def soleEntry (token : String) : AList fun _ : String => RegistryEntry :=
  AList.insert token ⟨0, false, false⟩ ∅

/-- What a registry keeps when a stream has come to a stage. -/
inductive ReaderAt (policy : OpenStreamRegistryPolicy) (token : String) :
    Stage → OpenStreamRegistry → Prop
  /-- There is no reader yet. -/
  | fresh : ReaderAt policy token .fresh (.withPolicy policy)
  /-- The reader has taken all chunks so far. -/
  | streaming {session : SessionState} (inOrder : session.InOrder)
      (options : session.options = OpenStreamRegistry.sessionOptions policy token false) :
      ReaderAt policy token (.streaming session.nextExpectedChunk)
        ⟨policy, soleEntry token, [session], []⟩
  /-- The reader has ended gracefully, and is held by its consumer only. -/
  | ended {session : SessionState} (chunks : Nat) (registry : OpenStreamRegistry)
      (made : registry.made = [session]) (sound : session.Sound)
      (inactive : session.active = false) (graceful : session.terminal = none) :
      ReaderAt policy token (.ended chunks) registry

section Deliver

variable {policy : OpenStreamRegistryPolicy} {token : String} {session : SessionState}
  {progress : UInt64} {frame : OpenStreamFrame}

theorem toInt_ofInt_toNat (small : progress.toNat < 2 ^ 63) :
    (Int64.ofInt progress.toNat).toInt = progress.toNat := by
  apply Int64.toInt_ofInt_of_le
  · omega
  · omega

theorem feed_sole {arithmetic : Arithmetic} {now : Nat} {signed : Int64} {after : SessionState}
    {outcome : FrameOutcome} (goes : ∀ reason, outcome ≠ .aborted reason)
    (answer : session.processFrame arithmetic now signed frame = some (.ok outcome, after)) :
    OpenStreamRegistry.feed arithmetic ⟨policy, soleEntry token, [session], []⟩ now token signed
        frame ⟨0, false, false⟩ =
      some (.ok outcome, if outcome = .closed then
          ⟨policy, (soleEntry token).erase token, [after], []⟩
        else ⟨policy, soleEntry token, [after], []⟩) := by
  have found : (soleEntry token).lookup token = some ⟨0, false, false⟩ := AList.lookup_insert _
  simp only [feed, List.getElem?_cons_zero, Option.bind_eq_bind, Option.bind_some, answer]
  cases outcome with
  | none | sendPong nonce => rfl
  | closed => simp [runClose, remove, found]
  | aborted reason => exact absurd rfl (goes reason)

/-- The registry makes a reader for a start, which then takes it. -/
theorem processFrame_opening (serde : SerdeJson) (arithmetic : Arithmetic) (now : Nat)
    (named : token ≠ "") (admitted : 0 < policy.maxConcurrentStreams)
    (small : progress.toNat < 2 ^ 63) (contentType : Option String) :
    ∃ session : SessionState, (OpenStreamRegistry.withPolicy policy).processFrame serde arithmetic
        now (notify token (progress, .start contentType)) =
          some (.ok .none, ⟨policy, soleEntry token, [session], []⟩) ∧
      session.InOrder ∧ session.options = OpenStreamRegistry.sessionOptions policy token false ∧
      session.lastProgress = progress.toNat ∧ session.queue = [] ∧
      session.nextExpectedChunk = 0 := by
  have word := toInt_ofInt_toNat small
  obtain ⟨session, answer, inOrder, options, reached, rest⟩ :=
    SessionState.InOrder.takes_start (sessionOptions policy token false)
      arithmetic now (by rw [word]; omega) contentType
  have unknown : (withPolicy policy).sessions.lookup token = none := rfl
  have free : (withPolicy policy).sessions.entries.length <
      (withPolicy policy).policy.maxConcurrentStreams.toNat :=
    UInt64.lt_iff_toNat_lt.mp admitted
  have opens : (withPolicy policy).admitFrame now token (.start contentType) =
      .ok (some (⟨0, false, false⟩, ⟨policy, soleEntry token,
        [.new (sessionOptions policy token false) now], []⟩)) := by
    simp only [admitFrame, unknown, createSessionWith,
      Option.isSome_none, Bool.false_eq_true, if_false, if_neg (Nat.not_le.mpr free)]
    rfl
  refine ⟨session, ?_, inOrder, options, reached.trans word, rest⟩
  rw [OpenStreamRegistry.processFrame, notify,
    parseFrame_intoProgressNotification serde _ named small]
  simp only [opens]
  exact feed_sole (by simp) answer

/-- What the reader at the other end answers to a frame that belongs where the stream is. -/
theorem ReaderAt.deliver {stage after : Stage} {registry : OpenStreamRegistry}
    (readerAt : ReaderAt policy token stage registry) (serde : SerdeJson)
    (arithmetic : Arithmetic) (now : Nat) (named : token ≠ "")
    (admitted : 0 < policy.maxConcurrentStreams) (small : progress.toNat < 2 ^ 63)
    (later : registry.lastProgress < progress.toNat) (belongs : stage.next frame = some after)
    (room : ∀ chunkIndex data, frame = .chunk chunkIndex data →
      ∀ session, registry.made[0]? = some session →
        session.queue.length < session.options.maxBufferedChunks.toNat ∧
        session.queuedBytes + data.utf8ByteSize ≤ session.options.maxBufferedBytes.toNat) :
    ∃ outcome rest, registry.processFrame serde arithmetic now (notify token (progress, frame)) =
        some (.ok outcome, rest) ∧ ReaderAt policy token after rest ∧
      rest.lastProgress = progress.toNat ∧ rest.queue = registry.queue ++ frame.chunkData ∧
      (after = .ended after.chunks → outcome = .closed) := by
  have word := toInt_ofInt_toNat small
  cases readerAt with
  | fresh =>
    cases frame with
    | accept | chunk | ping | pong | close | abort => cases belongs
    | start contentType =>
      cases belongs
      obtain ⟨session, answer, inOrder, options, reached, queue, count⟩ :=
        processFrame_opening serde arithmetic now named admitted small contentType
      refine ⟨_, _, answer, ?_, reached, queue, by simp⟩
      rw [← count]
      exact .streaming inOrder options
  | ended chunks registry made sound inactive graceful => cases belongs
  | streaming inOrder options =>
    rename_i session
    have beyond : session.lastProgress < (Int64.ofInt progress.toNat).toInt := by
      rw [word]
      exact later
    have found : (soleEntry token).lookup token = some ⟨0, false, false⟩ := AList.lookup_insert _
    rw [OpenStreamRegistry.processFrame, notify,
      parseFrame_intoProgressNotification serde frame named small]
    simp only [admitFrame, found]
    -- One case for each frame that belongs in the middle of a stream.
    cases frame with
    | start | accept | abort => cases belongs
    | chunk chunkIndex data =>
      obtain ⟨next, rfl⟩ := Option.ite_some_none_eq_some.mp belongs
      obtain ⟨slots, bytes⟩ := room chunkIndex data rfl session rfl
      obtain ⟨rest, answer, still, kept, reached, queue, count⟩ := inOrder.takes_chunk beyond next
        slots bytes arithmetic now
      refine ⟨_, _, feed_sole (by simp) answer, ?_, ?_, queue, by simp⟩
      · rw [← count]
        exact .streaming still (kept.trans options)
      · exact reached.trans word
    | ping nonce =>
      obtain ⟨short, rfl⟩ := Option.ite_some_none_eq_some.mp belongs
      have answer := inOrder.takes_ping beyond short arithmetic now
      exact ⟨_, _, feed_sole (by simp) answer, .streaming (inOrder.noted beyond now) options, word,
        by simp [OpenStreamRegistry.queue, OpenStreamFrame.chunkData, SessionState.noted], by simp⟩
    | pong nonce =>
      cases belongs
      obtain ⟨rest, answer, still, kept, reached, plane⟩ :=
        inOrder.takes_pong beyond nonce arithmetic now
      refine ⟨_, _, feed_sole (by simp) answer, ?_, ?_, ?_, by simp⟩
      · rw [← plane]
        exact .streaming still (kept.trans options)
      · exact reached.trans word
      · simp [OpenStreamRegistry.queue, OpenStreamFrame.chunkData, plane]
    | close last =>
      obtain ⟨rfl, rfl⟩ := Option.ite_some_none_eq_some.mp belongs
      obtain ⟨rest, answer, sound, inactive, graceful, reached, queue⟩ :=
        inOrder.takes_close beyond arithmetic now
      refine ⟨_, _, feed_sole (by simp) answer, ?_, ?_, ?_, fun _ => rfl⟩
      · exact .ended _ _ rfl sound inactive graceful
      · exact reached.trans word
      · simpa [OpenStreamRegistry.queue, OpenStreamFrame.chunkData] using queue

/-- What the consumer finds when it polls the reader. -/
theorem ReaderAt.poll {stage : Stage} {registry : OpenStreamRegistry} {arithmetic : Arithmetic}
    {polled : SessionState.Polled} {rest : SessionState}
    (readerAt : ReaderAt policy token stage registry)
    (found : registry.made[0]? = some session)
    (poll : session.pollNext arithmetic = some (polled, rest)) :
    ∃ after, after = { registry with made := registry.made.set 0 rest } ∧
      ReaderAt policy token stage after ∧ after.lastProgress = registry.lastProgress ∧
      ((∃ item, polled = .ready (some (.ok item)) ∧ registry.queue = item :: after.queue) ∨
        (polled = .pending ∧ after.queue = registry.queue) ∨
        (polled = .ready none ∧ stage = .ended stage.chunks ∧ registry.queue = [] ∧
          after.queue = [])) := by
  cases readerAt with
  | fresh => cases found
  | streaming inOrder options =>
    cases found
    rcases pollNext_cases inOrder.sound poll with ⟨item, queue, front, rfl, rfl⟩ |
      ⟨-, -, rfl, rfl⟩ | ⟨-, inactive, -⟩
    · exact ⟨_, rfl, .streaming (inOrder.popped front) options, rfl, .inl ⟨item, rfl, front⟩⟩
    · exact ⟨_, rfl, .streaming inOrder options, rfl, .inr (.inl ⟨rfl, rfl⟩)⟩
    · simp [inOrder.active] at inactive
  | ended chunks registry made sound inactive graceful =>
    rw [made] at found
    cases found
    rcases pollNext_cases sound poll with ⟨item, queue, front, rfl, rfl⟩ |
      ⟨-, active, -⟩ | ⟨none, -, rfl, rfl⟩
    · refine ⟨_, rfl, .ended chunks _ (by rw [made]; rfl) (sound.pollNext poll) inactive graceful,
        ?_, .inl ⟨item, rfl, ?_⟩⟩
      · simp [OpenStreamRegistry.lastProgress, made]
      · simp [OpenStreamRegistry.queue, made, front, DataPlane.popped]
    · grind
    · -- There is no error to yield, so the end shows.
      refine ⟨_, rfl, .ended chunks _ (by rw [made]; rfl) (sound.pollNext poll) inactive rfl, ?_,
        .inr (.inr ⟨by rw [graceful]; rfl, rfl, ?_, ?_⟩)⟩
      · simp [OpenStreamRegistry.lastProgress, made]
      · simp [OpenStreamRegistry.queue, made, none]
      · simp [OpenStreamRegistry.queue, made, none]

end Deliver

end ContextVm.OpenStream
