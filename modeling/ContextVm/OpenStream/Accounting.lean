import ContextVm.Lib.Execution
import ContextVm.Lib.Slots
import ContextVm.Lib.Weights
import ContextVm.OpenStream.Session

/-! The buffers of a reader: their counters are exact, and their limits hold. -/

namespace ContextVm.OpenStream

open Arithmetic DataPlane SessionState

/-! One plane of chunks. -/

namespace DataPlane

variable {options : OpenStreamSessionOptions} {plane : DataPlane} {chunkIndex : UInt64}
  {data : String}

/-- The counters tell what the buffers hold, and what they hold is within the limits. -/
structure Counted (options : OpenStreamSessionOptions) (plane : DataPlane) : Prop where
  queued : plane.queuedBytes = (plane.queue.map String.utf8ByteSize).sum
  buffered : plane.bufferedBytes = heldWeight String.utf8ByteSize plane.buffered
  chunks : plane.queue.length + plane.buffered.entries.length ≤ options.maxBufferedChunks.toNat
  bytes : plane.queuedBytes + plane.bufferedBytes ≤ options.maxBufferedBytes.toNat
  ahead : ∀ index, (plane.buffered.lookup index).isSome → plane.nextExpectedChunk ≤ index

/-- No chunk is waiting that could be queued. -/
def Settled (plane : DataPlane) : Prop := plane.buffered.lookup plane.nextExpectedChunk = none

/-- The number of chunks that were ever stored. -/
def reach (plane : DataPlane) : Nat := plane.nextExpectedChunk + plane.buffered.entries.length

/-- There is room for a chunk that is neither stale nor known. -/
def Admits (options : OpenStreamSessionOptions) (plane : DataPlane) (chunkIndex : UInt64)
    (data : String) : Prop :=
  plane.nextExpectedChunk ≤ chunkIndex.toNat ∧ plane.buffered.lookup chunkIndex.toNat = none ∧
    plane.buffered.entries.length + plane.queue.length < options.maxBufferedChunks.toNat ∧
    plane.bufferedBytes + plane.queuedBytes + data.utf8ByteSize ≤ options.maxBufferedBytes.toNat

instance (options : OpenStreamSessionOptions) (plane : DataPlane) (chunkIndex : UInt64)
    (data : String) : Decidable (plane.Admits options chunkIndex data) :=
  inferInstanceAs (Decidable (_ ∧ _ ∧ _ ∧ _))

/-- The plane with one more chunk put aside. -/
def store (plane : DataPlane) (index : Nat) (data : String) : DataPlane :=
  { plane with
    buffered := plane.buffered.insert index data
    bufferedBytes := plane.bufferedBytes + data.utf8ByteSize }

/-- The plane with its next chunk in order queued. -/
def advanced (plane : DataPlane) (data : String) : DataPlane where
  queue := plane.queue ++ [data]
  buffered := plane.buffered.erase plane.nextExpectedChunk
  bufferedBytes := plane.bufferedBytes - data.utf8ByteSize
  queuedBytes := plane.queuedBytes + data.utf8ByteSize
  nextExpectedChunk := plane.nextExpectedChunk + 1

/-- The plane with so many chunks queued, or as many as are there in order. -/
def drained : Nat → DataPlane → DataPlane
  | 0, plane => plane
  | steps + 1, plane =>
    match plane.buffered.lookup plane.nextExpectedChunk with
    | none => plane
    | some data => drained steps (plane.advanced data)

/-- The plane with all chunks queued that are there in order. -/
def flushed (plane : DataPlane) : DataPlane := plane.drained plane.buffered.entries.length

/-- A word is at most the largest one. -/
theorem toNat_le_u64Max (word : UInt64) : word.toNat ≤ u64Max := by
  have below := word.toNat_lt
  simp only [u64Max]
  omega

/-! Putting a chunk aside. -/

/-- What the buffers hold and a chunk that is in memory beside it are counted in words. -/
structure Room (plane : DataPlane) (data : String) : Prop where
  slots : plane.buffered.entries.length + plane.queue.length ≤ u64Max
  bytes : plane.bufferedBytes + plane.queuedBytes + data.utf8ByteSize ≤ u64Max

/-- A chunk that is admitted is stored. -/
theorem bufferChunk_of_admits (room : plane.Room data) (arithmetic : Arithmetic)
    (admits : plane.Admits options chunkIndex data) :
    plane.bufferChunk arithmetic options chunkIndex data =
      some (.ok (plane.store chunkIndex.toNat data)) := by
  obtain ⟨current, unknown, free, small⟩ := admits
  have held : plane.bufferedBytes + plane.queuedBytes ≤ u64Max := Nat.le_of_add_right_le room.bytes
  have added : plane.bufferedBytes + data.utf8ByteSize ≤ u64Max := by
    have bytes := room.bytes
    omega
  -- Each of the four checks passes.
  simp only [bufferChunk, add_eq _ room.slots, add_eq _ held,
    add_eq _ added, Option.bind_eq_bind, Option.bind_some, add_eq _ room.bytes,
    if_neg (Nat.not_lt.mpr current), unknown, Option.isSome_none, Bool.false_eq_true, if_false,
    if_neg (Nat.not_le.mpr free), if_neg (Nat.not_lt.mpr small)]
  rfl

/-- Any other chunk is an error. -/
theorem bufferChunk_of_not_admits (room : plane.Room data) (arithmetic : Arithmetic)
    (refused : ¬ plane.Admits options chunkIndex data) :
    ∃ error, plane.bufferChunk arithmetic options chunkIndex data = some (.error error) := by
  have held : plane.bufferedBytes + plane.queuedBytes ≤ u64Max := Nat.le_of_add_right_le room.bytes
  -- One of the four checks fails, and each has a text of its own.
  simp only [bufferChunk, add_eq _ room.slots, add_eq _ held,
    Option.bind_eq_bind, Option.bind_some, add_eq _ room.bytes]
  split
  · exact ⟨_, rfl⟩
  split
  · exact ⟨_, rfl⟩
  split
  · exact ⟨_, rfl⟩
  split
  · exact ⟨_, rfl⟩
  rename_i current unknown free small
  refine absurd ?_ refused
  exact ⟨Nat.not_lt.mp current, by simpa using unknown, Nat.not_le.mp free, Nat.not_lt.mp small⟩

/-- The counts are right after a chunk is stored. -/
theorem Counted.store (counted : plane.Counted options)
    (admits : plane.Admits options chunkIndex data) :
    (plane.store chunkIndex.toNat data).Counted options := by
  obtain ⟨current, unknown, free, small⟩ := admits
  obtain ⟨longer, heavier⟩ := insert_of_free String.utf8ByteSize data unknown
  refine ⟨counted.queued, ?_, ?_, ?_, ?_⟩
  · show plane.bufferedBytes + _ = _
    rw [counted.buffered]
    exact heavier.symm
  · show plane.queue.length + (plane.buffered.insert chunkIndex.toNat data).entries.length ≤ _
    omega
  · show plane.queuedBytes + (plane.bufferedBytes + _) ≤ _
    omega
  · -- The chunk itself is not stale, and the others were ahead before.
    intro index held
    by_cases same : index = chunkIndex.toNat
    · rw [same]
      exact current
    · refine counted.ahead index ?_
      rwa [DataPlane.store, AList.lookup_insert_ne same] at held

/-- A stored chunk adds one to the reach. -/
theorem reach_store (unknown : plane.buffered.lookup chunkIndex.toNat = none) :
    (plane.store chunkIndex.toNat data).reach = plane.reach + 1 := by
  have longer := (insert_of_free String.utf8ByteSize data unknown).1
  simp only [reach, store, longer]
  omega

/-! Queueing what is in order. -/

/-- A plane whose next chunk is queued is counted as before. -/
theorem Counted.advanced (counted : plane.Counted options)
    (next : plane.buffered.lookup plane.nextExpectedChunk = some data) :
    (plane.advanced data).Counted options := by
  obtain ⟨shorter, lighter⟩ := erase_of_held String.utf8ByteSize next
  have weighed := counted.buffered
  have within := counted.bytes
  refine ⟨?_, ?_, ?_, ?_, ?_⟩
  · show plane.queuedBytes + _ = ((plane.queue ++ [data]).map String.utf8ByteSize).sum
    rw [counted.queued]
    simp
  · show plane.bufferedBytes - _ = heldWeight _ (plane.buffered.erase plane.nextExpectedChunk)
    omega
  · have chunks := counted.chunks
    show (plane.queue ++ [data]).length + (plane.buffered.erase _).entries.length ≤ _
    rw [List.length_append, List.length_singleton]
    omega
  · show plane.queuedBytes + _ + (plane.bufferedBytes - _) ≤ _
    omega
  · -- What is left is ahead of the next chunk, and is not that chunk.
    intro index held
    show plane.nextExpectedChunk + 1 ≤ index
    have other : index ≠ plane.nextExpectedChunk := by
      rintro rfl
      simp [DataPlane.advanced] at held
    rw [DataPlane.advanced, AList.lookup_erase_ne other] at held
    have before := counted.ahead index held
    omega

/-- A chunk that is passed on leaves the reach. -/
theorem reach_advanced (next : plane.buffered.lookup plane.nextExpectedChunk = some data) :
    (plane.advanced data).reach = plane.reach := by
  have shorter := (erase_of_held String.utf8ByteSize next).1
  simp only [reach, advanced]
  omega

/-- What every chunk that is passed on keeps, a flush keeps. -/
theorem flushed_induction (kept : DataPlane → Prop) (initially : kept plane)
    (preserved : ∀ before data, before.buffered.lookup before.nextExpectedChunk = some data →
      kept before → kept (before.advanced data)) : kept plane.flushed := by
  -- The loop goes on from whichever plane it has come to.
  suffices drains : ∀ steps before, kept before → kept (drained steps before) from
    drains _ plane initially
  intro steps
  induction steps with
  | zero =>
    intro before holds
    exact holds
  | succ steps ih =>
    intro before holds
    rw [drained]
    split
    · exact holds
    · grind

/-- After a flush no chunk is waiting that could be queued. -/
theorem settled_flushed (plane : DataPlane) : plane.flushed.Settled := by
  -- The loop has a round for each chunk, and each round takes one.
  suffices drains : ∀ steps before, before.buffered.entries.length ≤ steps →
      (drained steps before).Settled from drains _ plane (Nat.le_refl _)
  intro steps
  induction steps with
  | zero =>
    intro before few
    cases held : before.buffered.lookup before.nextExpectedChunk with
    | none => exact held
    | some data =>
      have shorter := (erase_of_held String.utf8ByteSize held).1
      omega
  | succ steps ih =>
    intro before few
    rw [drained]
    split
    · rename_i missing
      exact missing
    · rename_i data next
      have shorter := (erase_of_held String.utf8ByteSize next).1
      apply ih
      show (before.buffered.erase before.nextExpectedChunk).entries.length ≤ steps
      omega

/-- The counts are right after a flush. -/
theorem Counted.flushed (counted : plane.Counted options) : plane.flushed.Counted options :=
  flushed_induction (Counted options) counted fun _ _ next holds => holds.advanced next

/-- A flush leaves the reach. -/
@[simp] theorem reach_flushed (plane : DataPlane) : plane.flushed.reach = plane.reach := by
  refine flushed_induction (fun after => after.reach = plane.reach) rfl ?_
  intro before data next same
  rw [reach_advanced next, same]

/-- With right counts, passing a chunk on never fails. -/
theorem advance_eq (arithmetic : Arithmetic) (counted : plane.Counted options)
    (word : plane.reach ≤ u64Max)
    (next : plane.buffered.lookup plane.nextExpectedChunk = some data) :
    plane.advance arithmetic data = some (plane.advanced data) := by
  obtain ⟨shorter, lighter⟩ := erase_of_held String.utf8ByteSize next
  have weighed := counted.buffered
  have within := counted.bytes
  have limit := toNat_le_u64Max options.maxBufferedBytes
  -- The chunk is among those that were counted, and its bytes only change sides.
  have ordered : data.utf8ByteSize ≤ plane.bufferedBytes := by omega
  have queued : plane.queuedBytes + data.utf8ByteSize ≤ u64Max := by omega
  have index : plane.nextExpectedChunk + 1 ≤ u64Max := by
    rw [reach] at word
    omega
  simp only [advance, emit, saturatingSub_eq _ ordered, Option.bind_eq_bind,
    Option.bind_some, add_eq _ queued, add_eq _ index, Option.pure_def]
  rfl

/-- With right counts, a flush never fails. -/
theorem flush_eq (arithmetic : Arithmetic) (counted : plane.Counted options)
    (word : plane.reach ≤ u64Max) : plane.flush arithmetic = some plane.flushed := by
  suffices drains : ∀ steps before, Counted options before → before.reach ≤ u64Max →
      drain arithmetic steps before = some (drained steps before) from
    drains _ plane counted word
  intro steps
  induction steps with
  | zero =>
    intro before _ _
    rfl
  | succ steps ih =>
    intro before holds small
    cases next : before.buffered.lookup before.nextExpectedChunk with
    | none => simp only [drain, drained, next]
    | some data =>
      simp only [drain, drained, next, advance_eq arithmetic holds small next, Option.bind_some]
      exact ih _ (holds.advanced next) (by rwa [reach_advanced next])

/-! Handing out what is queued. -/

/-- The plane with its first chunk handed out. -/
def popped (plane : DataPlane) (item : String) (rest : List String) : DataPlane :=
  { plane with queue := rest, queuedBytes := plane.queuedBytes - item.utf8ByteSize }

/-- The consumer takes the front of the queue. -/
theorem popFront_cons (arithmetic : Arithmetic) (counted : plane.Counted options) {item : String}
    {rest : List String} (front : plane.queue = item :: rest) :
    plane.popFront arithmetic = some (some item, plane.popped item rest) := by
  -- The chunk is among those that were counted.
  have ordered : item.utf8ByteSize ≤ plane.queuedBytes := by
    rw [counted.queued, front]
    exact Nat.le_add_right _ _
  simp [popFront, popped, front, saturatingSub_eq arithmetic ordered]

/-- The counts are right after that. -/
theorem Counted.popped (counted : plane.Counted options) {item : String} {rest : List String}
    (front : plane.queue = item :: rest) : (plane.popped item rest).Counted options := by
  have queued := counted.queued
  have chunks := counted.chunks
  have bytes := counted.bytes
  rw [front, List.map_cons, List.sum_cons] at queued
  rw [front, List.length_cons] at chunks
  refine ⟨?_, counted.buffered, ?_, ?_, counted.ahead⟩
  · simp only [DataPlane.popped]
    omega
  · simp only [DataPlane.popped]
    omega
  · simp only [DataPlane.popped]
    omega

end DataPlane

/-! What one frame does to a reader. -/

namespace SessionState

variable {arithmetic : Arithmetic} {state after : SessionState} {now : Nat} {progress : Int64}
  {frame : OpenStreamFrame} {result : Except OpenStreamError FrameOutcome}
variable {chunkIndex : UInt64} {data : String}

/-- Two states of a reader with the same buffers, the same progress and the same close. -/
structure Untouched (state after : SessionState) : Prop where
  plane : after.toDataPlane = state.toDataPlane
  options : after.options = state.options
  progress : after.lastProgress = state.lastProgress
  closed : after.closedRemotely = state.closedRemotely
  last : after.expectedLastChunkIndex = state.expectedLastChunkIndex

/-- A state is not touched by nothing. -/
theorem Untouched.refl (state : SessionState) : Untouched state state := ⟨rfl, rfl, rfl, rfl, rfl⟩

/-- The end of a session touches no data. -/
theorem untouched_finalize (state : SessionState) (error : Option OpenStreamError) :
    Untouched state (state.finalize error) := by
  unfold finalize
  split
  · exact ⟨rfl, rfl, rfl, rfl, rfl⟩
  · exact .refl state

/-- A tick touches no data. -/
theorem untouched_tick (state : SessionState) (now : Nat) : Untouched state (state.tick now).2 := by
  simp only [tick]
  split
  · exact .refl state
  split
  · exact untouched_finalize state _
  split
  · exact untouched_finalize state _
  split
  · exact ⟨rfl, rfl, rfl, rfl, rfl⟩
  · exact .refl state

/-- An abort touches no data. -/
theorem untouched_abort (state : SessionState) (reason : Option String) :
    Untouched state (state.abort reason).2 := by
  simp only [abort]
  split
  · have ended := untouched_finalize state (some (.abort state.options.progressToken reason))
    split
    · exact ⟨ended.plane, ended.options, ended.progress, ended.closed, ended.last⟩
    · exact ended
  · exact .refl state

/-- The reader after a frame in order was noted. -/
def noted (state : SessionState) (now : Nat) (progress : Int64) : SessionState :=
  { state with lastProgress := progress.toInt, lastActivity := now }

/-- The reader with a chunk put aside. -/
def stored (state : SessionState) (chunkIndex : UInt64) (data : String) : SessionState :=
  { state with toDataPlane := state.toDataPlane.store chunkIndex.toNat data }

/-- The reader after a close was noted. -/
def closing (state : SessionState) (lastChunkIndex : Option UInt64) : SessionState :=
  { state with closedRemotely := true, expectedLastChunkIndex := lastChunkIndex }

/-- The reader with all chunks queued that are there in order. -/
def settle (state : SessionState) : SessionState :=
  { state with toDataPlane := state.toDataPlane.flushed }

/-- The buffers are counted right, and no more chunks were stored than frames were in order. -/
structure Sound (state : SessionState) : Prop where
  counted : state.toDataPlane.Counted state.options
  settled : state.toDataPlane.Settled
  reach : (state.toDataPlane.reach : Int) ≤ state.lastProgress + 1
  progress : state.lastProgress < 2 ^ 63

/-- A new session is sound. -/
theorem sound_new (options : OpenStreamSessionOptions) (now : Nat) : (new options now).Sound where
  counted := ⟨rfl, rfl, Nat.zero_le _, Nat.zero_le _, fun _ _ => Nat.zero_le _⟩
  settled := rfl
  reach := Int.le_refl 0
  progress := by
    show (-1 : Int) < 2 ^ 63
    omega

/-- What touches no data keeps a session sound. -/
theorem Sound.of_untouched (sound : state.Sound) (untouched : Untouched state after) :
    after.Sound := by
  refine ⟨?_, ?_, ?_, ?_⟩
  · rw [untouched.plane, untouched.options]
    exact sound.counted
  · rw [untouched.plane]
    exact sound.settled
  · rw [untouched.plane, untouched.progress]
    exact sound.reach
  · rw [untouched.progress]
    exact sound.progress

/-- The reach of a sound session is a word. -/
theorem Sound.reach_le (sound : state.Sound) : state.toDataPlane.reach < u64Max := by
  grind [Sound, u64Max]

/-- The two counters add up to the bytes that are held. -/
theorem Sound.heldBytes (sound : state.Sound) :
    state.heldBytes = state.queuedBytes + state.bufferedBytes := by
  rw [sound.counted.queued, sound.counted.buffered]
  rfl

/-- A frame without data always fits. -/
theorem Sound.fits (sound : state.Sound) (plain : frame.dataBytes = 0) : state.fits frame := by
  have bytes := sound.counted.bytes
  have limit := DataPlane.toNat_le_u64Max state.options.maxBufferedBytes
  rw [SessionState.fits, sound.heldBytes, plain]
  omega

/-- A chunk that fits leaves room in the counters. -/
theorem Sound.room (sound : state.Sound) (fits : state.fits (.chunk chunkIndex data)) :
    state.toDataPlane.Room data := by
  have chunks := sound.counted.chunks
  have limit := toNat_le_u64Max state.options.maxBufferedChunks
  refine ⟨by omega, ?_⟩
  simp only [SessionState.fits, sound.heldBytes, OpenStreamFrame.dataBytes] at fits
  omega

/-- Where the next chunk is missing a flush does nothing. -/
theorem flushed_of_settled {plane : DataPlane} (settled : plane.Settled) :
    plane.flushed = plane := by
  rw [flushed]
  cases plane.buffered.entries.length with
  | zero => rfl
  | succ steps =>
    rw [drained]
    rw [settled]

/-- Nor does it for the session. -/
theorem settle_of_settled (settled : state.toDataPlane.Settled) : state.settle = state := by
  rw [settle, flushed_of_settled settled]

/-- Whether a frame passes the checks that all frames pass. -/
def Accepts (state : SessionState) (progress : Int64) : Prop :=
  state.active = true ∧ state.lastProgress < progress.toInt

instance (state : SessionState) (progress : Int64) : Decidable (state.Accepts progress) :=
  inferInstanceAs (Decidable (_ ∧ _))

/-- The stream has been closed and its chunks are all there. -/
structure Complete (arithmetic : Arithmetic) (state : SessionState) : Prop where
  closed : state.closedRemotely = true
  drained : state.buffered = ∅
  last : ∀ expected, state.expectedLastChunkIndex = some expected →
    arithmetic.add expected.toNat 1 = some state.nextExpectedChunk

/-- How a flush ends that a frame has caused. -/
inductive Settles (arithmetic : Arithmetic) (state : SessionState) :
    Except OpenStreamError FrameOutcome → SessionState → Prop
  /-- The stream goes on. -/
  | unfinished {result : Except OpenStreamError FrameOutcome} (deadline : Option Nat)
      (going : result ≠ .ok .closed) :
      Settles arithmetic state result { state.settle with closeGraceDeadline := deadline }
  /-- The stream has ended. -/
  | finished (complete : state.settle.Complete arithmetic) :
      Settles arithmetic state (.ok .closed) (state.settle.finalize none)

/-- A stream ends gracefully when it is complete, and stays as it is otherwise. -/
theorem maybeFinishGracefully_cases {finished : Except OpenStreamError Bool}
    (finish : state.maybeFinishGracefully arithmetic = some (finished, after)) :
    (finished ≠ .ok true ∧ after = state) ∨
      (finished = .ok true ∧ state.Complete arithmetic ∧ after = state.finalize none) := by
  simp only [maybeFinishGracefully] at finish
  split at finish
  · grind
  · rename_i complete
    rw [not_or] at complete
    have closed : state.closedRemotely = true := eq_true_of_ne_false complete.1
    have drained : state.buffered = ∅ := isEmpty_entries.mp (eq_true_of_ne_false complete.2)
    split at finish
    · rename_i undeclared
      cases finish
      refine .inr ⟨rfl, ⟨closed, drained, ?_⟩, rfl⟩
      intro expected declared
      simp [undeclared] at declared
    · -- With a declared last chunk, the number of chunks has to fit it.
      rename_i expected declared
      obtain ⟨count, sum, finish⟩ := Option.map_eq_some_iff.mp finish
      split at finish
      · grind
      · rename_i equal
        cases finish
        refine .inr ⟨rfl, ⟨closed, drained, ?_⟩, rfl⟩
        intro other same
        rw [declared, Option.some.injEq] at same
        rw [← same, sum, not_not.mp equal]

/-- A complete session ends gracefully. -/
theorem maybeFinishGracefully_of_complete (complete : state.Complete arithmetic) :
    state.maybeFinishGracefully arithmetic = some (.ok true, state.finalize none) := by
  have drained : state.buffered.entries.isEmpty = true := isEmpty_entries.mpr complete.drained
  rw [maybeFinishGracefully, if_neg (by simp [complete.closed, drained])]
  cases declared : state.expectedLastChunkIndex with
  | none => rfl
  | some expected => simp [complete.last expected declared]

/-- After a flush, a session that was closed tries to end. -/
theorem flushContiguousChunks_eq (counted : state.toDataPlane.Counted state.options)
    (word : state.toDataPlane.reach ≤ u64Max) :
    state.flushContiguousChunks arithmetic =
      if state.closedRemotely then state.settle.maybeFinishGracefully arithmetic
      else some (.ok false, state.settle) := by
  rw [flushContiguousChunks, flush_eq arithmetic counted word]
  rfl

/-- What a flush that a frame has caused leaves. -/
theorem settles_of_flush (state : SessionState) (counted : state.toDataPlane.Counted state.options)
    (word : state.toDataPlane.reach ≤ u64Max) {flushed : Except OpenStreamError Bool × SessionState}
    (flush : state.flushContiguousChunks arithmetic = some flushed)
    (deadline : SessionState → Option Nat) :
    Settles arithmetic state
      (reportFlush flushed fun rest => { rest with closeGraceDeadline := deadline rest }).1
      (reportFlush flushed fun rest => { rest with closeGraceDeadline := deadline rest }).2 := by
  obtain ⟨finished, rest⟩ := flushed
  rw [flushContiguousChunks_eq counted word] at flush
  -- Only a reader that was closed can end here.
  have ends : (finished ≠ .ok true ∧ rest = state.settle) ∨ (finished = .ok true ∧
      state.settle.Complete arithmetic ∧ rest = state.settle.finalize none) := by
    grind [maybeFinishGracefully_cases]
  rcases ends with ⟨going, rfl⟩ | ⟨rfl, complete, rfl⟩
  · rcases finished with error | going' | ended
    · exact .unfinished state.settle.closeGraceDeadline (by simp [reportFlush])
    · exact .unfinished _ (by simp [reportFlush])
    · exact absurd rfl going
  · exact .finished complete

/-- What a frame can do to a sound reader. -/
inductive Processed (arithmetic : Arithmetic) (state : SessionState) (now : Nat)
    (progress : Int64) :
    OpenStreamFrame → Except OpenStreamError FrameOutcome → SessionState → Prop
  /-- The reader has ended, or the frame is not in order. -/
  | refused {frame : OpenStreamFrame} {error : OpenStreamError}
      (rejected : ¬ state.Accepts progress) :
      Processed arithmetic state now progress frame (.error error) state
  /-- The frame neither brings a chunk that is stored nor closes the stream. -/
  | noted {frame : OpenStreamFrame} {result : Except OpenStreamError FrameOutcome}
      {after : SessionState} (accepts : state.Accepts progress)
      (unstored : ∀ chunkIndex data, frame = .chunk chunkIndex data →
        ¬ (state.started = true ∧ state.toDataPlane.Admits state.options chunkIndex data))
      (unclosed : ∀ last, frame = .close last → state.started = false)
      (going : result ≠ .ok .closed) (untouched : Untouched (state.noted now progress) after) :
      Processed arithmetic state now progress frame result after
  /-- The frame brings a chunk that is stored. -/
  | chunk {chunkIndex : UInt64} {data : String} {result : Except OpenStreamError FrameOutcome}
      {after : SessionState} (accepts : state.Accepts progress) (started : state.started = true)
      (admits : state.toDataPlane.Admits state.options chunkIndex data)
      (settles : Settles arithmetic ((state.noted now progress).stored chunkIndex data) result
        after) :
      Processed arithmetic state now progress (.chunk chunkIndex data) result after
  /-- The frame closes the stream. -/
  | close {last : Option UInt64} {result : Except OpenStreamError FrameOutcome}
      {after : SessionState} (accepts : state.Accepts progress) (started : state.started = true)
      (settles : Settles arithmetic ((state.noted now progress).closing last) result after) :
      Processed arithmetic state now progress (.close last) result after

/-- Storing a chunk keeps the counts, and adds one to the reach. -/
theorem Sound.stored (sound : state.Sound)
    (admits : state.toDataPlane.Admits state.options chunkIndex data) :
    (state.stored chunkIndex data).toDataPlane.Counted (state.stored chunkIndex data).options ∧
      (state.stored chunkIndex data).toDataPlane.reach = state.toDataPlane.reach + 1 :=
  ⟨sound.counted.store admits, reach_store admits.2.1⟩

/-- An admitted chunk is stored and flushed. -/
theorem handleChunk_of_admits (room : state.toDataPlane.Room data) (arithmetic : Arithmetic)
    (admits : state.toDataPlane.Admits state.options chunkIndex data) :
    state.handleChunk arithmetic chunkIndex data =
      ((state.stored chunkIndex data).flushContiguousChunks arithmetic).map
        fun flushed => reportFlush flushed id := by
  rw [handleChunk, bufferChunk_of_admits room arithmetic admits]
  rfl

/-- Any other chunk leaves the session as it is. -/
theorem handleChunk_of_not_admits (room : state.toDataPlane.Room data) (arithmetic : Arithmetic)
    (refused : ¬ state.toDataPlane.Admits state.options chunkIndex data) :
    ∃ error, state.handleChunk arithmetic chunkIndex data = some (.error error, state) := by
  obtain ⟨error, answer⟩ := bufferChunk_of_not_admits room arithmetic refused
  exact ⟨error, by rw [handleChunk, answer]; rfl⟩

/-- What a chunk does that a started reader has accepted. -/
theorem handleChunk_cases (sound : state.Sound) (accepts : state.Accepts progress)
    (started : state.started = true) (fits : state.fits (.chunk chunkIndex data))
    (handled : (state.noted now progress).handleChunk arithmetic chunkIndex data =
      some (result, after)) :
    Processed arithmetic state now progress (.chunk chunkIndex data) result after := by
  have room : (state.noted now progress).toDataPlane.Room data := sound.room fits
  by_cases admits : state.toDataPlane.Admits state.options chunkIndex data
  · rw [handleChunk_of_admits room arithmetic admits] at handled
    obtain ⟨flushed, flush, report⟩ := Option.map_eq_some_iff.mp handled
    have counted := sound.stored admits
    have small := sound.reach_le
    have settles := settles_of_flush ((state.noted now progress).stored chunkIndex data)
      counted.1 (Nat.le_trans (Nat.le_of_eq counted.2) small) flush
      fun rest => rest.closeGraceDeadline
    refine .chunk accepts started admits ?_
    rw [← show (reportFlush flushed id).1 = result from congrArg Prod.fst report,
      ← show (reportFlush flushed id).2 = after from congrArg Prod.snd report]
    exact settles
  · -- Only the frame itself was noted.
    obtain ⟨error, refused⟩ := handleChunk_of_not_admits room arithmetic admits
    rw [refused] at handled
    cases handled
    refine .noted accepts ?_ (by simp) (by simp) (.refl _)
    rintro other data same ⟨-, admitted⟩
    cases same
    exact admits admitted

/-- An accepted frame is noted, and then handled. -/
theorem processFrame_of_accepts (accepts : state.Accepts progress) :
    state.processFrame arithmetic now progress frame =
      (state.noted now progress).handleFrame arithmetic now frame := by
  rw [processFrame, if_neg (by simp [accepts.1]), if_neg (Int.not_le.mpr accepts.2)]
  rfl

/-- A chunk is handled as such. -/
theorem processFrame_chunk (accepts : state.Accepts progress) (started : state.started = true)
    (chunkIndex : UInt64) (data : String) :
    state.processFrame arithmetic now progress (.chunk chunkIndex data) =
      (state.noted now progress).handleChunk arithmetic chunkIndex data := by
  have noted : (state.noted now progress).started = true := started
  rw [processFrame_of_accepts accepts, handleFrame, if_neg (by simp [noted])]

/-- A close is handled as such. -/
theorem processFrame_close (accepts : state.Accepts progress) (started : state.started = true)
    (last : Option UInt64) :
    state.processFrame arithmetic now progress (.close last) =
      (state.noted now progress).handleClose arithmetic now last := by
  have noted : (state.noted now progress).started = true := started
  rw [processFrame_of_accepts accepts, handleFrame, if_neg (by simp [noted])]

/-- A frame that is not accepted changes nothing. -/
theorem processFrame_of_not_accepts (rejected : ¬ state.Accepts progress) :
    ∃ error, state.processFrame arithmetic now progress frame = some (.error error, state) := by
  rw [processFrame]
  split
  · exact ⟨_, rfl⟩
  split
  · exact ⟨_, rfl⟩
  · rename_i active later
    exact absurd ⟨eq_true_of_ne_false active, Int.not_le.mp later⟩ rejected

/-- A pong touches no data. -/
theorem untouched_handlePong (state : SessionState) (nonce : String) :
    Untouched state (state.handlePong nonce) := by
  rw [handlePong]
  split
  · exact ⟨rfl, rfl, rfl, rfl, rfl⟩
  · exact .refl _

/-- Apart from chunks and closes of a started stream, no frame has to do with the buffers. -/
theorem handleFrame_quiet (state : SessionState) (arithmetic : Arithmetic) (now : Nat)
    (early : ∀ chunkIndex data, frame = .chunk chunkIndex data → state.started = false)
    (unclosed : ∀ last, frame = .close last → state.started = false) :
    ∃ result after, state.handleFrame arithmetic now frame = some (result, after) ∧
      result ≠ .ok .closed ∧ Untouched state after := by
  cases frame with
  | start contentType =>
    rw [handleFrame]
    split
    · exact ⟨_, _, rfl, by simp, .refl _⟩
    · exact ⟨_, _, rfl, by simp, ⟨rfl, rfl, rfl, rfl, rfl⟩⟩
  | accept => exact ⟨_, _, rfl, by simp, .refl _⟩
  | ping nonce =>
    rw [handleFrame]
    split
    · exact ⟨_, _, rfl, by simp, .refl _⟩
    split
    · exact ⟨_, _, rfl, by simp, .refl _⟩
    · exact ⟨_, _, rfl, by simp, .refl _⟩
  | pong nonce =>
    rw [handleFrame]
    split
    · exact ⟨_, _, rfl, by simp, .refl _⟩
    · exact ⟨_, _, rfl, by simp, untouched_handlePong state nonce⟩
  | chunk chunkIndex data =>
    rw [handleFrame, if_pos (early chunkIndex data rfl)]
    exact ⟨_, _, rfl, by simp, .refl _⟩
  | close last =>
    rw [handleFrame, if_pos (unclosed last rfl)]
    exact ⟨_, _, rfl, by simp, .refl _⟩
  | abort reason => exact ⟨_, _, rfl, by simp, untouched_finalize _ _⟩

/-- What a frame does to a sound reader, in whichever build. -/
theorem processFrame_cases (sound : state.Sound) (fits : state.fits frame)
    (processed : state.processFrame arithmetic now progress frame = some (result, after)) :
    Processed arithmetic state now progress frame result after := by
  by_cases accepts : state.Accepts progress
  · -- A frame that leaves the buffers and the close alone, whatever its kind.
    have plain (early : ∀ chunkIndex data, frame = .chunk chunkIndex data → state.started = false)
        (unclosed : ∀ last, frame = .close last → state.started = false) :
        Processed arithmetic state now progress frame result after := by
      obtain ⟨outcome, rest, answer, going, untouched⟩ :=
        handleFrame_quiet (state.noted now progress) arithmetic now early unclosed
      rw [processFrame_of_accepts accepts, answer] at processed
      cases processed
      refine .noted accepts ?_ unclosed going untouched
      rintro chunkIndex data same ⟨started, -⟩
      simp [early chunkIndex data same] at started
    cases frame with
    | start | accept | ping | pong | abort => exact plain (by simp) (by simp)
    | chunk chunkIndex data =>
      cases started : state.started with
      | false => exact plain (fun _ _ _ => started) (by simp)
      | true =>
        rw [processFrame_chunk accepts started] at processed
        exact handleChunk_cases sound accepts started fits processed
    | close last =>
      cases started : state.started with
      | false => exact plain (by simp) (fun _ _ => started)
      | true =>
        rw [processFrame_close accepts started] at processed
        obtain ⟨flushed, flush, report⟩ := Option.map_eq_some_iff.mp processed
        have settles := settles_of_flush ((state.noted now progress).closing last)
          sound.counted (Nat.le_of_lt sound.reach_le) flush fun rest =>
            some (now + Duration.fromMillis rest.options.closeGracePeriodMs.toNat)
        rw [report] at settles
        exact .close accepts started settles
  · obtain ⟨error, refused⟩ := processFrame_of_not_accepts accepts
    rw [refused] at processed
    cases processed
    exact .refused accepts

/-- Noting a frame keeps a session sound. -/
theorem Sound.noted (sound : state.Sound) (accepts : state.Accepts progress) (now : Nat) :
    (state.noted now progress).Sound := by
  refine ⟨sound.counted, sound.settled, ?_, progress.toInt_lt⟩
  have reach := sound.reach
  have later := accepts.2
  show (state.toDataPlane.reach : Int) ≤ progress.toInt + 1
  omega

/-- What a frame leaves of a sound reader is sound. -/
theorem Processed.sound (sound : state.Sound)
    (processed : Processed arithmetic state now progress frame result after) : after.Sound := by
  have below : progress.toInt < 2 ^ 63 := progress.toInt_lt
  -- What is settled after a frame is counted, and has stored one chunk more at most.
  have settled : ∀ middle : SessionState, middle.toDataPlane.Counted middle.options →
      (middle.toDataPlane.reach : Int) ≤ middle.lastProgress + 1 → middle.lastProgress < 2 ^ 63 →
      Settles arithmetic middle result after → after.Sound := by
    intro middle counted reach small settles
    have whole : middle.settle.Sound := by
      refine ⟨counted.flushed, settled_flushed _, ?_, small⟩
      show (middle.toDataPlane.flushed.reach : Int) ≤ _
      rw [reach_flushed]
      exact reach
    cases settles with
    | unfinished deadline going => exact whole.of_untouched ⟨rfl, rfl, rfl, rfl, rfl⟩
    | finished complete => exact whole.of_untouched (untouched_finalize _ _)
  have reach := sound.reach
  cases processed with
  | refused rejected => exact sound
  | noted accepts unstored unclosed going untouched =>
    exact (sound.noted accepts now).of_untouched untouched
  | chunk accepts started admits settles =>
    have later := accepts.2
    have counted := sound.stored admits
    refine settled ((state.noted now progress).stored _ _) counted.1 ?_ below settles
    show ((state.stored _ _).toDataPlane.reach : Int) ≤ progress.toInt + 1
    omega
  | close accepts started settles =>
    have noted := sound.noted accepts now
    exact settled ((state.noted now progress).closing _) noted.counted noted.reach below settles

/-- What a poll finds, and what it leaves of a sound reader. -/
theorem pollNext_cases (sound : state.Sound) {polled : Polled}
    (poll : state.pollNext arithmetic = some (polled, after)) :
    (∃ item rest, state.queue = item :: rest ∧ polled = .ready (some (.ok item)) ∧
      after = { state with toDataPlane := state.toDataPlane.popped item rest }) ∨
    (state.queue = [] ∧ state.active = true ∧ polled = .pending ∧ after = state) ∨
    (state.queue = [] ∧ state.active = false ∧
      polled = .ready (state.terminal.map .error) ∧ after = { state with terminal := none }) := by
  cases front : state.queue with
  | nil => grind [pollNext, popFront, Option.some.injEq]
  | cons item rest =>
    simp only [pollNext, popFront_cons arithmetic sound.counted front, Option.map_some,
      Option.some.injEq] at poll
    cases poll
    exact .inl ⟨item, rest, rfl, rfl, rfl⟩

/-- So does a poll. -/
theorem Sound.pollNext (sound : state.Sound) {polled : Polled}
    (poll : state.pollNext arithmetic = some (polled, after)) : after.Sound := by
  rcases pollNext_cases sound poll with
    ⟨item, rest, front, -, rfl⟩ | ⟨-, -, -, rfl⟩ | ⟨-, -, -, rfl⟩
  · exact ⟨sound.counted.popped front, sound.settled, sound.reach, sound.progress⟩
  · exact sound
  · exact sound.of_untouched ⟨rfl, rfl, rfl, rfl, rfl⟩

/-- Everything that is done to a sound reader leaves it sound. -/
theorem Sound.step {action : SessionAction} (sound : state.Sound)
    (taken : state.step arithmetic action = some after) : after.Sound := by
  cases action with
  | processFrame now progress frame =>
    obtain ⟨fits, taken⟩ := Option.ite_none_right_eq_some.mp taken
    obtain ⟨⟨result, rest⟩, processed, rfl⟩ := Option.map_eq_some_iff.mp taken
    exact (processFrame_cases sound fits processed).sound sound
  | pollNext =>
    obtain ⟨⟨polled, rest⟩, poll, rfl⟩ := Option.map_eq_some_iff.mp taken
    exact sound.pollNext poll
  | tick now =>
    cases taken
    exact sound.of_untouched (untouched_tick _ _)
  | fail error | dispose =>
    cases taken
    exact sound.of_untouched (untouched_finalize _ _)
  | abort reason =>
    cases taken
    exact sound.of_untouched (untouched_abort _ _)

/-- Every session that is reached is sound. -/
theorem sound_of_reaches {options : OpenStreamSessionOptions} {made : Nat}
    (reached : Reaches (SessionState.step arithmetic) Unrestricted (new options made) state) :
    state.Sound := by
  apply reached.invariant
  · exact sound_new options made
  · intro before action after _ sound _ taken
    exact sound.step taken

/-- What is done to a reader leaves its options alone. -/
theorem options_step {action : SessionAction} (sound : state.Sound)
    (taken : state.step arithmetic action = some after) : after.options = state.options := by
  cases action with
  | processFrame now progress frame =>
    obtain ⟨fits, taken⟩ := Option.ite_none_right_eq_some.mp taken
    obtain ⟨⟨result, rest⟩, processed, rfl⟩ := Option.map_eq_some_iff.mp taken
    -- A flush only moves chunks.
    have settled : ∀ middle : SessionState, middle.options = state.options →
        Settles arithmetic middle result rest → rest.options = state.options := by
      intro middle same settles
      cases settles with
      | unfinished deadline going => exact same
      | finished complete => rwa [(untouched_finalize _ _).options]
    cases processFrame_cases sound fits processed with
    | refused rejected => rfl
    | noted accepts unstored unclosed going untouched => exact untouched.options
    | chunk accepts started admits settles =>
      exact settled ((state.noted now progress).stored _ _) rfl settles
    | close accepts started settles =>
      exact settled ((state.noted now progress).closing _) rfl settles
  | pollNext =>
    obtain ⟨⟨polled, rest⟩, poll, rfl⟩ := Option.map_eq_some_iff.mp taken
    rcases pollNext_cases sound poll with ⟨item, queue, -, -, rfl⟩ | ⟨-, -, -, rfl⟩ | ⟨-, -, -, rfl⟩
    · rfl
    · rfl
    · rfl
  | tick now =>
    cases taken
    exact (untouched_tick _ _).options
  | fail error | dispose =>
    cases taken
    exact (untouched_finalize _ _).options
  | abort reason =>
    cases taken
    exact (untouched_abort _ _).options

/-- A flush overflows in the count of declared chunks only. -/
theorem flushContiguousChunks_eq_none (counted : state.toDataPlane.Counted state.options)
    (word : state.toDataPlane.reach ≤ u64Max) :
    state.flushContiguousChunks arithmetic = none ↔
      state.closedRemotely = true ∧ state.settle.buffered = ∅ ∧
        ∃ expected, state.expectedLastChunkIndex = some expected ∧
          arithmetic.add expected.toNat 1 = none := by
  rw [flushContiguousChunks_eq counted word]
  cases closed : state.closedRemotely with
  | false => simp
  | true =>
    have still : state.settle.closedRemotely = true := closed
    simp only [if_true, maybeFinishGracefully, still, Bool.true_eq_false, false_or, true_and]
    rw [← isEmpty_entries]
    cases drained : state.settle.buffered.entries.isEmpty with
    | false => simp
    | true =>
      have same : state.settle.expectedLastChunkIndex = state.expectedLastChunkIndex := rfl
      cases declared : state.expectedLastChunkIndex with
      | none | some expected => simp [same, declared]

/-- The flush that a frame causes. -/
inductive Flushes (state : SessionState) (now : Nat) (progress : Int64) :
    OpenStreamFrame → SessionState → Prop
  /-- A chunk was put aside. -/
  | chunk {chunkIndex : UInt64} {data : String} (accepts : state.Accepts progress)
      (started : state.started = true)
      (admits : state.toDataPlane.Admits state.options chunkIndex data) :
      Flushes state now progress (.chunk chunkIndex data)
        ((state.noted now progress).stored chunkIndex data)
  /-- The stream was closed. -/
  | close {last : Option UInt64} (accepts : state.Accepts progress)
      (started : state.started = true) :
      Flushes state now progress (.close last) ((state.noted now progress).closing last)

/-- A frame panics where the flush that it causes does, and only there. -/
theorem processFrame_eq_none (sound : state.Sound) (fits : state.fits frame) :
    state.processFrame arithmetic now progress frame = none ↔
      ∃ middle, Flushes state now progress frame middle ∧
        middle.flushContiguousChunks arithmetic = none := by
  constructor
  · intro panics
    by_cases accepts : state.Accepts progress
    · -- Most frames are answered whatever they find.
      have loud (early : ∀ chunkIndex data, frame = .chunk chunkIndex data → state.started = false)
          (unclosed : ∀ last, frame = .close last → state.started = false) : False := by
        obtain ⟨outcome, rest, answer, -⟩ :=
          handleFrame_quiet (state.noted now progress) arithmetic now early unclosed
        simp [processFrame_of_accepts accepts, answer] at panics
      cases frame with
      | start | accept | ping | pong | abort => exact (loud (by simp) (by simp)).elim
      | chunk chunkIndex data =>
        cases started : state.started with
        | false => exact (loud (fun _ _ _ => started) (by simp)).elim
        | true =>
          rw [processFrame_chunk accepts started] at panics
          have room : (state.noted now progress).toDataPlane.Room data := sound.room fits
          by_cases admits : state.toDataPlane.Admits state.options chunkIndex data
          · rw [handleChunk_of_admits room arithmetic admits] at panics
            exact ⟨_, .chunk accepts started admits, Option.map_eq_none_iff.mp panics⟩
          · obtain ⟨error, refused⟩ := handleChunk_of_not_admits room arithmetic admits
            simp [refused] at panics
      | close last =>
        cases started : state.started with
        | false => exact (loud (by simp) (fun _ _ => started)).elim
        | true =>
          rw [processFrame_close accepts started] at panics
          exact ⟨_, .close accepts started, Option.map_eq_none_iff.mp panics⟩
    · obtain ⟨error, refused⟩ := processFrame_of_not_accepts accepts
      rw [refused] at panics
      cases panics
  · rintro ⟨middle, flushes, panics⟩
    cases flushes with
    | chunk accepts started admits =>
      have room : (state.noted now progress).toDataPlane.Room _ := sound.room fits
      rw [processFrame_chunk accepts started, handleChunk_of_admits room arithmetic admits]
      exact Option.map_eq_none_iff.mpr panics
    | close accepts started =>
      rw [processFrame_close accepts started]
      exact Option.map_eq_none_iff.mpr panics

/-- Only a session that has started flushes. -/
theorem Flushes.started {middle : SessionState}
    (flushes : Flushes state now progress frame middle) :
    state.started = true := by
  cases flushes with
  | chunk accepts started admits | close accepts started => exact started

/-- A session is closed when all that was declared is there. -/
theorem Processed.complete
    (processed : Processed arithmetic state now progress frame (.ok .closed) after) :
    ∃ middle, Flushes state now progress frame middle ∧ middle.settle.Complete arithmetic ∧
      after = middle.settle.finalize none := by
  cases processed with
  | noted accepts unstored unclosed going untouched => exact absurd rfl going
  | chunk accepts started admits settles =>
    cases settles with
    | unfinished deadline going => exact absurd rfl going
    | finished complete => exact ⟨_, .chunk accepts started admits, complete, rfl⟩
  | close accepts started settles =>
    cases settles with
    | unfinished deadline going => exact absurd rfl going
    | finished complete => exact ⟨_, .close accepts started, complete, rfl⟩

/-- What touches no data keeps a session complete. -/
theorem Complete.of_untouched (complete : state.Complete arithmetic)
    (untouched : Untouched state after) : after.Complete arithmetic := by
  refine ⟨?_, ?_, ?_⟩
  · rw [untouched.closed]
    exact complete.closed
  · rw [untouched.plane]
    exact complete.drained
  · rw [untouched.last, untouched.plane]
    exact complete.last

/-- What is flushed has right counts. -/
theorem Flushes.counted {middle : SessionState} (sound : state.Sound)
    (flushes : Flushes state now progress frame middle) :
    middle.toDataPlane.Counted middle.options ∧ middle.toDataPlane.reach ≤ u64Max := by
  have small := sound.reach_le
  cases flushes with
  | chunk accepts started admits =>
    have counted := sound.stored admits
    exact ⟨counted.1, Nat.le_trans (Nat.le_of_eq counted.2) small⟩
  | close accepts started => exact ⟨sound.counted, Nat.le_of_lt small⟩

end SessionState

/--
The buffers of a reader are accounted for exactly, and they are bounded.

In every state that frames, polls, ticks and ends of any kind lead to, the counters are the sums of
what is held, and what is held is within the limits and ahead of what was queued; and no saturating
difference of a call stops at zero.
-/
theorem buffers_are_accounted (options : OpenStreamSessionOptions) (made : Nat)
    (arithmetic : Arithmetic) (state : SessionState)
    (reached : Reaches (SessionState.step arithmetic) Unrestricted (.new options made) state) :
    state.queuedBytes = (state.queue.map String.utf8ByteSize).sum ∧
    state.bufferedBytes = (state.buffered.entries.map fun entry => entry.2.utf8ByteSize).sum ∧
    state.queue.length + state.buffered.entries.length ≤ options.maxBufferedChunks.toNat ∧
    state.queuedBytes + state.bufferedBytes ≤ options.maxBufferedBytes.toNat ∧
    (∀ index ∈ state.buffered, state.nextExpectedChunk < index) ∧
    (∀ now progress frame, state.fits frame →
      (state.processFrame .strict now progress frame).isSome) ∧
    (state.pollNext .strict).isSome := by
  have sound := sound_of_reaches reached
  have same : state.options = options := by
    apply reached.invariant
    · rfl
    · grind [options_step, sound_of_reaches]
  refine ⟨sound.counted.queued, sound.counted.buffered, same ▸ sound.counted.chunks,
    same ▸ sound.counted.bytes, ?_, ?_, ?_⟩
  · -- What is held is not behind, and the next chunk itself is not held.
    intro index held
    rw [← AList.lookup_isSome] at held
    refine Nat.lt_of_le_of_ne (sound.counted.ahead index held) ?_
    rintro rfl
    rw [sound.settled] at held
    cases held
  · -- Only the count of a complete stream could panic, and there is no check on that sum.
    intro now progress frame fits
    rw [Option.isSome_iff_ne_none, Ne, processFrame_eq_none sound fits]
    rintro ⟨middle, flushes, panics⟩
    have counted := flushes.counted sound
    rw [flushContiguousChunks_eq_none counted.1 counted.2] at panics
    obtain ⟨-, -, expected, -, sum⟩ := panics
    cases sum
  · cases front : state.queue with
    | nil => simp [pollNext, popFront, front]
    | cons item rest =>
      simp [pollNext, popFront_cons .strict sound.counted front]

/-- A small reader without a way to publish. -/
def sampleOptions : OpenStreamSessionOptions := ⟨"stream", 8, 1024, 30000, 20000, 5000, false⟩

/-- A checked execution reaches a session with the property. -/
theorem SessionState.reaches_of_any (arithmetic : Arithmetic) (options : OpenStreamSessionOptions)
    (actions : List SessionAction) (good : SessionState → Prop) [DecidablePred good]
    (ran : (execute (SessionState.step arithmetic) (.new options 0) actions).any
      (decide <| good ·) = true) :
    ∃ state, Reaches (SessionState.step arithmetic) Unrestricted (.new options 0) state ∧
      good state :=
  Reaches.of_run actions good ran

/-- A chunk that came too early is counted where it waits. -/
theorem buffers_are_accounted_early : ∃ state : SessionState,
    Reaches (SessionState.step .checked) Unrestricted (.new sampleOptions 0) state ∧
      state.queue = ["a"] ∧ state.buffered.keys = [2] ∧ state.queuedBytes = 1 ∧
      state.bufferedBytes = 2 := by
  obtain ⟨state, reached, queue, entries⟩ := reaches_of_any .checked sampleOptions
    [.processFrame 0 1 (.start none), .processFrame 0 2 (.chunk 2 "cc"),
      .processFrame 0 3 (.chunk 0 "a")]
    (fun state => state.queue = ["a"] ∧ state.buffered.entries = [⟨2, "cc"⟩]) (by decide +kernel)
  have accounted := buffers_are_accounted sampleOptions 0 .checked state reached
  refine ⟨state, reached, queue, ?_, ?_, ?_⟩
  · rw [AList.keys, entries]
    rfl
  · rw [accounted.1, queue]
    decide
  · rw [accounted.2.1, entries]
    decide

end ContextVm.OpenStream
