import ContextVm.OpenStream.Accounting

/-! The indexes that a peer may declare: which of them a reader is safe against. -/

namespace ContextVm.OpenStream

open Arithmetic SessionState

/-- The largest index of a chunk. -/
def largestIndex : UInt64 := UInt64.ofNat u64Max

/-- Only the largest index has no successor. -/
theorem checked_add_one_eq_none {index : UInt64} :
    Arithmetic.checked.add index.toNat 1 = none ↔ index = largestIndex := by
  have word := index.toNat_lt
  have top : largestIndex.toNat = u64Max := rfl
  rw [← UInt64.toNat_inj, top]
  by_cases last : index.toNat + 1 ≤ u64Max
  · grind [add_eq]
  · simp only [add, u64CheckedAdd_of_lt (Nat.not_le.mp last), true_iff]
    simp only [u64Max] at last ⊢
    omega

namespace DataPlane

variable {plane : DataPlane} {options : OpenStreamSessionOptions}

/-- A flush gives up the row of slots that it passes. -/
theorem heldSlots_flushed (plane : DataPlane) :
    plane.nextExpectedChunk ≤ plane.flushed.nextExpectedChunk ∧
      heldSlots plane.buffered =
        Finset.Ico plane.nextExpectedChunk plane.flushed.nextExpectedChunk ∪
          heldSlots plane.flushed.buffered := by
  refine flushed_induction (fun after => plane.nextExpectedChunk ≤ after.nextExpectedChunk ∧
    heldSlots plane.buffered = Finset.Ico plane.nextExpectedChunk after.nextExpectedChunk ∪
      heldSlots after.buffered) ⟨Nat.le_refl _, by simp⟩ ?_
  rintro before data next ⟨behind, parts⟩
  refine ⟨Nat.le_succ_of_le behind, ?_⟩
  rw [parts]
  ext slot
  simp only [Finset.mem_union, Finset.mem_Ico, mem_heldSlots, advanced]
  -- The chunk that is queued goes from the one part to the other.
  by_cases same : slot = before.nextExpectedChunk
  · subst same
    simp [next, behind]
  · grind [AList.lookup_erase_ne]

/-- A flush leaves nothing when what is put aside follows in a row. -/
theorem flushed_eq_empty (counted : plane.Counted options) :
    plane.flushed.buffered = ∅ ↔ heldSlots plane.buffered =
      Finset.Ico plane.nextExpectedChunk
        (plane.nextExpectedChunk + plane.buffered.entries.length) := by
  obtain ⟨behind, parts⟩ := heldSlots_flushed plane
  have conserved := reach_flushed plane
  simp only [reach] at conserved
  constructor
  · intro empty
    have none : plane.flushed.buffered.entries.length = 0 := by rw [empty]; rfl
    have nothing : heldSlots plane.flushed.buffered = ∅ := by rw [empty]; rfl
    rw [parts, nothing, Finset.union_empty, ← conserved, none, Nat.add_zero]
  · intro row
    -- What were left would be behind the gap, and the row has none.
    have ahead := counted.flushed.ahead
    have gap := settled_flushed plane
    by_contra left
    have some : plane.flushed.buffered.entries ≠ [] := by
      intro none
      exact left (AList.ext none)
    obtain ⟨⟨slot, data⟩, member⟩ := List.exists_mem_of_ne_nil _ some
    have held : (plane.flushed.buffered.lookup slot).isSome = true := by
      rw [AList.mem_lookup_iff.mpr member]
      rfl
    have inside : slot ∈ heldSlots plane.buffered := by
      rw [parts]
      exact Finset.mem_union_right _ (mem_heldSlots.mpr held)
    have beyond := ahead slot held
    rw [row, Finset.mem_Ico] at inside
    have missing : plane.flushed.nextExpectedChunk ∈ heldSlots plane.buffered := by
      rw [row, Finset.mem_Ico]
      omega
    rw [parts, Finset.mem_union, Finset.mem_Ico, mem_heldSlots, gap] at missing
    simp at missing

/-- A chunk fills the gap before what is put aside when it is the next one and they follow it. -/
theorem flushed_store_eq_empty (counted : plane.Counted options) (settled : plane.Settled)
    {chunkIndex : UInt64} {data : String} (admits : plane.Admits options chunkIndex data) :
    (plane.store chunkIndex.toNat data).flushed.buffered = ∅ ↔
      chunkIndex.toNat = plane.nextExpectedChunk ∧ heldSlots plane.buffered =
        Finset.Ico (plane.nextExpectedChunk + 1)
          (plane.nextExpectedChunk + 1 + plane.buffered.entries.length) := by
  have longer := (insert_of_free String.utf8ByteSize data admits.2.1).1
  have slots : heldSlots (plane.buffered.insert chunkIndex.toNat data) =
      insert chunkIndex.toNat (heldSlots plane.buffered) := by
    ext slot
    rw [Finset.mem_insert, mem_heldSlots, mem_heldSlots]
    by_cases same : slot = chunkIndex.toNat
    · subst same
      simp
    · simp [same, AList.lookup_insert_ne same]
  have fresh : chunkIndex.toNat ∉ heldSlots plane.buffered := by
    simp [mem_heldSlots, admits.2.1]
  have gap : plane.nextExpectedChunk ∉ heldSlots plane.buffered := by
    rw [mem_heldSlots, settled]
    simp
  rw [flushed_eq_empty (counted.store admits)]
  show heldSlots (plane.buffered.insert chunkIndex.toNat data) = Finset.Ico plane.nextExpectedChunk
    (plane.nextExpectedChunk + (plane.buffered.insert chunkIndex.toNat data).entries.length) ↔ _
  rw [slots, longer]
  constructor
  · intro row
    -- The first of the row was missing before, so it is the chunk itself.
    have first : plane.nextExpectedChunk ∈ insert chunkIndex.toNat (heldSlots plane.buffered) := by
      grind
    have next : chunkIndex.toNat = plane.nextExpectedChunk := by grind
    refine ⟨next, ?_⟩
    rw [← Finset.erase_insert fresh, row, next]
    ext slot
    simp only [Finset.mem_erase, Finset.mem_Ico]
    omega
  · rintro ⟨next, row⟩
    rw [row, next]
    ext slot
    simp only [Finset.mem_insert, Finset.mem_Ico]
    omega

end DataPlane

namespace SessionState

variable {state : SessionState} {progress : Int64} {frame : OpenStreamFrame}

/--
A frame that makes a reader count the chunks up to the largest index.

It is a close that declares this index, when nothing is put aside; or, after such a close, the chunk
that is next in order, when those that are put aside follow it in a row.
-/
def Hostile (state : SessionState) (progress : Int64) : OpenStreamFrame → Prop
  | .close last =>
    state.Accepts progress ∧ state.started = true ∧ last = some largestIndex ∧
      state.buffered.entries = []
  | .chunk chunkIndex data =>
    state.Accepts progress ∧ state.started = true ∧
      state.toDataPlane.Admits state.options chunkIndex data ∧ state.closedRemotely = true ∧
      state.expectedLastChunkIndex = some largestIndex ∧
      chunkIndex.toNat = state.nextExpectedChunk ∧ heldSlots state.buffered =
        Finset.Ico (state.nextExpectedChunk + 1)
          (state.nextExpectedChunk + 1 + state.buffered.entries.length)
  | .start _ | .accept | .ping _ | .pong _ | .abort _ => False

/-- The hostile frames are those whose flush finds a complete stream with the largest index. -/
theorem hostile_iff (sound : state.Sound) (now : Nat) :
    state.Hostile progress frame ↔ ∃ middle, Flushes state now progress frame middle ∧
      middle.closedRemotely = true ∧ middle.settle.buffered = ∅ ∧
        middle.expectedLastChunkIndex = some largestIndex := by
  constructor
  · intro hostile
    cases frame with
    | chunk chunkIndex data =>
      obtain ⟨accepts, started, admits, closed, last, row⟩ := hostile
      exact ⟨_, .chunk accepts started admits, closed,
        (DataPlane.flushed_store_eq_empty sound.counted sound.settled admits).mpr row, last⟩
    | close last =>
      obtain ⟨accepts, started, largest, empty⟩ := hostile
      refine ⟨_, .close accepts started, rfl, ?_, largest⟩
      show state.toDataPlane.flushed.buffered = ∅
      rw [flushed_of_settled sound.settled]
      exact AList.ext empty
    | start | accept | ping | pong | abort => cases hostile
  · rintro ⟨middle, flushes, closed, empty, last⟩
    cases flushes with
    | chunk accepts started admits =>
      exact ⟨accepts, started, admits, closed, last,
        (DataPlane.flushed_store_eq_empty sound.counted sound.settled admits).mp empty⟩
    | close accepts started =>
      refine ⟨accepts, started, last, ?_⟩
      change state.toDataPlane.flushed.buffered = ∅ at empty
      rw [flushed_of_settled sound.settled] at empty
      rw [empty]
      rfl

/--
A call is safe: no sum in it overflows, and it reports an end only with the declared chunk there.

The first part is what a build with overflow checks goes on after, the second what one without them
reports.
-/
structure Safe (state : SessionState) (now : Nat) (progress : Int64) (frame : OpenStreamFrame) :
    Prop where
  sums : state.processFrame .checked now progress frame ≠ none
  received : ∀ after last, state.processFrame .wrapping now progress frame =
    some (.ok .closed, after) → after.expectedLastChunkIndex = some last →
      last.toNat < after.nextExpectedChunk

end SessionState

/-- A reader is safe against every frame that is not hostile, and against no other. -/
theorem safe_iff_not_hostile (options : OpenStreamSessionOptions) (made : Nat)
    (arithmetic : Arithmetic) (state : SessionState)
    (reached : Reaches (SessionState.step arithmetic) Unrestricted (.new options made) state)
    (now : Nat) (progress : Int64) (frame : OpenStreamFrame) (fits : state.fits frame) :
    state.Safe now progress frame ↔ ¬ state.Hostile progress frame := by
  have sound := sound_of_reaches reached
  -- The build with checks panics at the hostile frames.
  have panics : state.processFrame .checked now progress frame = none ↔
      state.Hostile progress frame := by
    rw [processFrame_eq_none sound fits, hostile_iff sound now]
    refine exists_congr fun middle => and_congr_right fun flushes => ?_
    have counted := flushes.counted sound
    rw [flushContiguousChunks_eq_none counted.1 counted.2]
    simp only [checked_add_one_eq_none, exists_eq_right]
  constructor
  · intro safe hostile
    exact safe.sums (panics.mpr hostile)
  · intro harmless
    refine ⟨fun none => harmless (panics.mp none), ?_⟩
    intro after last closed declared
    obtain ⟨middle, flushes, complete, rfl⟩ := (processFrame_cases sound fits closed).complete
    have untouched := untouched_finalize middle.settle none
    rw [untouched.last] at declared
    rw [untouched.plane]
    -- Below the largest index, the sum that was compared is the number of chunks.
    have count := complete.last last declared
    by_cases small : last.toNat + 1 ≤ u64Max
    · grind [add_eq, Option.some.injEq]
    · refine absurd ((hostile_iff sound now).mpr
        ⟨middle, flushes, complete.closed, complete.drained, ?_⟩) harmless
      have largest : last = largestIndex := by
        rw [← checked_add_one_eq_none]
        exact u64CheckedAdd_of_lt (Nat.not_le.mp small)
      rw [← largest]
      exact declared

/-- A close that declares the chunks there are is harmless. -/
theorem safe_iff_not_hostile_closing : ∃ state : SessionState,
    Reaches (SessionState.step .checked) Unrestricted (.new sampleOptions 0) state ∧
      state.queue = ["a"] ∧ state.Safe 0 3 (.close (some 0)) := by
  obtain ⟨state, reached, queue, fits⟩ := reaches_of_any .checked sampleOptions
    [.processFrame 0 1 (.start none), .processFrame 0 2 (.chunk 0 "a")]
    (fun state => state.queue = ["a"] ∧ state.fits (.close (some 0))) (by decide +kernel)
  refine ⟨state, reached, queue, ?_⟩
  rw [safe_iff_not_hostile sampleOptions 0 .checked state reached 0 3 (.close (some 0)) fits]
  rintro ⟨-, -, largest, -⟩
  revert largest
  decide

/--
The first close of an empty stream declares the largest index.

A build with overflow checks panics over it; one without them reports a graceful end, where not a
single chunk has come.
-/
theorem largest_index_closes_empty_stream : ∃ state : SessionState,
    Reaches (SessionState.step .checked) Unrestricted (.new sampleOptions 0) state ∧
      state.processFrame .checked 0 2 (.close (some largestIndex)) = none ∧
      ∃ after, state.processFrame .wrapping 0 2 (.close (some largestIndex)) =
        some (.ok .closed, after) ∧ after.nextExpectedChunk = 0 := by
  refine Reaches.exists_of_run [.processFrame 0 1 (.start none)]
    (fun state => (state.processFrame .checked 0 2 (.close (some largestIndex))).isNone ∧
      (state.processFrame .wrapping 0 2 (.close (some largestIndex))).any fun answer =>
        answer.1.toOption = some .closed ∧ answer.2.nextExpectedChunk = 0)
    (by decide +kernel) ?_
  rintro state reached ⟨panics, ends⟩
  refine ⟨Option.isNone_iff_eq_none.mp panics, ?_⟩
  obtain ⟨⟨result, after⟩, answer, closed⟩ := (Option.any_eq_true _ _).mp ends
  obtain ⟨closed, none⟩ := of_decide_eq_true closed
  cases result with
  | error error => cases closed
  | ok outcome =>
    cases closed
    exact ⟨after, answer, none⟩

end ContextVm.OpenStream
