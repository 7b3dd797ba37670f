import ContextVm.OpenStream.Accounting

/-! A reader that was closed with chunks missing, while it waits for them. -/

namespace ContextVm.OpenStream

open DataPlane SessionState

namespace DataPlane

variable {plane : DataPlane} {options : OpenStreamSessionOptions} {last : Nat}

/-- Whether a chunk has come, queued since or not. -/
def Has (plane : DataPlane) (index : Nat) : Prop :=
  index < plane.nextExpectedChunk ∨ index ∈ plane.buffered

/-- Whether all chunks up to the last one have come. -/
def Whole (plane : DataPlane) (last : Nat) : Prop := ∀ index ≤ last, plane.Has index

/-- Whether a chunk has come before an earlier one. -/
def Gapped (plane : DataPlane) : Prop :=
  ∃ later, plane.Has later ∧ ∃ earlier < later, ¬ plane.Has earlier

theorem has_flushed (plane : DataPlane) : plane.flushed.Has = plane.Has := by
  -- A chunk that is queued only changes sides.
  refine flushed_induction (fun after => after.Has = plane.Has) rfl ?_
  intro before data next same
  have held : before.nextExpectedChunk ∈ before.buffered := by
    rw [← AList.lookup_isSome, next]
    rfl
  rw [← same]
  funext index
  simp only [Has, advanced, eq_iff_iff]
  rw [AList.mem_erase]
  by_cases here : index = before.nextExpectedChunk
  · simp [here, held]
  · grind

/-- There is a gap before whatever is put aside. -/
theorem Counted.gapped_iff (counted : plane.Counted options) (settled : plane.Settled) :
    plane.Gapped ↔ plane.buffered ≠ ∅ := by
  have unheld : plane.nextExpectedChunk ∉ plane.buffered := AList.lookup_eq_none.mp settled
  constructor
  · rintro ⟨later, came, earlier, before, missing⟩ empty
    -- Without a buffer all chunks have come in order.
    simp only [Has, empty, AList.notMem_empty, or_false] at came missing
    omega
  · intro filled
    obtain ⟨⟨index, data⟩, rest, first⟩ := List.exists_cons_of_ne_nil
      (mt List.isEmpty_iff.mpr (mt isEmpty_entries.mp filled))
    have held : index ∈ plane.buffered := by simp [AList.mem_keys, AList.keys, first]
    have ahead := counted.ahead index (AList.lookup_isSome.mpr held)
    have other : index ≠ plane.nextExpectedChunk := fun same => unheld (same ▸ held)
    exact ⟨index, .inr held, plane.nextExpectedChunk, by omega, by simp [Has, unheld]⟩

end DataPlane

namespace SessionState

variable {arithmetic : Arithmetic} {state after : SessionState} {now deadline : Nat}
  {progress : Int64} {last index : UInt64} {data : String}

/-- When a reader that is closed stops waiting for what is missing. -/
def graceEnd (state : SessionState) (closedAt : Nat) : Nat :=
  closedAt + Duration.fromMillis state.options.closeGracePeriodMs.toNat

/-- What a closed stream still sees in time: missing chunks in any order, ticks and polls. -/
def Late (last : UInt64) (deadline : Nat) (state : SessionState) : SessionAction → Prop
  | .processFrame now progress (.chunk index data) =>
    now < deadline ∧ state.lastProgress < progress.toInt ∧ index.toNat ≤ last.toNat ∧
      state.Admits state.options index data
  | .tick now => now < deadline
  | .pollNext => True
  | _ => False

/-- A reader that waits for the chunks up to the last one, or has all of them. -/
structure Waits (last : UInt64) (deadline : Nat) (state : SessionState) : Prop where
  sound : state.Sound
  started : state.started = true
  closed : state.closedRemotely = true
  declared : state.expectedLastChunkIndex = some last
  unprobed : state.pendingProbeNonce = none
  below : ∀ index, state.Has index → index ≤ last.toNat
  timed : state.active = true → state.closeGraceDeadline = some deadline
  ended : state.active = false → state.Whole last.toNat

/-- The reader after a late chunk was put aside, and what is in order queued. -/
def arrived (state : SessionState) (now : Nat) (progress : Int64) (index : UInt64)
    (data : String) : SessionState :=
  ((state.noted now progress).stored index data).settle

theorem Waits.tick (waits : state.Waits last deadline) (early : now < deadline) :
    state.tick now = (.none, state) := by
  -- There is no probe, and no reason for one.
  cases active : state.active with
  | false => simp [SessionState.tick, active]
  | true =>
    simp [SessionState.tick, active, waits.unprobed, waits.closed, waits.timed active,
      Nat.not_le.mpr early]

/-- Once all chunks are in order, they are counted to tell whether that was all. -/
theorem Waits.whole_iff (waits : state.Waits last deadline) (empty : state.buffered = ∅)
    {first : Nat} (has : state.Has first) (arithmetic : Arithmetic) :
    state.Whole last.toNat ↔ arithmetic.add last.toNat 1 = some state.nextExpectedChunk := by
  have word := waits.sound.reach_le
  have small := last.toNat_lt
  have queued (index : Nat) : state.Has index ↔ index < state.nextExpectedChunk := by
    simp [DataPlane.Has, empty]
  have top := waits.below (state.nextExpectedChunk - 1)
  simp only [DataPlane.Whole, queued, reach] at has word top ⊢
  constructor
  · intro whole
    have past := whole last.toNat (Nat.le_refl _)
    rw [arithmetic.add_eq (by omega), Option.some.injEq]
    omega
  · -- The count may have wrapped around, but not to that of the chunks that came.
    intro count index within
    cases arithmetic with
    | checked =>
      simp only [Arithmetic.add, u64CheckedAdd, Option.ite_none_right_eq_some,
        Option.some.injEq] at count
      omega
    | wrapping | strict => grind [Arithmetic.add, u64Add, Option.some.injEq]

section

variable (waits : state.Waits last deadline)
  (late : state.Late last deadline (.processFrame now progress (.chunk index data)))
include waits late

theorem Waits.accepts : state.Accepts progress := by
  obtain ⟨-, later, within, current, unknown, -⟩ := late
  refine ⟨?_, later⟩
  by_contra inactive
  -- A reader that has ended misses none.
  rcases waits.ended (eq_false_of_ne_true inactive) index.toNat within with queued | held
  · omega
  · exact AList.lookup_eq_none.mp unknown held

theorem Waits.fits : state.fits (.chunk index data) := by
  obtain ⟨-, -, -, -, -, -, small⟩ := late
  have limit := DataPlane.toNat_le_u64Max state.options.maxBufferedBytes
  rw [SessionState.fits, waits.sound.heldBytes, OpenStreamFrame.dataBytes]
  omega

theorem Waits.processFrame : state.processFrame arithmetic now progress (.chunk index data) =
    ((state.arrived now progress index data).maybeFinishGracefully arithmetic).map
      fun flushed => reportFlush flushed id := by
  have room : (state.noted now progress).Room data := waits.sound.room (waits.fits late)
  have accepts := waits.accepts late
  obtain ⟨-, -, -, admits⟩ := late
  have stored := waits.sound.stored admits
  have flush :
      ((state.noted now progress).stored index data).flushContiguousChunks arithmetic = _ :=
    flushContiguousChunks_eq stored.1 (Nat.le_trans (Nat.le_of_eq stored.2) waits.sound.reach_le)
  have closed : ((state.noted now progress).stored index data).closedRemotely = true := waits.closed
  rw [processFrame_chunk accepts waits.started, handleChunk_of_admits room arithmetic admits, flush,
    if_pos closed]
  rfl

/-- Nothing else has come than the late chunk. -/
theorem Waits.arrived : (state.arrived now progress index data).Waits last deadline ∧
    (state.arrived now progress index data).Has index.toNat := by
  have active := (waits.accepts late).1
  obtain ⟨-, later, within, admits⟩ := late
  have stored := waits.sound.stored admits
  have has (other : Nat) : (state.arrived now progress index data).Has other ↔
      state.Has other ∨ other = index.toNat := by
    rw [SessionState.arrived, settle, DataPlane.has_flushed]
    show other < state.nextExpectedChunk ∨ other ∈ state.buffered.insert index.toNat data ↔ _
    rw [AList.mem_insert, DataPlane.Has]
    tauto
  refine ⟨⟨⟨stored.1.flushed, settled_flushed _, ?_, progress.toInt_lt⟩, waits.started,
    waits.closed, waits.declared, waits.unprobed, ?_, fun _ => waits.timed active, ?_⟩,
    (has _).mpr (.inr rfl)⟩
  · have reach := waits.sound.reach
    show ((state.stored index data).flushed.reach : Int) ≤ progress.toInt + 1
    rw [reach_flushed, stored.2]
    omega
  · intro other came
    rcases (has other).mp came with old | rfl
    · exact waits.below other old
    · exact within
  · intro inactive
    cases active.symm.trans inactive

end

/-- A reader goes on waiting, whatever of this it sees. -/
theorem Waits.step {action : SessionAction} (waits : state.Waits last deadline)
    (late : state.Late last deadline action)
    (taken : state.step arithmetic action = some after) : after.Waits last deadline := by
  cases action with
  | processFrame now progress frame =>
    cases frame with
    | chunk index data =>
      simp only [SessionState.step, if_pos (waits.fits late), waits.processFrame late,
        Option.map_map, Option.map_eq_some_iff] at taken
      obtain ⟨arrived, has⟩ := waits.arrived late
      obtain ⟨⟨finished, rest⟩, finish, rfl⟩ := taken
      rcases maybeFinishGracefully_cases finish with ⟨going, rfl⟩ | ⟨rfl, complete, rfl⟩
      · rcases finished with error | going | ended
        · exact arrived
        · exact arrived
        · exact absurd rfl going
      · have whole := (arrived.whole_iff complete.drained has arithmetic).mpr
          (complete.last _ arrived.declared)
        have active : (state.arrived now progress index data).active = true :=
          (waits.accepts late).1
        show ((state.arrived now progress index data).finalize none).Waits last deadline
        rw [finalize, if_pos active]
        exact ⟨arrived.sound.of_untouched ⟨rfl, rfl, rfl, rfl, rfl⟩, arrived.started,
          arrived.closed, arrived.declared, rfl, arrived.below, by simp, fun _ => whole⟩
    | _ => exact late.elim
  | pollNext =>
    obtain ⟨⟨polled, rest⟩, poll, rfl⟩ := Option.map_eq_some_iff.mp taken
    have sound := waits.sound.pollNext poll
    rcases pollNext_cases waits.sound poll with
      ⟨_, _, -, -, rfl⟩ | ⟨-, -, -, rfl⟩ | ⟨-, -, -, rfl⟩ <;>
      exact { waits with sound }
  | tick now =>
    cases taken
    rw [waits.tick late]
    exact waits
  | _ => exact late.elim

/-- A close that leaves a gap arms the deadline. -/
theorem waits_of_close (sound : state.Sound) (started : state.started = true)
    (accepts : state.Accepts progress) (gap : state.buffered ≠ ∅)
    (below : ∀ index ∈ state.buffered, index ≤ last.toNat)
    (unprobed : state.pendingProbeNonce = none) :
    ∃ closed, state.processFrame arithmetic now progress (.close (some last)) =
      some (.ok .none, closed) ∧ closed.Waits last (state.graceEnd now) := by
  have closing : ((state.noted now progress).closing (some last)).Sound :=
    { sound.noted accepts now with }
  have flush :
      ((state.noted now progress).closing (some last)).flushContiguousChunks arithmetic = _ :=
    flushContiguousChunks_eq closing.counted (Nat.le_of_lt closing.reach_le)
  have filled : state.buffered.entries.isEmpty = false :=
    eq_false_of_ne_true (mt isEmpty_entries.mp gap)
  refine ⟨{ (state.noted now progress).closing (some last) with
    closeGraceDeadline := some (state.graceEnd now) }, ?_, ⟨{ closing with }, started, rfl, rfl,
    unprobed, ?_, fun _ => rfl, fun inactive => ?_⟩⟩
  · rw [processFrame_close accepts started, handleClose]
    change Option.map _
      (((state.noted now progress).closing (some last)).flushContiguousChunks _) = _
    have waiting :
        ((state.noted now progress).closing (some last)).maybeFinishGracefully arithmetic =
          some (.ok false, (state.noted now progress).closing (some last)) := if_pos (.inr filled)
    rw [flush, settle_of_settled closing.settled]
    exact congrArg (Option.map _) waiting
  · -- What was queued is earlier than what is put aside.
    obtain ⟨later, has, earlier, before, missing⟩ :=
      (sound.counted.gapped_iff sound.settled).mpr gap
    have unqueued : ¬ earlier < state.nextExpectedChunk := fun queued => missing (.inl queued)
    have top : later ≤ last.toNat := has.elim (fun queued => by omega) (below later)
    rintro index (queued | held)
    · have queued : index < state.nextExpectedChunk := queued
      omega
    · exact below index held
  · cases accepts.1.symm.trans inactive

end SessionState

open SessionState

/--
A reader that is closed waits for its missing chunks, but only as long as it has a gap.

Until the grace period is over no tick ends the stream, and the last missing chunk completes it. A
chunk is taken exactly if it is that one or leaves a gap, and fails if it leaves all in order.
-/
theorem close_grace_honoured_iff {arithmetic : Arithmetic} {options : OpenStreamSessionOptions}
    {made now : Nat} {progress : Int64} {last : UInt64} {state : SessionState}
    (reached : Reaches (SessionState.step arithmetic) Unrestricted (.new options made) state)
    (started : state.started = true) (accepts : state.Accepts progress)
    (gap : state.buffered ≠ ∅) (below : ∀ index ∈ state.buffered, index ≤ last.toNat)
    (unprobed : state.pendingProbeNonce = none) :
    ∃ closed, state.processFrame arithmetic now progress (.close (some last)) =
        some (.ok .none, closed) ∧
      ∀ waiting, Reaches (SessionState.step arithmetic) (Late last (state.graceEnd now)) closed
          waiting →
        (∀ later < state.graceEnd now, waiting.tick later = (.none, waiting)) ∧
        ∀ later progress index data,
          waiting.Late last (state.graceEnd now)
            (.processFrame later progress (.chunk index data)) →
          let stored := waiting.store index.toNat data
          ((∃ outcome after, waiting.processFrame arithmetic later progress (.chunk index data) =
              some (.ok outcome, after)) ↔ stored.Gapped ∨ stored.Whole last.toNat) ∧
            (stored.Whole last.toNat → ∃ after,
              waiting.processFrame arithmetic later progress (.chunk index data) =
                some (.ok .closed, after)) := by
  obtain ⟨closed, accepted, initially⟩ :=
    waits_of_close (sound_of_reaches reached) started accepts gap below unprobed
  refine ⟨closed, accepted, fun waiting waited => ?_⟩
  have waits : waiting.Waits last (state.graceEnd now) := waited.invariant initially
    fun _ _ _ _ waits late taken => waits.step late taken
  refine ⟨fun later early => waits.tick early, ?_⟩
  intro later progress index data late stored
  obtain ⟨arrived, has⟩ := waits.arrived late
  have same : (waiting.arrived later progress index data).Has = stored.Has := has_flushed _
  rw [waits.processFrame late, DataPlane.Gapped, DataPlane.Whole, ← same]
  change (_ ↔ (waiting.arrived later progress index data).Gapped ∨
    (waiting.arrived later progress index data).Whole last.toNat) ∧ (DataPlane.Whole _ _ → _)
  generalize waiting.arrived later progress index data = middle at arrived has ⊢
  have gapped := arrived.sound.counted.gapped_iff arrived.sound.settled
  by_cases empty : middle.buffered = ∅
  · -- Nothing is put aside any more, so the stream is whole or fails.
    have whole := arrived.whole_iff empty has arithmetic
    have drained : middle.buffered.entries.isEmpty = true := isEmpty_entries.mpr empty
    rw [maybeFinishGracefully, if_neg (by simp [arrived.closed, drained]), arrived.declared, whole]
    simp only [gapped, empty, not_true_eq_false, ne_eq, false_or]
    constructor
    · constructor
      · rintro ⟨outcome, after, answer⟩
        cases count : arithmetic.add last.toNat 1 with
        | none => simp [count] at answer
        | some total =>
          by_contra other
          simp [count, Ne.symm (mt (congrArg some) other), reportFlush] at answer
      · intro count
        simp [count, reportFlush]
    · intro count
      simp [count, reportFlush]
  · have gap := gapped.mpr empty
    have filled : middle.buffered.entries.isEmpty = false :=
      eq_false_of_ne_true (mt isEmpty_entries.mp empty)
    rw [maybeFinishGracefully, if_pos (.inr filled)]
    refine ⟨iff_of_true ⟨.none, middle, rfl⟩ (.inl gap), ?_⟩
    -- All that have come are up to the last one, and one of them is missing before it.
    intro whole
    obtain ⟨later, has, earlier, before, missing⟩ := gap
    exact absurd (whole earlier (by have := arrived.below later has; omega)) missing

/-- A reader whose second chunk came first. -/
def secondCameFirst : SessionState :=
  (execute (SessionState.step .checked) (.new sampleOptions 0)
    [.processFrame 0 1 (.start none), .processFrame 0 2 (.chunk 1 "b")]).get (by decide +kernel)

theorem reaches_secondCameFirst : Reaches (SessionState.step .checked) Unrestricted
    (.new sampleOptions 0) secondCameFirst :=
  Reaches.start.of_executed (Option.some_get _).symm

/-- It has put its second chunk aside, and would take the first one after a close. -/
theorem secondCameFirst_closed {last : UInt64} (within : 1 ≤ last.toNat)
    (checked : (secondCameFirst.processFrame .checked 5 3 (.close (some last))).all (fun answer =>
      answer.2.lastProgress = 3 ∧ 1 ∈ answer.2.buffered.keys ∧
        answer.2.Admits answer.2.options 0 "a") = true) :
    secondCameFirst.buffered ≠ ∅ ∧ (∀ index ∈ secondCameFirst.buffered, index ≤ last.toNat) ∧
      ∀ closed, secondCameFirst.processFrame .checked 5 3 (.close (some last)) =
          some (.ok .none, closed) →
        closed.Late last (secondCameFirst.graceEnd 5) (.processFrame 6 4 (.chunk 0 "a")) ∧
          1 ∈ closed.buffered := by
  have keys : secondCameFirst.buffered.keys = [1] := by decide +kernel
  refine ⟨?_, ?_, ?_⟩
  · intro empty
    simp [empty] at keys
  · grind [AList.mem_keys, List.mem_singleton]
  · intro closed accepted
    rw [accepted] at checked
    obtain ⟨progress, held, admits⟩ := of_decide_eq_true checked
    refine ⟨⟨by decide +kernel, ?_, Nat.zero_le _, admits⟩, held⟩
    rw [progress]
    decide

/-- Its first chunk completes it when the second one was the last. -/
theorem close_grace_honoured_last : ∃ closed after : SessionState,
    secondCameFirst.processFrame .checked 5 3 (.close (some 1)) = some (.ok .none, closed) ∧
      closed.processFrame .checked 6 4 (.chunk 0 "a") = some (.ok .closed, after) := by
  have accepts : secondCameFirst.Accepts 3 := by decide +kernel
  obtain ⟨gap, below, late⟩ := secondCameFirst_closed (Nat.le_refl (1 : UInt64).toNat)
    (by decide +kernel)
  obtain ⟨closed, accepted, honoured⟩ := close_grace_honoured_iff reaches_secondCameFirst
    (by decide +kernel) accepts gap below (by decide +kernel)
  obtain ⟨late, held⟩ := late closed accepted
  obtain ⟨after, ended⟩ := ((honoured closed .start).2 6 4 0 "a" late).2 (by
    intro index within
    rcases Nat.le_one_iff_eq_zero_or_eq_one.mp within with rfl | rfl
    · exact .inr (by simp [store])
    · exact .inr (by simp [store, held]))
  exact ⟨closed, after, accepted, ended⟩

/-- It fails with its first chunk, in time and in order, when there are two more to come. -/
theorem close_grace_cut_short :
    ¬ ∀ (state closed : SessionState) (last index : UInt64) (data : String),
      Reaches (SessionState.step .checked) Unrestricted (.new sampleOptions 0) state →
      state.buffered ≠ ∅ → (∀ index ∈ state.buffered, index ≤ last.toNat) →
      state.pendingProbeNonce = none →
      state.processFrame .checked 5 3 (.close (some last)) = some (.ok .none, closed) →
      closed.Late last (state.graceEnd 5) (.processFrame 6 4 (.chunk index data)) →
      ∃ outcome after, closed.processFrame .checked 6 4 (.chunk index data) =
        some (.ok outcome, after) := by
  intro honoured
  obtain ⟨⟨result, closed⟩, accepted, fails⟩ :=
    (Option.any_eq_true (fun closed => closed.1 = .ok .none ∧
      (closed.2.processFrame .checked 6 4 (.chunk 0 "a")).all (!·.1.isOk) = true)
      (secondCameFirst.processFrame .checked 5 3 (.close (some 3)))).mp (by decide +kernel)
  obtain ⟨rfl, fails⟩ := of_decide_eq_true fails
  obtain ⟨gap, below, late⟩ := secondCameFirst_closed (show 1 ≤ (3 : UInt64).toNat by decide)
    (by decide +kernel)
  obtain ⟨outcome, after, answer⟩ := honoured _ closed 3 0 "a" reaches_secondCameFirst gap below
    (by decide +kernel) accepted (late closed accepted).1
  rw [answer] at fails
  cases fails

end ContextVm.OpenStream
