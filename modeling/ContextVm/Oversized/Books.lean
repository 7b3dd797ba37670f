import ContextVm.Oversized.Memory
import ContextVm.Oversized.Overflow

/-! The books of a receiver: slots, frontiers and repeated chunks, as long as the words suffice. -/

namespace ContextVm

open ActiveTransfer Declaration

namespace ActiveTransfer

variable {policy : TransferPolicy} {transfer taken : ActiveTransfer} {progress : Nat}
  {token data : String}

/-- A transfer with words to spare, whose frontier was found and whose chunks passed the checks. -/
structure Booked (policy : TransferPolicy) (transfer : ActiveTransfer) : Prop extends
    transfer.InRange where
  fits : transfer.startProgress + transfer.totalChunks + 2 ≤ u64Max
  frontier : ∀ next, transfer.nextExpectedChunkProgress = some next →
    ∃ first ≤ transfer.firstChunkSlot, Frontier transfer.holds first next
  window : ∀ slot, transfer.holds slot = true →
    slot ≤ transfer.expectedChunkProgress + policy.maxOutOfOrderWindow
  entry : ∀ slot, transfer.holds slot = true → transfer.startProgress + 2 < slot →
    transfer.holds (transfer.startProgress + 1) = true ∨
      transfer.holds (transfer.startProgress + 2) = true

/-- A transfer goes on without its frontier moving back, found or not. -/
def Advances (transfer taken : ActiveTransfer) : Prop :=
  transfer.expectedChunkProgress ≤ taken.expectedChunkProgress ∧
    ∀ next, transfer.nextExpectedChunkProgress = some next →
      ∃ later, taken.nextExpectedChunkProgress = some later ∧ next ≤ later

theorem Advances.refl (transfer : ActiveTransfer) : transfer.Advances transfer :=
  ⟨Nat.le_refl _, fun next same => ⟨next, same, Nat.le_refl _⟩⟩

section

variable (booked : transfer.Booked policy)
include booked

theorem Booked.not_hazard : ¬ transfer.Hazard policy progress (.chunk data) := by
  have fits := booked.fits
  rintro (wide | ⟨last, -⟩ | ⟨-, below, -, -, row⟩)
  · omega
  · omega
  · -- The largest word is no slot of this transfer.
    have first := firstChunkSlot_bounds (show transfer.startProgress + 2 ≤ u64Max by omega)
    rcases row u64Max (by omega) (Nat.le_refl _) with held | same
    · have bounds := booked.slots u64Max held
      omega
    · omega

/-- What a transfer holds would pass its checks again. -/
theorem Booked.passes (held : transfer.holds progress = true) :
    Passes policy transfer progress := by
  have fits := booked.fits
  obtain ⟨above, below⟩ := booked.slots progress held
  have direct : u64Add transfer.startProgress 1 = transfer.startProgress + 1 :=
    u64Add_of_le (by omega)
  have gated : u64Add transfer.startProgress 2 = transfer.startProgress + 2 :=
    u64Add_of_le (by omega)
  have last : u64Add transfer.startProgress transfer.totalChunks =
      transfer.startProgress + transfer.totalChunks := u64Add_of_le (by omega)
  refine ⟨by omega, booked.window progress held, ?_, ?_⟩
  · grind [u64Add_of_le]
  · rw [direct, gated]
    exact booked.entry progress held

theorem Booked.takeAccept (ok : transfer.takeAccept token progress = .ok taken) :
    taken.Booked policy ∧ transfer.Advances taken := by
  have inRange := booked.toInRange.takeAccept ok
  have fits := booked.fits
  have bounds := firstChunkSlot_bounds (show transfer.startProgress + 2 ≤ u64Max by omega)
  obtain ⟨-, rfl⟩ := takeAccept_ok ok
  -- The first slot is now the one behind the reserved one.
  have later : transfer.firstChunkSlot ≤ u64Add transfer.startProgress 2 := by
    rw [u64Add_of_le (by omega)]
    omega
  have ahead : transfer.expectedChunkProgress ≤
      transfer.nextExpectedChunkProgress.getD (u64Add transfer.startProgress 2) := by
    unfold expectedChunkProgress
    cases transfer.nextExpectedChunkProgress with
    | none => exact later
    | some next => exact Nat.le_refl _
  refine ⟨⟨inRange, fits, ?_, ?_, booked.entry⟩, ahead,
    fun next same => ⟨next, same, Nat.le_refl _⟩⟩
  · intro next same
    obtain ⟨first, early, frontier⟩ := booked.frontier next same
    exact ⟨first, Nat.le_trans early later, frontier⟩
  · intro slot held
    exact Nat.le_trans (booked.window slot held) (Nat.add_le_add_right ahead _)

/-- A chunk moves the frontier on, or leaves it where it is. -/
theorem Booked.takeChunk (word : progress ≤ u64Max)
    (ok : transfer.takeChunk policy token progress data = .ok taken) :
    taken.Booked policy ∧ transfer.Advances taken := by
  have inRange := booked.toInRange.takeChunk word booked.not_hazard ok
  have fits := booked.fits
  obtain ⟨passes, ⟨-, rfl⟩ | ⟨-, rfl, -⟩⟩ := takeChunk_taken ok
  · exact ⟨booked, .refl _⟩
  have holding := transfer.holds_buffering progress data
  -- The frontier is found from the same first slot on.
  obtain ⟨gap, frontier, next⟩ : ∃ gap,
      Frontier (transfer.buffering progress data).holds transfer.firstChunkSlot gap ∧
        (transfer.buffering progress data).nextExpectedChunkProgress = some gap := by
    have inserted := @holds_insert transfer progress data
      (max transfer.highestObservedProgress progress)
    obtain ⟨gap, frontier, refreshed⟩ := refresh_frontier
      (chunkCount_ne_zero ((inserted progress).mpr (.inr rfl))) (by
        intro slot held
        have below := (inRange.slots slot ((holding slot).mpr ((inserted slot).mp held))).2
        change slot ≤ transfer.startProgress + transfer.totalChunks + 1 at below
        simp only [u64Max] at fits
        omega)
    rw [buffering, refreshed]
    exact ⟨gap, frontier, rfl⟩
  have ahead : transfer.expectedChunkProgress ≤ gap := by
    cases cached : transfer.nextExpectedChunkProgress with
    | none =>
      rw [expectedChunkProgress, cached]
      exact frontier.behind
    | some before =>
      rw [expectedChunkProgress, cached]
      obtain ⟨first, early, row⟩ := booked.frontier before cached
      by_contra back
      -- The slot of the new frontier was in the row before the old one.
      have held := row.row gap (Nat.le_trans early frontier.behind) (Nat.lt_of_not_le back)
      exact absurd ((holding gap).mpr (.inl held)) (by simp [frontier.missing])
  have still (slot : Nat) (held : transfer.holds slot = true) := (holding slot).mpr (.inl held)
  refine ⟨⟨inRange, fits, ?_, ?_, ?_⟩, ?_, ?_⟩
  · intro later same
    cases next.symm.trans same
    exact ⟨_, Nat.le_refl _, frontier⟩
  · intro slot held
    rw [expectedChunkProgress, next]
    refine Nat.le_trans ?_ (Nat.add_le_add_right ahead _)
    rcases (holding slot).mp held with old | rfl
    · exact booked.window slot old
    · exact passes.window
  · intro slot held beyond
    refine Or.imp (still _) (still _) ?_
    rcases (holding slot).mp held with old | rfl
    · exact booked.entry slot old beyond
    · have entry := passes.entry
      rw [u64Add_of_le (by omega), u64Add_of_le (by omega)] at entry
      exact entry beyond
  · grind [expectedChunkProgress]
  · grind [expectedChunkProgress]

end

end ActiveTransfer

namespace ReceiverCall

open OversizedTransferReceiver

variable {primitives : TransferPrimitives} {policy : TransferPolicy} {call : ReceiverCall}
  {token : String}

/-- The receiver before a call keeps its policy, and its transfers have their books in order. -/
def Booked (policy : TransferPolicy) (receiver : OversizedTransferReceiver) : Prop :=
  receiver.policy = policy ∧
    ∀ token transfer, receiver.transfers.lookup token = some transfer → transfer.Booked policy

/-- A call whose opening frame, if it brings one, leaves words to spare. -/
def Spares (primitives : TransferPrimitives) (call : ReceiverCall) : Prop :=
  ∀ token declared, call.admits primitives token = some declared →
    declared.progress + declared.totalChunks + 2 ≤ u64Max

theorem booked_after (spares : call.Spares primitives) (booked : Booked policy call.before)
    {taken : ActiveTransfer}
    (tracked : (call.after primitives).transfers.lookup token = some taken) :
    taken.Booked policy ∧ ∀ transfer, call.before.transfers.lookup token = some transfer →
      transfer.Advances taken := by
  obtain ⟨rfl, booked⟩ := booked
  cases transferStep_after tracked with
  | kept found silent =>
    refine ⟨booked token taken found, fun transfer before => ?_⟩
    cases found.symm.trans before
    exact .refl _
  | opened declared admitted progress frame brought same bytes chunks made =>
    subst made
    refine ⟨⟨.opened declared (same ▸ addressed_progress_le brought) _,
      spares token declared admitted, by simp [opened],
      by simp [opened, holds],
      by simp [opened, holds]⟩, fun transfer before => ?_⟩
    -- A token that is tracked is not opened again.
    have watched : call.before.isTracking token = true := by rw [isTracking, before]; rfl
    simp only [admits, brought, run_addressed brought] at admitted
    split at admitted
    · grind [dispatchFrame, handleStart]
    · cases admitted
  | accepted transfer progress brought found ok =>
    obtain ⟨still, advances⟩ := (booked token transfer found).takeAccept ok
    refine ⟨still, fun other before => ?_⟩
    cases found.symm.trans before
    exact advances
  | buffered transfer progress data brought found ok =>
    obtain ⟨still, advances⟩ :=
      (booked token transfer found).takeChunk (addressed_progress_le brought) ok
    refine ⟨still, fun other before => ?_⟩
    cases found.symm.trans before
    exact advances

theorem Booked.after (spares : call.Spares primitives) (booked : Booked policy call.before) :
    Booked policy (call.after primitives) :=
  ⟨(policy_after primitives _).trans booked.1,
    fun _ _ tracked => (booked_after spares booked tracked).1⟩

/-- A chunk that a receiver holds changes nothing when it comes again. -/
def Repeats (primitives : TransferPrimitives) (receiver : OversizedTransferReceiver) : Prop :=
  ∀ (notification : JsonRpcNotification) (token : String) (slot : Nat) (data : String)
    (transfer : ActiveTransfer) (now : Nat),
    decodeFrame primitives.serde notification = .ok (some (token, slot, .chunk data)) →
    receiver.transfers.lookup token = some transfer → transfer.chunks.lookup slot = some data →
    (receiver.processFrame primitives now notification).1 = .ok none ∧
      (receiver.processFrame primitives now notification).2.policy = receiver.policy ∧
      ∀ other, (receiver.processFrame primitives now notification).2.transfers.lookup other =
        receiver.transfers.lookup other

theorem Booked.repeats {receiver : OversizedTransferReceiver} (booked : Booked policy receiver) :
    Repeats primitives receiver := by
  obtain ⟨rfl, booked⟩ := booked
  intro notification token slot data transfer now decoded tracked held
  have passes := (booked token transfer tracked).passes (show transfer.holds slot = true by
    rw [holds, held]; rfl)
  simp only [processFrame, decoded, dispatchFrame, handleChunk, tracked,
    takeChunk_repeated passes token held, settle]
  refine ⟨trivial, rfl, fun other => ?_⟩
  rw [lookup_track, lookup_remove]
  split
  · grind
  · rfl

/-- What is right about the books of a receiver around a call. -/
structure KeepsBooks (primitives : TransferPrimitives) (policy : TransferPolicy)
    (call : ReceiverCall) : Prop where
  active : (call.after primitives).activeTransferCount ≤ policy.maxConcurrentTransfers
  slots : ∀ token transfer, (call.after primitives).transfers.lookup token = some transfer →
    ∀ slot, transfer.holds slot = true → transfer.startProgress + 1 ≤ slot ∧
      slot ≤ transfer.startProgress + transfer.totalChunks + 1
  -- No check of a chunk fails, in particular not those of the chunks out of order.
  counts : ∀ token transfer, call.before.transfers.lookup token = some transfer →
    ∀ progress ≤ u64Max, ∀ data,
      transfer.takeChunkChecked call.before.policy token progress data =
        some (transfer.takeChunk call.before.policy token progress data)
  rises : ∀ token transfer taken, call.before.transfers.lookup token = some transfer →
    (call.after primitives).transfers.lookup token = some taken → transfer.Advances taken
  repeats : Repeats primitives (call.after primitives)

end ReceiverCall

open ReceiverCall OversizedTransferReceiver

/-- The books are in order as long as every opening frame leaves words to spare. -/
def BookedSparing (primitives : TransferPrimitives) (policy : TransferPolicy)
    (calls : List ReceiverCall) (receiver : OversizedTransferReceiver) : Prop :=
  (∀ call ∈ calls, call.Spares primitives) → Booked policy receiver

theorem booked_record (primitives : TransferPrimitives) (policy : TransferPolicy)
    (inputs : List (Nat × ReceiverInput)) :
    BookedSparing primitives policy (record primitives (.withPolicy policy) inputs)
      (replay primitives (.withPolicy policy) inputs) := by
  apply history_invariant
  · exact fun _ => ⟨rfl, by simp [withPolicy]⟩
  · intro calls before input booked spares
    rw [List.forall_mem_append, List.forall_mem_singleton] at spares
    exact Booked.after spares.2 (booked spares.1)

/-- The books are kept in every run whose opening frames leave words to spare. -/
theorem keepsBooks_of_spares (primitives : TransferPrimitives) (policy : TransferPolicy)
    (inputs : List (Nat × ReceiverInput))
    (spares : ∀ call ∈ record primitives (.withPolicy policy) inputs, call.Spares primitives) :
    ∀ call ∈ record primitives (.withPolicy policy) inputs, call.KeepsBooks primitives policy := by
  intro call member
  obtain ⟨calls, later, split⟩ := List.append_of_mem member
  obtain ⟨first, input, same, made, -⟩ := history_split split
  rw [split] at spares
  have limits := keepsLimits_record primitives policy first
  have before : Booked policy call.before := by
    rw [made]
    exact booked_record primitives policy first fun other inside =>
      spares other (List.mem_append_left _ (same ▸ inside))
  have own := spares call (List.mem_append_right _ List.mem_cons_self)
  have after := Booked.after own before
  refine ⟨?_, ?_, ?_, ?_, after.repeats⟩
  · rw [← before.1]
    apply call.activeTransferCount_after_le
    rw [before.1, made]
    exact limits.count
  · intro token transfer tracked slot held
    exact (after.2 token transfer tracked).slots slot held
  · intro token transfer tracked progress word data
    have booked := before.2 token transfer tracked
    rw [before.1]
    exact takeChunkChecked_eq booked.toInRange word booked.not_hazard token
  · intro token transfer taken tracked still
    exact (booked_after own before still).2 transfer tracked

/-- A transfer of one chunk is opened, and both slots are used that it could come in. -/
def bothSlotsInputs (progress : UInt64) : List (Nat × ReceiverInput) :=
  let frame (frame : OversizedFrame) (progress : UInt64) : ReceiverInput :=
    .frame (frame.intoProgressNotification "last" progress none)
  [(0, frame (.start pingDigest 2 1) progress), (1, frame (.chunk "a") (progress + 1)),
    (2, frame (.chunk "b") (progress + 2))]

/-- The last of these calls. -/
def secondSlotCall (progress : UInt64) : ReceiverCall :=
  ⟨2, .frame ((OversizedFrame.chunk "b").intoProgressNotification "last" (progress + 2) none),
    replay pingPrimitives (.withPolicy .default) ((bothSlotsInputs progress).take 2)⟩

theorem mem_bothSlots (progress : UInt64) : secondSlotCall progress ∈
    record pingPrimitives (.withPolicy .default) (bothSlotsInputs progress) :=
  .tail _ (.tail _ List.mem_cons_self)

theorem declared_of_last {calls : List ReceiverCall} {spare : Nat}
    (checked : ∀ call ∈ calls, (call.addressed pingPrimitives "last").isSome = true ∧
      (call.admits pingPrimitives "last").all (fun declared =>
        declared.progress + declared.totalChunks + spare ≤ u64Max) = true) :
    ∀ call ∈ calls, ∀ token declared, call.admits pingPrimitives token = some declared →
      declared.progress + declared.totalChunks + spare ≤ u64Max := by
  intro call member token declared admitted
  obtain ⟨addressed, limited⟩ := checked call member
  obtain ⟨brought, here⟩ := Option.isSome_iff_exists.mp addressed
  -- Whatever is admitted was brought under its token, and that is this one.
  have named : token = "last" := by
    cases there : call.addressed pingPrimitives token with
    | none => simp [admits, there] at admitted
    | some other => exact (addressed_unique there here).1
  rw [← named, admitted] at limited
  exact of_decide_eq_true limited

/-- With one word to spare the frontier gets to the last one. -/
theorem keepsBooks_lastWord :
    (secondSlotCall 18446744073709551612).KeepsBooks pingPrimitives .default :=
  keepsBooks_of_spares pingPrimitives .default (bothSlotsInputs 18446744073709551612)
    (declared_of_last (by decide)) _ (mem_bothSlots _)

/-- Without, it goes back to zero, although both slots are words. -/
theorem frontier_wraps :
    ¬ ∀ (primitives : TransferPrimitives) (policy : TransferPolicy)
      (inputs : List (Nat × ReceiverInput)),
      (∀ call ∈ record primitives (.withPolicy policy) inputs, ∀ token declared,
        call.admits primitives token = some declared →
          declared.progress + declared.totalChunks + 1 ≤ u64Max) →
      ∀ call ∈ record primitives (.withPolicy policy) inputs,
        call.KeepsBooks primitives policy := by
  intro kept
  have books := kept pingPrimitives .default (bothSlotsInputs 18446744073709551613)
    (declared_of_last (by decide)) _ (mem_bothSlots _)
  obtain ⟨transfer, found, next⟩ := Option.bind_eq_some_iff.mp
    (show ((secondSlotCall 18446744073709551613).before.transfers.lookup "last").bind
      nextExpectedChunkProgress = some u64Max by decide)
  obtain ⟨taken, tracked, wrapped⟩ := Option.bind_eq_some_iff.mp
    (show (((secondSlotCall 18446744073709551613).after pingPrimitives).transfers.lookup
      "last").bind nextExpectedChunkProgress = some 0 by decide)
  obtain ⟨later, same, ahead⟩ := (books.rises "last" transfer taken found tracked).2 u64Max next
  cases wrapped.symm.trans same
  exact absurd ahead (by decide)

end ContextVm
