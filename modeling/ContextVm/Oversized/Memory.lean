import Mathlib.Algebra.Order.BigOperators.Group.List
import Mathlib.Algebra.Order.Ring.Nat
import ContextVm.Lib.Lru
import ContextVm.Oversized.Integrity

/-! How much a receiver buffers, and which chunks make it more than was declared. -/

namespace ContextVm

open ActiveTransfer OversizedTransferReceiver

/-- How many bytes of chunks a transfer buffers. -/
def ActiveTransfer.bufferedBytes (transfer : ActiveTransfer) : Nat :=
  (transfer.chunks.entries.map fun entry => entry.2.utf8ByteSize).sum

/-- How many bytes of chunks a receiver buffers. -/
def OversizedTransferReceiver.bufferedBytes (receiver : OversizedTransferReceiver) : Nat :=
  (receiver.transfers.entries.map fun entry => entry.2.bufferedBytes).sum

/-- A receiver buffers no more than was declared to it, nor than its policy admits. -/
structure BoundedBy (policy : TransferPolicy) (receiver : OversizedTransferReceiver) : Prop where
  declared : ∀ token transfer, receiver.transfers.lookup token = some transfer →
    transfer.bufferedBytes ≤ transfer.totalBytes
  admitted : ∀ token transfer, receiver.transfers.lookup token = some transfer →
    transfer.totalBytes ≤ policy.maxTransferBytes
  total : receiver.bufferedBytes ≤ policy.maxConcurrentTransfers * policy.maxTransferBytes

namespace ActiveTransfer

/-- A chunk that is new to a transfer and passes all its checks. -/
structure Takes (policy : TransferPolicy) (transfer : ActiveTransfer) (progress : Nat)
    (data : String) : Prop where
  passes : Passes policy transfer progress
  fresh : transfer.chunks.lookup progress = none
  room : transfer.expectedChunkProgress < progress →
    (transfer.buffering progress data).bufferedOutOfOrderCount ≤ policy.maxOutOfOrderChunks

theorem bufferedBytes_buffering {transfer : ActiveTransfer} {progress : Nat}
    (fresh : transfer.chunks.lookup progress = none) (data : String) :
    (transfer.buffering progress data).bufferedBytes =
      transfer.bufferedBytes + data.utf8ByteSize := by
  have absent : progress ∉ transfer.chunks := AList.lookup_eq_none.mp fresh
  rw [bufferedBytes, buffering, chunks_refresh, AList.entries_insert_of_notMem absent,
    List.map_cons, List.sum_cons, Nat.add_comm]
  rfl

end ActiveTransfer

namespace OversizedTransferReceiver

variable {receiver : OversizedTransferReceiver}

theorem activeTransferCount_remove_le (receiver : OversizedTransferReceiver) (token : String) :
    (receiver.remove token).activeTransferCount ≤ receiver.activeTransferCount :=
  (List.kerase_sublist token _).length_le

theorem activeTransferCount_track_le (receiver : OversizedTransferReceiver) (token : String)
    (transfer : ActiveTransfer) :
    (receiver.track token transfer).activeTransferCount ≤ receiver.activeTransferCount + 1 := by
  simpa [activeTransferCount, track, AList.insert, List.kinsert] using
    (List.kerase_sublist token receiver.transfers.entries).length_le

theorem activeTransferCount_settle_le {token : String} {transfer : ActiveTransfer}
    (found : receiver.transfers.lookup token = some transfer)
    (result : Except OversizedTransferError ActiveTransfer) :
    (receiver.settle token result).2.activeTransferCount ≤ receiver.activeTransferCount := by
  have dropped : (receiver.remove token).activeTransferCount < receiver.activeTransferCount :=
    Lru.length_erase_lt found
  cases result with
  | ok taken =>
    have again := activeTransferCount_track_le (receiver.remove token) token taken
    simp only [settle]
    omega
  | error fault => exact Nat.le_of_lt dropped

/-- No frame takes the transfers in flight beyond their limit. -/
theorem activeTransferCount_dispatchFrame_le (primitives : TransferPrimitives)
    (limit : receiver.activeTransferCount ≤ receiver.policy.maxConcurrentTransfers) (now : Nat)
    (token : String) (progress : Nat) (frame : OversizedFrame) :
    (receiver.dispatchFrame primitives now token progress frame).2.activeTransferCount ≤
      receiver.policy.maxConcurrentTransfers := by
  cases frame with
  | start digest totalBytes totalChunks =>
    simp only [dispatchFrame]
    by_cases admitted : (receiver.handleStart now token progress digest totalBytes.toNat
        totalChunks.toNat).1 = .ok none
    · obtain ⟨-, -, -, room, opened⟩ := handleStart_ok
        ⟨progress, digest, totalBytes.toNat, totalChunks.toNat⟩ admitted
      rw [opened]
      exact Nat.le_trans (activeTransferCount_track_le _ _ _) room
    · grind [handleStart_refused]
  | accept => grind [dispatchFrame, handleAccept, Nat.le_trans, activeTransferCount_settle_le]
  | chunk data => grind [dispatchFrame, handleChunk, Nat.le_trans, activeTransferCount_settle_le]
  | end_ => grind [dispatchFrame, handleEnd, Nat.le_trans, activeTransferCount_remove_le]
  | abort reason => exact Nat.le_trans (activeTransferCount_remove_le _ _) limit

theorem bufferedBytes_le {limit : Nat}
    (each : ∀ token transfer, receiver.transfers.lookup token = some transfer →
      transfer.bufferedBytes ≤ limit) :
    receiver.bufferedBytes ≤ receiver.activeTransferCount * limit := by
  have bounded := List.sum_le_card_nsmul
    (receiver.transfers.entries.map fun entry => entry.2.bufferedBytes) limit (by
      intro bytes member
      obtain ⟨entry, inside, same⟩ := List.mem_map.mp member
      rw [← same]
      exact each entry.1 entry.2 (AList.mem_lookup_iff.mpr inside))
  simpa [bufferedBytes, activeTransferCount] using bounded

end OversizedTransferReceiver

namespace ReceiverCall

/-- A call brings a new chunk for which the declared size has no room left. -/
def Overdraws (primitives : TransferPrimitives) (call : ReceiverCall) : Prop :=
  ∃ token progress data transfer,
    call.addressed primitives token = some (progress, .chunk data) ∧
      call.before.transfers.lookup token = some transfer ∧
      transfer.Takes call.before.policy progress data ∧
      transfer.totalBytes < transfer.bufferedBytes + data.utf8ByteSize

variable {primitives : TransferPrimitives} {call : ReceiverCall}

theorem activeTransferCount_after_le
    (limit : call.before.activeTransferCount ≤ call.before.policy.maxConcurrentTransfers) :
    (call.after primitives).activeTransferCount ≤ call.before.policy.maxConcurrentTransfers := by
  simp only [after, run]
  split
  · grind [processFrame, activeTransferCount_dispatchFrame_le]
  · unfold removeExpired
    split
    · exact limit
    · exact Nat.le_trans List.filter_sublist.length_le limit

theorem exceeds_of_overdraws (overdraws : call.Overdraws primitives) :
    ∃ token transfer, (call.after primitives).transfers.lookup token = some transfer ∧
      transfer.totalBytes < transfer.bufferedBytes := by
  obtain ⟨token, progress, data, transfer, brought, found, takes, beyond⟩ := overdraws
  have taken := takeChunk_fresh takes.passes token takes.fresh takes.room
  refine ⟨token, transfer.buffering progress data, ?_, ?_⟩
  · rw [after, run_addressed brought]
    simp only [dispatchFrame, handleChunk, found, taken, settle, lookup_track, if_true]
  · have declared : (transfer.buffering progress data).totalBytes = transfer.totalBytes :=
      congrArg Declaration.totalBytes (transfer.declaration_buffering progress data)
    rw [declared, ActiveTransfer.bufferedBytes_buffering takes.fresh]
    exact beyond

/-- A call that does not overdraw leaves no more buffered than was declared. -/
theorem declared_after (modest : ¬ call.Overdraws primitives)
    (before : ∀ token transfer, call.before.transfers.lookup token = some transfer →
      transfer.bufferedBytes ≤ transfer.totalBytes) {token : String} {taken : ActiveTransfer}
    (tracked : (call.after primitives).transfers.lookup token = some taken) :
    taken.bufferedBytes ≤ taken.totalBytes := by
  cases transferStep_after tracked with
  | kept found silent => exact before token taken found
  | opened declared admitted progress frame brought same bytes chunks made =>
    rw [made]
    exact Nat.zero_le _
  | accepted transfer progress brought found ok =>
    obtain ⟨-, rfl⟩ := takeAccept_ok ok
    exact before token transfer found
  | buffered transfer progress data brought found ok =>
    obtain ⟨passes, ⟨-, rfl⟩ | ⟨fresh, rfl, room⟩⟩ := takeChunk_taken ok
    · exact before token _ found
    · have declared : (transfer.buffering progress data).totalBytes = transfer.totalBytes :=
        congrArg Declaration.totalBytes (transfer.declaration_buffering progress data)
      rw [declared, ActiveTransfer.bufferedBytes_buffering fresh]
      by_contra beyond
      exact modest ⟨token, progress, data, transfer, brought, found, ⟨passes, fresh, room⟩,
        Nat.lt_of_not_le beyond⟩

end ReceiverCall

/-- The limits a receiver keeps in every run, and what it keeps as long as no call overdraws. -/
structure KeepsLimits (primitives : TransferPrimitives) (policy : TransferPolicy)
    (calls : List ReceiverCall) (receiver : OversizedTransferReceiver) : Prop where
  same : receiver.policy = policy
  count : receiver.activeTransferCount ≤ policy.maxConcurrentTransfers
  admitted : ∀ token transfer, receiver.transfers.lookup token = some transfer →
    transfer.totalBytes ≤ policy.maxTransferBytes
  declared : (∀ call ∈ calls, ¬ call.Overdraws primitives) →
    ∀ token transfer, receiver.transfers.lookup token = some transfer →
      transfer.bufferedBytes ≤ transfer.totalBytes

/-- One more call keeps the limits. -/
theorem KeepsLimits.step {primitives : TransferPrimitives} {policy : TransferPolicy}
    {calls : List ReceiverCall} (call : ReceiverCall)
    (limits : KeepsLimits primitives policy calls call.before) :
    KeepsLimits primitives policy (calls ++ [call]) (call.after primitives) where
  same := (call.policy_after primitives).trans limits.same
  count := by
    have count := limits.count
    rw [← limits.same] at count ⊢
    exact call.activeTransferCount_after_le count
  admitted := by
    intro token taken tracked
    rcases call.transfer_after tracked with ⟨transfer, found, declared, -⟩ | ⟨-, bytes, -⟩
    · have same : taken.totalBytes = transfer.totalBytes :=
        congrArg Declaration.totalBytes declared
      rw [same]
      exact limits.admitted token transfer found
    · rw [← limits.same]
      exact bytes
  declared := by
    intro modest token taken tracked
    rw [List.forall_mem_append, List.forall_mem_singleton] at modest
    exact call.declared_after modest.2 (limits.declared modest.1) tracked

theorem keepsLimits_record (primitives : TransferPrimitives) (policy : TransferPolicy)
    (inputs : List (Nat × ReceiverInput)) :
    KeepsLimits primitives policy
      (OversizedTransferReceiver.record primitives (.withPolicy policy) inputs)
      (OversizedTransferReceiver.replay primitives (.withPolicy policy) inputs) := by
  -- Call by call, from a receiver that tracks nothing.
  apply history_invariant
  · refine ⟨rfl, Nat.zero_le _, ?_, ?_⟩
    · intro token transfer tracked
      simp [withPolicy] at tracked
    · intro _ token transfer tracked
      simp [withPolicy] at tracked
  · grind [KeepsLimits.step]

/-- Every state of a run is bounded by what was admitted exactly when no call overdraws. -/
theorem boundedBy_iff_not_overdraws (primitives : TransferPrimitives) (policy : TransferPolicy)
    (inputs : List (Nat × ReceiverInput)) :
    (∀ call ∈ OversizedTransferReceiver.record primitives (.withPolicy policy) inputs,
        BoundedBy policy (call.after primitives)) ↔
      ∀ call ∈ OversizedTransferReceiver.record primitives (.withPolicy policy) inputs,
        ¬ call.Overdraws primitives := by
  constructor
  · intro bounded call member overdraws
    -- The chunk that overdraws is in the buffer afterwards.
    obtain ⟨token, transfer, tracked, beyond⟩ := call.exceeds_of_overdraws overdraws
    have within := (bounded call member).declared token transfer tracked
    omega
  · intro modest call member
    -- The calls up to this one have not overdrawn either.
    obtain ⟨calls, later, split⟩ := List.append_of_mem member
    obtain ⟨first, input, same, made, -⟩ := history_split split
    have before := keepsLimits_record primitives policy first
    have step := KeepsLimits.step ⟨input.1, input.2, _⟩ before
    rw [made]
    have declared := step.declared fun other inside => by
      apply modest other
      rw [split, same, made]
      rcases List.mem_append.mp inside with earlier | here
      · exact List.mem_append_left _ earlier
      · grind
    have each := bufferedBytes_le fun token transfer found =>
      Nat.le_trans (declared token transfer found) (step.admitted token transfer found)
    exact ⟨declared, step.admitted, Nat.le_trans each (Nat.mul_le_mul_right _ step.count)⟩

/-- One transfer at a time, of at most two bytes. -/
def twoBytePolicy : TransferPolicy :=
  { TransferPolicy.default with maxTransferBytes := 2, maxConcurrentTransfers := 1 }

/-- A transfer of two bytes is declared, and its one chunk has five. -/
def oversizedChunkInputs : List (Nat × ReceiverInput) :=
  let frame (frame : OversizedFrame) (progress : UInt64) : ReceiverInput :=
    .frame (frame.intoProgressNotification "small" progress none)
  [(0, frame (.start pingDigest 2 1) 1), (1, frame (.chunk "aaaaa") 2)]

/-- All five bytes are buffered, for the two that were declared and that are allowed in all. -/
theorem chunk_exceeds_declaration :
    let receiver := OversizedTransferReceiver.replay pingPrimitives (.withPolicy twoBytePolicy)
      oversizedChunkInputs
    (∃ transfer, receiver.transfers.lookup "small" = some transfer ∧
        transfer.totalBytes = 2 ∧ transfer.bufferedBytes = 5) ∧
      twoBytePolicy.maxConcurrentTransfers * twoBytePolicy.maxTransferBytes <
        receiver.bufferedBytes :=
  ⟨⟨_, rfl, by decide, by decide⟩, by decide⟩

end ContextVm
