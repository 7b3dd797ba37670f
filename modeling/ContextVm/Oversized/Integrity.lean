import ContextVm.Lib.History
import ContextVm.Oversized.ReceiverLaws

/-! What a receiver surfaces is what one admitted transfer carried, whole and verified. -/

namespace ContextVm

open ActiveTransfer OversizedTransferReceiver

/-- What is fed to a receiver: notifications, and sweeps of its watchdog. -/
inductive ReceiverInput where
  | frame (notification : JsonRpcNotification)
  | sweep

/-- A call made on a receiver, with the receiver it was made on. -/
structure ReceiverCall where
  now : Nat
  input : ReceiverInput
  before : OversizedTransferReceiver

namespace ReceiverCall

/-- What a call returns, and the receiver it leaves behind. -/
def run (primitives : TransferPrimitives) (call : ReceiverCall) :
    FrameOutcome × OversizedTransferReceiver :=
  match call.input with
  | .frame notification => call.before.processFrame primitives call.now notification
  | .sweep => (.ok none, call.before.removeExpired call.now)

/-- The receiver a call leaves behind. -/
def after (primitives : TransferPrimitives) (call : ReceiverCall) : OversizedTransferReceiver :=
  (call.run primitives).2

/-- The frame a call brings for a token, with its progress. -/
def addressed (primitives : TransferPrimitives) (token : String) (call : ReceiverCall) :
    Option (Nat × OversizedFrame) :=
  match call.input with
  | .sweep => none
  | .frame notification =>
    match OversizedTransferReceiver.decodeFrame primitives.serde notification with
    | .ok (some (named, progress, frame)) =>
      if named = token then some (progress, frame) else none
    | _ => none

/-- What the opening frame of a token declares, when it is admitted. -/
def admits (primitives : TransferPrimitives) (token : String) (call : ReceiverCall) :
    Option Declaration :=
  match call.addressed primitives token, (call.run primitives).1 with
  | some (progress, .start digest totalBytes totalChunks), .ok none =>
    some ⟨progress, digest, totalBytes.toNat, totalChunks.toNat⟩
  | _, _ => none

/-- The chunk a call brings for a tracked token, when it is accepted. -/
def accepts (primitives : TransferPrimitives) (token : String) (call : ReceiverCall) :
    Option (Nat × String) :=
  match call.addressed primitives token, call.before.isTracking token, (call.run primitives).1 with
  | some (progress, .chunk data), true, .ok none => some (progress, data)
  | _, _, _ => none

/-- The message a call returns for a token. -/
def surfaces (primitives : TransferPrimitives) (token : String) (call : ReceiverCall) :
    Option JsonRpcMessage :=
  match call.addressed primitives token, (call.run primitives).1 with
  | some _, .ok (some message) => some message
  | _, _ => none

end ReceiverCall

namespace OversizedTransferReceiver

/-- The calls made on a receiver one after the other. -/
def record (primitives : TransferPrimitives) (receiver : OversizedTransferReceiver)
    (inputs : List (Nat × ReceiverInput)) : List ReceiverCall :=
  history (fun before input => ReceiverCall.after primitives ⟨input.1, input.2, before⟩)
    (fun before input => ⟨input.1, input.2, before⟩) receiver inputs

/-- The receiver a sequence of calls ends with. -/
def replay (primitives : TransferPrimitives) (receiver : OversizedTransferReceiver)
    (inputs : List (Nat × ReceiverInput)) : OversizedTransferReceiver :=
  inputs.foldl (fun before input => ReceiverCall.after primitives ⟨input.1, input.2, before⟩)
    receiver

end OversizedTransferReceiver

namespace ReceiverCall

open OversizedTransferReceiver

variable {primitives : TransferPrimitives} {call : ReceiverCall} {token : String}

/-- A call on a token is a dispatch of its frame. -/
theorem run_addressed {progress : Nat} {frame : OversizedFrame}
    (brought : call.addressed primitives token = some (progress, frame)) :
    call.run primitives = call.before.dispatchFrame primitives call.now token progress frame := by
  -- The frame was decoded under this token, which is how it is dispatched.
  unfold addressed at brought
  split at brought
  · cases brought
  · rename_i notification made
    split at brought
    · rename_i named named_progress named_frame decoded
      split at brought
      · rename_i same
        cases brought
        simp only [run, made, processFrame, decoded, same]
      · cases brought
    · cases brought

/-- A call that brings no frame for a token can only sweep its transfer away. -/
theorem lookup_unaddressed (unaddressed : call.addressed primitives token = none)
    {transfer : ActiveTransfer}
    (kept : (call.after primitives).transfers.lookup token = some transfer) :
    call.before.transfers.lookup token = some transfer := by
  -- A sweep may drop the transfer, and any other call leaves it alone.
  unfold addressed at unaddressed
  simp only [after, run] at kept
  cases made : call.input with
  | sweep =>
    rw [made] at kept
    exact lookup_removeExpired kept
  | frame notification =>
    simp only [made, processFrame] at unaddressed kept
    split at kept
    · exact kept
    · exact kept
    · -- The frame is for a token of its own.
      rename_i named progress frame decoded
      simp only [decoded, ite_eq_right_iff, reduceCtorEq, imp_false] at unaddressed
      rw [lookup_dispatchFrame_other primitives call.before call.now progress frame
        (Ne.symm unaddressed)] at kept
      exact kept

/-- No call changes the policy. -/
theorem policy_after (primitives : TransferPrimitives) (call : ReceiverCall) :
    (call.after primitives).policy = call.before.policy := by
  -- Neither a frame nor a sweep writes it.
  simp only [after, run]
  split
  · grind [processFrame, policy_dispatchFrame]
  · unfold removeExpired
    split <;> rfl

/-- A message is returned by an end frame only, which closes its transfer. -/
theorem surfaces_eq_some {message : JsonRpcMessage}
    (surfaced : call.surfaces primitives token = some message) :
    (call.after primitives).transfers.lookup token = none ∧
      ∃ transfer progress, call.before.transfers.lookup token = some transfer ∧
        transfer.finish primitives call.before.policy token progress = .ok message := by
  -- Frame by frame: all but the end frame return nothing or fail.
  unfold surfaces at surfaced
  split at surfaced
  · rename_i brought_frame returned brought outcome
    obtain ⟨progress, frame⟩ := brought_frame
    cases surfaced
    rw [after]
    rw [run_addressed brought] at outcome ⊢
    cases frame with
    | start digest totalBytes totalChunks =>
      simp only [dispatchFrame] at outcome
      obtain ⟨fault, refused⟩ := handleStart_refused
        (show (call.before.handleStart call.now token progress digest totalBytes.toNat
          totalChunks.toNat).1 ≠ .ok none by rw [outcome]; simp)
      simp [refused] at outcome
    | accept => grind [dispatchFrame, handleAccept, settle_silent]
    | chunk data => grind [dispatchFrame, handleChunk, settle_silent]
    | end_ =>
      simp only [dispatchFrame, handleEnd] at outcome ⊢
      cases tracked : call.before.transfers.lookup token with
      | none => grind
      | some transfer =>
        simp only [tracked] at outcome ⊢
        refine ⟨by rw [lookup_remove, if_pos rfl], transfer, progress, rfl, ?_⟩
        cases finished : transfer.finish primitives call.before.policy token progress with
        | ok message =>
          rw [finished] at outcome
          cases outcome
          rfl
        | error fault =>
          rw [finished] at outcome
          cases outcome
    | abort reason => cases outcome
  · cases surfaced

/-- What a call can have done to a transfer it leaves tracked. -/
inductive TransferStep (primitives : TransferPrimitives) (call : ReceiverCall) (token : String)
    (taken : ActiveTransfer) : Prop
  -- It was tracked already, and nothing was accepted for it.
  | kept (found : call.before.transfers.lookup token = some taken)
      (silent : call.accepts primitives token = none)
  -- It has just been opened, within the limits.
  | opened (declared : Declaration) (admitted : call.admits primitives token = some declared)
      (progress : Nat) (frame : OversizedFrame)
      (brought : call.addressed primitives token = some (progress, frame))
      (same : declared.progress = progress)
      (bytes : declared.totalBytes ≤ call.before.policy.maxTransferBytes)
      (chunks : declared.totalChunks ≤ call.before.policy.maxTransferChunks)
      (made : taken = declared.opened call.now)
  -- It took an accept frame in.
  | accepted (transfer : ActiveTransfer) (progress : Nat)
      (brought : call.addressed primitives token = some (progress, .accept))
      (found : call.before.transfers.lookup token = some transfer)
      (ok : transfer.takeAccept token progress = .ok taken)
  -- It took a chunk in.
  | buffered (transfer : ActiveTransfer) (progress : Nat) (data : String)
      (brought : call.addressed primitives token = some (progress, .chunk data))
      (found : call.before.transfers.lookup token = some transfer)
      (ok : transfer.takeChunk call.before.policy token progress data = .ok taken)

/-- A transfer that is tracked after a call got there in one of these ways. -/
theorem transferStep_after {taken : ActiveTransfer}
    (tracked : (call.after primitives).transfers.lookup token = some taken) :
    TransferStep primitives call token taken := by
  -- Frame by frame, where a failed frame leaves no transfer behind.
  cases brought : call.addressed primitives token with
  | none => exact .kept (lookup_unaddressed brought tracked) (by simp [accepts, brought])
  | some brought_frame =>
    obtain ⟨progress, frame⟩ := brought_frame
    have ran := run_addressed brought
    rw [after, ran] at tracked
    cases frame with
    | start digest totalBytes totalChunks =>
      by_cases admitted : (call.before.handleStart call.now token progress digest
          totalBytes.toNat totalChunks.toNat).1 = .ok none
      · -- The transfer is the one that was just opened.
        obtain ⟨-, bytes, chunks, -, opened⟩ := handleStart_ok
          ⟨progress, digest, totalBytes.toNat, totalChunks.toNat⟩ admitted
        simp only [dispatchFrame, opened, lookup_track, if_true, Option.some.injEq] at tracked
        refine .opened _ ?_ progress _ brought rfl bytes chunks tracked.symm
        simp only [admits, brought, ran, dispatchFrame, admitted]
      · obtain ⟨fault, refused⟩ := handleStart_refused admitted
        simp only [dispatchFrame, refused] at tracked
        exact .kept tracked (by simp [accepts, brought])
    | accept =>
      simp only [dispatchFrame, handleAccept] at tracked
      split at tracked
      · exact .kept tracked (by simp [accepts, brought])
      · rename_i transfer found
        exact .accepted transfer progress brought found (settle_tracked tracked)
    | chunk data =>
      simp only [dispatchFrame, handleChunk] at tracked
      split at tracked
      · grind
      · rename_i transfer found
        exact .buffered transfer progress data brought found (settle_tracked tracked)
    | end_ => grind [dispatchFrame, handleEnd, lookup_remove]
    | abort reason => grind [dispatchFrame, handleAbort, lookup_remove]

/-- A transfer that is tracked after a call went on with what it held, or was just opened. -/
theorem transfer_after {taken : ActiveTransfer}
    (tracked : (call.after primitives).transfers.lookup token = some taken) :
    (∃ transfer, call.before.transfers.lookup token = some transfer ∧
        taken.declaration = transfer.declaration ∧
        ∀ slot data, taken.chunks.lookup slot = some data ↔
          transfer.chunks.lookup slot = some data ∨
            call.accepts primitives token = some (slot, data)) ∨
      (call.admits primitives token = some taken.declaration ∧
        taken.totalBytes ≤ call.before.policy.maxTransferBytes ∧
        taken.totalChunks ≤ call.before.policy.maxTransferChunks ∧ taken.chunks = ∅) := by
  cases transferStep_after tracked with
  | kept found silent => exact .inl ⟨taken, found, rfl, fun slot data => by simp [silent]⟩
  | opened declared admitted progress frame brought same bytes chunks made =>
    subst made
    exact .inr ⟨admitted, bytes, chunks, rfl⟩
  | accepted transfer progress brought found ok =>
    obtain ⟨-, noted⟩ := takeAccept_ok ok
    refine .inl ⟨transfer, found, by rw [noted]; rfl, fun slot data => ?_⟩
    simp [accepts, brought, noted]
  | buffered transfer progress data brought found ok =>
    obtain ⟨declared, held⟩ := takeChunk_ok ok
    refine .inl ⟨transfer, found, declared, fun slot piece => ?_⟩
    -- The frame is for a tracked token, and it does not fail.
    have watched : call.before.isTracking token = true := by rw [isTracking, found]; rfl
    rw [held slot piece]
    simp [accepts, brought, watched, run_addressed brought, dispatchFrame, handleChunk, found, ok,
      settle, eq_comm]

end ReceiverCall

/-- A transfer in flight goes back to an admitted opening frame and the chunks accepted since. -/
structure Underway (primitives : TransferPrimitives) (policy : TransferPolicy) (token : String)
    (start : ReceiverCall) (between : List ReceiverCall) (transfer : ActiveTransfer) : Prop where
  admitted : start.admits primitives token = some transfer.declaration
  bytes : transfer.totalBytes ≤ policy.maxTransferBytes
  chunks : transfer.totalChunks ≤ policy.maxTransferChunks
  tracked : ∀ call ∈ start :: between, (call.after primitives).isTracking token = true
  held : ∀ slot data, transfer.chunks.lookup slot = some data ↔
    ∃ call ∈ between, call.accepts primitives token = some (slot, data)

/-- Every transfer a receiver tracks under a token is explained by the calls made on it. -/
def Explained (primitives : TransferPrimitives) (policy : TransferPolicy) (token : String)
    (calls : List ReceiverCall) (receiver : OversizedTransferReceiver) : Prop :=
  receiver.policy = policy ∧
    ∀ transfer, receiver.transfers.lookup token = some transfer →
      ∃ earlier start between, calls = earlier ++ start :: between ∧
        Underway primitives policy token start between transfer

/-- One more call keeps every tracked transfer explained. -/
theorem Explained.step {primitives : TransferPrimitives} {policy : TransferPolicy}
    {token : String} {calls : List ReceiverCall} (call : ReceiverCall)
    (explained : Explained primitives policy token calls call.before) :
    Explained primitives policy token (calls ++ [call]) (call.after primitives) := by
  -- What is tracked now was tracked before, or has just been opened.
  obtain ⟨same, before⟩ := explained
  refine ⟨(call.policy_after primitives).trans same, ?_⟩
  intro taken tracked
  have watched : (call.after primitives).isTracking token = true := by
    rw [isTracking, tracked]
    rfl
  rcases call.transfer_after tracked with
    ⟨transfer, found, declared, held⟩ | ⟨admitted, bytes, chunks, empty⟩
  · -- The transfer went on, so the call comes after those that explain it already.
    obtain ⟨earlier, start, between, split, underway⟩ := before transfer found
    have totals : taken.totalBytes = transfer.totalBytes ∧
        taken.totalChunks = transfer.totalChunks :=
      ⟨congrArg Declaration.totalBytes declared, congrArg Declaration.totalChunks declared⟩
    refine ⟨earlier, start, between ++ [call], by simp [split], ?_, ?_, ?_, ?_, ?_⟩
    · rw [declared]
      exact underway.admitted
    · rw [totals.1]
      exact underway.bytes
    · rw [totals.2]
      exact underway.chunks
    · intro other member
      rw [← List.cons_append, List.mem_append, List.mem_singleton] at member
      rcases member with older | newest
      · exact underway.tracked other older
      · rw [newest]
        exact watched
    · intro slot data
      rw [held slot data, underway.held slot data]
      simp [or_and_right, exists_or]
  · -- The transfer is new, and nothing was accepted for it yet.
    refine ⟨calls, call, [], rfl, admitted, ?_, ?_, ?_, ?_⟩
    · rw [← same]
      exact bytes
    · rw [← same]
      exact chunks
    · grind
    · intro slot data
      simp [empty]

/-- Every state is explained by the calls that led to it. -/
theorem explained_record (primitives : TransferPrimitives) (policy : TransferPolicy)
    (token : String) (inputs : List (Nat × ReceiverInput)) :
    Explained primitives policy token
      (OversizedTransferReceiver.record primitives (.withPolicy policy) inputs)
      (OversizedTransferReceiver.replay primitives (.withPolicy policy) inputs) := by
  -- Call by call, from a receiver that tracks nothing.
  apply history_invariant
  · refine ⟨rfl, ?_⟩
    intro transfer tracked
    simp [withPolicy] at tracked
  · grind [Explained.step]

/--
A message that is returned for a token was carried by one admitted transfer, whole and verified.

The transfer was tracked from its opening frame on, so no other message was returned for it before,
and it is not tracked any more.
-/
theorem surfaces_verified (primitives : TransferPrimitives) (policy : TransferPolicy)
    (token : String) (inputs : List (Nat × ReceiverInput)) {message : JsonRpcMessage}
    {calls later : List ReceiverCall} {call : ReceiverCall}
    (fits : ∀ start ∈ OversizedTransferReceiver.record primitives (.withPolicy policy) inputs,
      ∀ declared ∈ start.admits primitives token,
        declared.progress + declared.totalChunks + 1 < 2 ^ 64)
    (split : OversizedTransferReceiver.record primitives (.withPolicy policy) inputs =
      calls ++ call :: later)
    (surfaced : call.surfaces primitives token = some message) :
    ∃ earlier start between, calls = earlier ++ start :: between ∧
      ∃ declared, start.admits primitives token = some declared ∧
        declared.totalBytes ≤ policy.maxTransferBytes ∧
        declared.totalChunks ≤ policy.maxTransferChunks ∧
        (∀ other ∈ start :: between, (other.after primitives).isTracking token = true) ∧
        (∀ other ∈ between, other.surfaces primitives token = none) ∧
        (∃ first pieces, (first = declared.progress + 1 ∨ first = declared.progress + 2) ∧
          pieces.length = declared.totalChunks ∧
          (∀ slot data,
            (∃ other ∈ between, other.accepts primitives token = some (slot, data)) ↔
              ∃ index, slot = first + index ∧ pieces[index]? = some data) ∧
          (String.join pieces).utf8ByteSize = declared.totalBytes ∧
          sha256Digest primitives (String.join pieces) = declared.digest ∧
          validateAndParseOversized primitives.serde (String.join pieces)
            policy.maxTransferBytes = some message) ∧
        (call.after primitives).isTracking token = false := by
  obtain ⟨first, input, same, made, -⟩ := history_split split
  obtain ⟨closed, transfer, progress, found, finished⟩ := call.surfaces_eq_some surfaced
  -- The receiver the call was made on is the one its predecessors ended with.
  obtain ⟨kept, explained⟩ := explained_record primitives policy token first
  rw [made] at found finished
  obtain ⟨earlier, start, between, before, underway⟩ := explained transfer found
  have member : start ∈ record primitives (.withPolicy policy) inputs := by
    rw [split, same]
    simp only [record] at before
    rw [before]
    simp
  -- Its declared slots do not wrap around, so they are numbers in a row.
  have room := fits start member transfer.declaration underway.admitted
  obtain ⟨slot, pieces, layout, length, filled, bytes, digest, valid⟩ :=
    transfer.finish_filled finished room
  refine ⟨earlier, start, between, same.trans before, transfer.declaration, underway.admitted,
    underway.bytes, underway.chunks, underway.tracked, ?_, ?_, ?_⟩
  · intro other inside
    -- A call that returns a message does not go on tracking.
    have watched := underway.tracked other (List.mem_cons_of_mem _ inside)
    cases returned : other.surfaces primitives token with
    | none => rfl
    | some surplus =>
      simp [isTracking, (other.surfaces_eq_some returned).1] at watched
  · refine ⟨slot, pieces, layout, length, ?_, bytes, digest, ?_⟩
    · intro place data
      rw [← underway.held place data]
      exact filled place data
    · rw [← kept]
      exact valid
  · rw [isTracking, closed]
    rfl

/-- The text of a ping. -/
def pingText : String := "\x7b\"jsonrpc\":\"2.0\",\"method\":\"ping\"\x7d"

/-- The digest of that text. -/
def pingDigest : String :=
  "sha256:85465608a33a5a6fce5da4c01d8204d8ac03895f5cf7be131dad34245a013657"

/-- A JSON library and a hash that know the text of a ping only. -/
def pingPrimitives : TransferPrimitives where
  serde :=
    { fromStr := fun text =>
        if text = pingText then
          some (.object [("jsonrpc", .string "2.0"), ("method", .string "ping")])
        else none
      floatText := fun _ => ""
      fromStr_empty := rfl }
  sha256 := fun text =>
    if text = pingText then
      [133, 70, 86, 8, 163, 58, 90, 111, 206, 93, 164, 192, 29, 130, 4, 216, 172, 3, 137, 95, 92,
        247, 190, 19, 29, 173, 52, 36, 90, 1, 54, 87]
    else []

/-- The ping arrives in two chunks, with a sweep of the watchdog in between. -/
def pingInputs : List (Nat × ReceiverInput) :=
  let frame (frame : OversizedFrame) (progress : UInt64) : ReceiverInput :=
    .frame (frame.intoProgressNotification "ping-1" progress none)
  [(0, frame (.start pingDigest 33 2) 1),
    (1, frame (.chunk "\x7b\"jsonrpc\":\"2.0\",") 2),
    (2, .sweep),
    (3, frame (.chunk "\"method\":\"ping\"\x7d") 3),
    (4, frame .end_ 4)]

/-- The ping is returned by the last call, and the first one had opened its transfer. -/
theorem surfaces_verified_ping :
    ∃ calls call, OversizedTransferReceiver.record pingPrimitives (.withPolicy .default)
        pingInputs = calls ++ [call] ∧
      call.surfaces pingPrimitives "ping-1" = some (.notification ⟨"2.0", "ping", none⟩) ∧
      ∃ earlier start between, calls = earlier ++ start :: between ∧
        (start.admits pingPrimitives "ping-1").isSome = true := by
  -- The last call is split off, and the theorem explains what it returns.
  have split : record pingPrimitives (.withPolicy .default) pingInputs =
      record pingPrimitives (.withPolicy .default) (pingInputs.take 4) ++
        [⟨4, .frame (OversizedFrame.end_.intoProgressNotification "ping-1" 4 none),
          replay pingPrimitives (.withPolicy .default) (pingInputs.take 4)⟩] := rfl
  obtain ⟨earlier, start, between, before, declared, admitted, -⟩ :=
    surfaces_verified pingPrimitives .default "ping-1" pingInputs (by decide) split
      (show _ = some (.notification ⟨"2.0", "ping", none⟩) by decide)
  exact ⟨_, _, split, by decide, earlier, start, between, before, by rw [admitted]; rfl⟩

end ContextVm
