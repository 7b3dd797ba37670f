import Mathlib.Data.List.AList
import ContextVm.Core.Time
import ContextVm.Core.Validation
import ContextVm.Lib.Slots
import ContextVm.Oversized.Codec

/-! The receiver of oversized transfers: what it tracks for each token, and what each frame does. -/

namespace ContextVm

/-- What a receiver admits and buffers. -/
structure TransferPolicy where
  maxTransferBytes : Nat
  maxTransferChunks : Nat
  maxConcurrentTransfers : Nat
  -- How far ahead of the frontier a chunk may arrive, and how many such chunks are kept.
  maxOutOfOrderWindow : Nat
  maxOutOfOrderChunks : Nat
  -- Zero switches the watchdog off.
  transferTimeoutMs : Nat

/-- The policy of a receiver that was not given one. -/
def TransferPolicy.default : TransferPolicy where
  maxTransferBytes := 100 * 1024 * 1024
  maxTransferChunks := 10000
  maxConcurrentTransfers := 64
  maxOutOfOrderWindow := 21
  maxOutOfOrderChunks := 42
  transferTimeoutMs := 5 * 60 * 1000

/-- The state of one transfer in flight. -/
structure ActiveTransfer where
  digest : String
  totalBytes : Nat
  totalChunks : Nat
  startProgress : Nat
  acceptProgress : Option Nat
  firstChunkProgress : Option Nat
  nextExpectedChunkProgress : Option Nat
  highestObservedProgress : Nat
  -- The pieces by the progress of the frame that carried them.
  chunks : AList fun _ : Nat => String
  admittedAt : Nat

namespace ActiveTransfer

/-- The slot the first chunk is expected at. -/
def firstChunkSlot (transfer : ActiveTransfer) : Nat :=
  if transfer.acceptProgress.isSome then u64Add transfer.startProgress 2
  else u64Add transfer.startProgress 1

/-- The slot the next chunk in order is expected at. -/
def expectedChunkProgress (transfer : ActiveTransfer) : Nat :=
  transfer.nextExpectedChunkProgress.getD transfer.firstChunkSlot

/-- Whether a chunk has arrived at a slot. -/
def holds (transfer : ActiveTransfer) (slot : Nat) : Bool := (transfer.chunks.lookup slot).isSome

/-- How many chunks have arrived. -/
def chunkCount (transfer : ActiveTransfer) : Nat := transfer.chunks.entries.length

/-- Find the frontier anew, where the chunks in order end. -/
def refreshChunkProgressState (transfer : ActiveTransfer) : ActiveTransfer :=
  if transfer.chunkCount = 0 then
    { transfer with firstChunkProgress := none, nextExpectedChunkProgress := none }
  else
    let first := transfer.firstChunkSlot
    -- The walk passes each chunk once at most.
    let next := walkHeld transfer.holds (fun slot => u64Add slot 1) transfer.chunkCount first
    { transfer with firstChunkProgress := some first, nextExpectedChunkProgress := some next }

/-- How many chunks are buffered beyond the frontier. -/
def bufferedOutOfOrderCount (transfer : ActiveTransfer) : Nat :=
  match transfer.firstChunkProgress, transfer.nextExpectedChunkProgress with
  | some first, some next => u64Sub transfer.chunkCount (u64Sub next first)
  | _, _ => 0

/-- Whether all chunks are there when the first one is at this slot. -/
def hasCompleteChunkRange (transfer : ActiveTransfer) (first : Nat) : Bool :=
  (List.range transfer.totalChunks).all fun index => transfer.holds (u64Add first index)

/-- The slot of the first chunk, whether or not the accept slot was used. -/
def assemblyFirstChunkProgress (transfer : ActiveTransfer) : Option Nat :=
  let direct := u64Add transfer.startProgress 1
  let acceptGated := u64Add transfer.startProgress 2
  if transfer.hasCompleteChunkRange direct then some direct
  else if transfer.hasCompleteChunkRange acceptGated then some acceptGated
  else none

/-- Put the chunks together in the order of their slots. -/
def assemble (transfer : ActiveTransfer) : Option String :=
  transfer.assemblyFirstChunkProgress.bind fun first =>
    ((List.range transfer.totalChunks).mapM fun index =>
      transfer.chunks.lookup (u64Add first index)).map String.join

/-- Take an accept frame in. -/
def takeAccept (transfer : ActiveTransfer) (token : String) (progress : Nat) :
    Except OversizedTransferError ActiveTransfer :=
  if progress ≤ transfer.startProgress then
    .error (.sequence ("Accept frame progress must be greater than start progress (token: " ++
      token ++ ")"))
  else .ok
    { transfer with
      highestObservedProgress := max transfer.highestObservedProgress progress
      acceptProgress := some progress }

/-- Take a chunk frame in. -/
def takeChunk (policy : TransferPolicy) (transfer : ActiveTransfer) (token : String)
    (progress : Nat) (data : String) : Except OversizedTransferError ActiveTransfer :=
  let minimum := u64Add transfer.startProgress 1
  let maximum := u64Add (u64Add transfer.startProgress transfer.totalChunks) 1
  let forwardGap : Int := progress - transfer.expectedChunkProgress
  if progress < minimum then
    .error (.sequence ("Chunk progress must be greater than start progress (token: " ++ token ++
      ")"))
  -- The window is checked before the declared bounds.
  else if (policy.maxOutOfOrderWindow : Int) < forwardGap then
    .error (.policy ("Out-of-order gap " ++ toString forwardGap ++ " exceeds policy limit " ++
      toString policy.maxOutOfOrderWindow ++ " (token: " ++ token ++ ")"))
  else if maximum < progress then
    .error (.sequence ("Chunk progress exceeds declared transfer bounds (token: " ++ token ++ ")"))
  else if u64Add transfer.startProgress 2 < progress ∧
      transfer.holds (u64Add transfer.startProgress 1) = false ∧
      transfer.holds (u64Add transfer.startProgress 2) = false then
    .error (.sequence ("First chunk skips beyond the reserved accept slot (token: " ++ token ++
      ")"))
  else match transfer.chunks.lookup progress with
    | some existing =>
      if existing ≠ data then
        .error (.sequence ("Conflicting duplicate chunk detected (token: " ++ token ++
          ", progress: " ++ toString progress ++ ")"))
      -- The same chunk once more changes nothing.
      else .ok transfer
    | none =>
      let taken := refreshChunkProgressState
        { transfer with
          chunks := transfer.chunks.insert progress data
          highestObservedProgress := max transfer.highestObservedProgress progress }
      if 0 < forwardGap ∧ policy.maxOutOfOrderChunks < taken.bufferedOutOfOrderCount then
        .error (.policy ("Buffered out-of-order chunks exceed policy limit " ++
          toString policy.maxOutOfOrderChunks ++ " (token: " ++ token ++ ")"))
      else .ok taken

/-- Check the text a transfer was put together to, and read the message it carries. -/
def conclude (primitives : TransferPrimitives) (policy : TransferPolicy)
    (transfer : ActiveTransfer) (token : String) :
    Option String → Except OversizedTransferError JsonRpcMessage
  | none =>
    .error (.reassembly ("Transfer ended with unresolved chunk gaps (token: " ++ token ++ ")"))
  | some assembled =>
    -- The length is compared first, then the digest, and the text is read last.
    if assembled.utf8ByteSize ≠ transfer.totalBytes then
      .error (.digest ("Byte length mismatch: expected " ++ toString transfer.totalBytes ++
        ", got " ++ toString assembled.utf8ByteSize ++ " (token: " ++ token ++ ")"))
    else if sha256Digest primitives assembled ≠ transfer.digest then
      .error (.digest ("SHA-256 digest mismatch (token: " ++ token ++ ")"))
    else match validateAndParseOversized primitives.serde assembled policy.maxTransferBytes with
      | some message => .ok message
      | none => .error (.reassembly
        ("Reassembled payload is not a valid JSON-RPC message (token: " ++ token ++ ")"))

/-- Check a transfer at its end, and read the message it carried. -/
def finish (primitives : TransferPrimitives) (policy : TransferPolicy) (transfer : ActiveTransfer)
    (token : String) (progress : Nat) : Except OversizedTransferError JsonRpcMessage :=
  if progress ≤ transfer.highestObservedProgress then
    .error (.sequence
      ("End frame progress must be greater than all prior transfer frames (token: " ++ token ++
        ")"))
  else if 0 < transfer.totalChunks ∧ transfer.chunkCount = 0 then
    .error (.reassembly ("Transfer ended before any chunks were received (token: " ++ token ++ ")"))
  else if transfer.chunkCount ≠ transfer.totalChunks then
    .error (.reassembly ("Expected " ++ toString transfer.totalChunks ++ " chunks but received " ++
      toString transfer.chunkCount ++ " (token: " ++ token ++ ")"))
  else transfer.conclude primitives policy token transfer.assemble

end ActiveTransfer

/-- What one frame leads to: a message, nothing yet, or a failed transfer. -/
abbrev FrameOutcome := Except OversizedTransferError (Option JsonRpcMessage)

/-- The transfers of one peer, by their tokens. -/
structure OversizedTransferReceiver where
  policy : TransferPolicy
  transfers : AList fun _ : String => ActiveTransfer

namespace OversizedTransferReceiver

/-- A receiver without transfers. -/
def withPolicy (policy : TransferPolicy) : OversizedTransferReceiver := ⟨policy, ∅⟩

/-- How many transfers are in flight. -/
def activeTransferCount (receiver : OversizedTransferReceiver) : Nat :=
  receiver.transfers.entries.length

/-- Whether a transfer of this token is in flight. -/
def isTracking (receiver : OversizedTransferReceiver) (token : String) : Bool :=
  (receiver.transfers.lookup token).isSome

/-- Stop tracking a token. -/
def remove (receiver : OversizedTransferReceiver) (token : String) : OversizedTransferReceiver :=
  { receiver with transfers := receiver.transfers.erase token }

/-- Track a transfer under a token. -/
def track (receiver : OversizedTransferReceiver) (token : String) (transfer : ActiveTransfer) :
    OversizedTransferReceiver :=
  { receiver with transfers := receiver.transfers.insert token transfer }

/-- Drop the transfers that were admitted too long ago, however active they are. -/
def removeExpired (receiver : OversizedTransferReceiver) (now : Nat) : OversizedTransferReceiver :=
  if receiver.policy.transferTimeoutMs = 0 then receiver
  else
    { receiver with
      transfers :=
        ⟨receiver.transfers.entries.filter fun entry =>
            now - entry.2.admittedAt ≤ Duration.fromMillis receiver.policy.transferTimeoutMs,
          receiver.transfers.nodupKeys.sublist List.filter_sublist⟩ }

/-- Open a transfer. -/
def handleStart (receiver : OversizedTransferReceiver) (now : Nat) (token : String)
    (progress : Nat) (digest : String) (totalBytes totalChunks : Nat) :
    FrameOutcome × OversizedTransferReceiver :=
  if receiver.isTracking token then
    (.error (.sequence ("Duplicate start frame for active transfer (token: " ++ token ++ ")")),
      receiver)
  else if receiver.policy.maxTransferBytes < totalBytes then
    (.error (.policy ("totalBytes " ++ toString totalBytes ++ " exceeds policy limit " ++
      toString receiver.policy.maxTransferBytes ++ " (token: " ++ token ++ ")")), receiver)
  else if receiver.policy.maxTransferChunks < totalChunks then
    (.error (.policy ("totalChunks " ++ toString totalChunks ++ " exceeds policy limit " ++
      toString receiver.policy.maxTransferChunks ++ " (token: " ++ token ++ ")")), receiver)
  else if receiver.policy.maxConcurrentTransfers ≤ receiver.activeTransferCount then
    (.error (.policy ("Active transfers exceed policy limit " ++
      toString receiver.policy.maxConcurrentTransfers ++ " (token: " ++ token ++ ")")), receiver)
  else if digestPrefix.toList.isPrefixOf digest.toList = false then
    (.error (.reassembly ("Invalid digest format in start frame (token: " ++ token ++ ")")),
      receiver)
  else
    (.ok none, receiver.track token
      { digest
        totalBytes
        totalChunks
        startProgress := progress
        acceptProgress := none
        firstChunkProgress := none
        nextExpectedChunkProgress := none
        highestObservedProgress := progress
        chunks := ∅
        admittedAt := now })

/-- Put a transfer back that took a frame in, or drop it with the error it failed with. -/
def settle (receiver : OversizedTransferReceiver) (token : String) :
    Except OversizedTransferError ActiveTransfer → FrameOutcome × OversizedTransferReceiver
  | .ok transfer => (.ok none, (receiver.remove token).track token transfer)
  | .error fault => (.error fault, receiver.remove token)

/-- Note the answer to an opening frame. -/
def handleAccept (receiver : OversizedTransferReceiver) (token : String) (progress : Nat) :
    FrameOutcome × OversizedTransferReceiver :=
  match receiver.transfers.lookup token with
  -- What arrives for no transfer is ignored.
  | none => (.ok none, receiver)
  | some transfer => receiver.settle token (transfer.takeAccept token progress)

/-- Buffer a chunk. -/
def handleChunk (receiver : OversizedTransferReceiver) (token : String) (progress : Nat)
    (data : String) : FrameOutcome × OversizedTransferReceiver :=
  match receiver.transfers.lookup token with
  | none => (.ok none, receiver)
  | some transfer =>
    receiver.settle token (transfer.takeChunk receiver.policy token progress data)

/-- Close a transfer, whatever comes of it. -/
def handleEnd (primitives : TransferPrimitives) (receiver : OversizedTransferReceiver)
    (token : String) (progress : Nat) : FrameOutcome × OversizedTransferReceiver :=
  match receiver.transfers.lookup token with
  | none => (.ok none, receiver)
  | some transfer =>
    ((transfer.finish primitives receiver.policy token progress).map some, receiver.remove token)

/-- Give a transfer up, whether or not it is tracked. -/
def handleAbort (receiver : OversizedTransferReceiver) (token : String) (reason : Option String) :
    FrameOutcome × OversizedTransferReceiver :=
  (.error (.abort token reason), receiver.remove token)

/-- The outer progress of a frame, a positive integer. -/
def parseProgress : Option Json → Option Nat
  | some (.number (.posInt value)) => if 0 < value.toNat then some value.toNat else none
  -- A float without a fraction is read as well, and a large one stops at the word size.
  | some (.number (.float value)) =>
    if value.den = 1 ∧ 0 < value.num then some (min value.num.toNat u64Max) else none
  | _ => none

/-- The frame of a notification with its token and progress, if it carries one. -/
def decodeFrame (serde : SerdeJson) (notification : JsonRpcNotification) :
    Except OversizedTransferError (Option (String × Nat × OversizedFrame)) :=
  match notification.params with
  | none => .ok none
  | some params =>
    match (params.get "cvm").bind OversizedFrame.fromCvmValue with
    | none => .ok none
    | some frame =>
      let token := ((params.get "progressToken").bind (progressTokenString serde)).getD ""
      if token = "" then .error (.sequence "Oversized transfer frame is missing progressToken")
      else match parseProgress (params.get "progress") with
        | none => .error (.sequence ("Invalid progress value (token: " ++ token ++ ")"))
        | some progress => .ok (some (token, progress, frame))

/-- Process one decoded frame. -/
def dispatchFrame (primitives : TransferPrimitives) (receiver : OversizedTransferReceiver)
    (now : Nat) (token : String) (progress : Nat) :
    OversizedFrame → FrameOutcome × OversizedTransferReceiver
  | .start digest totalBytes totalChunks =>
    receiver.handleStart now token progress digest totalBytes.toNat totalChunks.toNat
  | .accept => receiver.handleAccept token progress
  | .chunk data => receiver.handleChunk token progress data
  | .end_ => receiver.handleEnd primitives token progress
  | .abort reason => receiver.handleAbort token reason

/-- Process one progress notification. -/
def processFrame (primitives : TransferPrimitives) (receiver : OversizedTransferReceiver)
    (now : Nat) (notification : JsonRpcNotification) : FrameOutcome × OversizedTransferReceiver :=
  match decodeFrame primitives.serde notification with
  | .error fault => (.error fault, receiver)
  | .ok none => (.ok none, receiver)
  | .ok (some (token, progress, frame)) =>
    receiver.dispatchFrame primitives now token progress frame

end OversizedTransferReceiver

end ContextVm
