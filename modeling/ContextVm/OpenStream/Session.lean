import Mathlib.Data.List.AList
import ContextVm.Core.Time
import ContextVm.OpenStream.Frame

/-! The reader of an open stream: frames go in, and the chunks come out in order. -/

namespace ContextVm.OpenStream

/-! Arithmetic of the builds. -/

/-- How a build adds and subtracts words. -/
inductive Arithmetic where
  -- With overflow checks, where an overflow is a panic, and without.
  | checked
  | wrapping
  -- Without them, but with a check that no saturating difference stops at zero.
  | strict
  deriving DecidableEq

namespace Arithmetic

/-- The sum of two words, if the build goes on with one. -/
def add (arithmetic : Arithmetic) (left right : Nat) : Option Nat :=
  match arithmetic with
  | .checked => u64CheckedAdd left right
  | .wrapping | .strict => some (u64Add left right)

/-- The difference of two words that stops at zero. -/
def saturatingSub (arithmetic : Arithmetic) (left right : Nat) : Option Nat :=
  match arithmetic with
  | .checked | .wrapping => some (left - right)
  | .strict => u64CheckedSub left right

/-- A sum that fits is that sum. -/
theorem add_eq (arithmetic : Arithmetic) {left right : Nat} (fits : left + right ≤ u64Max) :
    arithmetic.add left right = some (left + right) := by
  grind [Arithmetic, add, u64CheckedAdd_of_le, u64Add_of_le]

/-- A difference that fits is that difference. -/
theorem saturatingSub_eq (arithmetic : Arithmetic) {left right : Nat} (ordered : right ≤ left) :
    arithmetic.saturatingSub left right = some (left - right) := by
  cases arithmetic with
  | checked | wrapping => rfl
  | strict => exact u64CheckedSub_of_le ordered

end Arithmetic

/-! What a reader keeps. -/

/-- What a frame requires of the caller. -/
inductive FrameOutcome where
  | none
  | sendPong (nonce : String)
  | closed
  | aborted (reason : Option String)
  deriving DecidableEq

/-- What the keepalive requires of the sweep. -/
inductive KeepaliveAction where
  | none
  | sendPing (nonce : String)
  | abort (reason : String)
  deriving DecidableEq

/-- What a reader is made with. -/
structure OpenStreamSessionOptions where
  progressToken : String
  maxBufferedChunks : UInt64
  maxBufferedBytes : UInt64
  idleTimeoutMs : UInt64
  probeTimeoutMs : UInt64
  closeGracePeriodMs : UInt64
  -- Whether there is somewhere to publish the frame of an abort to.
  publishFrame : Bool
  deriving DecidableEq

/-- The chunks that are on their way through a reader. -/
structure DataPlane where
  -- In order, and waiting for the consumer.
  queue : List String
  -- Out of order, by their index.
  buffered : AList fun _ : Nat => String
  bufferedBytes : Nat
  queuedBytes : Nat
  nextExpectedChunk : Nat

/-- A reader; who waits for it is left to the runtime. -/
structure SessionState extends DataPlane where
  options : OpenStreamSessionOptions
  lastProgress : Int
  started : Bool
  active : Bool
  closedRemotely : Bool
  expectedLastChunkIndex : Option UInt64
  -- The error that the stream is still to yield.
  terminal : Option OpenStreamError
  lastActivity : Nat
  pendingProbeNonce : Option String
  controlNonce : Nat
  probeDeadline : Option Nat
  closeGraceDeadline : Option Nat
  outboundProgress : Nat

/-- The longest nonce of a ping that is answered. -/
def maxOpenStreamPingNonceBytes : Nat := 64

/-! Chunks. -/

namespace DataPlane

/-- Nothing is on its way. -/
def empty : DataPlane := ⟨[], ∅, 0, 0, 0⟩

/-- Put a chunk aside, if it is neither stale nor known and there is room for it. -/
def bufferChunk (arithmetic : Arithmetic) (options : OpenStreamSessionOptions) (plane : DataPlane)
    (chunkIndex : UInt64) (data : String) : Option (Except OpenStreamError DataPlane) := do
  if chunkIndex.toNat < plane.nextExpectedChunk then
    return .error (.sequence
      ("Stale chunkIndex " ++ toString chunkIndex.toNat ++ " for " ++ options.progressToken))
  if (plane.buffered.lookup chunkIndex.toNat).isSome then
    return .error (.sequence
      ("Duplicate chunkIndex " ++ toString chunkIndex.toNat ++ " for " ++ options.progressToken))
  let chunkBytes := data.utf8ByteSize
  let chunks ← arithmetic.add plane.buffered.entries.length plane.queue.length
  if options.maxBufferedChunks.toNat ≤ chunks then
    return .error (.sequence
      ("Buffered chunk limit exceeded for stream " ++ options.progressToken))
  let held ← arithmetic.add plane.bufferedBytes plane.queuedBytes
  let bytes ← arithmetic.add held chunkBytes
  if options.maxBufferedBytes.toNat < bytes then
    return .error (.sequence ("Buffered byte limit exceeded for stream " ++ options.progressToken))
  let bufferedBytes ← arithmetic.add plane.bufferedBytes chunkBytes
  return .ok { plane with buffered := plane.buffered.insert chunkIndex.toNat data, bufferedBytes }

/-- Queue a chunk for the consumer. -/
def emit (arithmetic : Arithmetic) (plane : DataPlane) (data : String) : Option DataPlane := do
  let queuedBytes ← arithmetic.add plane.queuedBytes data.utf8ByteSize
  return { plane with queue := plane.queue ++ [data], queuedBytes }

/-- Queue the chunk that is next in order. -/
def advance (arithmetic : Arithmetic) (plane : DataPlane) (data : String) : Option DataPlane := do
  let bufferedBytes ← arithmetic.saturatingSub plane.bufferedBytes data.utf8ByteSize
  let emitted ← emit arithmetic
    { plane with buffered := plane.buffered.erase plane.nextExpectedChunk, bufferedBytes } data
  let nextExpectedChunk ← arithmetic.add emitted.nextExpectedChunk 1
  return { emitted with nextExpectedChunk }

/-- Queue chunk after chunk while the next one in order is there, so many times at most. -/
def drain (arithmetic : Arithmetic) : Nat → DataPlane → Option DataPlane
  | 0, plane => some plane
  | steps + 1, plane =>
    match plane.buffered.lookup plane.nextExpectedChunk with
    | none => some plane
    | some data => (plane.advance arithmetic data).bind (drain arithmetic steps)

/-- Queue what is in order; each round takes one of the chunks that were put aside. -/
def flush (arithmetic : Arithmetic) (plane : DataPlane) : Option DataPlane :=
  plane.drain arithmetic plane.buffered.entries.length

/-- Hand the first queued chunk to the consumer. -/
def popFront (arithmetic : Arithmetic) (plane : DataPlane) : Option (Option String × DataPlane) :=
  match plane.queue with
  | [] => some (none, plane)
  | item :: queue =>
    (arithmetic.saturatingSub plane.queuedBytes item.utf8ByteSize).map fun queuedBytes =>
      (some item, { plane with queue, queuedBytes })

end DataPlane

/-! The reader. -/

namespace SessionState

/-- A reader that has just been made. -/
def new (options : OpenStreamSessionOptions) (now : Nat) : SessionState where
  toDataPlane := .empty
  options
  lastProgress := -1
  started := false
  active := true
  closedRemotely := false
  expectedLastChunkIndex := none
  terminal := none
  lastActivity := now
  pendingProbeNonce := none
  controlNonce := 0
  probeDeadline := none
  closeGraceDeadline := none
  outboundProgress := 0

/-- End the stream, with an error or without; the first end counts. -/
def finalize (state : SessionState) (error : Option OpenStreamError) : SessionState :=
  if state.active then
    { state with
      active := false
      terminal := error
      pendingProbeNonce := none
      probeDeadline := none
      closeGraceDeadline := none }
  else state

/-- End the stream if it was closed and all its chunks are there; tells whether it has ended. -/
def maybeFinishGracefully (arithmetic : Arithmetic) (state : SessionState) :
    Option (Except OpenStreamError Bool × SessionState) :=
  if state.closedRemotely = false ∨ state.buffered.entries.isEmpty = false then
    some (.ok false, state)
  else
    match state.expectedLastChunkIndex with
    | none => some (.ok true, state.finalize none)
    | some expected => (arithmetic.add expected.toNat 1).map fun count =>
      if state.nextExpectedChunk ≠ count then
        (.error (.sequence ("Incomplete stream for " ++ state.options.progressToken ++
          ": expected chunks through " ++ toString expected.toNat)), state)
      else (.ok true, state.finalize none)

/-- Queue what is in order, and end the stream if that was all of it. -/
def flushContiguousChunks (arithmetic : Arithmetic) (state : SessionState) :
    Option (Except OpenStreamError Bool × SessionState) :=
  (state.toDataPlane.flush arithmetic).bind fun plane =>
    let flushed := { state with toDataPlane := plane }
    if flushed.closedRemotely then flushed.maybeFinishGracefully arithmetic
    else some (.ok false, flushed)

/-- Stop waiting for the answer to a ping, if this is the one. -/
def handlePong (state : SessionState) (nonce : String) : SessionState :=
  if state.pendingProbeNonce = some nonce then
    { state with pendingProbeNonce := none, probeDeadline := none }
  else state

/-- What a frame does that came before the start. -/
def beforeStart (state : SessionState) :
    Option (Except OpenStreamError FrameOutcome × SessionState) :=
  some (.error (.sequence
    ("Received non-start frame before start for " ++ state.options.progressToken)), state)

/-- What a frame makes of the flush that it has caused. -/
def reportFlush (flushed : Except OpenStreamError Bool × SessionState)
    (unfinished : SessionState → SessionState) :
    Except OpenStreamError FrameOutcome × SessionState :=
  match flushed with
  | (.error error, after) => (.error error, after)
  | (.ok true, after) => (.ok .closed, after)
  | (.ok false, after) => (.ok .none, unfinished after)

/-- A chunk for a reader that has started. -/
def handleChunk (arithmetic : Arithmetic) (state : SessionState) (chunkIndex : UInt64)
    (data : String) : Option (Except OpenStreamError FrameOutcome × SessionState) :=
  (state.toDataPlane.bufferChunk arithmetic state.options chunkIndex data).bind fun stored =>
    match stored with
    | .error error => some (.error error, state)
    | .ok plane =>
      let stored := { state with toDataPlane := plane }
      (stored.flushContiguousChunks arithmetic).map fun flushed => reportFlush flushed id

/-- A close for a reader that has started; with chunks missing, they have some time to come. -/
def handleClose (arithmetic : Arithmetic) (state : SessionState) (now : Nat)
    (lastChunkIndex : Option UInt64) :
    Option (Except OpenStreamError FrameOutcome × SessionState) :=
  let closed := { state with closedRemotely := true, expectedLastChunkIndex := lastChunkIndex }
  (closed.flushContiguousChunks arithmetic).map fun flushed =>
    reportFlush flushed fun after => { after with
      closeGraceDeadline :=
        some (now + Duration.fromMillis after.options.closeGracePeriodMs.toNat) }

/-- A frame whose progress is in order, by its kind. -/
def handleFrame (arithmetic : Arithmetic) (state : SessionState) (now : Nat) :
    OpenStreamFrame → Option (Except OpenStreamError FrameOutcome × SessionState)
  | .start _ =>
    if state.started then
      some (.error (.sequence
        ("Duplicate start frame for stream " ++ state.options.progressToken)), state)
    else some (.ok .none, { state with started := true })
  | .accept => some (.ok .none, state)
  | .ping nonce =>
    if state.started = false then state.beforeStart
    else if maxOpenStreamPingNonceBytes < nonce.utf8ByteSize then
      some (.error (.sequence ("ping nonce exceeds " ++ toString maxOpenStreamPingNonceBytes ++
        "-byte cap (got " ++ toString nonce.utf8ByteSize ++ " bytes)")), state)
    else some (.ok (.sendPong nonce), state)
  | .pong nonce =>
    if state.started = false then state.beforeStart
    else some (.ok .none, state.handlePong nonce)
  | .chunk chunkIndex data =>
    if state.started = false then state.beforeStart
    else state.handleChunk arithmetic chunkIndex data
  | .close lastChunkIndex =>
    if state.started = false then state.beforeStart
    else state.handleClose arithmetic now lastChunkIndex
  | .abort reason =>
    some (.ok (.aborted reason), state.finalize (some (.abort state.options.progressToken reason)))

/-- Process one frame; without a result the build has panicked. -/
def processFrame (arithmetic : Arithmetic) (state : SessionState) (now : Nat) (progress : Int64)
    (frame : OpenStreamFrame) : Option (Except OpenStreamError FrameOutcome × SessionState) :=
  if state.active = false then
    some (.error (.sequence
      ("Received frame for inactive stream " ++ state.options.progressToken)), state)
  else if progress.toInt ≤ state.lastProgress then
    some (.error (.sequence
      ("Non-increasing progress for stream " ++ state.options.progressToken)), state)
  else
    -- Every frame in order counts as a sign of life, whatever becomes of it.
    { state with lastProgress := progress.toInt, lastActivity := now }.handleFrame arithmetic now
      frame

/-- The keepalive: probe a writer that is silent, and give up on one that does not answer. -/
def tick (state : SessionState) (now : Nat) : KeepaliveAction × SessionState :=
  let abort (reason : String) :=
    (KeepaliveAction.abort reason,
      state.finalize (some (.abort state.options.progressToken (some reason))))
  if state.active = false then (.none, state)
  else if state.pendingProbeNonce.isSome ∧ (state.probeDeadline.any fun deadline => deadline ≤ now)
    then abort "Probe timeout"
  else if state.closedRemotely ∧ state.buffered.entries.isEmpty = false ∧
      (state.closeGraceDeadline.any fun deadline => deadline ≤ now) then
    abort "Close grace period expired"
  else if state.started ∧ state.closedRemotely = false ∧ state.pendingProbeNonce = none ∧
      Duration.fromMillis state.options.idleTimeoutMs.toNat ≤ now - state.lastActivity then
    let controlNonce := state.controlNonce + 1
    let nonce := state.options.progressToken ++ ":" ++ toString controlNonce
    (.sendPing nonce, { state with
      controlNonce
      pendingProbeNonce := some nonce
      probeDeadline := some (now + Duration.fromMillis state.options.probeTimeoutMs.toNat) })
  else (.none, state)

/-- End the stream with an error. -/
def fail (state : SessionState) (error : OpenStreamError) : SessionState :=
  state.finalize (some error)

/-- End the stream without an error. -/
def dispose (state : SessionState) : SessionState := state.finalize none

/-- End the stream for the consumer, and tell the writer of it if there is a way to. -/
def abort (state : SessionState) (reason : Option String) :
    Option JsonRpcNotification × SessionState :=
  if state.active then
    let ended := state.finalize (some (.abort state.options.progressToken reason))
    if state.options.publishFrame then
      let outboundProgress := ended.outboundProgress + 1
      (some ((OpenStreamFrame.abort reason).intoProgressNotification state.options.progressToken
        (UInt64.ofNat outboundProgress) none), { ended with outboundProgress })
    else (none, ended)
  else (none, state)

/-- What a poll of the stream finds. -/
inductive Polled where
  | ready (item : Option (Except OpenStreamError String))
  | pending
  deriving DecidableEq

/-- Poll the stream: first the queued chunks, then the error if there is one, then the end. -/
def pollNext (arithmetic : Arithmetic) (state : SessionState) : Option (Polled × SessionState) :=
  (state.toDataPlane.popFront arithmetic).map fun (item, plane) =>
    match item with
    | some item => (.ready (some (.ok item)), { state with toDataPlane := plane })
    | none =>
      if state.active then (.pending, state)
      else (.ready (state.terminal.map .error), { state with terminal := none })

end SessionState

/-! Everything that is done to a reader. -/

/-- What is done to a reader. -/
inductive SessionAction where
  | processFrame (now : Nat) (progress : Int64) (frame : OpenStreamFrame)
  | pollNext
  | tick (now : Nat)
  | fail (error : OpenStreamError)
  | dispose
  | abort (reason : Option String)
  deriving DecidableEq

/-- The bytes of the data that a frame brings. -/
def OpenStreamFrame.dataBytes : OpenStreamFrame → Nat
  | .chunk _ data => data.utf8ByteSize
  | _ => 0

namespace SessionState

/-- The bytes of the chunks that a reader holds. -/
def heldBytes (state : SessionState) : Nat :=
  (state.queue.map String.utf8ByteSize).sum +
    (state.buffered.entries.map fun entry => entry.2.utf8ByteSize).sum

/-- Whether the data of a frame is in memory beside what a reader holds, whose size is a word. -/
def fits (state : SessionState) (frame : OpenStreamFrame) : Prop :=
  state.heldBytes + frame.dataBytes ≤ u64Max

instance (state : SessionState) (frame : OpenStreamFrame) : Decidable (state.fits frame) :=
  inferInstanceAs (Decidable (_ ≤ _))

/-- The reader after one thing is done to it, unless that is a panic, which poisons its lock. -/
def step (arithmetic : Arithmetic) (state : SessionState) : SessionAction → Option SessionState
  | .processFrame now progress frame =>
    -- A frame that does not fit in memory never gets here.
    if state.fits frame then
      (state.processFrame arithmetic now progress frame).map Prod.snd
    else none
  | .pollNext => (state.pollNext arithmetic).map Prod.snd
  | .tick now => some (state.tick now).2
  | .fail error => some (state.fail error)
  | .dispose => some state.dispose
  | .abort reason => some (state.abort reason).2

end SessionState

end ContextVm.OpenStream
