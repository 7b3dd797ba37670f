import ContextVm.OpenStream.Session

/-! The readers of one peer, found by the token of their stream. -/

namespace ContextVm.OpenStream

/-- The text of an error. -/
def OpenStreamError.toText : OpenStreamError → String
  | .abort token reason => "Open stream aborted (token: " ++ token ++ ")" ++
    (reason.map fun reason => ": " ++ reason).getD ""
  | .policy detail => "Open stream policy violation: " ++ detail
  | .sequence detail => "Open stream sequence error: " ++ detail

/-- What readers are admitted, and how they are made. -/
structure OpenStreamRegistryPolicy where
  maxConcurrentStreams : UInt64
  maxBufferedChunksPerStream : UInt64
  maxBufferedBytesPerStream : UInt64
  idleTimeoutMs : UInt64
  probeTimeoutMs : UInt64
  closeGracePeriodMs : UInt64
  deriving DecidableEq

/-- A policy for a few small streams. -/
def samplePolicy : OpenStreamRegistryPolicy := ⟨4, 8, 1024, 30000, 20000, 5000⟩

/-- What a reader is wired to: a publisher, and what is to run at its end. -/
structure OpenStreamSessionInit where
  publishFrame : Bool
  onClose : Bool
  onAbort : Bool
  deriving DecidableEq

/-- A registered reader, by its number, with what is to run at its end. -/
structure RegistryEntry where
  session : Nat
  onClose : Bool
  onAbort : Bool
  deriving DecidableEq

/-- What has run at the end of a reader. -/
inductive RegistryHook where
  | onClose
  | onAbort (reason : Option String)
  deriving DecidableEq

/-- The readers of one peer. -/
structure OpenStreamRegistry where
  policy : OpenStreamRegistryPolicy
  sessions : AList fun _ : String => RegistryEntry
  -- All readers that were made; a consumer may hold one that has left the registry.
  made : List SessionState
  -- The hooks that were run, each for its reader.
  ran : List (Nat × RegistryHook)

/-- The whole number towards zero of a fraction. -/
def truncate (value : ℚ) : Int := value.num.tdiv value.den

/-- Read the progress of a frame as a signed word; what does not fit ends up at its limits. -/
def parseProgress (value : Option Json) (token : String) : Except OpenStreamError Int64 :=
  match value with
  | some (.number number) =>
    match (Json.number number).asI64, number with
    | some integer, _ => .ok (Int64.ofInt integer)
    | none, .float value => .ok (Int64.ofIntClamp (truncate value))
    -- An integer that is no signed word is beyond the largest one.
    | none, .posInt _ | none, .negInt _ => .ok Int64.maxValue
  | _ => .error (.sequence ("Invalid progress value (token: " ++ token ++ ")"))

/-- Take the token, the progress and the frame out of a notification. -/
def parseFrame (serde : SerdeJson) (notification : JsonRpcNotification) :
    Except OpenStreamError (String × Int64 × OpenStreamFrame) := do
  let some params := notification.params
    | .error (.sequence "Open stream frame is missing params")
  let some frame := (params.get "cvm").bind OpenStreamFrame.fromCvmValue
    | .error (.sequence "Notification is not an open-stream frame")
  let some progressToken := ((params.get "progressToken").bind (progressTokenString serde)).filter
      fun token => token != ""
    | .error (.sequence "Open stream frame is missing progressToken")
  let progress ← parseProgress (params.get "progress") progressToken
  return (progressToken, progress, frame)

namespace OpenStreamRegistry

/-- A registry without readers. -/
def withPolicy (policy : OpenStreamRegistryPolicy) : OpenStreamRegistry := ⟨policy, ∅, [], []⟩

/-- What the readers of a registry are made with. -/
def sessionOptions (policy : OpenStreamRegistryPolicy) (progressToken : String)
    (publishFrame : Bool) : OpenStreamSessionOptions where
  progressToken
  maxBufferedChunks := policy.maxBufferedChunksPerStream
  maxBufferedBytes := policy.maxBufferedBytesPerStream
  idleTimeoutMs := policy.idleTimeoutMs
  probeTimeoutMs := policy.probeTimeoutMs
  closeGracePeriodMs := policy.closeGracePeriodMs
  publishFrame

/-- Make a reader for a token that has none, while there is room for one more. -/
def createSessionWith (registry : OpenStreamRegistry) (now : Nat) (progressToken : String)
    (init : OpenStreamSessionInit) : Except OpenStreamError (RegistryEntry × OpenStreamRegistry) :=
  if (registry.sessions.lookup progressToken).isSome then
    .error (.sequence ("Stream session already exists for " ++ progressToken))
  else if registry.policy.maxConcurrentStreams.toNat ≤ registry.sessions.entries.length then
    .error (.policy "Maximum concurrent open streams exceeded")
  else
    let session := SessionState.new
      (sessionOptions registry.policy progressToken init.publishFrame) now
    let entry := ⟨registry.made.length, init.onClose, init.onAbort⟩
    .ok (entry, { registry with
      sessions := registry.sessions.insert progressToken entry
      made := registry.made ++ [session] })

/-- Take a reader out, and run what is to run at its end. -/
def remove (registry : OpenStreamRegistry) (progressToken : String) (hook : RegistryHook) :
    OpenStreamRegistry :=
  match registry.sessions.lookup progressToken with
  | none => registry
  | some entry =>
    let runs := match hook with
      | .onClose => entry.onClose
      | .onAbort _ => entry.onAbort
    { registry with
      sessions := registry.sessions.erase progressToken
      ran := registry.ran ++ if runs then [(entry.session, hook)] else [] }

/-- The reader is closed. -/
def runClose (registry : OpenStreamRegistry) (progressToken : String) : OpenStreamRegistry :=
  registry.remove progressToken .onClose

/-- The reader is aborted. -/
def runAbort (registry : OpenStreamRegistry) (progressToken : String) (reason : Option String) :
    OpenStreamRegistry :=
  registry.remove progressToken (.onAbort reason)

/-- The reader for a frame: the one under its token, or a new one for a start. -/
def admitFrame (registry : OpenStreamRegistry) (now : Nat) (progressToken : String)
    (frame : OpenStreamFrame) :
    Except OpenStreamError (Option (RegistryEntry × OpenStreamRegistry)) :=
  match registry.sessions.lookup progressToken with
  | some entry => .ok (some (entry, registry))
  | none =>
    match frame with
    | .start _ =>
      (registry.createSessionWith now progressToken ⟨false, false, false⟩).map some
    -- A control frame that has lost its stream carries no data, so it is dropped.
    | .ping _ | .pong _ | .abort _ => .ok none
    | .accept | .chunk _ _ | .close _ =>
      .error (.sequence ("Received " ++ frame.frameType ++ " frame before start for " ++
        progressToken))

/-- Hand a frame to its reader, and take the reader out when that is its end. -/
def feed (arithmetic : Arithmetic) (registry : OpenStreamRegistry) (now : Nat)
    (progressToken : String) (progress : Int64) (frame : OpenStreamFrame) (entry : RegistryEntry) :
    Option (Except OpenStreamError FrameOutcome × OpenStreamRegistry) := do
  let session ← registry.made[entry.session]?
  let (result, after) ← session.processFrame arithmetic now progress frame
  match result with
  | .ok outcome =>
    let fed := { registry with made := registry.made.set entry.session after }
    match outcome with
    | .closed => return (.ok outcome, fed.runClose progressToken)
    | .aborted reason => return (.ok outcome, fed.runAbort progressToken reason)
    | .none | .sendPong _ => return (.ok outcome, fed)
  | .error error =>
    let failed := { registry with made := registry.made.set entry.session (after.fail error) }
    return (.error error, failed.runAbort progressToken (some error.toText))

/-- Process a notification that carries a frame; without a result the build has panicked. -/
def processFrame (serde : SerdeJson) (arithmetic : Arithmetic) (registry : OpenStreamRegistry)
    (now : Nat) (notification : JsonRpcNotification) :
    Option (Except OpenStreamError FrameOutcome × OpenStreamRegistry) :=
  match parseFrame serde notification with
  | .error error => some (.error error, registry)
  | .ok (progressToken, progress, frame) =>
    match registry.admitFrame now progressToken frame with
    | .error error => some (.error error, registry)
    | .ok none => some (.ok .none, registry)
    | .ok (some (entry, admitted)) =>
      admitted.feed arithmetic now progressToken progress frame entry

end OpenStreamRegistry

/-- A frame that is sent is read as the same frame. -/
theorem parseFrame_intoProgressNotification (serde : SerdeJson) (frame : OpenStreamFrame)
    {progressToken : String} (named : progressToken ≠ "") {progress : UInt64}
    (small : progress.toNat < 2 ^ 63) (message : Option String) :
    parseFrame serde (frame.intoProgressNotification progressToken progress message) =
      .ok (progressToken, Int64.ofInt progress.toNat, frame) := by
  obtain ⟨params, given, cvm, token, number⟩ :=
    frame.params_intoProgressNotification progressToken progress message
  have filled : (some progressToken).filter (fun token => token != "") = some progressToken := by
    simp [Option.filter, named]
  simp only [parseFrame, given, cvm, token, number, Option.bind_some, progressTokenString, filled,
    OpenStreamFrame.fromCvmValue_toCvmValue, parseProgress, Json.ofU64, Json.asI64, if_pos small]
  rfl

end ContextVm.OpenStream
