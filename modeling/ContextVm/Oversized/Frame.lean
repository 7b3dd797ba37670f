import ContextVm.Core.Json

/-! The frames of an oversized transfer, and the progress notifications that carry them. -/

namespace ContextVm

/-- The value of the field that tells a transfer frame from other extensions. -/
def oversizedTransferType : String := "oversized-transfer"

/-- The method of the notifications that carry frames. -/
def notificationsProgressMethod : String := "notifications/progress"

/-- One frame of a transfer, where the only completion mode is left implicit. -/
inductive OversizedFrame where
  | start (digest : String) (totalBytes totalChunks : UInt64)
  | accept
  | chunk (data : String)
  | end_
  | abort (reason : Option String)
  deriving DecidableEq

/-- Why a transfer failed. -/
inductive OversizedTransferError where
  | abort (token : String) (reason : Option String)
  | policy (detail : String)
  | digest (detail : String)
  | reassembly (detail : String)
  | sequence (detail : String)
  deriving DecidableEq

namespace OversizedFrame

/-- The name of the frame's kind. -/
def frameType : OversizedFrame → String
  | .start _ _ _ => "start"
  | .accept => "accept"
  | .chunk _ => "chunk"
  | .end_ => "end"
  | .abort _ => "abort"

/-- The extension object of a frame. -/
def toCvmValue (frame : OversizedFrame) : Json :=
  .object (Fields.present ([("frameType", some (.string frame.frameType)),
    ("type", some (.string oversizedTransferType))] ++ match frame with
    | .start digest totalBytes totalChunks =>
      [("completionMode", some (.string "render")), ("digest", some (.string digest)),
        ("totalBytes", some (.ofU64 totalBytes)), ("totalChunks", some (.ofU64 totalChunks))]
    | .chunk data => [("data", some (.string data))]
    -- A missing reason is not written at all.
    | .abort reason => [("reason", reason.map .string)]
    | .accept | .end_ => []))

/-- Whether a value names the only completion mode. -/
def isRender : Json → Bool
  | .string mode => mode = "render"
  -- A tag with nothing in it is read like the bare name.
  | .object [(mode, .null)] | .object [(mode, .object [])] => mode = "render"
  | _ => false

/-- An unsigned 64-bit number. -/
def asU64 : Json → Option UInt64
  | .number (.posInt value) => some value
  | _ => none

/-- Read a frame from an extension object, if that is what the object holds. -/
def fromCvmValue (value : Json) : Option OversizedFrame :=
  let text (key : String) := (value.get key).bind Json.asStr
  if text "type" = some oversizedTransferType then
    -- Fields the kind does not have are ignored.
    if text "frameType" = some "start" then do
      let mode ← value.get "completionMode"
      let digest ← text "digest"
      let totalBytes ← (value.get "totalBytes").bind asU64
      let totalChunks ← (value.get "totalChunks").bind asU64
      if isRender mode then some (.start digest totalBytes totalChunks) else none
    else if text "frameType" = some "accept" then some .accept
    else if text "frameType" = some "chunk" then (text "data").map .chunk
    else if text "frameType" = some "end" then some .end_
    else if text "frameType" = some "abort" then
      match value.get "reason" with
      | none | some .null => some (.abort none)
      | some reason => reason.asStr.map fun text => .abort (some text)
    else none
  else none

/-- The progress notification that carries a frame, with the token always as a string. -/
def intoProgressNotification (frame : OversizedFrame) (progressToken : String) (progress : UInt64)
    (message : Option String) : JsonRpcNotification where
  jsonrpc := "2.0"
  method := notificationsProgressMethod
  params := some (.object (Fields.present
    [("progressToken", some (.string progressToken)), ("progress", some (.ofU64 progress)),
      ("message", message.map .string), ("cvm", some frame.toCvmValue)]))

/-- A frame is read back from its value. -/
theorem fromCvmValue_toCvmValue (frame : OversizedFrame) :
    fromCvmValue frame.toCvmValue = some frame := by
  -- The object has the fields of its kind and no others, all under different keys.
  cases frame with
  | start digest totalBytes totalChunks =>
    simp [toCvmValue, frameType, fromCvmValue, Fields.present, Fields.lookup_insert, Json.get,
      Json.asStr, oversizedTransferType, asU64, Json.ofU64, isRender]
  | accept | chunk data | end_ =>
    simp [toCvmValue, frameType, fromCvmValue, Fields.present, Fields.lookup_insert, Json.get,
      Json.asStr, oversizedTransferType]
  | abort reason =>
    cases reason with
    | none | some text =>
      simp [toCvmValue, frameType, fromCvmValue, Fields.present, Fields.lookup_insert, Json.get,
        Json.asStr, oversizedTransferType]

/-- The notification carries the frame, the token and the progress. -/
theorem params_intoProgressNotification (frame : OversizedFrame) (progressToken : String)
    (progress : UInt64) (message : Option String) :
    ∃ params, (frame.intoProgressNotification progressToken progress message).params =
        some params ∧ params.get "cvm" = some frame.toCvmValue ∧
      params.get "progressToken" = some (.string progressToken) ∧
      params.get "progress" = some (.ofU64 progress) := by
  refine ⟨_, rfl, ?_⟩
  -- The message is one field more, under a key of its own.
  cases message with
  | none | some text => simp [Fields.present, Fields.lookup_insert, Json.get]

end OversizedFrame

end ContextVm
