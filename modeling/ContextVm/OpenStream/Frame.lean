import ContextVm.Core.Validation
import ContextVm.Oversized.Frame

/-! The frames of an open stream, and the progress notifications that carry them. -/

namespace ContextVm.OpenStream

/-- The value of the field that tells a stream frame from other extensions. -/
def openStreamType : String := "open-stream"

/-- One frame of a stream. -/
inductive OpenStreamFrame where
  -- The content type is for the application only.
  | start (contentType : Option String)
  | accept
  | chunk (chunkIndex : UInt64) (data : String)
  | ping (nonce : String)
  | pong (nonce : String)
  -- The highest index of a chunk; a stream without chunks has none.
  | close (lastChunkIndex : Option UInt64)
  | abort (reason : Option String)
  deriving DecidableEq

/-- Why a stream failed. -/
inductive OpenStreamError where
  | abort (token : String) (reason : Option String)
  | policy (detail : String)
  | sequence (detail : String)
  deriving DecidableEq

namespace OpenStreamFrame

/-- The name of the frame's kind. -/
def frameType : OpenStreamFrame → String
  | .start _ => "start"
  | .accept => "accept"
  | .chunk _ _ => "chunk"
  | .ping _ => "ping"
  | .pong _ => "pong"
  | .close _ => "close"
  | .abort _ => "abort"

/-- The extension object of a frame. -/
def toCvmValue (frame : OpenStreamFrame) : Json :=
  .object (Fields.present ([("frameType", some (.string frame.frameType)),
    ("type", some (.string openStreamType))] ++ match frame with
    -- What is missing is not written at all.
    | .start contentType => [("contentType", contentType.map .string)]
    | .accept => []
    | .chunk chunkIndex data =>
      [("chunkIndex", some (.ofU64 chunkIndex)), ("data", some (.string data))]
    | .ping nonce | .pong nonce => [("nonce", some (.string nonce))]
    | .close lastChunkIndex => [("lastChunkIndex", lastChunkIndex.map .ofU64)]
    | .abort reason => [("reason", reason.map .string)]))

/-- A field that may be left out or be null, and else has to be of its kind. -/
def optionalField {α : Type} (value : Json) (key : String) (read : Json → Option α) :
    Option (Option α) :=
  match value.optional key with
  | none => some none
  | some field => (read field).map some

/-- Read a frame from an extension object, if that is what the object holds. -/
def fromCvmValue (value : Json) : Option OpenStreamFrame :=
  let text (key : String) := (value.get key).bind Json.asStr
  if text "type" = some openStreamType then
    -- Fields the kind does not have are ignored.
    if text "frameType" = some "start" then
      (optionalField value "contentType" Json.asStr).map .start
    else if text "frameType" = some "accept" then some .accept
    else if text "frameType" = some "chunk" then do
      let chunkIndex ← (value.get "chunkIndex").bind OversizedFrame.asU64
      let data ← text "data"
      return .chunk chunkIndex data
    else if text "frameType" = some "ping" then (text "nonce").map .ping
    else if text "frameType" = some "pong" then (text "nonce").map .pong
    else if text "frameType" = some "close" then
      (optionalField value "lastChunkIndex" OversizedFrame.asU64).map .close
    else if text "frameType" = some "abort" then
      (optionalField value "reason" Json.asStr).map .abort
    else none
  else none

/-- The progress notification that carries a frame, with the token always as a string. -/
def intoProgressNotification (frame : OpenStreamFrame) (progressToken : String)
    (progress : UInt64) (message : Option String) : JsonRpcNotification where
  jsonrpc := "2.0"
  method := notificationsProgressMethod
  params := some (.object (Fields.present
    [("progressToken", some (.string progressToken)), ("progress", some (.ofU64 progress)),
      ("message", message.map .string), ("cvm", some frame.toCvmValue)]))

/-- A frame reads back from the object it is written as. -/
theorem fromCvmValue_toCvmValue (frame : OpenStreamFrame) :
    fromCvmValue frame.toCvmValue = some frame := by
  -- The object has the fields of its kind and no others, all under different keys.
  cases frame with
  | start contentType =>
    cases contentType <;>
      simp [toCvmValue, frameType, fromCvmValue, Fields.present, Fields.lookup_insert, Json.get,
        Json.asStr, openStreamType, optionalField, Json.optional]
  | accept | ping nonce | pong nonce =>
    simp [toCvmValue, frameType, fromCvmValue, Fields.present, Fields.lookup_insert, Json.get,
      Json.asStr, openStreamType]
  | chunk chunkIndex data =>
    simp [toCvmValue, frameType, fromCvmValue, Fields.present, Fields.lookup_insert, Json.get,
      Json.asStr, openStreamType, OversizedFrame.asU64, Json.ofU64]
  | close lastChunkIndex =>
    cases lastChunkIndex <;>
      simp [toCvmValue, frameType, fromCvmValue, Fields.present, Fields.lookup_insert, Json.get,
        Json.asStr, openStreamType, optionalField, Json.optional, OversizedFrame.asU64, Json.ofU64]
  | abort reason =>
    cases reason <;>
      simp [toCvmValue, frameType, fromCvmValue, Fields.present, Fields.lookup_insert, Json.get,
        Json.asStr, openStreamType, optionalField, Json.optional]

/-- The notification carries the frame, the token and the progress. -/
theorem params_intoProgressNotification (frame : OpenStreamFrame) (progressToken : String)
    (progress : UInt64) (message : Option String) :
    ∃ params, (frame.intoProgressNotification progressToken progress message).params =
        some params ∧ params.get "cvm" = some frame.toCvmValue ∧
      params.get "progressToken" = some (.string progressToken) ∧
      params.get "progress" = some (.ofU64 progress) := by
  refine ⟨_, rfl, ?_⟩
  -- The message is one field more, under a key of its own.
  cases message with
  | none | some text => simp [Fields.present, Fields.lookup_insert, Json.get]

end OpenStreamFrame

end ContextVm.OpenStream
