import ContextVm.OpenStream.Frame

/-! The writer of an open stream. -/

namespace ContextVm.OpenStream

/-- A writer; its keepalive and its hooks are not part of what it puts on the wire. -/
structure OpenStreamWriter where
  progressToken : String
  contentType : Option String
  -- The index of the next chunk, and the last progress and nonce that were handed out.
  chunkIndex : UInt64
  progress : UInt64
  controlNonce : UInt64
  active : Bool
  started : Bool
  deriving DecidableEq

/-- What an operation leaves: the writer, the frames it has published, and whether it succeeded. -/
structure WriterAnswer where
  writer : OpenStreamWriter
  published : List JsonRpcNotification
  succeeded : Bool
  deriving DecidableEq

/-- An operation of the writer's owner. -/
inductive WriterOperation where
  | start
  | write (data : String)
  | ping
  | pong (nonce : String)
  | close
  deriving DecidableEq

/-- Which of the publishes of one operation succeed: that of the start, that of its own frame. -/
structure PublishOutcomes where
  start : Bool
  frame : Bool
  deriving DecidableEq

namespace OpenStreamWriter

/-- A writer that has published nothing. -/
def new (progressToken : String) (contentType : Option String) : OpenStreamWriter :=
  ⟨progressToken, contentType, 0, 0, 0, true, false⟩

/-- Hand out the next progress, whatever becomes of the frame. -/
def nextProgress (writer : OpenStreamWriter) : OpenStreamWriter :=
  { writer with progress := writer.progress + 1 }

/-- The notification of a frame under the last progress that was handed out. -/
def notification (writer : OpenStreamWriter) (frame : OpenStreamFrame) : JsonRpcNotification :=
  frame.intoProgressNotification writer.progressToken writer.progress none

/-- Publish a frame under the next progress; `settled` is what a success does to the writer. -/
def publishFrame (writer : OpenStreamWriter) (frame : OpenStreamFrame)
    (settled : OpenStreamWriter → OpenStreamWriter) (outcome : Bool) : WriterAnswer :=
  let minted := writer.nextProgress
  if outcome then ⟨settled minted, [minted.notification frame], true⟩ else ⟨minted, [], false⟩

/-- Publish the start, unless that was done or the writer has ended. -/
def startInternal (writer : OpenStreamWriter) (outcome : Bool) : WriterAnswer :=
  if writer.started ∨ writer.active = false then ⟨writer, [], true⟩
  else
    writer.publishFrame (.start writer.contentType) (fun minted => { minted with started := true })
      outcome

/-- Go on with an operation when the start was published, and else give up on it. -/
def afterStart (writer : OpenStreamWriter) (outcomes : PublishOutcomes)
    (operation : OpenStreamWriter → WriterAnswer) : WriterAnswer :=
  let opened := writer.startInternal outcomes.start
  if opened.succeeded then
    let answer := operation opened.writer
    { answer with published := opened.published ++ answer.published }
  else opened

/-- Publish the next chunk; a writer that has ended takes it without doing so. -/
def write (writer : OpenStreamWriter) (data : String) (outcomes : PublishOutcomes) : WriterAnswer :=
  writer.afterStart outcomes fun writer =>
    if writer.active then
      writer.publishFrame (.chunk writer.chunkIndex data)
        (fun minted => { minted with chunkIndex := minted.chunkIndex + 1 }) outcomes.frame
    else ⟨writer, [], true⟩

/-- The nonce of the next ping. -/
def nextNonce (writer : OpenStreamWriter) : String :=
  writer.progressToken ++ ":" ++ toString (writer.controlNonce + 1).toNat

/-- Probe the reader. -/
def ping (writer : OpenStreamWriter) (outcomes : PublishOutcomes) : WriterAnswer :=
  if writer.active then
    let counted := { writer with controlNonce := writer.controlNonce + 1 }
    counted.publishFrame (.ping writer.nextNonce) id outcomes.frame
  else ⟨writer, [], true⟩

/-- Answer a probe of the reader. -/
def pong (writer : OpenStreamWriter) (nonce : String) (outcomes : PublishOutcomes) : WriterAnswer :=
  if writer.active then writer.publishFrame (.pong nonce) id outcomes.frame
  else ⟨writer, [], true⟩

/-- The index that a close declares. -/
def lastChunkIndex (writer : OpenStreamWriter) : Option UInt64 :=
  if 0 < writer.chunkIndex then some (writer.chunkIndex - 1) else none

/-- Close the stream; the writer has ended even when the close is not published. -/
def close (writer : OpenStreamWriter) (outcomes : PublishOutcomes) : WriterAnswer :=
  writer.afterStart outcomes fun writer =>
    if writer.active then
      let ended := { writer with active := false }
      ended.publishFrame (.close writer.lastChunkIndex) id outcomes.frame
    else ⟨writer, [], true⟩

/-- Perform an operation. -/
def perform (writer : OpenStreamWriter) (outcomes : PublishOutcomes) :
    WriterOperation → WriterAnswer
  | .start => writer.startInternal outcomes.start
  | .write data => writer.write data outcomes
  | .ping => writer.ping outcomes
  | .pong nonce => writer.pong nonce outcomes
  | .close => writer.close outcomes

end OpenStreamWriter

end ContextVm.OpenStream
