import ContextVm.OpenStream.Registry
import ContextVm.OpenStream.Writer

/-! The keepalive of the writer, and what the reader makes of its probes. -/

namespace ContextVm.OpenStream

open OpenStreamWriter SessionState

/-- What a writer knows of the probe that it waits for. -/
structure WriterKeepalive where
  lastActivity : Nat
  pendingProbeNonce : Option String
  probeDeadline : Option Nat

/-- A writer together with its keepalive, which is off without an idle timeout. -/
structure ProbingWriter extends OpenStreamWriter where
  idleTimeout : Option Nat
  probeTimeout : Nat
  keepalive : WriterKeepalive

namespace ProbingWriter

/-- The keepalive: probe a reader that is silent, and give up on one that does not answer. -/
def tick (writer : ProbingWriter) (now : Nat) : KeepaliveAction × ProbingWriter :=
  match writer.idleTimeout with
  | none => (.none, writer)
  | some idleTimeout =>
    let keepalive := writer.keepalive
    if writer.active = false ∨ writer.started = false then (.none, writer)
    else if keepalive.pendingProbeNonce.isSome ∧ keepalive.probeDeadline.any (· ≤ now) then
      (.abort "Probe timeout", writer)
    else if keepalive.pendingProbeNonce = none ∧ idleTimeout ≤ now - keepalive.lastActivity then
      let nonce := writer.nextNonce
      (.sendPing nonce, { writer with
        controlNonce := writer.controlNonce + 1
        keepalive := { keepalive with
          pendingProbeNonce := some nonce
          probeDeadline := some (now + writer.probeTimeout) } })
    else (.none, writer)

/-- Publish a probe that the keepalive has made, without waiting for other operations. -/
def sendProbe (writer : ProbingWriter) (nonce : String) (outcome : Bool) : WriterAnswer :=
  if writer.active then writer.publishFrame (.ping nonce) id outcome
  else ⟨writer.toOpenStreamWriter, [], true⟩

end ProbingWriter

/-- The pings of a stream whose writer stands at a count: by itself, or by its keepalive. -/
inductive Pings (writer : ProbingWriter) : JsonRpcNotification → Prop
  | ping {notification : JsonRpcNotification} (outcomes : PublishOutcomes)
      (published : notification ∈ (writer.ping outcomes).published) : Pings writer notification
  -- Other operations may come between the tick and the publish of its probe.
  | probe {notification : JsonRpcNotification} {now : Nat} {nonce : String}
      {ticked later : ProbingWriter} (outcome : Bool)
      (made : writer.tick now = (.sendPing nonce, ticked))
      (same : later.progressToken = writer.progressToken)
      (published : notification ∈ (later.sendProbe nonce outcome).published) :
      Pings writer notification

/-- A ping that a reader answers with its nonce, and goes on after. -/
def Answered (state : SessionState) (arithmetic : Arithmetic) (now : Nat) (progress : Int64)
    (nonce : String) : Prop :=
  ∃ after, state.processFrame arithmetic now progress (.ping nonce) =
    some (.ok (.sendPong nonce), after) ∧ after.active = true

/-- A pong with which a reader stops waiting for its nonce, and goes on after. -/
def Cleared (state : SessionState) (arithmetic : Arithmetic) (now : Nat) (progress : Int64)
    (nonce : String) : Prop :=
  ∃ after, state.processFrame arithmetic now progress (.pong nonce) = some (.ok .none, after) ∧
    after.active = true ∧ after.pendingProbeNonce = none

section Probes

variable {writer : ProbingWriter} {notification : JsonRpcNotification} {nonce : String}
  {state probing : SessionState} {progress : Int64} {arithmetic : Arithmetic} {now : Nat}

/-- What is published is the frame, under the progress that is minted for it. -/
theorem mem_published {writer : OpenStreamWriter} {frame : OpenStreamFrame}
    {settled : OpenStreamWriter → OpenStreamWriter} {outcome : Bool}
    (published : notification ∈ (writer.publishFrame frame settled outcome).published) :
    notification =
      frame.intoProgressNotification writer.progressToken (writer.progress + 1) none := by
  grind [publishFrame, nextProgress, notification]

/-- A notification carries one progress only. -/
theorem progress_of_same {frame other : OpenStreamFrame} {token name : String}
    {sent again : UInt64} (same : frame.intoProgressNotification token sent none =
      other.intoProgressNotification name again none) : sent = again := by
  obtain ⟨params, given, -, -, number⟩ := frame.params_intoProgressNotification token sent none
  obtain ⟨others, read, -, -, equal⟩ := other.params_intoProgressNotification name again none
  rw [same, read] at given
  cases given
  rw [equal] at number
  cases number
  rfl

/-- The keepalive probes with the next nonce of its writer. -/
theorem ProbingWriter.nonce_of_tick {now : Nat} {ticked : ProbingWriter}
    (made : writer.tick now = (.sendPing nonce, ticked)) : nonce = writer.nextNonce := by
  simp only [tick] at made
  split at made
  · cases made
  · grind

/-- Every ping carries the next nonce, under its writer's token. -/
theorem Pings.carries (pings : Pings writer notification) :
    ∃ progress, notification = (OpenStreamFrame.ping writer.nextNonce).intoProgressNotification
      writer.progressToken progress none := by
  cases pings with
  | ping outcomes published =>
    simp only [OpenStreamWriter.ping] at published
    split at published
    · have same := mem_published published
      exact ⟨writer.progress + 1, same⟩
    · simp at published
  | probe outcome made same published =>
    rw [ProbingWriter.nonce_of_tick made, ProbingWriter.sendProbe] at published
    split at published
    · exact ⟨_, same ▸ mem_published published⟩
    · simp at published

/-- A nonce is the token, a colon and the count. -/
theorem utf8ByteSize_nextNonce (writer : OpenStreamWriter) :
    writer.nextNonce.utf8ByteSize = writer.progressToken.utf8ByteSize + 1 +
      (toString (writer.controlNonce + 1).toNat).utf8ByteSize := by
  simp only [nextNonce, String.utf8ByteSize_append]
  rfl

/-- A reader that has probed waits for the nonce of its probe. -/
theorem SessionState.waits_of_tick {now : Nat}
    (made : state.tick now = (.sendPing nonce, probing)) :
    probing.active = true ∧ probing.started = true ∧ probing.pendingProbeNonce = some nonce := by
  simp only [tick] at made
  split at made
  · cases made
  · rename_i active
    split at made
    · cases made
    · split at made
      · cases made
      · split at made
        · grind
        · cases made

/-- A started reader answers a ping in progress order whose nonce is under the cap. -/
theorem answered_iff (active : state.active = true) (started : state.started = true) :
    Answered state arithmetic now progress nonce ↔
      state.lastProgress < progress.toInt ∧ nonce.utf8ByteSize ≤ maxOpenStreamPingNonceBytes := by
  grind [Answered, processFrame, handleFrame]

/-- A started reader takes the pong that it waits for, if that is in progress order. -/
theorem cleared_iff (active : state.active = true) (started : state.started = true)
    (pending : state.pendingProbeNonce = some nonce) :
    Cleared state arithmetic now progress nonce ↔ state.lastProgress < progress.toInt := by
  grind [Cleared, processFrame, handleFrame, handlePong]

end Probes

/--
A ping is answered exactly if its progress is above the reader's last, and token and count leave
room for each other under the cap.

A probe that the reader makes itself is settled by the pong with its nonce, exactly if the progress
of that pong is above the reader's last, as long as the reader still waits for it. The progress is
in both cases the published one, as the reader reads it.
-/
theorem keepalive_nonces_accepted_iff (writer : ProbingWriter) (arithmetic : Arithmetic)
    (now : Nat) :
    (∀ notification : JsonRpcNotification, Pings writer notification →
      ∃ nonce sent, notification = OpenStreamFrame.intoProgressNotification (.ping nonce)
          writer.progressToken sent none ∧
        ∀ (state : SessionState) (progress : Int64), state.active = true → state.started = true →
          parseProgress (some (.ofU64 sent)) writer.progressToken = .ok progress →
          (Answered state arithmetic now progress nonce ↔ state.lastProgress < progress.toInt ∧
            writer.progressToken.utf8ByteSize + 1 +
              (toString (writer.controlNonce + 1).toNat).utf8ByteSize ≤
                maxOpenStreamPingNonceBytes)) ∧
    ∀ (probed probing : SessionState) (ticked : Nat) (nonce : String),
      probed.tick ticked = (.sendPing nonce, probing) →
      (probing.active = true ∧ probing.started = true ∧ probing.pendingProbeNonce = some nonce) ∧
      ∀ (outcomes : PublishOutcomes) (notification : JsonRpcNotification),
        notification ∈ (writer.pong nonce outcomes).published →
        ∃ sent, notification = OpenStreamFrame.intoProgressNotification (.pong nonce)
            writer.progressToken sent none ∧
          ∀ (state : SessionState) (progress : Int64), state.active = true →
            state.started = true → state.pendingProbeNonce = some nonce →
            parseProgress (some (.ofU64 sent)) writer.progressToken = .ok progress →
            (Cleared state arithmetic now progress nonce ↔
              state.lastProgress < progress.toInt) := by
  constructor
  · intro notification pings
    obtain ⟨sent, carried⟩ := pings.carries
    refine ⟨writer.nextNonce, sent, carried, ?_⟩
    intro state progress active started _
    rw [answered_iff active started, utf8ByteSize_nextNonce]
  · intro probed probing ticked nonce made
    refine ⟨waits_of_tick made, ?_⟩
    intro outcomes notification published
    simp only [OpenStreamWriter.pong] at published
    split at published
    · refine ⟨_, mem_published published, ?_⟩
      intro state progress active started pending _
      exact cleared_iff active started pending
    · simp at published

/-- A reader that has just started. -/
def startedReader : SessionState :=
  { SessionState.new (OpenStreamRegistry.sessionOptions samplePolicy "" false) 0 with
    lastProgress := 1
    started := true }

/-- A writer that has just started, under a token. -/
def startedWriter (token : String) : ProbingWriter where
  toOpenStreamWriter := { OpenStreamWriter.new token none with progress := 1, started := true }
  idleTimeout := some 30
  probeTimeout := 20
  keepalive := ⟨0, none, none⟩

/-- The first ping of a stream under a short token is answered. -/
theorem keepalive_nonces_accepted_short :
    ∃ nonce sent progress, Pings (startedWriter "request-7")
        (OpenStreamFrame.intoProgressNotification (.ping nonce) "request-7" sent none) ∧
      parseProgress (some (.ofU64 sent)) "request-7" = .ok progress ∧
      startedReader.lastProgress < progress.toInt ∧
      Answered startedReader .checked 9 progress nonce := by
  have pings : Pings (startedWriter "request-7")
      (OpenStreamFrame.intoProgressNotification (.ping "request-7:1") "request-7" 2 none) :=
    .ping ⟨true, true⟩ (by decide)
  obtain ⟨nonce, sent, carried, accepted⟩ :=
    (keepalive_nonces_accepted_iff (startedWriter "request-7") .checked 9).1 _ pings
  -- The published progress is the one that the reader is fed.
  cases progress_of_same carried
  rw [carried] at pings
  exact ⟨nonce, 2, 2, pings, rfl, by decide,
    (accepted startedReader 2 rfl rfl rfl).mpr ⟨by decide, by decide⟩⟩

/-- The first ping of a stream under a token of sixty-three letters is not. -/
theorem keepalive_nonce_refused :
    ¬ ∀ (writer : ProbingWriter) (nonce : String) (sent : UInt64) (progress : Int64),
      Pings writer
        (OpenStreamFrame.intoProgressNotification (.ping nonce) writer.progressToken sent none) →
      parseProgress (some (.ofU64 sent)) writer.progressToken = .ok progress →
      startedReader.lastProgress < progress.toInt →
      Answered startedReader .checked 9 progress nonce := by
  intro all
  have answered := all
    (startedWriter "kkkkkkkkkkkkkkkkkkkkkkkkkkkkkkkkkkkkkkkkkkkkkkkkkkkkkkkkkkkkkkk")
    "kkkkkkkkkkkkkkkkkkkkkkkkkkkkkkkkkkkkkkkkkkkkkkkkkkkkkkkkkkkkkkk:1" 2 2
    (.ping ⟨true, true⟩ (by decide)) (by rfl) (by decide)
  have small := ((answered_iff (rfl : startedReader.active = true) rfl).mp answered).2
  exact absurd small (by decide)

end ContextVm.OpenStream
