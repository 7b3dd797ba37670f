import ContextVm.Oversized.Integrity
import ContextVm.Oversized.Reordering

/-! A message sent in frames comes out whole, in whatever tolerable order its chunks arrive. -/

namespace ContextVm

namespace OversizedTransferReceiver

/-- What the calls made on a receiver return, one after the other. -/
def outcomes (primitives : TransferPrimitives) (receiver : OversizedTransferReceiver)
    (inputs : List (Nat × ReceiverInput)) : List FrameOutcome :=
  (receiver.record primitives inputs).map fun call => (call.run primitives).1

section

variable (primitives : TransferPrimitives) (receiver : OversizedTransferReceiver)
  (earlier later : List (Nat × ReceiverInput))

theorem outcomes_append :
    receiver.outcomes primitives (earlier ++ later) =
      receiver.outcomes primitives earlier ++
        (receiver.replay primitives earlier).outcomes primitives later := by
  rw [outcomes, record, history_append, List.map_append]
  rfl

theorem replay_append :
    receiver.replay primitives (earlier ++ later) =
      (receiver.replay primitives earlier).replay primitives later :=
  List.foldl_append

end

/-- The first frame is processed on the receiver itself, and the later ones on what it leaves. -/
theorem outcomes_frame {primitives : TransferPrimitives}
    {receiver after : OversizedTransferReceiver} {now : Nat} {notification : JsonRpcNotification}
    {outcome : FrameOutcome}
    (ran : receiver.processFrame primitives now notification = (outcome, after))
    (later : List (Nat × ReceiverInput)) :
    receiver.outcomes primitives ((now, .frame notification) :: later) =
        outcome :: after.outcomes primitives later ∧
      receiver.replay primitives ((now, .frame notification) :: later) =
        after.replay primitives later := by
  -- The call is the one that processes the frame.
  have made : ReceiverCall.run primitives ⟨now, .frame notification, receiver⟩ =
      (outcome, after) := ran
  have left : ReceiverCall.after primitives ⟨now, .frame notification, receiver⟩ = after :=
    congrArg Prod.snd made
  constructor
  · show (ReceiverCall.run primitives ⟨now, .frame notification, receiver⟩).1 ::
      outcomes primitives (ReceiverCall.after primitives ⟨now, .frame notification, receiver⟩)
        later = _
    rw [made, left]
  · show replay primitives (ReceiverCall.after primitives ⟨now, .frame notification, receiver⟩)
      later = _
    rw [left]

theorem processFrame_sent (primitives : TransferPrimitives) (receiver : OversizedTransferReceiver)
    (now : Nat) {token : String} (named : token ≠ "") {progress : Nat} (positive : 0 < progress)
    (word : progress < 2 ^ 64) (frame : OversizedFrame) (message : Option String) :
    receiver.processFrame primitives now
        (frame.intoProgressNotification token (UInt64.ofNat progress) message) =
      receiver.dispatchFrame primitives now token progress frame := by
  -- A progress that fits a word is read back as it is.
  have same : (UInt64.ofNat progress).toNat = progress := UInt64.toNat_ofNat_of_lt' word
  rw [processFrame, decodeFrame_intoProgressNotification primitives.serde frame named
    (by rw [same]; exact positive), same]

end OversizedTransferReceiver

/-- A receiver that tracks a transfer which holds the pieces seen so far. -/
structure Receiving (policy : TransferPolicy) (token : String) (declared : Declaration)
    (pieces : List String) (base : Nat) (accepted : Bool) (seen : List Nat)
    (receiver : OversizedTransferReceiver) : Prop where
  policy : receiver.policy = policy
  tracked : ∃ transfer, receiver.transfers.lookup token = some transfer ∧
    Buffered declared pieces base accepted seen transfer

/-- The accept frame a receiver feeds itself once it has answered an opening frame. -/
def acceptFrame (token : String) : JsonRpcNotification :=
  OversizedFrame.accept.intoProgressNotification token (UInt64.ofNat acceptProgress) none

section Delivery

open OversizedTransferReceiver

variable {primitives : TransferPrimitives} {policy : TransferPolicy} {token : String}
  {declared : Declaration} {pieces : List String} {base : Nat} {accepted : Bool}
  {seen : List Nat} {receiver : OversizedTransferReceiver}

theorem getElem?_chunkFrames (options : OversizedSenderOptions) {index : Nat} {data : String}
    (piece : pieces[index]? = some data) :
    (pieces.mapIdx (chunkFrame options))[index]? = some (chunkFrame options index data) := by
  rw [List.getElem?_mapIdx, piece]
  rfl

section

variable (primitives : TransferPrimitives)

theorem processFrame_chunk (receiver : OversizedTransferReceiver) (now : Nat)
    {options : OversizedSenderOptions}
    (layout : Layout declared pieces (chunkBaseProgress options.needsAcceptHandshake) accepted)
    (named : options.progressToken ≠ "") {index : Nat} {data : String}
    (piece : pieces[index]? = some data) :
    receiver.processFrame primitives now (chunkFrame options index data) =
      receiver.dispatchFrame primitives now options.progressToken
        (chunkBaseProgress options.needsAcceptHandshake + index) (.chunk data) := by
  obtain ⟨below, -⟩ := List.getElem?_eq_some_iff.mp piece
  have small := layout.small
  have bases := layout.base
  have origin : startProgress = 1 := rfl
  exact processFrame_sent primitives receiver now named (by omega) (by omega) _ none

theorem Receiving.chunk
    (receiving : Receiving policy token declared pieces base accepted seen receiver)
    (layout : Layout declared pieces base accepted) {index : Nat} {data : String}
    (piece : pieces[index]? = some data)
    (timely : Timely policy base pieces.length seen index)
    (spared : base = startProgress + 1 → accepted = true → Spared policy seen index) (now : Nat) :
    ∃ after, receiver.dispatchFrame primitives now token (base + index) (.chunk data) =
        (.ok none, after) ∧
      Receiving policy token declared pieces base accepted (seen ++ [index]) after := by
  obtain ⟨same, transfer, found, buffered⟩ := receiving
  obtain ⟨taken, ok, after⟩ := buffered.takeChunk layout piece timely spared token
  -- The transfer is taken out, goes on, and is put back.
  simp only [dispatchFrame, handleChunk, found, same, ok, settle]
  refine ⟨_, rfl, same, taken, ?_, after⟩
  rw [lookup_track, if_pos rfl]

end

theorem Receiving.end_
    (receiving : Receiving policy token declared pieces base accepted seen receiver)
    {progress : Nat} {message : JsonRpcMessage}
    (finished : ∀ transfer, Buffered declared pieces base accepted seen transfer →
      transfer.finish primitives policy token progress = .ok message) (now : Nat) :
    ∃ after, receiver.dispatchFrame primitives now token progress .end_ =
        (.ok (some message), after) ∧ after.isTracking token = false := by
  obtain ⟨same, transfer, found, buffered⟩ := receiving
  simp only [dispatchFrame, handleEnd, found, same, finished transfer buffered]
  refine ⟨_, rfl, ?_⟩
  rw [isTracking, lookup_remove, if_pos rfl]
  rfl

/-- The chunk frames of a message, in a timely order, are all taken in without a word. -/
theorem Receiving.chunks (primitives : TransferPrimitives) {options : OversizedSenderOptions}
    {order : List Nat} {inputs : List (Nat × ReceiverInput)}
    (receiving : Receiving policy options.progressToken declared pieces
      (chunkBaseProgress options.needsAcceptHandshake) accepted seen receiver)
    (layout : Layout declared pieces (chunkBaseProgress options.needsAcceptHandshake) accepted)
    (named : options.progressToken ≠ "") (known : ∀ index ∈ order, index < pieces.length)
    (timely : ∀ before index rest, order = before ++ index :: rest →
      Timely policy (chunkBaseProgress options.needsAcceptHandshake) pieces.length
        (seen ++ before) index)
    (spared : chunkBaseProgress options.needsAcceptHandshake = startProgress + 1 →
      accepted = true → ∀ before index rest, order = before ++ index :: rest →
        Spared policy (seen ++ before) index)
    (fed : inputs.map Prod.snd =
      (order.filterMap ((pieces.mapIdx (chunkFrame options))[·]?)).map ReceiverInput.frame) :
    receiver.outcomes primitives inputs = List.replicate inputs.length (.ok none) ∧
      Receiving policy options.progressToken declared pieces
        (chunkBaseProgress options.needsAcceptHandshake) accepted (seen ++ order)
        (receiver.replay primitives inputs) := by
  -- The induction is on the chunks still to come, while those seen move over one by one.
  induction order generalizing seen receiver inputs with
  | nil =>
    have none_left : inputs = [] := List.map_eq_nil_iff.mp fed
    subst none_left
    refine ⟨rfl, ?_⟩
    rw [List.append_nil]
    exact receiving
  | cons index rest ih =>
    have below := known index List.mem_cons_self
    have piece : pieces[index]? = some pieces[index] := List.getElem?_eq_getElem below
    rw [List.filterMap_cons_some (getElem?_chunkFrames options piece), List.map_cons,
      List.map_eq_cons_iff] at fed
    obtain ⟨⟨now, input⟩, later, rfl, rfl, fed⟩ := fed
    have first := timely [] index rest rfl
    have room := fun direct answered => spared direct answered [] index rest rfl
    rw [List.append_nil] at first room
    obtain ⟨after, taken, next⟩ := receiving.chunk primitives layout piece first room now
    have ran := (processFrame_chunk primitives receiver now layout named piece).trans taken
    obtain ⟨returned, left⟩ := outcomes_frame ran later
    obtain ⟨silent, done⟩ := ih next
      (fun other member => known other (List.mem_cons_of_mem _ member))
      (fun before other rest split => by
        have arrival := timely (index :: before) other rest (by rw [split]; rfl)
        rwa [List.append_cons] at arrival)
      (fun direct answered before other rest split => by
        have arrival := spared direct answered (index :: before) other rest (by rw [split]; rfl)
        rwa [List.append_cons] at arrival) fed
    rw [returned, left, silent, List.append_cons]
    exact ⟨rfl, done⟩

/-- An opening frame that is admitted is taken in without a word. -/
theorem processFrame_start (primitives : TransferPrimitives)
    (receiver : OversizedTransferReceiver) (now : Nat) {digest : String}
    {totalBytes totalChunks : Nat} {message : Option String} (named : token ≠ "")
    (bytes : totalBytes < 2 ^ 64)
    (chunks : totalChunks < 2 ^ 64)
    (admitted : (receiver.processFrame primitives now
      ((OversizedFrame.start digest (UInt64.ofNat totalBytes)
        (UInt64.ofNat totalChunks)).intoProgressNotification token
        (UInt64.ofNat startProgress) message)).1 = .ok none) :
    totalBytes ≤ receiver.policy.maxTransferBytes ∧
      receiver.processFrame primitives now
          ((OversizedFrame.start digest (UInt64.ofNat totalBytes)
            (UInt64.ofNat totalChunks)).intoProgressNotification token
            (UInt64.ofNat startProgress) message) =
        (.ok none, receiver.track token
          (Declaration.opened ⟨startProgress, digest, totalBytes, totalChunks⟩ now)) := by
  -- The declared sizes fit their words.
  have sized : (UInt64.ofNat totalBytes).toNat = totalBytes := UInt64.toNat_ofNat_of_lt' bytes
  have counted : (UInt64.ofNat totalChunks).toNat = totalChunks := UInt64.toNat_ofNat_of_lt' chunks
  have place : 0 < startProgress ∧ startProgress < 2 ^ 64 := by decide
  rw [processFrame_sent primitives receiver now named place.1 place.2, dispatchFrame, sized,
    counted] at admitted ⊢
  obtain ⟨-, within, -, -, opened⟩ :=
    handleStart_ok ⟨startProgress, digest, totalBytes, totalChunks⟩ admitted
  exact ⟨within, Prod.ext admitted opened⟩

theorem Receiving.opened (receiver : OversizedTransferReceiver) (now : Nat)
    (place : declared.progress < base + pieces.length) :
    Receiving receiver.policy token declared pieces base false []
      (receiver.track token (declared.opened now)) := by
  refine ⟨rfl, declared.opened now, ?_, Buffered.empty rfl rfl rfl rfl place⟩
  rw [lookup_track, if_pos rfl]

/-- An accept frame is noted by the transfer that was just opened, without a word. -/
theorem Receiving.accept (primitives : TransferPrimitives) (receiver : OversizedTransferReceiver)
    (opened now : Nat) (layout : Layout declared pieces base true) :
    ∃ after, (receiver.track token (declared.opened opened)).dispatchFrame primitives now token
        acceptProgress .accept = (.ok none, after) ∧
      Receiving receiver.policy token declared pieces base true [] after := by
  have start := layout.progress
  have nonempty := layout.nonempty
  have bases := layout.base
  have origin : startProgress = 1 := rfl
  have reserved : acceptProgress = 2 := rfl
  have found : (receiver.track token (declared.opened opened)).transfers.lookup token =
      some (declared.opened opened) := by
    rw [lookup_track, if_pos rfl]
  -- The reserved slot lies behind the opening frame.
  have behind : ¬acceptProgress ≤ (declared.opened opened).startProgress := by
    show ¬acceptProgress ≤ declared.progress
    omega
  simp only [dispatchFrame, handleAccept, found, ActiveTransfer.takeAccept, if_neg behind, settle]
  refine ⟨_, rfl, rfl, { declared.opened opened with
    highestObservedProgress := max declared.progress acceptProgress
    acceptProgress := some acceptProgress }, ?_, Buffered.empty rfl rfl rfl rfl ?_⟩
  · rw [lookup_track, if_pos rfl]
    rfl
  · grind

/-- All that comes before the chunks is taken in without a word. -/
theorem Receiving.opening {start : JsonRpcNotification} {inputs : List (Nat × ReceiverInput)}
    (layout : Layout declared pieces base accepted) (named : token ≠ "")
    (started : ∀ now, receiver.processFrame primitives now start =
      (.ok none, receiver.track token (declared.opened now)))
    (fed : inputs.map Prod.snd =
      (start :: if accepted then [acceptFrame token] else []).map ReceiverInput.frame) :
    receiver.outcomes primitives inputs = List.replicate inputs.length (.ok none) ∧
      Receiving receiver.policy token declared pieces base accepted []
        (receiver.replay primitives inputs) := by
  rw [List.map_cons, List.map_eq_cons_iff] at fed
  obtain ⟨⟨now, input⟩, later, rfl, rfl, fed⟩ := fed
  obtain ⟨returned, left⟩ := outcomes_frame (started now) later
  rw [returned, left]
  -- With or without an accept frame behind the opening one.
  cases accepted with
  | false =>
    have finished : later = [] := List.map_eq_nil_iff.mp fed
    subst finished
    have place : declared.progress < base + pieces.length := by
      have start := layout.progress
      have bases := layout.base
      omega
    exact ⟨rfl, Receiving.opened receiver now place⟩
  | true =>
    rw [if_pos rfl, List.map_cons, List.map_eq_cons_iff] at fed
    obtain ⟨⟨again, input⟩, rest, rfl, rfl, fed⟩ := fed
    have finished : rest = [] := List.map_eq_nil_iff.mp fed
    subst finished
    -- The receiver answers itself at the slot reserved for that.
    obtain ⟨after, noted, receiving⟩ := Receiving.accept primitives receiver now again layout
    have ran := (processFrame_sent primitives (receiver.track token (declared.opened now)) again
      named (show 0 < acceptProgress by decide) (by decide) .accept none).trans noted
    obtain ⟨silent, kept⟩ := outcomes_frame ran []
    rw [acceptFrame, silent, kept]
    exact ⟨rfl, receiving⟩

end Delivery

/--
What a receiver is fed for one message.

The chunk frames come in any order and any number of times, and an accept frame before them if the
receiver has answered.
-/
def deliveries (options : OversizedSenderOptions) (frames : BuiltOversizedFrames) (accepted : Bool)
    (order : List Nat) : List JsonRpcNotification :=
  frames.start :: (if accepted then [acceptFrame options.progressToken] else []) ++
    order.filterMap (frames.chunks[·]?) ++ [frames.end_]

/-- An order in which the chunks of a message may arrive, each of them once at least. -/
structure Tolerable (policy : TransferPolicy) (base count : Nat) (order : List Nat) : Prop where
  known : ∀ index ∈ order, index < count
  complete : ∀ index < count, index ∈ order
  timely : ∀ seen index rest, order = seen ++ index :: rest →
    Timely policy base count seen index

section RoundTrip

open OversizedTransferReceiver

variable {primitives : TransferPrimitives} {receiver : OversizedTransferReceiver}
  {options : OversizedSenderOptions} {serialized : String} {message : JsonRpcMessage}
  {frames : BuiltOversizedFrames} {accepted : Bool} {order : List Nat}
  {inputs : List (Nat × ReceiverInput)}

/--
A message on its way: what came before its chunks was taken in, and the rest is still to come.

The pieces are those of the text, and the time of the end frame is the last one.
-/
structure Opened (primitives : TransferPrimitives) (receiver : OversizedTransferReceiver)
    (options : OversizedSenderOptions) (serialized : String) (accepted : Bool) (order : List Nat)
    (inputs : List (Nat × ReceiverInput)) (pieces : List String)
    (opening chunks : List (Nat × ReceiverInput)) (now : Nat) : Prop where
  joined : String.join pieces = serialized
  layout : Layout ⟨startProgress, sha256Digest primitives serialized, serialized.utf8ByteSize,
    pieces.length⟩ pieces (chunkBaseProgress options.needsAcceptHandshake) accepted
  within : serialized.utf8ByteSize ≤ receiver.policy.maxTransferBytes
  parts : inputs = opening ++ chunks ++ [(now, .frame
    (OversizedFrame.end_.intoProgressNotification options.progressToken
      (UInt64.ofNat (chunkBaseProgress options.needsAcceptHandshake + pieces.length))
      (some "oversized transfer complete")))]
  fed : chunks.map Prod.snd =
    (order.filterMap ((pieces.mapIdx (chunkFrame options))[·]?)).map .frame
  silent : receiver.outcomes primitives opening = List.replicate opening.length (.ok none)
  receiving : Receiving receiver.policy options.progressToken
    ⟨startProgress, sha256Digest primitives serialized, serialized.utf8ByteSize, pieces.length⟩
    pieces (chunkBaseProgress options.needsAcceptHandshake) accepted []
    (receiver.replay primitives opening)

/-- An opening frame that is admitted sets a message on its way. -/
theorem Opened.of_admitted (length : serialized.utf8ByteSize < 2 ^ 63)
    (named : options.progressToken ≠ "")
    (parsed : (primitives.serde.fromStr serialized).bind validateMessage = some message)
    (built : buildOversizedFrames primitives serialized options = .ok frames)
    (admitted : ∀ now, (receiver.processFrame primitives now frames.start).1 = .ok none)
    (answered : options.needsAcceptHandshake = true → accepted = true)
    (fed : inputs.map Prod.snd = (deliveries options frames accepted order).map .frame) :
    ∃ pieces opening chunks now, frames.chunks.length = pieces.length ∧
      Opened primitives receiver options serialized accepted order inputs pieces opening chunks
        now := by
  obtain ⟨pieces, split, startFrame, chunkFrames, endFrame⟩ := buildOversizedFrames_ok built
  have many := splitStringByByteSize_length split
  have layout : Layout ⟨startProgress, sha256Digest primitives serialized,
      serialized.utf8ByteSize, pieces.length⟩ pieces
      (chunkBaseProgress options.needsAcceptHandshake) accepted := by
    refine ⟨rfl, rfl, ?_, by omega, ?_⟩
    · -- The empty text denotes no message, so there is a piece.
      rw [List.length_pos_iff]
      rintro rfl
      have empty : serialized = "" := (splitStringByByteSize_join split).symm
      simp [empty, primitives.serde.fromStr_empty] at parsed
    · cases handshake : options.needsAcceptHandshake with
      | false => exact .inl rfl
      | true => exact .inr ⟨rfl, answered handshake⟩
  have small := layout.small
  have started (now : Nat) := processFrame_start primitives receiver now named
    (show serialized.utf8ByteSize < 2 ^ 64 by omega) (show pieces.length < 2 ^ 64 by omega)
    (startFrame ▸ admitted now)
  -- What is fed falls into the opening frames, the chunk frames, and the end frame.
  rw [deliveries, List.map_append, List.map_append, List.map_eq_append_iff] at fed
  obtain ⟨front, closing, rfl, fed, fedEnd⟩ := fed
  rw [List.map_eq_append_iff] at fed
  obtain ⟨opening, chunks, rfl, fedOpening, fedChunks⟩ := fed
  rw [List.map_cons, List.map_eq_cons_iff] at fedEnd
  obtain ⟨⟨now, input⟩, rest, rfl, rfl, fedRest⟩ := fedEnd
  have finished : rest = [] := List.map_eq_nil_iff.mp fedRest
  subst finished
  obtain ⟨silent, receiving⟩ := Receiving.opening layout named
    (fun now => startFrame ▸ (started now).2) fedOpening
  refine ⟨pieces, opening, chunks, now, by rw [chunkFrames, List.length_mapIdx],
    splitStringByByteSize_join split, layout, (started 0).1, ?_, ?_, silent, receiving⟩
  · rw [endFrame]
  · simp_all

theorem chunkBaseProgress_direct (needsAcceptHandshake : Bool) :
    chunkBaseProgress needsAcceptHandshake = startProgress + 1 ↔ needsAcceptHandshake = false := by
  cases needsAcceptHandshake <;> decide

section

variable {pieces : List String} {opening chunks : List (Nat × ReceiverInput)} {now : Nat}
  (opened : Opened primitives receiver options serialized accepted order inputs pieces opening
    chunks now)
  (named : options.progressToken ≠ "")
include opened named

/-- A message on its way is returned at the end, if its chunks leave room for each other. -/
theorem Opened.complete
    (parsed : (primitives.serde.fromStr serialized).bind validateMessage = some message)
    (tolerable : Tolerable receiver.policy (chunkBaseProgress options.needsAcceptHandshake)
      pieces.length order)
    (spared : options.needsAcceptHandshake = false → accepted = true →
      ∀ seen index rest, order = seen ++ index :: rest → Spared receiver.policy seen index) :
    receiver.outcomes primitives inputs =
        List.replicate (inputs.length - 1) (.ok none) ++ [.ok (some message)] ∧
      (receiver.replay primitives inputs).isTracking options.progressToken = false := by
  have small := opened.layout.small
  have bases := opened.layout.base
  have origin : startProgress = 1 := rfl
  -- All chunks are taken in.
  obtain ⟨taken, receiving⟩ := opened.receiving.chunks primitives opened.layout named
    tolerable.known tolerable.timely
    (fun direct => spared ((chunkBaseProgress_direct _).mp direct)) opened.fed
  -- The end frame comes behind all of them, and finds the text that was split.
  have valid : validateAndParseOversized primitives.serde serialized
      receiver.policy.maxTransferBytes = some message := by
    rw [validateAndParseOversized, if_neg (Nat.not_lt.mpr opened.within), parsed]
  obtain ⟨after, done, untracked⟩ := receiving.end_
    (fun transfer buffered => buffered.finish opened.layout tolerable.complete opened.joined rfl
      rfl valid options.progressToken) now
  have ran := (processFrame_sent primitives _ now named (by omega) (by omega) .end_
    (some "oversized transfer complete")).trans done
  obtain ⟨returned, left⟩ := outcomes_frame ran []
  -- Together the three parts return nothing but the message at the end.
  rw [opened.parts]
  simp only [outcomes_append, replay_append]
  rw [opened.silent, taken, returned, left]
  refine ⟨?_, untracked⟩
  rw [List.replicate_append_replicate, List.length_append, List.length_append]
  rfl

/-- A message on its way is refused, if one of its chunks finds no room. -/
theorem Opened.refused
    (tolerable : Tolerable receiver.policy (chunkBaseProgress options.needsAcceptHandshake)
      pieces.length order)
    (direct : options.needsAcceptHandshake = false) (answered : accepted = true)
    (unspared : ¬∀ seen index rest, order = seen ++ index :: rest →
      Spared receiver.policy seen index) :
    ∃ fault, .error fault ∈ receiver.outcomes primitives inputs := by
  have first := (chunkBaseProgress_direct options.needsAcceptHandshake).mpr direct
  -- Up to the first chunk that finds no room, all of them are taken in.
  obtain ⟨seen, index, rest, split, crowded, earlier⟩ := exists_first_failure unspared
  have before (front : List Nat) (other : Nat) (between : List Nat)
      (inside : seen ++ [index] = front ++ other :: between) :
      Timely receiver.policy (chunkBaseProgress options.needsAcceptHandshake) pieces.length front
        other := by
    refine tolerable.timely front other (between ++ rest) ?_
    rw [split, List.append_cons, inside, List.append_assoc]
    rfl
  obtain ⟨zero, unseen, beyond, full⟩ :=
    Spared.first_failure
      (fun front other between inside => first ▸ before front other between inside)
      earlier crowded
  -- The frames fed are those before it, its own, and the ones behind.
  have below := tolerable.known index (by rw [split]; simp)
  have piece : pieces[index]? = some pieces[index] := List.getElem?_eq_getElem below
  have fed := opened.fed
  rw [split, List.filterMap_append, List.filterMap_cons_some (getElem?_chunkFrames options piece),
    List.map_append, List.map_cons, List.map_eq_append_iff] at fed
  obtain ⟨front, back, parts, fedFront, fedBack⟩ := fed
  rw [List.map_eq_cons_iff] at fedBack
  obtain ⟨⟨again, input⟩, others, rfl, rfl, -⟩ := fedBack
  obtain ⟨-, receiving⟩ := opened.receiving.chunks primitives opened.layout named
    (fun other member => tolerable.known other (by rw [split]; exact List.mem_append_left _ member))
    (fun front other between inside => before front other (between ++ [index]) (by simp [inside]))
    (fun _ _ => earlier) fedFront
  -- The chunk itself is refused, and that is what its call returns.
  generalize fed : replay _ _ _ = fedReceiver at receiving
  obtain ⟨same, transfer, found, buffered⟩ := receiving
  obtain ⟨fault, refused⟩ := buffered.takeChunk_crowded opened.layout piece
    (before seen index [] rfl) first answered zero unseen beyond full options.progressToken
  have ran := processFrame_chunk primitives fedReceiver again opened.layout named piece
  simp only [dispatchFrame, handleChunk, found, same, refused, settle] at ran
  refine ⟨fault, ?_⟩
  rw [opened.parts, parts]
  simp only [outcomes_append, List.mem_append]
  refine .inl (.inr (.inr ?_))
  rw [fed, (outcomes_frame ran others).1]
  exact List.mem_cons_self

end

/--
A message that is sent in frames comes out as it went in, but for one case.

Where the chunks begin at the slot that is reserved for an accept frame, and an accept frame was
processed all the same, the chunk at that slot must leave room for those that arrive out of order.
-/
theorem deliveries_roundTrip (primitives : TransferPrimitives)
    (receiver : OversizedTransferReceiver) (options : OversizedSenderOptions)
    (serialized : String) {message : JsonRpcMessage} {frames : BuiltOversizedFrames}
    (accepted : Bool) (order : List Nat) (inputs : List (Nat × ReceiverInput))
    (length : serialized.utf8ByteSize < 2 ^ 63) (named : options.progressToken ≠ "")
    (parsed : (primitives.serde.fromStr serialized).bind validateMessage = some message)
    (built : buildOversizedFrames primitives serialized options = .ok frames)
    (admitted : ∀ now, (receiver.processFrame primitives now frames.start).1 = .ok none)
    (answered : options.needsAcceptHandshake = true → accepted = true)
    (tolerable : Tolerable receiver.policy (chunkBaseProgress options.needsAcceptHandshake)
      frames.chunks.length order)
    (fed : inputs.map Prod.snd = (deliveries options frames accepted order).map .frame) :
    (receiver.outcomes primitives inputs =
          List.replicate (inputs.length - 1) (.ok none) ++ [.ok (some message)] ∧
        (receiver.replay primitives inputs).isTracking options.progressToken = false) ↔
      (options.needsAcceptHandshake = false → accepted = true →
        ∀ seen index rest, order = seen ++ index :: rest → Spared receiver.policy seen index) := by
  obtain ⟨pieces, opening, chunks, now, count, opened⟩ :=
    Opened.of_admitted length named parsed built admitted answered fed
  rw [count] at tolerable
  -- Whatever the order is, the opening frames have been taken in.
  constructor
  · rintro ⟨returned, -⟩ direct noted
    by_contra unspared
    -- A refused chunk would show among what is returned.
    obtain ⟨fault, member⟩ := opened.refused named tolerable direct noted unspared
    rw [returned, List.mem_append, List.mem_replicate, List.mem_singleton] at member
    rcases member with ⟨-, silent⟩ | final
    · cases silent
    · cases final
  · exact opened.complete named parsed tolerable

/-- A ping goes in three chunks, which begin at the slot that is reserved for an accept frame. -/
def pingOptions : OversizedSenderOptions := ⟨"ping-1", 12, false⟩

/-- The frames of the ping. -/
def pingFrames : BuiltOversizedFrames where
  start := (OversizedFrame.start pingDigest 33 3).intoProgressNotification "ping-1" 1
    (some "starting oversized transfer")
  chunks := [chunkFrame pingOptions 0 "\x7b\"jsonrpc\":\"",
    chunkFrame pingOptions 1 "2.0\",\"method",
    chunkFrame pingOptions 2 "\":\"ping\"\x7d"]
  end_ := OversizedFrame.end_.intoProgressNotification "ping-1" 5
    (some "oversized transfer complete")

/-- What a receiver is fed for the ping when it has answered, all at one time. -/
def pingDeliveries (order : List Nat) : List (Nat × ReceiverInput) :=
  (deliveries pingOptions pingFrames true order).map fun sent => (0, .frame sent)

/-- The first two chunks change places, and the second one comes again before the third. -/
theorem deliveries_roundTrip_ping :
    (withPolicy .default).outcomes pingPrimitives (pingDeliveries [1, 0, 1, 2]) =
      List.replicate 6 (.ok none) ++ [.ok (some (.notification ⟨"2.0", "ping", none⟩))] :=
  ((deliveries_roundTrip pingPrimitives (withPolicy .default) pingOptions pingText true
    [1, 0, 1, 2] (pingDeliveries [1, 0, 1, 2]) (by decide) (by decide) (by decide)
    (show buildOversizedFrames pingPrimitives pingText pingOptions = .ok pingFrames from rfl)
    (fun _ => rfl) (by decide) ⟨by decide, by decide, forall_split (by decide)⟩ rfl).mpr
    (fun _ _ => forall_split (by decide))).1

/-- The policy of a receiver that buffers one chunk out of order at most. -/
def crowdedPolicy : TransferPolicy := { TransferPolicy.default with maxOutOfOrderChunks := 1 }

/--
One chunk out of order is too many when an accept was processed.

The second chunk is the only one missing when the third arrives, so the third is the only one beyond
it, but the first one counts as out of order too.
-/
theorem deliveries_crowded :
    buildOversizedFrames pingPrimitives pingText pingOptions = .ok pingFrames ∧
      (pingPrimitives.serde.fromStr pingText).bind validateMessage =
        some (.notification ⟨"2.0", "ping", none⟩) ∧
      (∀ now, ((withPolicy crowdedPolicy).processFrame pingPrimitives now pingFrames.start).1 =
        .ok none) ∧
      Tolerable crowdedPolicy (chunkBaseProgress pingOptions.needsAcceptHandshake)
        pingFrames.chunks.length [0, 2, 1] ∧
      (withPolicy crowdedPolicy).outcomes pingPrimitives (pingDeliveries [0, 2, 1]) =
        [.ok none, .ok none, .ok none,
          .error (.policy "Buffered out-of-order chunks exceed policy limit 1 (token: ping-1)"),
          .ok none, .ok none] :=
  ⟨rfl, by decide, fun _ => rfl, ⟨by decide, by decide, forall_split (by decide)⟩, by decide⟩

end RoundTrip

end ContextVm
