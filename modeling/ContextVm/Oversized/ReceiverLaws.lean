import ContextVm.Oversized.Receiver

/-! What the frames of a transfer do to it, and what a receiver keeps of the others meanwhile. -/

namespace ContextVm

/-- What the opening frame of a transfer declares. -/
structure Declaration where
  progress : Nat
  digest : String
  totalBytes : Nat
  totalChunks : Nat
  deriving DecidableEq

namespace Declaration

/-- The transfer an admitted declaration opens. -/
def opened (declared : Declaration) (now : Nat) : ActiveTransfer where
  digest := declared.digest
  totalBytes := declared.totalBytes
  totalChunks := declared.totalChunks
  startProgress := declared.progress
  acceptProgress := none
  firstChunkProgress := none
  nextExpectedChunkProgress := none
  highestObservedProgress := declared.progress
  chunks := ∅
  admittedAt := now

end Declaration

namespace ActiveTransfer

variable {transfer taken : ActiveTransfer} {progress : Nat} {policy : TransferPolicy}
  {token data : String}

/-- What the opening frame of this transfer declared. -/
def declaration (transfer : ActiveTransfer) : Declaration :=
  ⟨transfer.startProgress, transfer.digest, transfer.totalBytes, transfer.totalChunks⟩

@[simp] theorem chunks_refresh (transfer : ActiveTransfer) :
    transfer.refreshChunkProgressState.chunks = transfer.chunks := by
  unfold refreshChunkProgressState
  split <;> rfl

theorem holds_iff (transfer : ActiveTransfer) (slot : Nat) :
    transfer.holds slot = true ↔ slot ∈ heldSlots transfer.chunks :=
  mem_heldSlots.symm

theorem refresh_frontier (some_chunk : transfer.chunkCount ≠ 0)
    (words : ∀ slot, transfer.holds slot = true → slot + 1 < 2 ^ 64) :
    ∃ gap, Frontier transfer.holds transfer.firstChunkSlot gap ∧
      transfer.refreshChunkProgressState = { transfer with
        firstChunkProgress := some transfer.firstChunkSlot
        nextExpectedChunkProgress := some gap } := by
  have found := walkHeld_frontier transfer.holds_iff transfer.firstChunkSlot
  rw [card_heldSlots] at found
  -- The words of the held slots do not wrap around, so the walk is the one over numbers.
  have walk := walkHeld_congr (fun slot held => u64Add_eq (words slot held))
    transfer.chunkCount transfer.firstChunkSlot
  refine ⟨_, found, ?_⟩
  simp only [refreshChunkProgressState, if_neg some_chunk, walk]
  rfl

theorem takeAccept_ok (ok : transfer.takeAccept token progress = .ok taken) :
    transfer.startProgress < progress ∧
      taken = { transfer with
        highestObservedProgress := max transfer.highestObservedProgress progress
        acceptProgress := some progress } := by
  -- There is one check, against the opening frame.
  unfold takeAccept at ok
  split at ok
  · cases ok
  · grind

/-- A slot that passes the checks a chunk frame meets before its data is looked at. -/
structure Passes (policy : TransferPolicy) (transfer : ActiveTransfer) (progress : Nat) : Prop where
  above : u64Add transfer.startProgress 1 ≤ progress
  window : progress ≤ transfer.expectedChunkProgress + policy.maxOutOfOrderWindow
  below : progress ≤ u64Add (u64Add transfer.startProgress transfer.totalChunks) 1
  entry : u64Add transfer.startProgress 2 < progress →
    transfer.holds (u64Add transfer.startProgress 1) = true ∨
      transfer.holds (u64Add transfer.startProgress 2) = true

theorem Passes.not_skipping (passes : Passes policy transfer progress) :
    ¬(u64Add transfer.startProgress 2 < progress ∧
      transfer.holds (u64Add transfer.startProgress 1) = false ∧
      transfer.holds (u64Add transfer.startProgress 2) = false) := by
  -- A slot that far on has one of the two first slots before it.
  rintro ⟨beyond, noDirect, noGated⟩
  rcases passes.entry beyond with direct | gated
  · grind
  · grind

/-- A transfer with one more chunk, and its frontier found anew. -/
def buffering (transfer : ActiveTransfer) (progress : Nat) (data : String) : ActiveTransfer :=
  refreshChunkProgressState
    { transfer with
      chunks := transfer.chunks.insert progress data
      highestObservedProgress := max transfer.highestObservedProgress progress }

section

variable (passes : Passes policy transfer progress) (token : String)
include passes

theorem takeChunk_repeated (found : transfer.chunks.lookup progress = some data) :
    transfer.takeChunk policy token progress data = .ok transfer := by
  -- All four checks pass, and the data is the same.
  have skipping := passes.not_skipping
  obtain ⟨above, window, below, -⟩ := passes
  simp only [takeChunk, found]
  rw [if_neg (by omega), if_neg (by omega), if_neg (by omega), if_neg skipping, if_neg (by simp)]

theorem takeChunk_fresh (fresh : transfer.chunks.lookup progress = none)
    (room : transfer.expectedChunkProgress < progress →
      (transfer.buffering progress data).bufferedOutOfOrderCount ≤ policy.maxOutOfOrderChunks) :
    transfer.takeChunk policy token progress data = .ok (transfer.buffering progress data) := by
  -- All four checks pass, and the count is looked at for a chunk ahead only.
  have skipping := passes.not_skipping
  obtain ⟨above, window, below, -⟩ := passes
  simp only [takeChunk, fresh]
  rw [if_neg (by omega), if_neg (by omega), if_neg (by omega), if_neg skipping, if_neg]
  · rfl
  · rintro ⟨ahead, crowded⟩
    exact absurd crowded (Nat.not_lt.mpr (room (by omega)))

end

/-- A chunk that is taken in has passed every check, and is a repeated one or buffered anew. -/
theorem takeChunk_taken (ok : transfer.takeChunk policy token progress data = .ok taken) :
    Passes policy transfer progress ∧
      ((transfer.chunks.lookup progress = some data ∧ taken = transfer) ∨
        (transfer.chunks.lookup progress = none ∧ taken = transfer.buffering progress data ∧
          (transfer.expectedChunkProgress < progress →
            (transfer.buffering progress data).bufferedOutOfOrderCount ≤
              policy.maxOutOfOrderChunks))) := by
  simp only [takeChunk] at ok
  -- The four checks of the slot come first, and each of them ends the transfer.
  split at ok
  · cases ok
  split at ok
  · cases ok
  split at ok
  · cases ok
  split at ok
  · cases ok
  rename_i entry
  have passes : Passes policy transfer progress := by
    refine ⟨by omega, by omega, by omega, ?_⟩
    intro beyond
    by_contra neither
    rw [not_or, Bool.not_eq_true, Bool.not_eq_true] at neither
    exact entry ⟨beyond, neither⟩
  refine ⟨passes, ?_⟩
  split at ok
  · rename_i existing found
    split at ok
    · cases ok
    · -- The same data was there already.
      rename_i same
      exact .inl ⟨by rw [found, not_not.mp same], (Except.ok.inj ok).symm⟩
  · rename_i fresh
    split at ok
    · cases ok
    · -- The chunk is new, and there is room for it.
      rename_i room
      refine .inr ⟨fresh, (Except.ok.inj ok).symm, fun ahead => ?_⟩
      by_contra crowded
      exact room ⟨by omega, Nat.lt_of_not_le crowded⟩

@[simp] theorem declaration_buffering (transfer : ActiveTransfer) (progress : Nat)
    (data : String) : (transfer.buffering progress data).declaration = transfer.declaration := by
  rfl

theorem takeChunk_ok (ok : transfer.takeChunk policy token progress data = .ok taken) :
    taken.declaration = transfer.declaration ∧
      ∀ slot piece, taken.chunks.lookup slot = some piece ↔
        transfer.chunks.lookup slot = some piece ∨ (slot = progress ∧ piece = data) := by
  obtain ⟨-, ⟨found, rfl⟩ | ⟨fresh, rfl, -⟩⟩ := takeChunk_taken ok
  · -- The same data was there already.
    refine ⟨rfl, fun slot piece => ⟨.inl, ?_⟩⟩
    rintro (held | ⟨rfl, rfl⟩)
    · exact held
    · exact found
  · -- The chunk is new, and goes to its own slot.
    refine ⟨declaration_buffering _ _ _, fun slot piece => ?_⟩
    rw [buffering, chunks_refresh]
    by_cases here : slot = progress
    · grind [AList.lookup_insert]
    · simp [here]

theorem assemblyFirstChunkProgress_eq {first : Nat}
    (resolved : transfer.assemblyFirstChunkProgress = some first) :
    first = u64Add transfer.startProgress 1 ∨ first = u64Add transfer.startProgress 2 := by
  -- The direct slot is tried before the one behind the accept slot.
  simp only [assemblyFirstChunkProgress] at resolved
  split at resolved
  · exact .inl (Option.some.inj resolved).symm
  · grind

/-- A transfer that ends well has passed every check, in particular those of its text. -/
theorem finish_ok {primitives : TransferPrimitives} {message : JsonRpcMessage}
    (ok : transfer.finish primitives policy token progress = .ok message) :
    transfer.chunkCount = transfer.totalChunks ∧
      ∃ text, transfer.assemble = some text ∧ text.utf8ByteSize = transfer.totalBytes ∧
        sha256Digest primitives text = transfer.digest ∧
        validateAndParseOversized primitives.serde text policy.maxTransferBytes = some message := by
  -- The checks come one after the other, and each failure ends the transfer.
  unfold finish at ok
  split at ok
  · cases ok
  split at ok
  · cases ok
  split at ok
  · cases ok
  rename_i counted
  unfold conclude at ok
  split at ok
  · cases ok
  rename_i text put
  split at ok
  · cases ok
  rename_i bytes
  split at ok
  · cases ok
  rename_i digest
  split at ok
  · grind
  · cases ok

/--
Of a transfer that ends well, all that was held are its pieces, side by side.

The words of the slots must not wrap around, or the first slots could be the last ones.
-/
theorem finish_filled {primitives : TransferPrimitives} {message : JsonRpcMessage}
    (ok : transfer.finish primitives policy token progress = .ok message)
    (fits : transfer.startProgress + transfer.totalChunks + 1 < 2 ^ 64) :
    ∃ first pieces, (first = transfer.startProgress + 1 ∨ first = transfer.startProgress + 2) ∧
      pieces.length = transfer.totalChunks ∧
      (∀ slot data, transfer.chunks.lookup slot = some data ↔
        ∃ index, slot = first + index ∧ pieces[index]? = some data) ∧
      (String.join pieces).utf8ByteSize = transfer.totalBytes ∧
      sha256Digest primitives (String.join pieces) = transfer.digest ∧
      validateAndParseOversized primitives.serde (String.join pieces) policy.maxTransferBytes =
        some message := by
  obtain ⟨counted, text, put, bytes, digest, valid⟩ := finish_ok ok
  -- First the slot is found, and then the pieces are read from it on.
  obtain ⟨word, resolved, joined⟩ := Option.bind_eq_some_iff.mp put
  obtain ⟨pieces, read, rfl⟩ := Option.map_eq_some_iff.mp joined
  obtain ⟨length, found⟩ := mapM_range_eq_some.mp read
  replace resolved := assemblyFirstChunkProgress_eq resolved
  -- Without chunks the first slot does not matter, and its word may have wrapped around.
  obtain ⟨first, layout, place⟩ : ∃ first, (first = transfer.startProgress + 1 ∨
      first = transfer.startProgress + 2) ∧
      ∀ index < transfer.totalChunks, u64Add word index = first + index := by
    rcases resolved with direct | gated
    · refine ⟨transfer.startProgress + 1, .inl rfl, ?_⟩
      intro index below
      have unwrapped : u64Add transfer.startProgress 1 = transfer.startProgress + 1 :=
        u64Add_eq (by omega)
      rw [direct, unwrapped, u64Add_eq (by omega)]
    · refine ⟨transfer.startProgress + 2, .inr rfl, ?_⟩
      intro index below
      have unwrapped : u64Add transfer.startProgress 2 = transfer.startProgress + 2 :=
        u64Add_eq (by omega)
      rw [gated, unwrapped, u64Add_eq (by omega)]
  have read : ∀ index < transfer.totalChunks,
      transfer.chunks.lookup (first + index) = pieces[index]? := by grind
  -- There are no more chunks than slots to put together.
  have range : heldSlots transfer.chunks = Finset.Ico first (first + transfer.totalChunks) := by
    apply heldSlots_eq_range counted
    intro index below
    rw [read index below, List.getElem?_eq_getElem (by omega)]
    rfl
  refine ⟨first, pieces, layout, length, ?_, bytes, digest, valid⟩
  intro slot data
  -- A held slot lies in the range, and a place of the range is held.
  constructor
  · intro held
    have inside : slot ∈ heldSlots transfer.chunks := mem_heldSlots.mpr (by rw [held]; rfl)
    rw [range, Finset.mem_Ico] at inside
    refine ⟨slot - first, by omega, ?_⟩
    have place : first + (slot - first) = slot := by omega
    rw [← read (slot - first) (by omega), place, held]
  · grind

end ActiveTransfer

namespace OversizedTransferReceiver

variable {token : String} {receiver : OversizedTransferReceiver} {now : Nat}

theorem decodeFrame_intoProgressNotification (serde : SerdeJson) (frame : OversizedFrame)
    (named : token ≠ "") {progress : UInt64} (positive : 0 < progress.toNat)
    (message : Option String) :
    decodeFrame serde (frame.intoProgressNotification token progress message) =
      .ok (some (token, progress.toNat, frame)) := by
  -- The three fields are read back, and the frame from the last of them.
  obtain ⟨params, carried, cvm, progressToken, slot⟩ :=
    frame.params_intoProgressNotification token progress message
  have text : progressTokenString serde (.string token) = some token := rfl
  have place : parseProgress (some (.ofU64 progress)) = some progress.toNat := by
    simp only [Json.ofU64, parseProgress, if_pos positive]
  simp only [decodeFrame, carried, cvm, progressToken, slot, Option.bind_some,
    OversizedFrame.fromCvmValue_toCvmValue, text, Option.getD_some, if_neg named, place]

theorem lookup_remove (receiver : OversizedTransferReceiver) (token other : String) :
    (receiver.remove token).transfers.lookup other =
      if other = token then none else receiver.transfers.lookup other := by
  by_cases same : other = token
  · rw [if_pos same, same]
    exact AList.lookup_erase _ _
  · rw [if_neg same]
    exact AList.lookup_erase_ne same

theorem lookup_track (receiver : OversizedTransferReceiver) (token other : String)
    (transfer : ActiveTransfer) :
    (receiver.track token transfer).transfers.lookup other =
      if other = token then some transfer else receiver.transfers.lookup other := by
  by_cases same : other = token
  · rw [if_pos same, same]
    exact AList.lookup_insert _
  · rw [if_neg same]
    exact AList.lookup_insert_ne same

theorem lookup_removeExpired {transfer : ActiveTransfer}
    (kept : (receiver.removeExpired now).transfers.lookup token = some transfer) :
    receiver.transfers.lookup token = some transfer := by
  unfold removeExpired at kept
  split at kept
  · exact kept
  · -- The entries that are left are some of the entries there were.
    have member := List.of_mem_dlookup kept
    exact List.mem_dlookup receiver.transfers.nodupKeys (List.mem_of_mem_filter member)

theorem settle_tracked {result : Except OversizedTransferError ActiveTransfer}
    {taken : ActiveTransfer}
    (tracked : (receiver.settle token result).2.transfers.lookup token = some taken) :
    result = .ok taken := by
  cases result with
  | ok transfer =>
    simp only [settle, lookup_track, if_true] at tracked
    rw [Option.some.inj tracked]
  | error fault =>
    simp only [settle, lookup_remove, if_true] at tracked
    cases tracked

theorem settle_silent (receiver : OversizedTransferReceiver) (token : String)
    (result : Except OversizedTransferError ActiveTransfer) (message : JsonRpcMessage) :
    (receiver.settle token result).1 ≠ .ok (some message) := by
  cases result <;> simp [settle]

/-- An opening frame that is admitted was within the limits, and opens a new transfer. -/
theorem handleStart_ok (declared : Declaration)
    (ok : (receiver.handleStart now token declared.progress declared.digest declared.totalBytes
      declared.totalChunks).1 = .ok none) :
    receiver.transfers.lookup token = none ∧
      declared.totalBytes ≤ receiver.policy.maxTransferBytes ∧
      declared.totalChunks ≤ receiver.policy.maxTransferChunks ∧
      receiver.activeTransferCount < receiver.policy.maxConcurrentTransfers ∧
      (receiver.handleStart now token declared.progress declared.digest declared.totalBytes
        declared.totalChunks).2 = receiver.track token (declared.opened now) := by
  -- Every limit is a check of its own, and only the last branch opens.
  unfold handleStart at ok ⊢
  split at ok
  · cases ok
  rename_i untracked
  split at ok
  · cases ok
  rename_i bytes
  split at ok
  · cases ok
  rename_i chunks
  split at ok
  · cases ok
  split at ok
  · cases ok
  · rename_i room digest
    refine ⟨?_, Nat.le_of_not_lt bytes, Nat.le_of_not_lt chunks, Nat.lt_of_not_le room, ?_⟩
    · simpa [isTracking] using untracked
    · rw [if_neg untracked, if_neg bytes, if_neg chunks, if_neg room, if_neg digest]
      rfl

theorem handleStart_refused {progress : Nat} {digest : String} {totalBytes totalChunks : Nat}
    (refused : (receiver.handleStart now token progress digest totalBytes totalChunks).1 ≠
      .ok none) :
    ∃ fault, receiver.handleStart now token progress digest totalBytes totalChunks =
      (.error fault, receiver) := by
  -- All branches but the last fail without touching the receiver.
  unfold handleStart at refused ⊢
  split
  · exact ⟨_, rfl⟩
  split
  · exact ⟨_, rfl⟩
  split
  · exact ⟨_, rfl⟩
  split
  · exact ⟨_, rfl⟩
  split
  · exact ⟨_, rfl⟩
  · simp_all

section

variable (primitives : TransferPrimitives) (receiver : OversizedTransferReceiver) (now : Nat)

/-- A frame changes the transfer of its own token at most: it is kept, dropped, or tracked anew. -/
theorem dispatchFrame_receiver (token : String) (progress : Nat) (frame : OversizedFrame) :
    (receiver.dispatchFrame primitives now token progress frame).2 = receiver ∨
      (receiver.dispatchFrame primitives now token progress frame).2 = receiver.remove token ∨
      ∃ transfer,
        (receiver.dispatchFrame primitives now token progress frame).2 =
            receiver.track token transfer ∨
          (receiver.dispatchFrame primitives now token progress frame).2 =
            (receiver.remove token).track token transfer := by
  -- A frame in the middle takes its transfer out, and puts it back if all went well.
  have settled (result : Except OversizedTransferError ActiveTransfer) :
      (receiver.settle token result).2 = receiver.remove token ∨
        ∃ transfer, (receiver.settle token result).2 =
          (receiver.remove token).track token transfer := by
    cases result with
    | ok transfer => exact .inr ⟨transfer, rfl⟩
    | error fault => exact .inl rfl
  cases frame with
  | start digest totalBytes totalChunks =>
    simp only [dispatchFrame]
    by_cases admitted : (receiver.handleStart now token progress digest totalBytes.toNat
        totalChunks.toNat).1 = .ok none
    · obtain ⟨-, -, -, -, opened⟩ := handleStart_ok
        ⟨progress, digest, totalBytes.toNat, totalChunks.toNat⟩ admitted
      exact .inr (.inr ⟨_, .inl opened⟩)
    · grind [handleStart_refused]
  | accept => grind [dispatchFrame, handleAccept]
  | chunk data => grind [dispatchFrame, handleChunk]
  | end_ => grind [dispatchFrame, handleEnd]
  | abort reason => exact .inr (.inl rfl)

theorem lookup_dispatchFrame_other {other : String} (progress : Nat)
    (frame : OversizedFrame) (foreign : other ≠ token) :
    (receiver.dispatchFrame primitives now token progress frame).2.transfers.lookup other =
      receiver.transfers.lookup other := by
  -- Whatever the frame does, it does under its own token.
  rcases receiver.dispatchFrame_receiver primitives now token progress frame with
    kept | dropped | ⟨transfer, opened | again⟩
  · rw [kept]
  · rw [dropped, lookup_remove, if_neg foreign]
  · rw [opened, lookup_track, if_neg foreign]
  · rw [again, lookup_track, if_neg foreign, lookup_remove, if_neg foreign]

theorem policy_dispatchFrame (token : String) (progress : Nat) (frame : OversizedFrame) :
    (receiver.dispatchFrame primitives now token progress frame).2.policy = receiver.policy := by
  rcases receiver.dispatchFrame_receiver primitives now token progress frame with
    kept | dropped | ⟨transfer, opened | again⟩
  · rw [kept]
  · rw [dropped]
    rfl
  · rw [opened]
    rfl
  · rw [again]
    rfl

end

end OversizedTransferReceiver

end ContextVm
