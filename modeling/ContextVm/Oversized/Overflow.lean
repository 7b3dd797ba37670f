import ContextVm.Oversized.Integrity

/-! The receiver with overflow checks on, and the frames that make one of the checks fail. -/

namespace ContextVm

open ActiveTransfer OversizedTransferReceiver

/-- Walk from slot to slot while they are held, where the step to the next slot may overflow. -/
def walkHeldChecked (held : Nat → Bool) : Nat → Nat → Option Nat
  | 0, slot => some slot
  | steps + 1, slot =>
    if held slot then (u64CheckedAdd slot 1).bind (walkHeldChecked held steps) else some slot

theorem walkHeldChecked_of_gap {held : Nat → Bool} {gap slot : Nat} (word : gap ≤ u64Max)
    (missing : held gap = false) (ahead : slot ≤ gap) (steps : Nat) {next : Nat → Nat}
    (unwrapped : ∀ slot, slot + 1 ≤ u64Max → next slot = slot + 1) :
    walkHeldChecked held steps slot = some (walkHeld held next steps slot) := by
  -- A held slot is not the gap, so the slot behind it is still a word.
  induction steps generalizing slot with
  | zero => rfl
  | succ steps ih =>
    simp only [walkHeldChecked, walkHeld]
    split
    · grind [u64CheckedAdd_of_le]
    · rfl

theorem walkHeldChecked_of_full {held : Nat → Bool} {steps slot : Nat} (word : slot ≤ u64Max)
    (full : ∀ passed, slot ≤ passed → passed ≤ u64Max → held passed = true)
    (enough : u64Max < slot + steps) : walkHeldChecked held steps slot = none := by
  -- The walk passes one held slot after the other until there is no next one.
  induction steps generalizing slot with
  | zero => omega
  | succ steps ih =>
    rw [walkHeldChecked, if_pos (full slot (Nat.le_refl _) word)]
    by_cases last : slot = u64Max
    · rw [u64CheckedAdd_of_lt (by omega)]
      rfl
    · grind [u64CheckedAdd_of_le]

/-- Whether all slots of a range are held, asked in order until one is not. -/
def rangeHeldChecked (held : Nat → Bool) (first : Nat) : List Nat → Option Bool
  | [] => some true
  | index :: rest =>
    (u64CheckedAdd first index).bind fun slot =>
      if held slot then rangeHeldChecked held first rest else some false

theorem rangeHeldChecked_eq {held : Nat → Bool} {first : Nat} {indices : List Nat}
    (words : ∀ index ∈ indices, first + index ≤ u64Max) :
    rangeHeldChecked held first indices =
      some (indices.all fun index => held (u64Add first index)) := by
  induction indices with
  | nil => rfl
  | cons index rest ih =>
    have here := words index List.mem_cons_self
    have later := ih fun other member => words other (List.mem_cons_of_mem _ member)
    rw [rangeHeldChecked, u64CheckedAdd_of_le here, Option.bind_some, List.all_cons,
      u64Add_of_le here, later]
    cases held (first + index) <;> rfl

/-- The longest string that can be given room for. -/
def isizeMax : Nat := 2 ^ 63 - 1

/-- Give a new string room for so many bytes, where too many are a panic. -/
def stringWithCapacity (capacity : Nat) : Option String :=
  if capacity ≤ isizeMax then some "" else none

namespace ActiveTransfer

/-- The slot the first chunk is expected at, with overflow checks on. -/
def firstChunkSlotChecked (transfer : ActiveTransfer) : Option Nat :=
  if transfer.acceptProgress.isSome then u64CheckedAdd transfer.startProgress 2
  else u64CheckedAdd transfer.startProgress 1

/-- The slot the next chunk in order is expected at, with overflow checks on. -/
def expectedChunkProgressChecked (transfer : ActiveTransfer) : Option Nat :=
  match transfer.nextExpectedChunkProgress with
  | some next => some next
  | none => transfer.firstChunkSlotChecked

/-- Find the frontier anew, with overflow checks on. -/
def refreshChunkProgressStateChecked (transfer : ActiveTransfer) : Option ActiveTransfer :=
  if transfer.chunkCount = 0 then
    some { transfer with firstChunkProgress := none, nextExpectedChunkProgress := none }
  else
    transfer.firstChunkSlotChecked.bind fun first =>
      (walkHeldChecked transfer.holds transfer.chunkCount first).map fun next =>
        { transfer with firstChunkProgress := some first, nextExpectedChunkProgress := some next }

/-- How many chunks are buffered beyond the frontier, with overflow checks on. -/
def bufferedOutOfOrderCountChecked (transfer : ActiveTransfer) : Option Nat :=
  match transfer.firstChunkProgress, transfer.nextExpectedChunkProgress with
  | some first, some next => (u64CheckedSub next first).bind (u64CheckedSub transfer.chunkCount)
  | _, _ => some 0

/-- Whether all chunks are there from a first slot on, with overflow checks on. -/
def hasCompleteChunkRangeChecked (transfer : ActiveTransfer) (first : Nat) : Option Bool :=
  rangeHeldChecked transfer.holds first (List.range transfer.totalChunks)

/-- The slot of the first chunk for assembly, with overflow checks on. -/
def assemblyFirstChunkProgressChecked (transfer : ActiveTransfer) : Option (Option Nat) :=
  (u64CheckedAdd transfer.startProgress 1).bind fun direct =>
  (u64CheckedAdd transfer.startProgress 2).bind fun acceptGated =>
  (transfer.hasCompleteChunkRangeChecked direct).bind fun complete =>
    if complete then some (some direct)
    else (transfer.hasCompleteChunkRangeChecked acceptGated).map fun complete =>
      if complete then some acceptGated else none

/-- Append the chunks of a range of slots, up to the first gap. -/
def appendChunksChecked (transfer : ActiveTransfer) (first : Nat) :
    List Nat → String → Option (Option String)
  | [], out => some (some out)
  | index :: rest, out =>
    (u64CheckedAdd first index).bind fun slot =>
      match transfer.chunks.lookup slot with
      | none => some none
      | some piece => transfer.appendChunksChecked first rest (out ++ piece)

/-- Put the chunks together, with overflow checks on. -/
def assembleChecked (transfer : ActiveTransfer) : Option (Option String) :=
  transfer.assemblyFirstChunkProgressChecked.bind fun
    | none => some none
    | some first =>
      (stringWithCapacity transfer.totalBytes).bind fun out =>
        transfer.appendChunksChecked first (List.range transfer.totalChunks) out

/-- Take a chunk frame in, with overflow checks on. -/
def takeChunkChecked (policy : TransferPolicy) (transfer : ActiveTransfer) (token : String)
    (progress : Nat) (data : String) : Option (Except OversizedTransferError ActiveTransfer) :=
  -- The bounds are computed before anything is compared with them.
  (u64CheckedAdd transfer.startProgress 1).bind fun minimum =>
  (u64CheckedAdd transfer.startProgress transfer.totalChunks).bind fun last =>
  (u64CheckedAdd last 1).bind fun maximum =>
  if progress < minimum then
    some (.error (.sequence ("Chunk progress must be greater than start progress (token: " ++
      token ++ ")")))
  else
    transfer.expectedChunkProgressChecked.bind fun expected =>
    -- This difference alone is taken in wider words.
    let forwardGap : Int := progress - expected
    if (policy.maxOutOfOrderWindow : Int) < forwardGap then
      some (.error (.policy ("Out-of-order gap " ++ toString forwardGap ++
        " exceeds policy limit " ++ toString policy.maxOutOfOrderWindow ++ " (token: " ++ token ++
        ")")))
    else if maximum < progress then
      some (.error (.sequence ("Chunk progress exceeds declared transfer bounds (token: " ++
        token ++ ")")))
    else
      (u64CheckedAdd transfer.startProgress 2).bind fun reserved =>
      if reserved < progress ∧ transfer.holds minimum = false ∧
          transfer.holds reserved = false then
        some (.error (.sequence ("First chunk skips beyond the reserved accept slot (token: " ++
          token ++ ")")))
      else match transfer.chunks.lookup progress with
        | some existing =>
          if existing ≠ data then
            some (.error (.sequence ("Conflicting duplicate chunk detected (token: " ++ token ++
              ", progress: " ++ toString progress ++ ")")))
          else some (.ok transfer)
        | none =>
          (refreshChunkProgressStateChecked
            { transfer with
              chunks := transfer.chunks.insert progress data
              highestObservedProgress := max transfer.highestObservedProgress progress }).bind
          fun taken =>
            -- The chunks out of order are counted for a chunk ahead only.
            if 0 < forwardGap then
              taken.bufferedOutOfOrderCountChecked.map fun count =>
                if policy.maxOutOfOrderChunks < count then
                  .error (.policy ("Buffered out-of-order chunks exceed policy limit " ++
                    toString policy.maxOutOfOrderChunks ++ " (token: " ++ token ++ ")"))
                else .ok taken
            else some (.ok taken)

/-- Check a transfer at its end, with overflow checks on. -/
def finishChecked (primitives : TransferPrimitives) (policy : TransferPolicy)
    (transfer : ActiveTransfer) (token : String) (progress : Nat) :
    Option (Except OversizedTransferError JsonRpcMessage) :=
  if progress ≤ transfer.highestObservedProgress then
    some (.error (.sequence
      ("End frame progress must be greater than all prior transfer frames (token: " ++ token ++
        ")")))
  else if 0 < transfer.totalChunks ∧ transfer.chunkCount = 0 then
    some (.error (.reassembly ("Transfer ended before any chunks were received (token: " ++ token ++
      ")")))
  else if transfer.chunkCount ≠ transfer.totalChunks then
    some (.error (.reassembly ("Expected " ++ toString transfer.totalChunks ++
      " chunks but received " ++ toString transfer.chunkCount ++ " (token: " ++ token ++ ")")))
  else transfer.assembleChecked.map (transfer.conclude primitives policy token)

end ActiveTransfer

namespace OversizedTransferReceiver

/-- Buffer a chunk, with overflow checks on. -/
def handleChunkChecked (receiver : OversizedTransferReceiver) (token : String) (progress : Nat)
    (data : String) : Option (FrameOutcome × OversizedTransferReceiver) :=
  match receiver.transfers.lookup token with
  | none => some (.ok none, receiver)
  | some transfer =>
    (transfer.takeChunkChecked receiver.policy token progress data).map (receiver.settle token)

/-- Close a transfer, with overflow checks on. -/
def handleEndChecked (primitives : TransferPrimitives) (receiver : OversizedTransferReceiver)
    (token : String) (progress : Nat) : Option (FrameOutcome × OversizedTransferReceiver) :=
  match receiver.transfers.lookup token with
  | none => some (.ok none, receiver)
  | some transfer =>
    (transfer.finishChecked primitives receiver.policy token progress).map fun result =>
      (result.map some, receiver.remove token)

/-- Process one decoded frame, with overflow checks on. -/
def dispatchFrameChecked (primitives : TransferPrimitives) (receiver : OversizedTransferReceiver)
    (now : Nat) (token : String) (progress : Nat) :
    OversizedFrame → Option (FrameOutcome × OversizedTransferReceiver)
  | .chunk data => receiver.handleChunkChecked token progress data
  | .end_ => receiver.handleEndChecked primitives token progress
  -- The other frames are handled without any arithmetic.
  | frame => some (receiver.dispatchFrame primitives now token progress frame)

/-- Process one progress notification, with overflow checks on. -/
def processFrameChecked (primitives : TransferPrimitives) (receiver : OversizedTransferReceiver)
    (now : Nat) (notification : JsonRpcNotification) :
    Option (FrameOutcome × OversizedTransferReceiver) :=
  match decodeFrame primitives.serde notification with
  | .error fault => some (.error fault, receiver)
  | .ok none => some (.ok none, receiver)
  | .ok (some (token, progress, frame)) =>
    receiver.dispatchFrameChecked primitives now token progress frame

end OversizedTransferReceiver

/-- What a call returns with overflow checks on, unless it panics. -/
def ReceiverCall.runChecked (primitives : TransferPrimitives) (call : ReceiverCall) :
    Option (FrameOutcome × OversizedTransferReceiver) :=
  match call.input with
  | .frame notification => call.before.processFrameChecked primitives call.now notification
  -- The ages of the transfers are differences that stop at zero.
  | .sweep => some (call.run primitives)

namespace ActiveTransfer

/-- A frame of a transfer that makes an overflow check fail. -/
def Hazard (policy : TransferPolicy) (transfer : ActiveTransfer) (progress : Nat) :
    OversizedFrame → Prop
  | .chunk _ =>
    -- The last declared slot is no word.
    u64Max < transfer.startProgress + transfer.totalChunks + 1 ∨
    -- The slot behind the reserved one is no word.
    (transfer.startProgress + 1 = u64Max ∧ progress = u64Max) ∨
    -- The chunk closes a row of slots that reaches up to the largest word.
    (transfer.startProgress < progress ∧
      progress ≤ transfer.startProgress + transfer.totalChunks + 1 ∧
      progress ≤ transfer.expectedChunkProgress + policy.maxOutOfOrderWindow ∧
      transfer.holds progress = false ∧
      ∀ slot, transfer.firstChunkSlot ≤ slot → slot ≤ u64Max →
        transfer.holds slot = true ∨ slot = progress)
  | .end_ =>
    transfer.highestObservedProgress < progress ∧ transfer.chunkCount = transfer.totalChunks ∧
      (transfer.startProgress + 1 = u64Max ∨
        (transfer.assemblyFirstChunkProgress.isSome = true ∧ isizeMax < transfer.totalBytes))
  | _ => False

/-- What is true of every transfer as long as no overflow check has failed. -/
structure InRange (transfer : ActiveTransfer) : Prop where
  start : transfer.startProgress ≤ u64Max
  observed : transfer.startProgress ≤ transfer.highestObservedProgress
  slots : ∀ slot, transfer.holds slot = true → transfer.startProgress < slot ∧
    slot ≤ transfer.startProgress + transfer.totalChunks + 1
  room : transfer.chunkCount ≠ 0 →
    transfer.startProgress + transfer.totalChunks + 1 ≤ u64Max ∧
      transfer.startProgress + 2 ≤ u64Max
  cached : transfer.nextExpectedChunkProgress.isSome = true → transfer.chunkCount ≠ 0

variable {transfer : ActiveTransfer}

section

variable (room : transfer.startProgress + 2 ≤ u64Max)
include room

theorem firstChunkSlotChecked_eq :
    transfer.firstChunkSlotChecked = some transfer.firstChunkSlot := by
  grind [firstChunkSlotChecked, firstChunkSlot, u64CheckedAdd_of_le, u64Add_of_le]

theorem expectedChunkProgressChecked_eq :
    transfer.expectedChunkProgressChecked = some transfer.expectedChunkProgress := by
  grind [expectedChunkProgressChecked, expectedChunkProgress, firstChunkSlotChecked_eq]

theorem firstChunkSlot_bounds :
    transfer.firstChunkSlot = transfer.startProgress + 1 ∨
      transfer.firstChunkSlot = transfer.startProgress + 2 := by
  grind [firstChunkSlot, u64Add_of_le]

theorem refreshChunkProgressStateChecked_eq
    {gap : Nat} (word : gap ≤ u64Max) (ahead : transfer.firstChunkSlot ≤ gap)
    (missing : transfer.holds gap = false) :
    transfer.refreshChunkProgressStateChecked = some transfer.refreshChunkProgressState := by
  unfold refreshChunkProgressStateChecked refreshChunkProgressState
  split
  · rfl
  · have walk := walkHeldChecked_of_gap word missing ahead transfer.chunkCount
      (fun slot fits => (u64Add_of_le fits : u64Add slot 1 = slot + 1))
    rw [firstChunkSlotChecked_eq room, Option.bind_some, walk]
    rfl

theorem refreshChunkProgressStateChecked_eq_none
    (full : ∀ slot, transfer.firstChunkSlot ≤ slot → slot ≤ u64Max → transfer.holds slot = true) :
    transfer.refreshChunkProgressStateChecked = none := by
  have bounds := firstChunkSlot_bounds room
  -- There are enough chunks to walk on to the end of the words.
  have row : Finset.Icc transfer.firstChunkSlot u64Max ⊆ heldSlots transfer.chunks := by
    intro slot inside
    rw [Finset.mem_Icc] at inside
    exact (transfer.holds_iff slot).mp (full slot inside.1 inside.2)
  have enough := Finset.card_le_card row
  rw [Nat.card_Icc, card_heldSlots] at enough
  change u64Max + 1 - transfer.firstChunkSlot ≤ transfer.chunkCount at enough
  have some_chunk : transfer.chunkCount ≠ 0 := by omega
  rw [refreshChunkProgressStateChecked, if_neg some_chunk, firstChunkSlotChecked_eq room,
    Option.bind_some, walkHeldChecked_of_full (by omega) full (by omega)]
  rfl

end

/-- Counting the chunks out of order does not underflow once the frontier has been found. -/
theorem bufferedOutOfOrderCountChecked_refresh
    (words : ∀ slot, transfer.holds slot = true → 0 < slot ∧ slot ≤ u64Max)
    {gap : Nat} (word : gap ≤ u64Max) (ahead : transfer.firstChunkSlot ≤ gap)
    (missing : transfer.holds gap = false) :
    transfer.refreshChunkProgressState.bufferedOutOfOrderCountChecked =
      some transfer.refreshChunkProgressState.bufferedOutOfOrderCount := by
  by_cases empty : transfer.chunkCount = 0
  · simp only [refreshChunkProgressState, if_pos empty]
    rfl
  -- The walk over words is the one over numbers, which ends at the frontier.
  have walk := walkHeldChecked_of_gap word missing ahead transfer.chunkCount
    (fun slot fits => (u64Add_of_le fits : u64Add slot 1 = slot + 1))
  rw [walkHeldChecked_of_gap word missing ahead transfer.chunkCount
    (fun slot _ => (rfl : slot + 1 = slot + 1)), Option.some.injEq] at walk
  have frontier := walkHeld_frontier transfer.holds_iff transfer.firstChunkSlot
  rw [card_heldSlots] at frontier
  change Frontier transfer.holds transfer.firstChunkSlot
    (walkHeld transfer.holds (· + 1) transfer.chunkCount transfer.firstChunkSlot) at frontier
  rw [walk] at frontier
  -- The frontier is not behind the gap, and the row before it is made of chunks.
  have counted := frontier.card_eq transfer.holds_iff
  rw [card_heldSlots] at counted
  change transfer.chunkCount = _ at counted
  have behind := frontier.behind
  have early : walkHeld transfer.holds (fun slot => u64Add slot 1) transfer.chunkCount
      transfer.firstChunkSlot ≤ gap := by
    by_contra beyond
    have held := frontier.row gap ahead (by omega)
    simp [missing] at held
  have count : transfer.chunkCount ≤ u64Max := by
    have inside : heldSlots transfer.chunks ⊆ Finset.Icc 1 u64Max := by
      intro slot member
      rw [Finset.mem_Icc]
      exact words slot ((transfer.holds_iff slot).mpr member)
    have bounded := Finset.card_le_card inside
    rw [Nat.card_Icc, card_heldSlots] at bounded
    change transfer.chunkCount ≤ _ at bounded
    omega
  simp only [refreshChunkProgressState, if_neg empty, bufferedOutOfOrderCountChecked,
    bufferedOutOfOrderCount]
  change (u64CheckedSub _ _).bind (u64CheckedSub transfer.chunkCount) =
    some (u64Sub transfer.chunkCount _)
  have largest : u64Max < 2 ^ 64 := by decide
  rw [u64CheckedSub_of_le behind, Option.bind_some, u64CheckedSub_of_le (by omega),
    u64Sub_eq behind (by omega), u64Sub_eq (by omega) (by omega)]

theorem holds_insert (progress : Nat) (data : String) (observed slot : Nat) :
    ({ transfer with
        chunks := transfer.chunks.insert progress data
        highestObservedProgress := observed } : ActiveTransfer).holds slot = true ↔
      transfer.holds slot = true ∨ slot = progress := by
  unfold holds
  by_cases here : slot = progress
  · subst here
    simp
  · simp [here]

variable {policy : TransferPolicy} {progress : Nat} {data : String}

/-- A chunk that leaves a gap is buffered, and those out of order counted, without an overflow. -/
theorem buffering_checked (inRange : transfer.InRange) (above : transfer.startProgress < progress)
    (word : progress ≤ u64Max)
    (declared : transfer.startProgress + transfer.totalChunks + 1 ≤ u64Max)
    (room : transfer.startProgress + 2 ≤ u64Max) {gap : Nat}
    (ahead : transfer.firstChunkSlot ≤ gap) (gapWord : gap ≤ u64Max)
    (unheld : transfer.holds gap = false) (other : gap ≠ progress) (data : String) :
    refreshChunkProgressStateChecked
        { transfer with
          chunks := transfer.chunks.insert progress data
          highestObservedProgress := max transfer.highestObservedProgress progress } =
        some (transfer.buffering progress data) ∧
      (transfer.buffering progress data).bufferedOutOfOrderCountChecked =
        some (transfer.buffering progress data).bufferedOutOfOrderCount := by
  have held := @holds_insert transfer progress data (max transfer.highestObservedProgress progress)
  have missing : holds
      { transfer with
        chunks := transfer.chunks.insert progress data
        highestObservedProgress := max transfer.highestObservedProgress progress } gap = false := by
    grind
  refine ⟨refreshChunkProgressStateChecked_eq room gapWord ahead missing,
    bufferedOutOfOrderCountChecked_refresh ?_ gapWord ahead missing⟩
  intro slot holding
  rcases (held slot).mp holding with old | new
  · have bounds := inRange.slots slot old
    omega
  · omega

/-- A chunk that is no hazard is taken in as it is without the checks. -/
theorem takeChunkChecked_eq (inRange : transfer.InRange) (word : progress ≤ u64Max)
    (safe : ¬ transfer.Hazard policy progress (.chunk data)) (token : String) :
    transfer.takeChunkChecked policy token progress data =
      some (transfer.takeChunk policy token progress data) := by
  obtain ⟨declared, reserved, -⟩ := not_or.mp safe |>.imp_right not_or.mp
  -- The bounds of the slots are words.
  have minimum : transfer.startProgress + 1 ≤ u64Max := by omega
  have last : transfer.startProgress + transfer.totalChunks ≤ u64Max := by omega
  have maximum : transfer.startProgress + transfer.totalChunks + 1 ≤ u64Max := by omega
  simp only [takeChunkChecked, takeChunk, u64CheckedAdd_of_le minimum, u64CheckedAdd_of_le last,
    u64CheckedAdd_of_le maximum, u64Add_of_le minimum, u64Add_of_le last, u64Add_of_le maximum,
    Option.bind_some]
  by_cases early : progress < transfer.startProgress + 1
  · rw [if_pos early, if_pos early]
  -- A slot behind the opening frame leaves room for the reserved one.
  have room : transfer.startProgress + 2 ≤ u64Max := by omega
  rw [if_neg early, if_neg early]
  simp only [expectedChunkProgressChecked_eq room, u64CheckedAdd_of_le room, u64Add_of_le room,
    Option.bind_some]
  split
  · rfl
  split
  · rfl
  split
  · rfl
  cases fresh : transfer.chunks.lookup progress with
  | some existing => grind
  | none =>
    -- A chunk that closed the row up to the largest word would be a hazard.
    obtain ⟨gap, ahead, gapWord, unheld, other⟩ : ∃ gap, transfer.firstChunkSlot ≤ gap ∧
        gap ≤ u64Max ∧ transfer.holds gap = false ∧ gap ≠ progress := by
      by_contra full
      refine safe (.inr (.inr ⟨by omega, by omega, by omega, by simp [holds, fresh], ?_⟩))
      intro slot first within
      by_contra missing
      rw [not_or, Bool.not_eq_true] at missing
      exact full ⟨slot, first, within, missing⟩
    obtain ⟨refreshed, counted⟩ :=
      buffering_checked inRange (by omega) word maximum room ahead gapWord unheld other data
    rw [buffering] at refreshed counted
    simp only [refreshed, counted, Option.bind_some]
    by_cases forward : 0 < (progress : Int) - (transfer.expectedChunkProgress : Int)
    · simp only [forward, true_and, if_true, Option.map_some]
    · simp only [forward, false_and, if_false]

theorem takeChunkChecked_of_wide
    (wide : u64Max < transfer.startProgress + transfer.totalChunks + 1) (token : String) :
    transfer.takeChunkChecked policy token progress data = none := by
  -- One of the sums that make up the last slot does not pass, whichever comes first.
  unfold takeChunkChecked
  by_cases minimum : transfer.startProgress + 1 ≤ u64Max
  · rw [u64CheckedAdd_of_le minimum, Option.bind_some]
    by_cases last : transfer.startProgress + transfer.totalChunks ≤ u64Max
    · rw [u64CheckedAdd_of_le last, Option.bind_some, u64CheckedAdd_of_lt wide]
      rfl
    · rw [u64CheckedAdd_of_lt (by omega)]
      rfl
  · rw [u64CheckedAdd_of_lt (by omega)]
    rfl

/-- A chunk in the last word makes a check fail, when it is the only slot of the transfer. -/
theorem takeChunkChecked_of_reserved (inRange : transfer.InRange)
    (declared : transfer.startProgress + transfer.totalChunks + 1 ≤ u64Max)
    (reserved : transfer.startProgress + 1 = u64Max) (last : progress = u64Max) (token : String) :
    transfer.takeChunkChecked policy token progress data = none := by
  -- Nothing was taken in yet, and the slot behind the reserved one is no word.
  have empty : transfer.chunkCount = 0 := by
    by_contra some_chunk
    have room := inRange.room some_chunk
    omega
  have uncached : transfer.nextExpectedChunkProgress = none := by
    by_contra cached
    exact inRange.cached (Option.isSome_iff_ne_none.mpr cached) empty
  have minimum : transfer.startProgress + 1 ≤ u64Max := by omega
  have total : transfer.startProgress + transfer.totalChunks ≤ u64Max := by omega
  rw [takeChunkChecked, u64CheckedAdd_of_le minimum, Option.bind_some, u64CheckedAdd_of_le total,
    Option.bind_some, u64CheckedAdd_of_le declared, Option.bind_some, if_neg (by omega),
    expectedChunkProgressChecked, uncached]
  cases accepted : transfer.acceptProgress.isSome with
  | true => grind [firstChunkSlotChecked, u64CheckedAdd_of_lt]
  | false =>
    simp only [firstChunkSlotChecked, accepted, Bool.false_eq_true, if_false]
    rw [u64CheckedAdd_of_le minimum, Option.bind_some, if_neg (by omega), if_neg (by omega),
      u64CheckedAdd_of_lt (by omega)]
    rfl

/-- A chunk that passes every check and closes the row up to the last word makes a check fail. -/
theorem takeChunkChecked_of_row (room : transfer.startProgress + 2 ≤ u64Max)
    (declared : transfer.startProgress + transfer.totalChunks + 1 ≤ u64Max)
    (above : transfer.startProgress < progress)
    (below : progress ≤ transfer.startProgress + transfer.totalChunks + 1)
    (window : progress ≤ transfer.expectedChunkProgress + policy.maxOutOfOrderWindow)
    (unheld : transfer.holds progress = false)
    (row : ∀ slot, transfer.firstChunkSlot ≤ slot → slot ≤ u64Max →
      transfer.holds slot = true ∨ slot = progress) (token : String) :
    transfer.takeChunkChecked policy token progress data = none := by
  have minimum : transfer.startProgress + 1 ≤ u64Max := by omega
  have total : transfer.startProgress + transfer.totalChunks ≤ u64Max := by omega
  -- One of the first two slots is there, as the row begins with it.
  have entry : ¬(transfer.startProgress + 2 < progress ∧
      transfer.holds (transfer.startProgress + 1) = false ∧
      transfer.holds (transfer.startProgress + 2) = false) := by grind [firstChunkSlot_bounds]
  have fresh : transfer.chunks.lookup progress = none := by
    simpa [holds] using unheld
  have overflow : refreshChunkProgressStateChecked { transfer with
      chunks := transfer.chunks.insert progress data
      highestObservedProgress := max transfer.highestObservedProgress progress } = none := by
    apply refreshChunkProgressStateChecked_eq_none
    · exact room
    · intro slot first within
      exact (holds_insert progress data _ slot).mpr (row slot first within)
  rw [takeChunkChecked, u64CheckedAdd_of_le minimum, Option.bind_some, u64CheckedAdd_of_le total,
    Option.bind_some, u64CheckedAdd_of_le declared, Option.bind_some, if_neg (by omega),
    expectedChunkProgressChecked_eq room, Option.bind_some]
  rw [if_neg (by omega), if_neg (by omega), u64CheckedAdd_of_le room, Option.bind_some,
    if_neg entry, fresh]
  simp only [overflow, Option.bind_none]

theorem takeChunkChecked_eq_none (inRange : transfer.InRange) (word : progress ≤ u64Max)
    (hazard : transfer.Hazard policy progress (.chunk data)) (token : String) :
    transfer.takeChunkChecked policy token progress data = none := by
  by_cases wide : u64Max < transfer.startProgress + transfer.totalChunks + 1
  · exact takeChunkChecked_of_wide wide token
  have declared : transfer.startProgress + transfer.totalChunks + 1 ≤ u64Max := by omega
  by_cases reserved : transfer.startProgress + 1 = u64Max ∧ progress = u64Max
  · exact takeChunkChecked_of_reserved inRange declared reserved.1 reserved.2 token
  rcases hazard with beyond | last | ⟨above, below, window, unheld, row⟩
  · exact absurd beyond wide
  · exact absurd last reserved
  · exact takeChunkChecked_of_row (by omega) declared above below window unheld row token

theorem appendChunksChecked_eq {first : Nat} {indices : List Nat}
    (words : ∀ index ∈ indices, first + index ≤ u64Max) (out : String) :
    transfer.appendChunksChecked first indices out =
      some ((indices.mapM fun index => transfer.chunks.lookup (u64Add first index)).map
        fun pieces => out ++ String.join pieces) := by
  -- Chunk by chunk, with what was appended so far in front.
  induction indices generalizing out with
  | nil => simp [appendChunksChecked]
  | cons index rest ih =>
    have here := words index List.mem_cons_self
    rw [appendChunksChecked, u64CheckedAdd_of_le here, Option.bind_some, List.mapM_cons,
      u64Add_of_le here]
    cases transfer.chunks.lookup (first + index) with
    | none => rfl
    | some piece =>
      have later := ih (fun other member => words other (List.mem_cons_of_mem _ member))
        (out ++ piece)
      simp only [later, Option.bind_eq_bind, Option.bind_some]
      cases rest.mapM fun index => transfer.chunks.lookup (u64Add first index) with
      | none => rfl
      | some pieces => simp [String.append_assoc]

theorem assemblyFirstChunkProgressChecked_eq (room : transfer.startProgress + 2 ≤ u64Max)
    (words : ∀ index ∈ List.range transfer.totalChunks,
      transfer.startProgress + 2 + index ≤ u64Max) :
    transfer.assemblyFirstChunkProgressChecked = some transfer.assemblyFirstChunkProgress := by
  have direct : transfer.startProgress + 1 ≤ u64Max := by omega
  have complete (first : Nat) (early : first ≤ transfer.startProgress + 2) :
      transfer.hasCompleteChunkRangeChecked first =
        some (transfer.hasCompleteChunkRange first) := by
    apply rangeHeldChecked_eq
    intro index member
    have word := words index member
    omega
  simp only [assemblyFirstChunkProgressChecked, assemblyFirstChunkProgress,
    u64CheckedAdd_of_le direct, u64CheckedAdd_of_le room, u64Add_of_le direct, u64Add_of_le room,
    Option.bind_some, complete _ (show transfer.startProgress + 1 ≤ _ by omega),
    complete _ (Nat.le_refl _), Option.map_some]
  split <;> rfl

theorem InRange.assembled (inRange : transfer.InRange)
    (counted : transfer.chunkCount = transfer.totalChunks) :
    ∀ index ∈ List.range transfer.totalChunks, transfer.startProgress + 2 + index ≤ u64Max := by
  intro index member
  rw [List.mem_range] at member
  have room := inRange.room (by omega)
  omega

/-- An end frame that is no hazard is answered as it is without the checks. -/
theorem finishChecked_eq (inRange : transfer.InRange) (word : progress ≤ u64Max)
    (safe : ¬ transfer.Hazard policy progress .end_) (primitives : TransferPrimitives)
    (token : String) :
    transfer.finishChecked primitives policy token progress =
      some (transfer.finish primitives policy token progress) := by
  unfold finishChecked
  by_cases late : progress ≤ transfer.highestObservedProgress
  · simp only [finish, if_pos late]
  by_cases early : 0 < transfer.totalChunks ∧ transfer.chunkCount = 0
  · simp only [finish, if_neg late, if_pos early]
  by_cases counted : transfer.chunkCount = transfer.totalChunks
  · simp only [Hazard, not_and, not_or] at safe
    obtain ⟨start, capacity⟩ := safe (by omega) counted
    have observed := inRange.observed
    have room : transfer.startProgress + 2 ≤ u64Max := by omega
    have words := inRange.assembled counted
    rw [finish]
    simp only [if_neg late, if_neg early, if_neg (not_not.mpr counted)]
    suffices put : transfer.assembleChecked = some transfer.assemble by
      rw [put]
      rfl
    rw [assembleChecked, assemblyFirstChunkProgressChecked_eq room words, Option.bind_some,
      assemble]
    cases found : transfer.assemblyFirstChunkProgress with
    | none => rfl
    | some first =>
      have fits : transfer.totalBytes ≤ isizeMax := by simp_all
      -- The first slot is one of the two, and the chunks behind it are words.
      have layout : first ≤ transfer.startProgress + 2 := by
        rcases assemblyFirstChunkProgress_eq found with direct | gated
        · rw [direct, u64Add_of_le (by omega)]
          omega
        · rw [gated, u64Add_of_le room]
      simp only [stringWithCapacity, if_pos fits, Option.bind_some]
      rw [appendChunksChecked_eq]
      · simp
      · intro index member
        have word := words index member
        omega
  · simp only [finish, if_neg late, if_neg early, if_pos counted]

/-- An end frame that is a hazard makes a check fail. -/
theorem finishChecked_eq_none (inRange : transfer.InRange) (word : progress ≤ u64Max)
    (hazard : transfer.Hazard policy progress .end_) (primitives : TransferPrimitives)
    (token : String) :
    transfer.finishChecked primitives policy token progress = none := by
  obtain ⟨observed, counted, reason⟩ := hazard
  have begun := inRange.observed
  unfold finishChecked
  rw [if_neg (by omega), if_neg (by omega), if_neg (not_not.mpr counted)]
  suffices fails : transfer.assembleChecked = none by
    rw [fails]
    rfl
  unfold assembleChecked
  by_cases start : transfer.startProgress + 1 = u64Max
  · -- The slot behind the reserved one is no word.
    rw [assemblyFirstChunkProgressChecked, u64CheckedAdd_of_le (by omega), Option.bind_some,
      u64CheckedAdd_of_lt (by omega)]
    rfl
  · -- The slot is found, but a string of that size cannot be given room for.
    rcases reason with same | ⟨found, large⟩
    · exact absurd same start
    rw [assemblyFirstChunkProgressChecked_eq (by omega) (inRange.assembled counted),
      Option.bind_some]
    cases slot : transfer.assemblyFirstChunkProgress with
    | none => grind
    | some first =>
      simp only [stringWithCapacity, if_neg (Nat.not_le.mpr large), Option.bind_none]

theorem holds_buffering (transfer : ActiveTransfer) (progress : Nat) (data : String)
    (slot : Nat) : (transfer.buffering progress data).holds slot = true ↔
      transfer.holds slot = true ∨ slot = progress := by
  have same : (transfer.buffering progress data).holds slot = ({ transfer with
      chunks := transfer.chunks.insert progress data
      highestObservedProgress := max transfer.highestObservedProgress progress } :
        ActiveTransfer).holds slot := by
    rfl
  rw [same]
  exact holds_insert progress data _ slot

theorem chunkCount_ne_zero {slot : Nat} (held : transfer.holds slot = true) :
    transfer.chunkCount ≠ 0 := by
  grind [card_heldSlots, holds_iff, chunkCount]

theorem InRange.opened (declared : Declaration) (word : declared.progress ≤ u64Max) (now : Nat) :
    (declared.opened now).InRange where
  start := word
  observed := Nat.le_refl _
  slots := by
    intro slot held
    cases held
  room := by
    intro some_chunk
    exact absurd rfl some_chunk
  cached := by
    intro cached
    cases cached

theorem InRange.takeAccept (inRange : transfer.InRange) {taken : ActiveTransfer} {token : String}
    (ok : transfer.takeAccept token progress = .ok taken) : taken.InRange := by
  obtain ⟨-, rfl⟩ := takeAccept_ok ok
  exact ⟨inRange.start, Nat.le_trans inRange.observed (Nat.le_max_left _ _), inRange.slots,
    inRange.room, inRange.cached⟩

/-- A chunk that is no hazard leaves a transfer in range. -/
theorem InRange.takeChunk (inRange : transfer.InRange) (word : progress ≤ u64Max)
    (safe : ¬ transfer.Hazard policy progress (.chunk data)) {taken : ActiveTransfer}
    {token : String} (ok : transfer.takeChunk policy token progress data = .ok taken) :
    taken.InRange := by
  obtain ⟨passes, ⟨-, rfl⟩ | ⟨-, rfl, -⟩⟩ := takeChunk_taken ok
  · exact inRange
  simp only [Hazard, not_or] at safe
  -- The sums the slot was compared with are words.
  have above := passes.above
  have below := passes.below
  rw [u64Add_of_le (by omega)] at above
  have last : u64Add transfer.startProgress transfer.totalChunks =
      transfer.startProgress + transfer.totalChunks := u64Add_of_le (by omega)
  rw [last, u64Add_of_le (by omega)] at below
  have start : (transfer.buffering progress data).startProgress = transfer.startProgress :=
    congrArg Declaration.progress (transfer.declaration_buffering progress data)
  have total : (transfer.buffering progress data).totalChunks = transfer.totalChunks :=
    congrArg Declaration.totalChunks (transfer.declaration_buffering progress data)
  have observed : (transfer.buffering progress data).highestObservedProgress =
      max transfer.highestObservedProgress progress := by
    unfold buffering refreshChunkProgressState
    split <;> rfl
  refine ⟨by omega, by omega, ?_, fun _ => by omega, fun _ => ?_⟩
  · intro slot held
    rcases (transfer.holds_buffering progress data slot).mp held with old | new
    · have bounds := inRange.slots slot old
      omega
    · omega
  · exact chunkCount_ne_zero ((transfer.holds_buffering progress data progress).mpr (.inr rfl))

end ActiveTransfer

namespace OversizedTransferReceiver

/-- Every transfer of a receiver is in range. -/
def InRange (receiver : OversizedTransferReceiver) : Prop :=
  ∀ token transfer, receiver.transfers.lookup token = some transfer → transfer.InRange

theorem parseProgress_le {value : Option Json} {progress : Nat}
    (parsed : parseProgress value = some progress) : progress ≤ u64Max := by
  unfold parseProgress at parsed
  split at parsed
  · rename_i word
    split at parsed
    · have bounded := word.toNat_lt
      cases parsed
      simp only [u64Max]
      omega
    · cases parsed
  · grind
  · cases parsed

theorem decodeFrame_progress_le {serde : SerdeJson} {notification : JsonRpcNotification}
    {token : String} {progress : Nat} {frame : OversizedFrame}
    (decoded : decodeFrame serde notification = .ok (some (token, progress, frame))) :
    progress ≤ u64Max := by
  unfold decodeFrame at decoded
  split at decoded
  · cases decoded
  split at decoded
  · cases decoded
  simp only at decoded
  split at decoded
  · cases decoded
  split at decoded
  · cases decoded
  · rename_i parsed
    cases decoded
    exact parseProgress_le parsed

end OversizedTransferReceiver

namespace ReceiverCall

/-- A call that makes an overflow check fail. -/
def Hazardous (primitives : TransferPrimitives) (call : ReceiverCall) : Prop :=
  ∃ token progress frame transfer,
    call.addressed primitives token = some (progress, frame) ∧
      call.before.transfers.lookup token = some transfer ∧
      transfer.Hazard call.before.policy progress frame

variable {primitives : TransferPrimitives} {call : ReceiverCall} {token : String}

/-- A call either brings a frame for some token, or does no arithmetic. -/
theorem addressed_or_plain (primitives : TransferPrimitives) (call : ReceiverCall) :
    (∃ token progress frame, call.addressed primitives token = some (progress, frame) ∧
        progress ≤ u64Max ∧
        call.runChecked primitives = call.before.dispatchFrameChecked primitives call.now token
          progress frame) ∨
      ((∀ token, call.addressed primitives token = none) ∧
        call.runChecked primitives = some (call.run primitives)) := by
  cases made : call.input with
  | sweep =>
    refine .inr ⟨fun token => by simp only [addressed, made], ?_⟩
    simp only [runChecked, made]
  | frame notification =>
    cases decoded : decodeFrame primitives.serde notification with
    | error fault =>
      refine .inr ⟨fun token => by simp only [addressed, made, decoded], ?_⟩
      simp only [runChecked, run, made, processFrameChecked, processFrame, decoded]
    | ok brought =>
      cases brought with
      | none =>
        refine .inr ⟨fun token => by simp only [addressed, made, decoded], ?_⟩
        simp only [runChecked, run, made, processFrameChecked, processFrame, decoded]
      | some brought =>
        obtain ⟨token, progress, frame⟩ := brought
        refine .inl ⟨token, progress, frame, by simp only [addressed, made, decoded, if_true],
          decodeFrame_progress_le decoded, ?_⟩
        simp only [runChecked, made, processFrameChecked, decoded]

theorem addressed_unique {other : String} {brought others : Nat × OversizedFrame}
    (here : call.addressed primitives token = some brought)
    (there : call.addressed primitives other = some others) :
    token = other ∧ brought = others := by
  unfold addressed at here there
  cases made : call.input with
  | sweep => simp [made] at here
  | frame notification =>
    simp only [made] at here there
    cases decoded : decodeFrame primitives.serde notification with
    | error fault => simp [decoded] at here
    | ok brought =>
      cases brought with
      | none => simp [decoded] at here
      | some brought =>
        -- Both tokens are the one the frame was decoded with.
        simp only [decoded, Option.ite_none_right_eq_some, Option.some.injEq] at here there
        exact ⟨here.1.symm.trans there.1, here.2.symm.trans there.2⟩

/-- As long as the transfers are in range, a call passes its checks unless it is hazardous. -/
theorem runChecked_eq_some (inRange : call.before.InRange) :
    call.runChecked primitives = some (call.run primitives) ↔ ¬ call.Hazardous primitives := by
  rcases call.addressed_or_plain primitives with
    ⟨token, progress, frame, brought, word, ran⟩ | ⟨unaddressed, ran⟩
  · -- The hazard is that of the frame, for the transfer of its token.
    have hazardous : call.Hazardous primitives ↔ ∃ transfer,
        call.before.transfers.lookup token = some transfer ∧
          transfer.Hazard call.before.policy progress frame := by
      constructor
      · rintro ⟨other, _, _, transfer, there, found, hazard⟩
        obtain ⟨rfl, same⟩ := addressed_unique brought there
        cases same
        exact ⟨transfer, found, hazard⟩
      · rintro ⟨transfer, found, hazard⟩
        exact ⟨token, progress, frame, transfer, brought, found, hazard⟩
    rw [ran, hazardous, run_addressed brought]
    cases frame with
    | chunk data =>
      simp only [dispatchFrameChecked, handleChunkChecked, dispatchFrame, handleChunk]
      cases found : call.before.transfers.lookup token with
      | none => simp
      | some transfer =>
        have fits := inRange token transfer found
        by_cases hazard : transfer.Hazard call.before.policy progress (.chunk data)
        · simp [takeChunkChecked_eq_none fits word hazard, hazard]
        · simp [takeChunkChecked_eq fits word hazard, hazard]
    | end_ =>
      simp only [dispatchFrameChecked, handleEndChecked, dispatchFrame, handleEnd]
      cases found : call.before.transfers.lookup token with
      | none => simp
      | some transfer =>
        have fits := inRange token transfer found
        by_cases hazard : transfer.Hazard call.before.policy progress .end_
        · simp [finishChecked_eq_none fits word hazard, hazard]
        · simp [finishChecked_eq fits word hazard, hazard]
    | _ => simp [dispatchFrameChecked, ActiveTransfer.Hazard]
  · refine iff_of_true ran ?_
    rintro ⟨token, progress, frame, transfer, brought, -⟩
    simp [unaddressed] at brought

theorem addressed_progress_le {progress : Nat} {frame : OversizedFrame}
    (brought : call.addressed primitives token = some (progress, frame)) : progress ≤ u64Max := by
  rcases call.addressed_or_plain primitives with
    ⟨other, _, _, there, word, -⟩ | ⟨unaddressed, -⟩
  · grind [addressed_unique]
  · grind

theorem inRange_after (inRange : call.before.InRange) (safe : ¬ call.Hazardous primitives) :
    (call.after primitives).InRange := by
  intro token taken tracked
  cases transferStep_after tracked with
  | kept found silent => exact inRange token taken found
  | opened declared admitted progress frame brought same bytes chunks made =>
    rw [made]
    exact .opened declared (same ▸ addressed_progress_le brought) _
  | accepted transfer progress brought found ok =>
    exact (inRange token transfer found).takeAccept ok
  | buffered transfer progress data brought found ok =>
    have harmless : ¬ transfer.Hazard call.before.policy progress (.chunk data) :=
      fun hazard => safe ⟨token, progress, _, transfer, brought, found, hazard⟩
    exact (inRange token transfer found).takeChunk (addressed_progress_le brought) harmless ok

end ReceiverCall

/-- The checks passed so far say that no call was hazardous, and then all transfers are in range. -/
def PassesChecks (primitives : TransferPrimitives) (calls : List ReceiverCall)
    (receiver : OversizedTransferReceiver) : Prop :=
  ((∀ call ∈ calls, call.runChecked primitives = some (call.run primitives)) ↔
      ∀ call ∈ calls, ¬ call.Hazardous primitives) ∧
    ((∀ call ∈ calls, ¬ call.Hazardous primitives) → receiver.InRange)

theorem passesChecks_record (primitives : TransferPrimitives) (policy : TransferPolicy)
    (inputs : List (Nat × ReceiverInput)) :
    PassesChecks primitives
      (OversizedTransferReceiver.record primitives (.withPolicy policy) inputs)
      (OversizedTransferReceiver.replay primitives (.withPolicy policy) inputs) := by
  -- Call by call, where the transfers stay in range until the first hazardous call.
  apply history_invariant
  · refine ⟨by simp, fun _ token transfer tracked => ?_⟩
    simp [withPolicy] at tracked
  · rintro calls before ⟨now, input⟩ ⟨same, inRange⟩
    simp only [PassesChecks, List.forall_mem_append, List.forall_mem_singleton]
    refine ⟨?_, fun safe => ReceiverCall.inRange_after (inRange safe.1) safe.2⟩
    rw [same]
    refine and_congr_right fun safe => ?_
    exact ReceiverCall.runChecked_eq_some (inRange safe)

/--
No check fails in a run exactly when none of its calls is hazardous.

A call that passes its checks does what it does without them, so no slot of it wraps around.
-/
theorem runChecked_iff_not_hazardous (primitives : TransferPrimitives) (policy : TransferPolicy)
    (inputs : List (Nat × ReceiverInput)) :
    (∀ call ∈ OversizedTransferReceiver.record primitives (.withPolicy policy) inputs,
        call.runChecked primitives = some (call.run primitives)) ↔
      ∀ call ∈ OversizedTransferReceiver.record primitives (.withPolicy policy) inputs,
        ¬ call.Hazardous primitives :=
  (passesChecks_record primitives policy inputs).1

/-- A transfer is opened at the largest progress there is, and a chunk follows. -/
def lastSlotInputs : List (Nat × ReceiverInput) :=
  let frame (frame : OversizedFrame) (progress : UInt64) : ReceiverInput :=
    .frame (frame.intoProgressNotification "last" progress none)
  [(0, frame (.start pingDigest 33 2) 18446744073709551615), (1, frame (.chunk "a") 1)]

/-- The chunk makes a check fail, and without checks it is taken in at a slot before the opening. -/
theorem chunk_overflows_behind_last_slot :
    ∃ call ∈ OversizedTransferReceiver.record pingPrimitives (.withPolicy .default) lastSlotInputs,
      call.runChecked pingPrimitives = none ∧
        call.accepts pingPrimitives "last" = some (1, "a") := by
  refine ⟨⟨1, .frame ((OversizedFrame.chunk "a").intoProgressNotification "last" 1 none),
    replay pingPrimitives (.withPolicy .default) (lastSlotInputs.take 1)⟩, ?_, ?_, ?_⟩
  · exact List.mem_cons_of_mem _ List.mem_cons_self
  · decide
  · decide

end ContextVm
