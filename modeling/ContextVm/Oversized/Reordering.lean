import ContextVm.Oversized.ReceiverLaws

/-! Chunks that arrive out of order and more than once, and what a transfer makes of them. -/

namespace ContextVm

open ActiveTransfer

/-- The chunks that arrived and lie beyond one that did not. -/
def chunksBeyondGap (seen : List Nat) : Finset Nat :=
  seen.toFinset.filter fun index => ∃ missing < index, missing ∉ seen

/-- How many of the chunks that arrived lie beyond the lowest one that did not. -/
def beyondGap (seen : List Nat) : Nat := (chunksBeyondGap seen).card

/-- A chunk, by its place in the message, may arrive after those that were seen. -/
structure Timely (policy : TransferPolicy) (base count : Nat) (seen : List Nat) (index : Nat) :
    Prop where
  -- It is not too far beyond the lowest one missing.
  window : ∀ missing < count, missing ∉ seen → index ≤ missing + policy.maxOutOfOrderWindow
  -- With it, not too many are buffered beyond the lowest one missing.
  buffered : beyondGap (seen ++ [index]) ≤ policy.maxOutOfOrderChunks
  -- A slot behind the reserved one does not come first.
  entry : startProgress + 2 < base + index → ∃ early ∈ seen, base + early ≤ startProgress + 2

instance (policy : TransferPolicy) (base count : Nat) (seen : List Nat) (index : Nat) :
    Decidable (Timely policy base count seen index) :=
  decidable_of_iff
    ((∀ missing < count, missing ∉ seen → index ≤ missing + policy.maxOutOfOrderWindow) ∧
      beyondGap (seen ++ [index]) ≤ policy.maxOutOfOrderChunks ∧
      (startProgress + 2 < base + index → ∃ early ∈ seen, base + early ≤ startProgress + 2))
    ⟨fun ⟨window, buffered, entry⟩ => ⟨window, buffered, entry⟩,
      fun timely => ⟨timely.window, timely.buffered, timely.entry⟩⟩

/--
Whether the chunk at the reserved slot leaves room for the others.

With an accept noted, a receiver counts a chunk at that slot as out of order for good.
-/
def Spared (policy : TransferPolicy) (seen : List Nat) (index : Nat) : Prop :=
  0 ∈ seen ++ [index] →
    beyondGap (seen ++ [index]) = 0 ∨ beyondGap (seen ++ [index]) < policy.maxOutOfOrderChunks

instance (policy : TransferPolicy) (seen : List Nat) (index : Nat) :
    Decidable (Spared policy seen index) :=
  inferInstanceAs (Decidable (_ → _))

section Arrivals

variable {policy : TransferPolicy} {seen : List Nat} {index : Nat}

theorem mem_chunksBeyondGap :
    index ∈ chunksBeyondGap seen ↔ index ∈ seen ∧ ∃ missing < index, missing ∉ seen := by
  rw [chunksBeyondGap, Finset.mem_filter, List.mem_toFinset]

theorem mem_chunksBeyondGap_append {other : Nat}
    (member : other ∈ chunksBeyondGap (seen ++ [index])) :
    ∃ missing < other, missing ∉ seen ∧ missing ≠ index ∧
      (other ∈ chunksBeyondGap seen ∨ other = index) := by
  obtain ⟨arrived, missing, below, absent⟩ := mem_chunksBeyondGap.mp member
  rw [List.mem_append, List.mem_singleton, not_or] at absent
  rw [List.mem_append, List.mem_singleton] at arrived
  refine ⟨missing, below, absent.1, absent.2, ?_⟩
  -- What is missing now was missing before as well.
  rcases arrived with older | newest
  · exact .inl (mem_chunksBeyondGap.mpr ⟨older, missing, below, absent.1⟩)
  · exact .inr newest

theorem beyondGap_repeated (again : index ∈ seen) : beyondGap
    (seen ++ [index]) = beyondGap seen := by
  -- The same chunks have arrived, whichever came again.
  have same (other : Nat) : other ∈ seen ++ [index] ↔ other ∈ seen := by grind
  have arrived : (seen ++ [index]).toFinset = seen.toFinset := by simp_all
  simp only [beyondGap, chunksBeyondGap, arrived, same]

theorem beyondGap_filled (filled : ∀ missing < index, missing ∈ seen) :
    beyondGap (seen ++ [index]) ≤ beyondGap seen := by
  -- Nothing is missing before the new chunk, so it is not beyond a gap itself.
  apply Finset.card_le_card
  intro other member
  obtain ⟨missing, below, absent, -, older | newest⟩ := mem_chunksBeyondGap_append member
  · exact older
  · exact absurd (filled missing (newest ▸ below)) absent

theorem beyondGap_first (second : 1 ∈ seen) (absent : 0 ∉ seen) :
    beyondGap (seen ++ [0]) < beyondGap seen := by
  -- The second chunk was beyond a gap, and has nothing missing before it now.
  apply Finset.card_lt_card
  rw [Finset.ssubset_iff_of_subset]
  · refine ⟨1, mem_chunksBeyondGap.mpr ⟨second, 0, by decide, absent⟩, ?_⟩
    intro member
    obtain ⟨missing, below, -, distinct, -⟩ := mem_chunksBeyondGap_append member
    exact distinct (Nat.lt_one_iff.mp below)
  · intro other member
    obtain ⟨missing, below, -, -, older | newest⟩ := mem_chunksBeyondGap_append member
    · exact older
    · grind

/--
The first time there is no room, the first chunk was there and a new one arrives beyond a gap.

Until then the chunks beyond the gap were fewer than the limit.
-/
theorem Spared.first_failure {count : Nat}
    (timely : ∀ before other rest, seen ++ [index] = before ++ other :: rest →
      Timely policy (startProgress + 1) count before other)
    (earlier : ∀ before other rest, seen = before ++ other :: rest → Spared policy before other)
    (unspared : ¬Spared policy seen index) :
    0 ∈ seen ∧ index ∉ seen ∧ (∃ missing < index, missing ∉ seen) ∧
      policy.maxOutOfOrderChunks ≤ beyondGap (seen ++ [index]) := by
  unfold Spared at unspared
  rw [Classical.not_imp, not_or, Nat.not_lt] at unspared
  obtain ⟨present, positive, full⟩ := unspared
  -- After the latest of the chunks before this one there was room, if the first was among them.
  have room (zero : 0 ∈ seen) :
      beyondGap seen = 0 ∨ beyondGap seen < policy.maxOutOfOrderChunks := by
    have split := List.dropLast_append_getLast (List.ne_nil_of_mem zero)
    have spared := earlier _ _ [] split.symm
    rw [Spared, split] at spared
    exact spared zero
  have zero : 0 ∈ seen := by
    by_contra absent
    -- Otherwise the first chunk is the one that arrives now.
    have first : index = 0 := by grind
    subst first
    cases seen with
    | nil => exact positive rfl
    | cons earliest others =>
      -- What arrives first is at one of the two first slots.
      have entry := (timely [] earliest (others ++ [0]) rfl).entry
      have second : earliest = 1 := by grind
      have fewer : beyondGap (earliest :: others ++ [0]) < beyondGap (earliest :: others) :=
        beyondGap_first (by simp [second]) absent
      -- One chunk earlier the count was within the limit, and now it is smaller.
      have split := List.dropLast_append_getLast (List.cons_ne_nil earliest others)
      have within := (timely (earliest :: others).dropLast
        ((earliest :: others).getLast (List.cons_ne_nil _ _)) [0]
        (by rw [List.append_cons (earliest :: others).dropLast, split])).buffered
      rw [split] at within
      omega
  refine ⟨zero, ?_, ?_, full⟩
  · -- A chunk that comes again, and one that fills the gap, need no more room.
    intro again
    rw [beyondGap_repeated again] at positive full
    rcases room zero with none | fewer
    · exact positive none
    · omega
  · grind [beyondGap, beyondGap_filled]

end Arrivals

/-- A declaration and the pieces it is about, from a slot that suits the answer to it. -/
structure Layout (declared : Declaration) (pieces : List String) (base : Nat) (accepted : Bool) :
    Prop where
  progress : declared.progress = startProgress
  totalChunks : declared.totalChunks = pieces.length
  nonempty : 0 < pieces.length
  small : pieces.length ≤ 2 ^ 63
  base : base = startProgress + 1 ∨ (base = startProgress + 2 ∧ accepted = true)

/-- A transfer that holds the pieces seen so far, and knows where those in a row end. -/
structure Buffered (declared : Declaration) (pieces : List String) (base : Nat) (accepted : Bool)
    (seen : List Nat) (transfer : ActiveTransfer) : Prop where
  declaration : transfer.declaration = declared
  acceptance : transfer.acceptProgress.isSome = accepted
  known : ∀ index ∈ seen, index < pieces.length
  held : ∀ slot, transfer.chunks.lookup slot =
    if base ≤ slot ∧ slot - base ∈ seen then pieces[slot - base]? else none
  frontier : Frontier transfer.holds transfer.firstChunkSlot transfer.expectedChunkProgress
  highest : transfer.highestObservedProgress < base + pieces.length

namespace Buffered

variable {declared : Declaration} {pieces : List String} {base : Nat} {accepted : Bool}
  {seen : List Nat} {transfer : ActiveTransfer}
variable {index : Nat} {policy : TransferPolicy} {data : String}

section

variable (buffered : Buffered declared pieces base accepted seen transfer)
include buffered

theorem holds_iff (slot : Nat) :
    transfer.holds slot = true ↔ base ≤ slot ∧ slot - base ∈ seen := by
  -- A piece that was seen is one of the pieces.
  rw [holds, buffered.held slot]
  by_cases inside : base ≤ slot ∧ slot - base ∈ seen
  · rw [if_pos inside, List.getElem?_eq_getElem (buffered.known _ inside.2)]
    simp [inside]
  · simp [inside]

theorem holds_lt {slot : Nat}
    (held : transfer.holds slot = true) : slot < base + pieces.length := by
  grind [Buffered, holds]

theorem heldSlots_eq : heldSlots transfer.chunks = seen.toFinset.image (base + ·) := by
  -- Slots and places are a fixed distance apart.
  ext slot
  rw [← transfer.holds_iff, buffered.holds_iff, Finset.mem_image]
  constructor
  · rintro ⟨above, member⟩
    exact ⟨slot - base, List.mem_toFinset.mpr member, by omega⟩
  · grind [Nat.add_sub_cancel_left, List.mem_toFinset]

theorem startProgress_eq
    (layout : Layout declared pieces base accepted) : transfer.startProgress = startProgress :=
  (congrArg Declaration.progress buffered.declaration).trans layout.progress

theorem totalChunks_eq
    (layout : Layout declared pieces base accepted) : transfer.totalChunks = pieces.length :=
  (congrArg Declaration.totalChunks buffered.declaration).trans layout.totalChunks

end

/--
The row of chunks is expected to begin at the first one.

It is expected behind the first one if that is at the reserved slot and an accept was noted.
-/
theorem firstChunkSlot_eq (buffered : Buffered declared pieces base accepted seen transfer)
    (layout : Layout declared pieces base accepted) :
    transfer.firstChunkSlot =
      if base = startProgress + 1 ∧ accepted = true then base + 1 else base := by
  have start := buffered.startProgress_eq layout
  have answered := buffered.acceptance
  have direct : u64Add startProgress 1 = startProgress + 1 := rfl
  have gated : u64Add startProgress 2 = startProgress + 2 := rfl
  rw [firstChunkSlot, answered, start, direct, gated]
  -- The receiver goes by the accept frame, and the layout by the handshake.
  cases accepted with
  | false =>
    rcases layout.base with first | ⟨-, absurd⟩
    · simp [first]
    · cases absurd
  | true =>
    rcases layout.base with first | ⟨second, -⟩
    · simp [first]
    · simp [second]

section

variable (buffered : Buffered declared pieces base accepted seen transfer)
include buffered

section

variable (layout : Layout declared pieces base accepted)
include layout

theorem expected_missing :
    base ≤ transfer.expectedChunkProgress ∧
      transfer.expectedChunkProgress - base ∉ seen := by
  -- The frontier is not held, and it does not lie before the first chunk.
  have behind := buffered.frontier.behind
  have above : base ≤ transfer.expectedChunkProgress := by
    rw [buffered.firstChunkSlot_eq layout] at behind
    split at behind <;> omega
  refine ⟨above, ?_⟩
  intro member
  have held := (buffered.holds_iff _).mpr ⟨above, member⟩
  simp [buffered.frontier.missing] at held

theorem expected_lt (zero : 0 ∈ seen) (beyond : ∃ missing < index, missing ∉ seen) :
    transfer.expectedChunkProgress < base + index := by
  obtain ⟨missing, below, absent⟩ := beyond
  by_contra far
  -- The missing piece would be in the row.
  apply absent
  have nonzero : missing ≠ 0 := fun same => absent (same ▸ zero)
  have first : transfer.firstChunkSlot ≤ base + missing := by
    rw [buffered.firstChunkSlot_eq layout]
    split <;> omega
  have held := buffered.frontier.row (base + missing) first (by omega)
  have member := ((buffered.holds_iff _).mp held).2
  rwa [Nat.add_sub_cancel_left] at member

/-- A timely chunk passes the checks of its slot. -/
theorem passes (below : index < pieces.length)
    (timely : Timely policy base pieces.length seen index) :
    ActiveTransfer.Passes policy transfer (base + index) := by
  have small := layout.small
  have start := buffered.startProgress_eq layout
  have total := buffered.totalChunks_eq layout
  have direct : u64Add startProgress 1 = startProgress + 1 := rfl
  have gated : u64Add startProgress 2 = startProgress + 2 := rfl
  have origin : startProgress = 1 := rfl
  have bases : base = startProgress + 1 ∨ base = startProgress + 2 := layout.base.imp_right (·.1)
  -- The four checks, in the order the receiver makes them.
  constructor
  · rw [start, direct]
    omega
  · -- The piece at the frontier is missing, or lies behind all of them.
    obtain ⟨above, missing⟩ := buffered.expected_missing layout
    by_cases inside : transfer.expectedChunkProgress - base < pieces.length
    · have near := timely.window _ inside missing
      omega
    · omega
  · grind [u64Add, startProgress, u64Add_eq]
  · rw [start, direct, gated]
    intro beyond
    obtain ⟨early, member, first⟩ := timely.entry beyond
    -- The chunk that came early is at one of the two first slots.
    have held := (buffered.holds_iff (base + early)).mpr
      ⟨by omega, by rw [Nat.add_sub_cancel_left]; exact member⟩
    have place : base + early = startProgress + 1 ∨ base + early = startProgress + 2 := by omega
    rcases place with one | two
    · exact .inl (one ▸ held)
    · exact .inr (two ▸ held)

end

theorem repeated (again : index ∈ seen) :
    Buffered declared pieces base accepted (seen ++ [index]) transfer := by
  -- Neither what was seen nor what is held changes.
  have same (other : Nat) : other ∈ seen ++ [index] ↔ other ∈ seen := by grind
  constructor
  · exact buffered.declaration
  · exact buffered.acceptance
  · intro other member
    exact buffered.known other ((same other).mp member)
  · intro slot
    rw [buffered.held slot]
    simp only [same]
  · exact buffered.frontier
  · exact buffered.highest

section

variable (layout : Layout declared pieces base accepted)
include layout

/-- A new chunk is held with the others, and the row of chunks ends where it should. -/
theorem fresh (piece : pieces[index]? = some data) :
    Buffered declared pieces base accepted (seen ++ [index])
        (transfer.buffering (base + index) data) ∧
      (transfer.buffering (base + index) data).firstChunkProgress =
        some (transfer.buffering (base + index) data).firstChunkSlot ∧
      (transfer.buffering (base + index) data).nextExpectedChunkProgress =
        some (transfer.buffering (base + index) data).expectedChunkProgress := by
  have small := layout.small
  have bases : base = startProgress + 1 ∨ base = startProgress + 2 := layout.base.imp_right (·.1)
  have origin : startProgress = 1 := rfl
  obtain ⟨below, -⟩ := List.getElem?_eq_some_iff.mp piece
  -- First the chunk is put to its slot, and then the frontier is found anew.
  let inserted : ActiveTransfer :=
    { transfer with
      chunks := transfer.chunks.insert (base + index) data
      highestObservedProgress := max transfer.highestObservedProgress (base + index) }
  -- What is held are the pieces seen, and the new one.
  have held (slot : Nat) : inserted.chunks.lookup slot =
      if base ≤ slot ∧ slot - base ∈ seen ++ [index] then pieces[slot - base]? else none := by
    by_cases here : slot = base + index
    · rw [here, AList.lookup_insert, Nat.add_sub_cancel_left, piece, if_pos (by simp)]
    · rw [AList.lookup_insert_ne here, buffered.held slot]
      have other : base ≤ slot → slot - base ≠ index := by omega
      by_cases above : base ≤ slot
      · simp [above, other above]
      · simp [above]
  have known : ∀ other ∈ seen ++ [index], other < pieces.length := by
    intro other member
    rcases List.mem_append.mp member with older | newest
    · exact buffered.known other older
    · grind
  -- The slots held now are within bounds, and the new one is among them.
  have words (slot : Nat) (taken : inserted.holds slot = true) : slot < base + pieces.length := by
    rw [holds, held slot] at taken
    split at taken
    · grind
    · cases taken
  have here : base + index ∈ heldSlots inserted.chunks := by
    grind [mem_heldSlots, Nat.add_sub_cancel_left]
  have counted : inserted.chunkCount ≠ 0 := by
    have positive := Finset.card_pos.mpr ⟨_, here⟩
    rw [card_heldSlots] at positive
    exact Nat.pos_iff_ne_zero.mp positive
  -- So the frontier is the gap behind the row of chunks.
  obtain ⟨gap, frontier, refreshed⟩ := refresh_frontier counted
    fun slot taken => by have := words slot taken; omega
  have shape : transfer.buffering (base + index) data = { inserted with
      firstChunkProgress := some inserted.firstChunkSlot
      nextExpectedChunkProgress := some gap } := refreshed
  rw [shape]
  refine ⟨⟨buffered.declaration, buffered.acceptance, known, held, frontier, ?_⟩, rfl, rfl⟩
  show max transfer.highestObservedProgress (base + index) < base + pieces.length
  have highest := buffered.highest
  omega

theorem beyond_row {slot : Nat}
    (held : transfer.holds slot = true) (beyond : transfer.expectedChunkProgress < slot) :
    slot ∈ (chunksBeyondGap seen).image (base + ·) := by
  -- The piece at the frontier is the one that is missing.
  obtain ⟨above, missing⟩ := buffered.expected_missing layout
  obtain ⟨inside, member⟩ := (buffered.holds_iff slot).mp held
  rw [Finset.mem_image]
  refine ⟨slot - base, mem_chunksBeyondGap.mpr ⟨member, ?_⟩, by omega⟩
  exact ⟨transfer.expectedChunkProgress - base, by omega, missing⟩

section

variable (first : transfer.firstChunkProgress = some transfer.firstChunkSlot)
  (next : transfer.nextExpectedChunkProgress = some transfer.expectedChunkProgress)
include first next

/-- What counts as out of order are the chunks on either side of the row, as many as there are. -/
theorem outOfOrder_eq :
    transfer.bufferedOutOfOrderCount =
      ((heldSlots transfer.chunks).filter fun slot =>
        slot < transfer.firstChunkSlot ∨ transfer.expectedChunkProgress < slot).card := by
  have small := layout.small
  have bases : base = startProgress + 1 ∨ base = startProgress + 2 := layout.base.imp_right (·.1)
  have origin : startProgress = 1 := rfl
  have slots := buffered.firstChunkSlot_eq layout
  -- Neither the number of chunks nor the end of the row wraps around.
  have inside : heldSlots transfer.chunks ⊆ Finset.Ico base (base + pieces.length) := by
    intro slot member
    have held := (transfer.holds_iff slot).mpr member
    rw [Finset.mem_Ico]
    exact ⟨((buffered.holds_iff slot).mp held).1, buffered.holds_lt held⟩
  have count : transfer.chunkCount ≤ pieces.length := by
    have cards := Finset.card_le_card inside
    rw [card_heldSlots, Nat.card_Ico] at cards
    exact Nat.le_trans cards (by omega)
  have fits : transfer.expectedChunkProgress < 2 ^ 64 := by
    by_cases row : transfer.firstChunkSlot < transfer.expectedChunkProgress
    · have last := buffered.holds_lt
        (buffered.frontier.row (transfer.expectedChunkProgress - 1) (by omega) (by omega))
      omega
    · split at slots <;> omega
  -- The count is what is left of all chunks without those in a row.
  have counted := buffered.frontier.card_eq transfer.holds_iff
  have behind := buffered.frontier.behind
  rw [card_heldSlots] at counted
  change transfer.chunkCount = _ at counted
  simp only [bufferedOutOfOrderCount, first, next]
  rw [u64Sub_eq behind fits, u64Sub_eq (by omega) (by omega)]
  omega

theorem outOfOrder_le
    (unreserved : base = startProgress + 1 → accepted = true → 0 ∉ seen) :
    transfer.bufferedOutOfOrderCount ≤ beyondGap seen := by
  rw [buffered.outOfOrder_eq layout first next]
  refine Nat.le_trans (Finset.card_le_card ?_) (Finset.card_image_le (f := (base + ·)))
  intro slot member
  obtain ⟨taken, side⟩ := Finset.mem_filter.mp member
  have held := (transfer.holds_iff slot).mpr taken
  obtain ⟨above, arrived⟩ := (buffered.holds_iff slot).mp held
  rcases side with before | beyond
  · -- Before the row there is the reserved slot only, and nothing is held there.
    exfalso
    rw [buffered.firstChunkSlot_eq layout] at before
    split at before
    · grind
    · omega
  · exact buffered.beyond_row layout held beyond

/-- With an accept noted, a chunk at the slot reserved for it counts as out of order too. -/
theorem outOfOrder_reserved (direct : base = startProgress + 1) (answered : accepted = true)
    (zero : 0 ∈ seen) :
    transfer.bufferedOutOfOrderCount = beyondGap seen + 1 := by
  have shifted := buffered.firstChunkSlot_eq layout
  rw [if_pos ⟨direct, answered⟩] at shifted
  -- On one side is the reserved slot, on the other the chunks beyond the gap.
  have sides : (heldSlots transfer.chunks).filter (fun slot =>
      slot < transfer.firstChunkSlot ∨ transfer.expectedChunkProgress < slot) =
      insert base ((chunksBeyondGap seen).image (base + ·)) := by
    ext slot
    rw [Finset.mem_filter, ← transfer.holds_iff, Finset.mem_insert]
    constructor
    · rintro ⟨held, before | beyond⟩
      · have above := ((buffered.holds_iff slot).mp held).1
        exact .inl (by omega)
      · exact .inr (buffered.beyond_row layout held beyond)
    · rintro (same | member)
      · subst same
        refine ⟨(buffered.holds_iff slot).mpr ⟨Nat.le_refl _, ?_⟩, .inl (by omega)⟩
        rw [Nat.sub_self]
        exact zero
      · obtain ⟨index, inside, rfl⟩ := Finset.mem_image.mp member
        obtain ⟨arrived, beyond⟩ := mem_chunksBeyondGap.mp inside
        refine ⟨(buffered.holds_iff _).mpr ⟨Nat.le_add_right _ _, ?_⟩,
          .inr (buffered.expected_lt layout zero beyond)⟩
        rw [Nat.add_sub_cancel_left]
        exact arrived
  -- The first chunk is beyond nothing.
  have apart : base ∉ (chunksBeyondGap seen).image (base + ·) := by
    grind [mem_chunksBeyondGap]
  rw [buffered.outOfOrder_eq layout first next, sides, Finset.card_insert_of_notMem apart,
    Finset.card_image_of_injective _ (add_right_injective base)]
  rfl

end

/-- A timely chunk is taken in, unless the one at the reserved slot leaves no room for it. -/
theorem takeChunk (piece : pieces[index]? = some data)
    (timely : Timely policy base pieces.length seen index)
    (spared : base = startProgress + 1 → accepted = true → Spared policy seen index)
    (token : String) :
    ∃ taken, transfer.takeChunk policy token (base + index) data = .ok taken ∧
      Buffered declared pieces base accepted (seen ++ [index]) taken := by
  obtain ⟨below, -⟩ := List.getElem?_eq_some_iff.mp piece
  have passes := buffered.passes layout below timely
  have found := buffered.held (base + index)
  rw [Nat.add_sub_cancel_left, piece] at found
  -- Data that is held already is the same piece.
  by_cases again : index ∈ seen
  · rw [if_pos ⟨Nat.le_add_right _ _, again⟩] at found
    exact ⟨transfer, transfer.takeChunk_repeated passes token found, buffered.repeated again⟩
  · rw [if_neg fun inside => again inside.2] at found
    obtain ⟨taken, first, next⟩ := buffered.fresh layout piece
    refine ⟨_, transfer.takeChunk_fresh passes token found ?_, taken⟩
    intro ahead
    -- The piece at the old frontier is still missing, so the new one is beyond a missing one.
    have counted : 0 < beyondGap (seen ++ [index]) := by
      obtain ⟨above, missing⟩ := buffered.expected_missing layout
      apply Finset.card_pos.mpr
      refine ⟨index, mem_chunksBeyondGap.mpr
        ⟨by simp, transfer.expectedChunkProgress - base, by omega, ?_⟩⟩
      rw [List.mem_append, List.mem_singleton]
      rintro (older | newest)
      · exact missing older
      · omega
    have room := timely.buffered
    by_cases reserved : base = startProgress + 1 ∧ accepted = true ∧ 0 ∈ seen ++ [index]
    · obtain ⟨direct, answered, zero⟩ := reserved
      rw [taken.outOfOrder_reserved layout first next direct answered zero]
      rcases spared direct answered zero with none | fewer
      · omega
      · omega
    · have within := taken.outOfOrder_le layout first next
        fun direct answered zero => reserved ⟨direct, answered, zero⟩
      omega

theorem takeChunk_crowded (piece : pieces[index]? = some data)
    (timely : Timely policy base pieces.length seen index) (direct : base = startProgress + 1)
    (answered : accepted = true) (zero : 0 ∈ seen) (unseen : index ∉ seen)
    (beyond : ∃ missing < index, missing ∉ seen)
    (full : policy.maxOutOfOrderChunks ≤ beyondGap (seen ++ [index])) (token : String) :
    ∃ fault, transfer.takeChunk policy token (base + index) data = .error fault := by
  -- The chunk passes the checks of its slot, and fails on the count alone.
  obtain ⟨below, -⟩ := List.getElem?_eq_some_iff.mp piece
  have passes := buffered.passes layout below timely
  have found := buffered.held (base + index)
  rw [Nat.add_sub_cancel_left, if_neg fun inside => unseen inside.2] at found
  obtain ⟨taken, first, next⟩ := buffered.fresh layout piece
  have count := taken.outOfOrder_reserved layout first next direct answered
    (List.mem_append_left _ zero)
  have ahead := buffered.expected_lt layout zero beyond
  have crowded : policy.maxOutOfOrderChunks <
    (transfer.buffering (base + index) data).bufferedOutOfOrderCount := by omega
  have skipping := passes.not_skipping
  obtain ⟨above, window, limit, -⟩ := passes
  simp only [ActiveTransfer.takeChunk, found]
  rw [if_neg (by omega), if_neg (by omega), if_neg (by omega), if_neg skipping, if_pos]
  · exact ⟨_, rfl⟩
  · exact ⟨by omega, crowded⟩

end

theorem chunkCount_eq (complete : ∀ index < pieces.length, index ∈ seen) :
    transfer.chunkCount = pieces.length := by
  -- All pieces were seen, and nothing else was.
  have all : seen.toFinset = Finset.range pieces.length := by
    ext index
    rw [List.mem_toFinset, Finset.mem_range]
    exact ⟨buffered.known index, complete index⟩
  have cards := card_heldSlots transfer.chunks
  rw [buffered.heldSlots_eq, Finset.card_image_of_injective _ (add_right_injective base), all,
    Finset.card_range] at cards
  exact cards.symm

section

variable (layout : Layout declared pieces base accepted)
  (complete : ∀ index < pieces.length, index ∈ seen)
include layout complete

/-- Once every piece was seen, the pieces are put together in their order. -/
theorem assemble :
    transfer.assemble = some (String.join pieces) := by
  have small := layout.small
  have start := buffered.startProgress_eq layout
  have total := buffered.totalChunks_eq layout
  have direct : u64Add startProgress 1 = startProgress + 1 := rfl
  have gated : u64Add startProgress 2 = startProgress + 2 := rfl
  have origin : startProgress = 1 := rfl
  have bases : base = startProgress + 1 ∨ base = startProgress + 2 := layout.base.imp_right (·.1)
  -- Every piece is at its slot.
  have full (index : Nat) (below : index < pieces.length) :
      transfer.chunks.lookup (u64Add base index) = pieces[index]? := by
    rw [u64Add_eq (by omega), buffered.held, Nat.add_sub_cancel_left,
      if_pos ⟨Nat.le_add_right _ _, complete index below⟩]
  have range : transfer.hasCompleteChunkRange base = true := by
    rw [hasCompleteChunkRange, List.all_eq_true]
    intro index member
    rw [total, List.mem_range] at member
    rw [holds, full index member, List.getElem?_eq_getElem member]
    rfl
  have resolved : transfer.assemblyFirstChunkProgress = some base := by
    simp only [assemblyFirstChunkProgress, start, direct, gated]
    rcases bases with first | second
    · rw [← first, if_pos range]
    · -- The slot before the first chunk is empty, so the pieces are not taken from there.
      have empty : transfer.hasCompleteChunkRange (startProgress + 1) = false := by
        rw [hasCompleteChunkRange, List.all_eq_false]
        refine ⟨0, ?_, ?_⟩
        · rw [total, List.mem_range]
          exact layout.nonempty
        · rw [u64Add_eq (by omega), buffered.holds_iff]
          omega
      rw [← second, empty, range]
      rfl
  have read : (List.range transfer.totalChunks).mapM (fun index =>
      transfer.chunks.lookup (u64Add base index)) = some pieces := by grind [mapM_range_eq_some]
  rw [ActiveTransfer.assemble, resolved, Option.bind_some, read]
  rfl

/-- A transfer that holds all the pieces of a text ends with the message that the text is. -/
theorem finish {primitives : TransferPrimitives} {serialized : String} {message : JsonRpcMessage}
    (joined : String.join pieces = serialized)
    (bytes : declared.totalBytes = serialized.utf8ByteSize)
    (digest : declared.digest = sha256Digest primitives serialized)
    (parsed : validateAndParseOversized primitives.serde serialized policy.maxTransferBytes =
      some message) (token : String) :
    transfer.finish primitives policy token (base + pieces.length) = .ok message := by
  have highest := buffered.highest
  have total := buffered.totalChunks_eq layout
  have count := buffered.chunkCount_eq complete
  have put := buffered.assemble layout complete
  have sizes : transfer.totalBytes = serialized.utf8ByteSize :=
    (congrArg Declaration.totalBytes buffered.declaration).trans bytes
  have digests : transfer.digest = sha256Digest primitives serialized :=
    (congrArg Declaration.digest buffered.declaration).trans digest
  -- Each check meets what the sender declared.
  unfold ActiveTransfer.finish
  rw [if_neg (by omega), if_neg (by omega), if_neg (by omega), put, joined]
  simp only [ActiveTransfer.conclude, sizes, digests, parsed, ne_eq, not_true_eq_false, if_false]

end

end

theorem empty (declaration : transfer.declaration = declared)
    (acceptance : transfer.acceptProgress.isSome = accepted) (chunks : transfer.chunks = ∅)
    (next : transfer.nextExpectedChunkProgress = none)
    (highest : transfer.highestObservedProgress < base + pieces.length) :
    Buffered declared pieces base accepted [] transfer := by
  have nothing (slot : Nat) : transfer.holds slot = false := by
    rw [holds, chunks]
    rfl
  refine ⟨declaration, acceptance, by simp, ?_, ?_, highest⟩
  · simp_all
  · rw [expectedChunkProgress, next]
    exact ⟨Nat.le_refl _, fun slot above below => absurd below (Nat.not_lt.mpr above), nothing _⟩

end Buffered

end ContextVm
