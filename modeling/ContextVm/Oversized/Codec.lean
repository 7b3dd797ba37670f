import ContextVm.Core.Hex
import ContextVm.Lib.Greedy
import ContextVm.Oversized.Frame

/-! Splitting a serialized message into the ordered frames of a transfer. -/

namespace ContextVm

/-- What every digest starts with. -/
def digestPrefix : String := "sha256:"

/-- The progress of the opening frame. -/
def startProgress : Nat := 1

/-- The progress reserved for the receiver's answer to it. -/
def acceptProgress : Nat := 2

/-- What a transfer takes as given: the JSON library and the hash. -/
structure TransferPrimitives where
  serde : SerdeJson
  -- The SHA-256 digest of the text's UTF-8 bytes.
  sha256 : String → List UInt8

/-- The digest of a text, as an opening frame declares it. -/
def sha256Digest (primitives : TransferPrimitives) (value : String) : String :=
  digestPrefix ++ hexEncode (primitives.sha256 value)

/-- Go on splitting, with the pieces cut off so far and the one being filled. -/
def splitLoop (maxBytes : Nat) :
    List Char → List String → String → Nat → Except OversizedTransferError (List String)
  | [], chunks, current, _ => .ok (if current = "" then chunks else chunks ++ [current])
  | char :: rest, chunks, current, currentBytes =>
    let charBytes := char.utf8Size
    if maxBytes < charBytes then
      .error (.policy ("Unable to split message: single character exceeds chunk size (" ++
        toString charBytes ++ " > " ++ toString maxBytes ++ ")"))
    -- A piece that would overflow is cut off before the character.
    else if 0 < currentBytes ∧ maxBytes < currentBytes + charBytes then
      splitLoop maxBytes rest (chunks ++ [current]) ("".push char) charBytes
    else splitLoop maxBytes rest chunks (current.push char) (currentBytes + charBytes)

/-- Split a text into pieces of bounded size, never through a character. -/
def splitStringByByteSize (value : String) (maxBytes : Nat) :
    Except OversizedTransferError (List String) :=
  if maxBytes = 0 then .error (.policy "chunk_size_bytes must be greater than zero")
  else splitLoop maxBytes value.toList [] "" 0

/-- How a sender lays out a transfer. -/
structure OversizedSenderOptions where
  progressToken : String
  chunkSizeBytes : Nat
  -- Whether the receiver's answer has a slot of its own before the chunks.
  needsAcceptHandshake : Bool

/-- The frames of one transfer, in the order they are sent. -/
structure BuiltOversizedFrames where
  start : JsonRpcNotification
  chunks : List JsonRpcNotification
  end_ : JsonRpcNotification

/-- The slot of the first chunk. -/
def chunkBaseProgress (needsAcceptHandshake : Bool) : Nat :=
  if needsAcceptHandshake then acceptProgress + 1 else acceptProgress

/-- The frame of one piece at its slot. -/
def chunkFrame (options : OversizedSenderOptions) (index : Nat) (data : String) :
    JsonRpcNotification :=
  (OversizedFrame.chunk data).intoProgressNotification options.progressToken
    (UInt64.ofNat (chunkBaseProgress options.needsAcceptHandshake + index)) none

/-- Build the frames of a serialized message. -/
def buildOversizedFrames (primitives : TransferPrimitives) (serialized : String)
    (options : OversizedSenderOptions) : Except OversizedTransferError BuiltOversizedFrames :=
  (splitStringByByteSize serialized options.chunkSizeBytes).map fun textChunks =>
    { start := (OversizedFrame.start (sha256Digest primitives serialized)
        (UInt64.ofNat serialized.utf8ByteSize)
        (UInt64.ofNat textChunks.length)).intoProgressNotification options.progressToken
        (UInt64.ofNat startProgress) (some "starting oversized transfer")
      chunks := textChunks.mapIdx (chunkFrame options)
      end_ := OversizedFrame.end_.intoProgressNotification options.progressToken
        (UInt64.ofNat (chunkBaseProgress options.needsAcceptHandshake + textChunks.length))
        (some "oversized transfer complete") }

/-- The frames of a message are made from the pieces its text splits into. -/
theorem buildOversizedFrames_ok {primitives : TransferPrimitives} {serialized : String}
    {options : OversizedSenderOptions} {frames : BuiltOversizedFrames}
    (built : buildOversizedFrames primitives serialized options = .ok frames) :
    ∃ pieces, splitStringByByteSize serialized options.chunkSizeBytes = .ok pieces ∧
      frames.start = (OversizedFrame.start (sha256Digest primitives serialized)
        (UInt64.ofNat serialized.utf8ByteSize)
        (UInt64.ofNat pieces.length)).intoProgressNotification options.progressToken
        (UInt64.ofNat startProgress) (some "starting oversized transfer") ∧
      frames.chunks = pieces.mapIdx (chunkFrame options) ∧
      frames.end_ = OversizedFrame.end_.intoProgressNotification options.progressToken
        (UInt64.ofNat (chunkBaseProgress options.needsAcceptHandshake + pieces.length))
        (some "oversized transfer complete") := by
  -- Splitting is the only part that can fail.
  unfold buildOversizedFrames at built
  cases split : splitStringByByteSize serialized options.chunkSizeBytes with
  | ok pieces =>
    rw [split] at built
    cases built
    exact ⟨pieces, rfl, rfl, rfl, rfl⟩
  | error fault =>
    rw [split] at built
    cases built

/-- The pieces of a split put together are the text that was split. -/
theorem splitLoop_join {maxBytes : Nat} {chars : List Char} {chunks pieces : List String}
    {current : String} {currentBytes : Nat}
    (split : splitLoop maxBytes chars chunks current currentBytes = .ok pieces) :
    String.join pieces = String.join chunks ++ current ++ String.ofList chars := by
  -- What is cut off, what is being filled, and what is left always make up the whole text.
  induction chars generalizing chunks current currentBytes with
  | nil =>
    simp only [splitLoop, Except.ok.injEq] at split
    subst split
    split
    · simp_all
    · simp [String.join_append]
  | cons char rest ih =>
    simp only [splitLoop] at split
    split at split
    · cases split
    · split at split
      · -- The piece being filled is cut off, and the character opens the next one.
        rw [ih split]
        simp [← String.toList_inj]
      · rw [ih split]
        simp [← String.toList_inj]

theorem splitStringByByteSize_join {value : String} {maxBytes : Nat} {pieces : List String}
    (split : splitStringByByteSize value maxBytes = .ok pieces) : String.join pieces = value := by
  unfold splitStringByByteSize at split
  split at split
  · cases split
  · simpa using splitLoop_join split

/-! Pieces that are filled as far as they go are as few as can be. -/

/-- Pieces that are not empty and not too long, and have no room for what comes next. -/
structure Filled (maxBytes : Nat) (pieces : List String) : Prop where
  sized : ∀ piece ∈ pieces, piece ≠ "" ∧ piece.utf8ByteSize ≤ maxBytes
  full : pieces.IsChain fun piece next =>
    ∀ char ∈ next.toList.head?, maxBytes < (piece.push char).utf8ByteSize

variable {maxBytes : Nat} {chunks pieces : List String} {current : String}

theorem Filled.push (filled : Filled maxBytes (chunks ++ [current])) {char : Char}
    (fits : current.utf8ByteSize + char.utf8Size ≤ maxBytes) :
    Filled maxBytes (chunks ++ [current.push char]) := by
  obtain ⟨sized, full⟩ := filled
  have opened := (sized current (by simp)).1
  refine ⟨?_, ?_⟩
  · simp only [List.mem_append, List.mem_singleton] at sized ⊢
    rintro piece (earlier | rfl)
    · exact sized piece (.inl earlier)
    · exact ⟨by simp, by rwa [String.utf8ByteSize_push]⟩
  · rw [List.isChain_append] at full ⊢
    refine ⟨full.1, .singleton _, ?_⟩
    -- A piece that is longer begins as it did.
    intro last among next same
    obtain ⟨first, rest, begins⟩ :=
      List.exists_cons_of_ne_nil (mt String.toList_eq_nil_iff.mp opened)
    have before := full.2.2 last among current rfl
    cases same
    simpa [begins] using before

theorem Filled.cut (filled : Filled maxBytes (chunks ++ [current])) {char : Char}
    (small : char.utf8Size ≤ maxBytes) (past : maxBytes < current.utf8ByteSize + char.utf8Size) :
    Filled maxBytes (chunks ++ [current] ++ ["".push char]) := by
  obtain ⟨sized, full⟩ := filled
  refine ⟨?_, ?_⟩
  · intro piece member
    rcases List.mem_append.mp member with earlier | last
    · exact sized piece earlier
    · simp_all
  · simp_all

theorem splitLoop_filled {chars : List Char} {currentBytes : Nat}
    (size : currentBytes = current.utf8ByteSize)
    (filled : current = "" ∧ chunks = [] ∨ Filled maxBytes (chunks ++ [current]))
    (split : splitLoop maxBytes chars chunks current currentBytes = .ok pieces) :
    Filled maxBytes pieces := by
  induction chars generalizing chunks current currentBytes with
  | nil =>
    cases split
    rcases filled with ⟨rfl, rfl⟩ | filled
    · exact ⟨by simp, .nil⟩
    · rwa [if_neg (filled.sized current (by simp)).1]
  | cons char rest ih =>
    simp only [splitLoop] at split
    split at split
    · cases split
    · rename_i small
      split at split
      · rename_i past
        refine ih (by simp) (.inr ?_) split
        rcases filled with ⟨rfl, rfl⟩ | filled
        · simp [size] at past
        · exact filled.cut (by omega) (by omega)
      · rename_i fits
        refine ih (by simp [size]) (.inr ?_) split
        rcases filled with ⟨rfl, rfl⟩ | filled
        · exact ⟨by simpa using small, .singleton _⟩
        · have opened := (filled.sized current (by simp)).1
          have positive : 0 < current.utf8ByteSize :=
            Nat.pos_of_ne_zero (mt String.utf8ByteSize_eq_zero_iff.mp opened)
          exact filled.push (by omega)

theorem splitLoop_isOk {chars : List Char} {currentBytes : Nat} :
    (splitLoop maxBytes chars chunks current currentBytes).isOk = true ↔
      ∀ char ∈ chars, char.utf8Size ≤ maxBytes := by
  induction chars generalizing chunks current currentBytes with
  | nil => simp [splitLoop, Except.isOk, Except.toBool]
  | cons char rest ih =>
    simp only [splitLoop, List.forall_mem_cons]
    split
    · simp [Except.isOk, Except.toBool]
      omega
    · grind

theorem splitStringByByteSize_filled {value : String}
    (split : splitStringByByteSize value maxBytes = .ok pieces) : Filled maxBytes pieces := by
  unfold splitStringByByteSize at split
  split at split
  · cases split
  · exact splitLoop_filled rfl (.inl ⟨rfl, rfl⟩) split

theorem splitStringByByteSize_length {value : String} {maxBytes : Nat} {pieces : List String}
    (split : splitStringByByteSize value maxBytes = .ok pieces) :
    pieces.length ≤ value.utf8ByteSize + 1 := by
  have filled := splitStringByByteSize_filled split
  rw [← splitStringByByteSize_join split]
  clear split
  -- Every piece takes one byte at least.
  induction pieces with
  | nil => exact Nat.zero_le _
  | cons piece rest ih =>
    have others := ih ⟨fun other member => filled.sized other (.tail _ member), filled.full.tail⟩
    have one := mt String.utf8ByteSize_eq_zero_iff.mp (filled.sized piece List.mem_cons_self).1
    rw [String.join_cons, String.utf8ByteSize_append, List.length_cons]
    omega

/-- Whether the pieces of a text are as they should be. -/
structure ExactPieces (value : String) (maxBytes : Nat) (pieces : List String) : Prop extends
    Filled maxBytes pieces where
  joined : String.join pieces = value
  none : pieces = [] ↔ value = ""
  fewest : ∀ others, String.join others = value →
    (∀ other ∈ others, other.utf8ByteSize ≤ maxBytes) → pieces.length ≤ others.length

/-- What a splitting should come to. -/
def SplitsExactly (value : String) (maxBytes : Nat) :
    Except OversizedTransferError (List String) → Prop
  | .error _ => maxBytes = 0 ∨ ∃ char ∈ value.toList, maxBytes < char.utf8Size
  | .ok pieces => maxBytes ≠ 0 ∧ (∀ char ∈ value.toList, char.utf8Size ≤ maxBytes) ∧
    ExactPieces value maxBytes pieces

theorem Filled.fewest (filled : Filled maxBytes pieces) (others : List String)
    (same : String.join others = String.join pieces)
    (bounded : ∀ other ∈ others, other.utf8ByteSize ≤ maxBytes) :
    pieces.length ≤ others.length := by
  have greedy : Greedy (fun chars => (String.ofList chars).utf8ByteSize) maxBytes
      (pieces.map String.toList) := by
    rw [Greedy, List.isChain_map]
    simpa [← String.push_eq_append] using filled.full
  have shorter := greedy.length_le (by simp) (others.map String.toList)
    (by simpa using fun piece member => (filled.sized piece member).1) (by simpa using bounded)
    (by simp [← List.flatMap_def, ← String.toList_join, same])
  simpa using shorter

/-- A splitting is exact, and no splitting into pieces of that size is shorter. -/
theorem splitStringByByteSize_exact (value : String) (maxBytes : Nat) :
    SplitsExactly value maxBytes (splitStringByByteSize value maxBytes) := by
  by_cases zero : maxBytes = 0
  · rw [splitStringByByteSize, if_pos zero]
    exact .inl zero
  · have passes : (splitLoop maxBytes value.toList [] "" 0).isOk = true ↔ _ := splitLoop_isOk
    have loop : splitStringByByteSize value maxBytes = _ := if_neg zero
    rw [← loop] at passes
    cases split : splitStringByByteSize value maxBytes with
    | error fault =>
      rw [split] at passes
      refine .inr ?_
      simpa [Except.isOk, Except.toBool] using passes
    | ok pieces =>
      rw [split] at passes
      have joined := splitStringByByteSize_join split
      have filled := splitStringByByteSize_filled split
      refine ⟨zero, passes.mp rfl, filled, joined, ?_, ?_⟩
      · constructor
        · rintro rfl
          exact joined.symm
        · rintro rfl
          -- The empty text can do without any piece.
          exact List.eq_nil_of_length_eq_zero
            (Nat.le_zero.mp (filled.fewest [] joined.symm (by simp)))
      · intro others same bounded
        exact filled.fewest others (same.trans joined.symm) bounded

end ContextVm
