import ContextVm.Oversized.Memory

/-! Transfers of different tokens leave each other alone, whatever the frames of the others do. -/

namespace ContextVm

/-- A notification with the time at which it arrives. -/
abbrev FrameArrival := Nat × JsonRpcNotification

/-- The notifications of two senders in the order of their arrival. -/
abbrev Interleaving := List (FrameArrival ⊕ FrameArrival)

namespace Interleaving

/-- All notifications, whoever sent them. -/
def arrivals (frames : Interleaving) : List FrameArrival := frames.map (Sum.elim id id)

/-- The notifications of the first sender alone. -/
def own (frames : Interleaving) : List FrameArrival := frames.filterMap Sum.getLeft?

/-- The notifications of the second sender alone. -/
def foreign (frames : Interleaving) : List FrameArrival := frames.filterMap Sum.getRight?

end Interleaving

namespace OversizedTransferReceiver

variable {tokens : Set String} {alone joint : OversizedTransferReceiver}

/-- The token of the transfer a notification is for, if it carries a well-formed frame. -/
def frameToken (serde : SerdeJson) (notification : JsonRpcNotification) : Option String :=
  match decodeFrame serde notification with
  | .ok (some (token, _, _)) => some token
  | _ => none

/-- The receiver after some notifications. -/
def feed (primitives : TransferPrimitives) (receiver : OversizedTransferReceiver)
    (arrivals : List FrameArrival) : OversizedTransferReceiver :=
  arrivals.foldl (fun receiver arrival =>
    (receiver.processFrame primitives arrival.1 arrival.2).2) receiver

/-- The results for some notifications that are processed one after the other. -/
def feedOutcomes (primitives : TransferPrimitives) :
    OversizedTransferReceiver → List FrameArrival → List FrameOutcome
  | _, [] => []
  | receiver, (now, notification) :: rest =>
    let (outcome, after) := receiver.processFrame primitives now notification
    outcome :: feedOutcomes primitives after rest

/-- The results for the first sender's notifications while those of both are processed. -/
def ownOutcomes (primitives : TransferPrimitives) :
    OversizedTransferReceiver → Interleaving → List FrameOutcome
  | _, [] => []
  | receiver, .inl (now, notification) :: rest =>
    let (outcome, after) := receiver.processFrame primitives now notification
    outcome :: ownOutcomes primitives after rest
  | receiver, .inr (now, notification) :: rest =>
    ownOutcomes primitives (receiver.processFrame primitives now notification).2 rest

/-- Whether there is room for one more transfer at every notification. -/
def HasRoom (primitives : TransferPrimitives) :
    OversizedTransferReceiver → List FrameArrival → Prop
  | _, [] => True
  | receiver, (now, notification) :: rest =>
    receiver.activeTransferCount < receiver.policy.maxConcurrentTransfers ∧
      HasRoom primitives (receiver.processFrame primitives now notification).2 rest

/-- What two receivers have in common when one of them tracks the tokens of a set alone. -/
structure AgreeOn (tokens : Set String) (alone joint : OversizedTransferReceiver) : Prop where
  policy : alone.policy = joint.policy
  inside : ∀ token ∈ tokens, alone.transfers.lookup token = joint.transfers.lookup token
  outside : ∀ token ∉ tokens, alone.transfers.lookup token = none

/-- The other receiver has no fewer transfers. -/
theorem AgreeOn.count_le (agree : AgreeOn tokens alone joint) :
    alone.activeTransferCount ≤ joint.activeTransferCount := by
  -- The tokens of the one are among those of the other, and none of them is there twice.
  have among : alone.transfers.keys ⊆ joint.transfers.keys := by
    intro token member
    rw [← AList.mem_keys, ← AList.lookup_isSome] at member ⊢
    by_cases within : token ∈ tokens
    · rw [← agree.inside token within]
      exact member
    · simp [agree.outside token within] at member
  have shorter := (List.subperm_of_subset alone.transfers.keys_nodup among).length_le
  rw [Lru.length_keys, Lru.length_keys] at shorter
  exact shorter

/-- What a frame returns and leaves for its token depends on it alone, where there is room. -/
theorem dispatchFrame_congr (primitives : TransferPrimitives)
    {left right : OversizedTransferReceiver} {token : String} (policy : left.policy = right.policy)
    (same : left.transfers.lookup token = right.transfers.lookup token)
    (leftRoom : left.activeTransferCount < left.policy.maxConcurrentTransfers)
    (rightRoom : right.activeTransferCount < right.policy.maxConcurrentTransfers) (now : Nat)
    (progress : Nat) (frame : OversizedFrame) :
    (left.dispatchFrame primitives now token progress frame).1 =
        (right.dispatchFrame primitives now token progress frame).1 ∧
      (left.dispatchFrame primitives now token progress frame).2.transfers.lookup token =
        (right.dispatchFrame primitives now token progress frame).2.transfers.lookup token := by
  -- A frame in the middle takes the transfer out and puts it back, or drops it.
  have settled (result : Except OversizedTransferError ActiveTransfer) :
      (left.settle token result).1 = (right.settle token result).1 ∧
        (left.settle token result).2.transfers.lookup token =
          (right.settle token result).2.transfers.lookup token := by
    cases result with
    | ok transfer => simp only [settle, lookup_track, if_true, and_self]
    | error fault => simp only [settle, lookup_remove, if_true, and_self]
  cases frame with
  | start digest totalBytes totalChunks =>
    -- The limit on the number of transfers is met by neither of them.
    have tracking : left.isTracking token = right.isTracking token := by
      rw [isTracking, isTracking, same]
    have leftFree : ¬ right.policy.maxConcurrentTransfers ≤ left.activeTransferCount := by grind
    simp only [dispatchFrame, handleStart, tracking, policy, if_neg leftFree,
      if_neg (Nat.not_le.mpr rightRoom)]
    split
    · exact ⟨rfl, same⟩
    split
    · exact ⟨rfl, same⟩
    split
    · exact ⟨rfl, same⟩
    split
    · exact ⟨rfl, same⟩
    · simp only [lookup_track, if_true, and_self]
  | accept => grind [dispatchFrame, handleAccept]
  | chunk data => grind [dispatchFrame, handleChunk]
  | end_ => grind [dispatchFrame, handleEnd, lookup_remove]
  | abort reason =>
    exact ⟨rfl, by simp only [dispatchFrame, handleAbort, lookup_remove, if_true]⟩

/-- No frame changes the policy. -/
theorem policy_processFrame (primitives : TransferPrimitives)
    (receiver : OversizedTransferReceiver) (now : Nat) (notification : JsonRpcNotification) :
    (receiver.processFrame primitives now notification).2.policy = receiver.policy := by
  unfold processFrame
  split
  · rfl
  · rfl
  · exact policy_dispatchFrame primitives receiver now _ _ _

section

variable (agree : AgreeOn tokens alone joint) (primitives : TransferPrimitives)
include agree

/-- A notification for a token of the set returns the same in both, and they go on agreeing. -/
theorem AgreeOn.own (room : joint.activeTransferCount < joint.policy.maxConcurrentTransfers)
    (now : Nat)
    {notification : JsonRpcNotification}
    (within : ∀ token ∈ frameToken primitives.serde notification, token ∈ tokens) :
    (alone.processFrame primitives now notification).1 =
        (joint.processFrame primitives now notification).1 ∧
      AgreeOn tokens (alone.processFrame primitives now notification).2
        (joint.processFrame primitives now notification).2 := by
  have policies : (alone.processFrame primitives now notification).2.policy =
      (joint.processFrame primitives now notification).2.policy := by
    rw [policy_processFrame, policy_processFrame, agree.policy]
  unfold processFrame at policies ⊢
  unfold frameToken at within
  cases decoded : decodeFrame primitives.serde notification with
  | error fault => exact ⟨rfl, agree⟩
  | ok brought =>
    cases brought with
    | none => exact ⟨rfl, agree⟩
    | some brought =>
      obtain ⟨token, progress, frame⟩ := brought
      simp only [decoded] at policies within ⊢
      have member : token ∈ tokens := within token rfl
      have aloneRoom : alone.activeTransferCount < alone.policy.maxConcurrentTransfers := by
        rw [agree.policy]
        exact Nat.lt_of_le_of_lt agree.count_le room
      obtain ⟨outcome, left⟩ := dispatchFrame_congr primitives agree.policy
        (agree.inside token member) aloneRoom room now progress frame
      refine ⟨outcome, policies, ?_, ?_⟩
      · intro other inside
        by_cases here : other = token
        · rw [here]
          exact left
        · rw [lookup_dispatchFrame_other primitives alone now progress frame here,
            lookup_dispatchFrame_other primitives joint now progress frame here]
          exact agree.inside other inside
      · intro other beyond
        -- What is not in the set is not the token of this frame.
        have different : other ≠ token := by grind
        rw [lookup_dispatchFrame_other primitives alone now progress frame different]
        exact agree.outside other beyond

/-- A notification for no token of the set changes nothing they agree on. -/
theorem AgreeOn.foreign (now : Nat) {notification : JsonRpcNotification}
    (without : ∀ token ∈ frameToken primitives.serde notification, token ∉ tokens) :
    AgreeOn tokens alone (joint.processFrame primitives now notification).2 := by
  refine ⟨?_, ?_, agree.outside⟩
  · rw [policy_processFrame]
    exact agree.policy
  · intro token member
    unfold processFrame
    unfold frameToken at without
    cases decoded : decodeFrame primitives.serde notification with
    | error fault => exact agree.inside token member
    | ok brought =>
      cases brought with
      | none => exact agree.inside token member
      | some brought =>
        obtain ⟨named, progress, frame⟩ := brought
        simp only [decoded] at without ⊢
        have different : token ≠ named := by grind
        rw [lookup_dispatchFrame_other primitives joint now progress frame different]
        exact agree.inside token member

/-- Two receivers that agree go on agreeing while one is fed with both senders' notifications. -/
theorem AgreeOn.run {frames : Interleaving}
    (inside : ∀ arrival ∈ frames.own, ∀ token ∈ frameToken primitives.serde arrival.2,
      token ∈ tokens)
    (outside : ∀ arrival ∈ frames.foreign, ∀ token ∈ frameToken primitives.serde arrival.2,
      token ∉ tokens) (room : joint.HasRoom primitives frames.arrivals) :
    joint.ownOutcomes primitives frames = alone.feedOutcomes primitives frames.own ∧
      AgreeOn tokens (alone.feed primitives frames.own)
        (joint.feed primitives frames.arrivals) := by
  -- Notification by notification, where only those of the first sender move both receivers.
  induction frames generalizing alone joint with
  | nil => exact ⟨rfl, agree⟩
  | cons frame rest ih =>
    cases frame with
    | inl arrival =>
      have head : ∀ token ∈ frameToken primitives.serde arrival.2, token ∈ tokens :=
        inside arrival List.mem_cons_self
      obtain ⟨outcome, after⟩ := agree.own primitives room.1 arrival.1 head
      obtain ⟨outcomes, final⟩ := ih after
        (fun other member => inside other (List.mem_cons_of_mem _ member)) outside room.2
      exact ⟨List.cons_eq_cons.mpr ⟨outcome.symm, outcomes⟩, final⟩
    | inr arrival =>
      have head : ∀ token ∈ frameToken primitives.serde arrival.2, token ∉ tokens :=
        outside arrival List.mem_cons_self
      exact ih (agree.foreign primitives arrival.1 head) inside
        (fun other member => outside other (List.mem_cons_of_mem _ member)) room.2

end

/--
The transfers of a set of tokens come out as if nobody else had sent anything.

The notifications of the second sender may be of any kind, as long as they open no transfer in the
set and leave room for those that do.
-/
theorem transfers_isolated (primitives : TransferPrimitives) (policy : TransferPolicy)
    (tokens : Set String) (frames : Interleaving)
    (inside : ∀ arrival ∈ frames.own, ∀ token ∈ frameToken primitives.serde arrival.2,
      token ∈ tokens)
    (outside : ∀ arrival ∈ frames.foreign, ∀ token ∈ frameToken primitives.serde arrival.2,
      token ∉ tokens)
    (room : (withPolicy policy).HasRoom primitives frames.arrivals) :
    (withPolicy policy).ownOutcomes primitives frames =
        (withPolicy policy).feedOutcomes primitives frames.own ∧
      ∀ token ∈ tokens,
        ((withPolicy policy).feed primitives frames.arrivals).transfers.lookup token =
          ((withPolicy policy).feed primitives frames.own).transfers.lookup token := by
  -- Before anything arrives, neither receiver tracks a transfer.
  have start : AgreeOn tokens (withPolicy policy) (withPolicy policy) :=
    ⟨rfl, fun _ _ => rfl, fun _ _ => rfl⟩
  obtain ⟨outcomes, agree⟩ := start.run primitives inside outside room
  exact ⟨outcomes, fun token member => (agree.inside token member).symm⟩

/-- A ping in two chunks, among an aborted transfer and frames that are out of place. -/
def pingAmongOthers : Interleaving :=
  let frame (frame : OversizedFrame) (token : String) (progress : UInt64) : JsonRpcNotification :=
    frame.intoProgressNotification token progress none
  [.inr (0, frame (.start pingDigest 33 1) "other" 1),
    .inl (1, frame (.start pingDigest 33 2) "ping-1" 1),
    .inr (2, frame (.chunk "late") "other" 9),
    .inl (3, frame (.chunk "\x7b\"jsonrpc\":\"2.0\",") "ping-1" 2),
    .inr (4, frame (.abort none) "other" 3),
    .inl (5, frame (.chunk "\"method\":\"ping\"\x7d") "ping-1" 3),
    .inr (6, frame .end_ "" 4),
    .inl (7, frame .end_ "ping-1" 4)]

/-- The ping is returned as if it had been sent alone. -/
theorem transfers_isolated_ping :
    (withPolicy .default).feedOutcomes pingPrimitives pingAmongOthers.own =
        [.ok none, .ok none, .ok none, .ok (some (.notification ⟨"2.0", "ping", none⟩))] ∧
      (withPolicy .default).ownOutcomes pingPrimitives pingAmongOthers =
        (withPolicy .default).feedOutcomes pingPrimitives pingAmongOthers.own := by
  refine ⟨by decide, ?_⟩
  exact (transfers_isolated pingPrimitives .default {token | token = "ping-1"} pingAmongOthers
    (by decide) (by decide)
    ⟨by decide, by decide, by decide, by decide, by decide, by decide, by decide, by decide,
      trivial⟩).1

end OversizedTransferReceiver

end ContextVm
