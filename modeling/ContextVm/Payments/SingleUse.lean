import ContextVm.Payments.StoreHistory

/-! The single-use guarantees of the authorization store, over every history of its calls. -/

namespace ContextVm

open AuthorizationStore StoreCall

namespace StoreCall

variable {call : StoreCall} {id : CanonicalInvocationIdentity}

/-- A grant still there after a call is the one the call made, or an older one no claim has met. -/
theorem grant_after {expiry : Nat} (held : (call.after.cell id).grant = some expiry) :
    (∃ ttlMs, call.id = id ∧ call.op = .grant ttlMs ∧
        expiry = call.now + Duration.fromMillis ttlMs) ∨
      (call.grants id = false ∧ call.succeeds id = false ∧
        (call.before.cell id).grant = some expiry) := by
  by_cases own : call.id = id
  · subst own
    rw [grant_after_self] at held
    -- Only a grant writes, the two claims always remove, and the rest leaves the entry alone.
    cases op : call.op with
    | grant ttlMs => grind
    | claim | claimOrSetPending ttlMs => simp [op] at held
    | _ =>
      simp only [op] at held
      exact .inr ⟨by simp [grants, op], by simp [succeeds, op], held⟩
  · -- A call on another identity can at most push the grant out.
    refine .inr ⟨by simp [grants, own], by simp [succeeds, own], ?_⟩
    rw [after, call.before.cell_perform_other call.now call.op (Ne.symm own)] at held
    split at held
    · cases held
    · exact held

/-- A claim that succeeds uses up a live grant. -/
theorem succeeds_spec (won : call.succeeds id = true) :
    (∃ expiry, (call.before.cell id).grant = some expiry ∧ call.now ≤ expiry) ∧
      (call.after.cell id).grant = none ∧ call.grants id = false := by
  have own : call.id = id := by
    simp only [succeeds, Bool.and_eq_true, decide_eq_true_eq] at won
    exact won.1
  subst own
  rw [succeeds_self] at won
  rw [grant_after_self]
  -- Both claiming operations succeed on a live grant, and remove what they met.
  cases op : call.op with
  | claim | claimOrSetPending ttlMs =>
    rw [op] at won
    exact ⟨live_iff.mp won, rfl, by simp [grants, op]⟩
  | _ => simp [op] at won

/-- Only what is not pending becomes pending. -/
theorem setsPending_spec (entered : call.setsPending id = true) :
    ¬ live call.now (call.before.cell id).pending = true := by
  simp only [setsPending, Bool.and_eq_true, decide_eq_true_eq] at entered
  obtain ⟨own, answered⟩ := entered
  subst own
  intro current
  -- With a live entry, both operations answer that the identity is already pending.
  cases op : call.op with
  | trySetPending ttlMs => simp [op, reply_eq, Cell.perform, current] at answered
  | claimOrSetPending ttlMs => grind [reply_eq, Cell.perform]
  -- The other operations never enter the pending state.
  | _ => simp [op] at answered

/-- It is pending then. -/
theorem setsPending_after (entered : call.setsPending id = true) :
    ∃ expiry, (call.after.cell id).pending = some expiry := by
  have vacant := setsPending_spec entered
  simp only [setsPending, Bool.and_eq_true, decide_eq_true_eq] at entered
  obtain ⟨own, answered⟩ := entered
  subst own
  rw [after_self]
  -- The entry that was found is not live, so both operations write one.
  cases op : call.op with
  | trySetPending ttlMs => exact ⟨_, by simp [Cell.perform, vacant]; rfl⟩
  | claimOrSetPending ttlMs => grind [reply_eq, Cell.perform]
  -- The other operations never enter the pending state.
  | _ => simp [op] at answered

/-- There was no live grant, and nothing pending. -/
theorem entered_pendingSet (entered : call.reply = .entered .pendingSet) :
    ¬ live call.now (call.before.cell call.id).grant = true ∧
      ¬ live call.now (call.before.cell call.id).pending = true := by
  rw [reply_eq] at entered
  -- The answer is the last of the three the entry sequence can give.
  cases op : call.op with
  | claimOrSetPending ttlMs => grind [Cell.perform]
  | trySetPending ttlMs => grind [Cell.perform]
  | _ => simp [op, Cell.perform] at entered

theorem authorizations_after (call : StoreCall) (ttlMs : Nat)
    (pendingOnly : call.op = .trySetPending ttlMs ∨ call.op = .updatePendingTtl ttlMs) :
    call.after.authorizations = call.before.authorizations := by
  -- Both operations update one field of the store, and it is the other one.
  rcases pendingOnly with op | op
  · simp only [after, op, AuthorizationStore.perform, AuthorizationStore.trySetPending, Prod.map]
    split <;> rfl
  · simp only [after, op, AuthorizationStore.perform, AuthorizationStore.updatePendingTtl]
    split <;> rfl

/-- An identity without a pending state lost it to this call, or did not have it before. -/
theorem pending_none_after (idle : (call.after.cell id).pending = none) :
    call.grants id = true ∨ call.clears id = true ∨ call.evictsPending id = true ∨
      ((call.before.cell id).pending = none ∧ call.setsPending id = false) := by
  -- On its own identity the operation decides, on another one only a full cache does.
  by_cases own : call.id = id
  · subst own
    rw [after_self] at idle
    cases op : call.op with
    | grant ttlMs => exact .inl (by simp [grants, op])
    | clearPending => exact .inr (.inl (by simp [clears, op]))
    | claim => grind [setsPending, Cell.perform]
    | updatePendingTtl ttlMs => grind [setsPending, Cell.perform]
    | getPendingRemainingMs => grind [setsPending, Cell.perform]
    | trySetPending ttlMs =>
      -- The entry is either kept or written, so it cannot be missing unless it was before.
      simp only [op, Cell.perform] at idle
      by_cases current : live call.now (call.before.cell call.id).pending
      · simp only [current, if_true] at idle
        simp [idle, live] at current
      · simp [current] at idle
    -- A claim leaves the pending state alone, and otherwise it is there afterwards.
    | claimOrSetPending ttlMs => grind [Cell.perform, setsPending, reply_eq, Bool.false_eq_true]
  · rw [after, call.before.cell_perform_other call.now call.op (Ne.symm own)] at idle
    simp only at idle
    split at idle
    · grind [evictsPending]
    · exact .inr (.inr (.inr ⟨idle, by simp [setsPending, own]⟩))

end StoreCall

/-- The last grant of an identity in a history, with no claim of it since. -/
def LastGrant (id : CanonicalInvocationIdentity) (expiry : Nat) (calls : List StoreCall) : Prop :=
  ∃ head granted between ttlMs, calls = head ++ granted :: between ∧ granted.id = id ∧
    granted.op = .grant ttlMs ∧ expiry = granted.now + Duration.fromMillis ttlMs ∧
    ∀ call ∈ between, call.grants id = false ∧ call.succeeds id = false

/-- Every stored grant is the last one of its identity, and no claim has met it. -/
theorem grant_lastGrant {maxEntries : Nat} {id : CanonicalInvocationIdentity}
    (requests : List StoreRequest) {expiry : Nat}
    (held : ((replay (.withMaxEntries maxEntries) requests).cell id).grant = some expiry) :
    LastGrant id expiry (record (.withMaxEntries maxEntries) requests) := by
  -- The induction is on the history, with the newest call at its end.
  induction requests using List.reverseRecOn generalizing expiry with
  | nil => simp [replay, cell, withMaxEntries] at held
  | append_singleton earlier request ih =>
    obtain ⟨newest, made, recorded, replayed⟩ :=
      record_concat (.withMaxEntries maxEntries) earlier request
    rw [replayed] at held
    rw [recorded]
    rw [← made] at ih
    -- Either the newest call made the grant, or an earlier one did and this call spared it.
    rcases grant_after held with ⟨ttlMs, own, granting, ends⟩ | ⟨noGrant, noClaim, older⟩
    · exact ⟨_, newest, [], ttlMs, rfl, own, granting, ends, by simp⟩
    · obtain ⟨head, granted, between, ttlMs, split, own, granting, ends, spared⟩ := ih older
      refine ⟨head, granted, between ++ [newest], ttlMs, by simp [split], own, granting, ends, ?_⟩
      intro call member
      rcases List.mem_append.mp member with inside | last
      · exact spared call inside
      · grind

/-- An identity that is no longer pending was granted, cleared, or pushed out since it last was. -/
theorem pending_none_since {maxEntries : Nat} {id : CanonicalInvocationIdentity}
    (requests : List StoreRequest) {head tail : List StoreCall} {first : StoreCall}
    (split : record (.withMaxEntries maxEntries) requests = head ++ first :: tail)
    (entered : first.setsPending id = true)
    (idle : ((replay (.withMaxEntries maxEntries) requests).cell id).pending = none) :
    ∃ call ∈ tail,
      call.grants id = true ∨ call.clears id = true ∨ call.evictsPending id = true := by
  -- The induction is on the history, until the transition is its newest call.
  induction requests using List.reverseRecOn generalizing tail with
  | nil => simp [record, history] at split
  | append_singleton earlier request ih =>
    obtain ⟨newest, made, recorded, replayed⟩ :=
      record_concat (.withMaxEntries maxEntries) earlier request
    rw [recorded] at split
    rw [replayed] at idle
    rw [← made] at ih
    rcases List.eq_nil_or_concat tail with rfl | ⟨rest, last, rfl⟩
    · -- The transition itself was the newest call, and it leaves the identity pending.
      have same := (List.append_inj' split rfl).2
      simp only [List.cons.injEq, and_true] at same
      rw [same] at idle
      obtain ⟨expiry, pending⟩ := setsPending_after entered
      simp [pending] at idle
    · have parts : record (.withMaxEntries maxEntries) earlier ++ [newest] =
          (head ++ first :: rest) ++ [last] := by simpa using split
      obtain ⟨older, same⟩ := List.append_inj' parts rfl
      simp only [List.cons.injEq, and_true] at same
      -- The newest call ended the pending state, or it was already over.
      rcases pending_none_after idle with granted | cleared | pushed | ⟨already, -⟩
      · exact ⟨newest, by simp [same], .inl granted⟩
      · exact ⟨newest, by simp [same], .inr (.inl cleared)⟩
      · exact ⟨newest, by simp [same], .inr (.inr pushed)⟩
      · grind

theorem cap_replay (maxEntries : Nat) (requests : List StoreRequest) :
    (replay (.withMaxEntries maxEntries) requests).authorizations.cap = max maxEntries 1 ∧
      (replay (.withMaxEntries maxEntries) requests).pending.cap = max maxEntries 1 := by
  -- No single call changes a capacity, so no history does.
  induction requests using List.reverseRecOn with
  | nil => exact ⟨rfl, rfl⟩
  | append_singleton earlier request ih =>
    obtain ⟨newest, made, -, replayed⟩ := record_concat (.withMaxEntries maxEntries) earlier request
    have kept := newest.before.cap_perform newest.now newest.id newest.op
    rw [← made] at ih
    rw [replayed]
    exact ⟨kept.1.trans ih.1, kept.2.trans ih.2⟩

/-- What a correct single-use authorization store does over a whole history. -/
structure SingleUse (maxEntries : Nat) (calls : List StoreCall) : Prop where
  -- Each claim consumes the last grant of its identity, live, that no other claim has met.
  distinct : ∀ id earlier call later, calls = earlier ++ call :: later →
    call.succeeds id = true → ∃ expiry, LastGrant id expiry earlier ∧ call.now ≤ expiry
  -- An identity is never claimed more often than it was granted.
  counted : ∀ id, calls.countP (StoreCall.succeeds id) ≤ calls.countP (StoreCall.grants id)
  -- The entry sequence turns to pending only without a live grant and a live pending state.
  vacant : ∀ call ∈ calls, call.reply = .entered .pendingSet →
    ¬ live call.now (call.before.cell call.id).grant = true ∧
      ¬ live call.now (call.before.cell call.id).pending = true
  -- Between two transitions to pending, the first one has come to an end.
  spaced : ∀ id head first between second later,
    calls = head ++ first :: (between ++ second :: later) →
    first.setsPending id = true → second.setsPending id = true →
    (∃ call ∈ between,
        call.grants id = true ∨ call.clears id = true ∨ call.evictsPending id = true) ∨
      ∃ expiry, (second.before.cell id).pending = some expiry ∧ expiry < second.now
  -- A call on one identity changes another only by pushing the oldest entry out of a full cache.
  framed : ∀ call ∈ calls, ∀ other, other ≠ call.id →
    call.after.cell other =
      ⟨if call.before.grantVictim call.id call.op = some other.key then none
        else (call.before.cell other).grant,
        if call.before.pendingVictim call.now call.id call.op = some other.key then none
        else (call.before.cell other).pending⟩
  -- Neither cache outgrows its capacity.
  bounded : ∀ call ∈ calls, call.after.authorizations.len ≤ max maxEntries 1 ∧
    call.after.pending.len ≤ max maxEntries 1
  -- A call that writes the pending state pushes no grant out: at most it consumes its own.
  separate : ∀ call ∈ calls, ∀ ttlMs,
    (call.op = .trySetPending ttlMs ∨ call.op = .updatePendingTtl ttlMs →
      call.after.authorizations = call.before.authorizations) ∧
    (call.op = .claimOrSetPending ttlMs →
      call.after.authorizations = call.before.authorizations.pop call.id.key)

/-- Every history of an initially empty store is one of a correct single-use store. -/
theorem record_singleUse (maxEntries : Nat) (requests : List StoreRequest) :
    SingleUse maxEntries (record (.withMaxEntries maxEntries) requests) where
  distinct := by
    intro id earlier call later split won
    -- The grant that was met is stored, so it is the last one of its identity.
    obtain ⟨first, recorded, made⟩ := record_split split
    obtain ⟨⟨expiry, held, current⟩, -, -⟩ := succeeds_spec won
    rw [made] at held
    exact ⟨expiry, recorded ▸ grant_lastGrant first held, current⟩
  counted := by
    intro id
    -- A claim, like every other end of a grant, is paid for by a grant of its own.
    have conserved := grants_conserved maxEntries id requests
    omega
  vacant := fun call _ entered => entered_pendingSet entered
  spaced := by
    intro id head first between second later split entered again
    have parts : record (.withMaxEntries maxEntries) requests =
        (head ++ first :: between) ++ second :: later := by simpa using split
    obtain ⟨requested, recorded, made⟩ := record_split parts
    -- The second transition found the pending state missing or past.
    have stale := setsPending_spec again
    cases held : (second.before.cell id).pending with
    | none =>
      rw [made] at held
      exact .inl (pending_none_since requested recorded.symm entered held)
    | some expiry =>
      rw [held] at stale
      exact .inr ⟨expiry, rfl, by simpa [live] using stale⟩
  framed := fun call _ other distinct =>
    call.before.cell_perform_other call.now call.op distinct
  bounded := by
    intro call member
    obtain ⟨earlier, later, split⟩ := List.append_of_mem member
    obtain ⟨first, -, made⟩ := record_split split
    -- The caches are bounded by the capacity they were made with.
    have caps := cap_replay maxEntries first
    have kept := call.before.cap_perform call.now call.id call.op
    rw [← made] at caps
    have grants := call.after.authorizations.len_le_cap
    have pendings := call.after.pending.len_le_cap
    simp only [after] at grants pendings ⊢
    omega
  separate := by
    intro call member ttlMs
    refine ⟨call.authorizations_after ttlMs, fun op => ?_⟩
    -- The grant is taken out before the pending state is looked at.
    simp only [StoreCall.after, op, AuthorizationStore.perform,
      AuthorizationStore.claimOrSetPending, Prod.map]
    split
    · rfl
    · split <;> rfl

end ContextVm
