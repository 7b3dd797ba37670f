import ContextVm.Payments.AuthorizationStore

/-! Each identity of the authorization store behaves as a single-use machine of its own. -/

namespace ContextVm

open Lru

theorem live_iff {now : Nat} {entry : Option Nat} :
    live now entry = true ↔ ∃ expiry, entry = some expiry ∧ now ≤ expiry := by
  cases entry with
  | none | some expiry => simp [live]

namespace AuthorizationStore

section

variable (store : AuthorizationStore)
include store

section

variable (now : Nat) (id : CanonicalInvocationIdentity) (op : StoreOp)

/-- A call answers and changes its own identity as the identity's machine does. -/
theorem perform_refines :
    (store.perform now id op).map (fun reply => reply) (fun after => after.cell id) =
      (store.cell id).perform now op := by
  -- Each operation reads and writes the entries of its own key, which are the cell.
  cases op with
  -- A write is read back, and what was popped is gone.
  | grant ttlMs => simp [perform, Cell.perform, cell, grant]
  | claim => simp [perform, Cell.perform, cell, claim]
  | trySetPending ttlMs =>
    -- A live entry is only promoted, and any other one is written over.
    by_cases current : live now (store.pending.peek id.key)
    · simp [perform, Cell.perform, cell, trySetPending, current]
    · simp [perform, Cell.perform, cell, trySetPending, current]
  | updatePendingTtl ttlMs =>
    -- A stale entry is only promoted as well, which no reading shows.
    by_cases current : live now (store.pending.peek id.key)
    · simp [perform, Cell.perform, cell, updatePendingTtl, current]
    · simp [perform, Cell.perform, cell, updatePendingTtl, current]
  | getPendingRemainingMs => simp [perform, Cell.perform, cell, getPendingRemainingMs]
  | clearPending => simp [perform, Cell.perform, cell, clearPending]
  | claimOrSetPending ttlMs =>
    -- The grant is looked at first, and the pending state only when no live grant is there.
    by_cases granted : live now (store.authorizations.peek id.key)
    · simp [perform, Cell.perform, cell, claimOrSetPending, granted]
    · by_cases current : live now (store.pending.peek id.key)
      · simp [perform, Cell.perform, cell, claimOrSetPending, granted, current]
      · simp [perform, Cell.perform, cell, claimOrSetPending, granted, current]

theorem reply_perform : (store.perform now id op).1 = ((store.cell id).perform now op).1 :=
  congrArg Prod.fst (store.perform_refines now id op)

theorem cell_perform_self :
    (store.perform now id op).2.cell id = ((store.cell id).perform now op).2 :=
  congrArg Prod.snd (store.perform_refines now id op)

end

/-- A call leaves every other identity alone, but for the one entry a full cache gives up. -/
theorem cell_perform_other (now : Nat)
    {id other : CanonicalInvocationIdentity} (op : StoreOp) (distinct : other ≠ id) :
    (store.perform now id op).2.cell other =
      ⟨if store.grantVictim id op = some other.key then none else (store.cell other).grant,
        if store.pendingVictim now id op = some other.key then none
        else (store.cell other).pending⟩ := by
  -- Distinct identities have distinct keys, so no operation reaches the other entry by name.
  have keys : other.key ≠ id.key := fun same =>
    distinct (CanonicalInvocationIdentity.key_injective same)
  cases op with
  -- The grant is the one write into its cache, and may push an entry out of it.
  | grant ttlMs =>
    simp only [perform, cell, grant, grantVictim, pendingVictim, peek_put, peek_pop, keys, if_false]
    congr
  | claim => simp [perform, cell, claim, grantVictim, pendingVictim, peek_pop, keys]
  -- The other cache is not touched, and this one only when nothing live is found.
  | trySetPending ttlMs =>
    by_cases current : live now (store.pending.peek id.key)
    · -- A live entry is held, so writing it would push nothing out either.
      obtain ⟨expiry, held, -⟩ := live_iff.mp current
      simp [perform, cell, trySetPending, current, grantVictim, pendingVictim, victim_of_held held]
    · simp only [perform, cell, trySetPending, get_fst, current, grantVictim, pendingVictim,
        Prod.map, peek_put, peek_get, victim_get, keys, if_false, Bool.false_eq_true]
      congr
  -- Only a held entry is written, so nothing makes room for it.
  | updatePendingTtl ttlMs =>
    by_cases current : live now (store.pending.peek id.key)
    · obtain ⟨expiry, held, -⟩ := live_iff.mp current
      simp [perform, cell, updatePendingTtl, current, grantVictim, pendingVictim, peek_put,
        keys, victim_of_held held]
    · simp [perform, cell, updatePendingTtl, current, grantVictim, pendingVictim]
  | getPendingRemainingMs =>
    simp [perform, cell, getPendingRemainingMs, grantVictim, pendingVictim]
  | clearPending => simp [perform, cell, clearPending, grantVictim, pendingVictim, peek_pop, keys]
  -- The entry sequence stops at a live grant, then at a live offer.
  | claimOrSetPending ttlMs =>
    by_cases granted : live now (store.authorizations.peek id.key)
    · simp [perform, cell, claimOrSetPending, granted, grantVictim, pendingVictim, peek_pop, keys]
    · by_cases current : live now (store.pending.peek id.key)
      · obtain ⟨expiry, held, -⟩ := live_iff.mp current
        simp [perform, cell, claimOrSetPending, granted, current, grantVictim, pendingVictim,
          peek_pop, keys, victim_of_held held]
      · simp only [perform, cell, claimOrSetPending, get_fst, granted, current, grantVictim,
          pendingVictim, Prod.map, peek_put, peek_get, peek_pop, victim_get, keys,
          if_false, Bool.false_eq_true]
        congr

theorem cap_perform (now : Nat) (id : CanonicalInvocationIdentity) (op : StoreOp) :
    (store.perform now id op).2.authorizations.cap = store.authorizations.cap ∧
      (store.perform now id op).2.pending.cap = store.pending.cap := by
  -- Writes, reads and removals all keep the capacity of the cache they act on.
  cases op with
  | grant ttlMs | claim => exact ⟨rfl, rfl⟩
  | trySetPending ttlMs =>
    simp only [perform, trySetPending, Prod.map]
    split <;> simp
  | updatePendingTtl ttlMs =>
    simp only [perform, updatePendingTtl]
    split <;> simp
  | getPendingRemainingMs => simp [perform, getPendingRemainingMs]
  | clearPending => exact ⟨rfl, rfl⟩
  | claimOrSetPending ttlMs =>
    simp only [perform, claimOrSetPending, Prod.map]
    split
    · simp
    · split <;> simp

end

end AuthorizationStore

end ContextVm
