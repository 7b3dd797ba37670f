import ContextVm.Payments.Server

/-! What one critical section of the dedup cache keeps, removes, and inserts. -/

namespace ContextVm

open Lru

section PendingCache

variable {cache after : Lru String PendingEntry} {now paymentTtl fresh lifecycle : Nat}
  {eventId key : String} {entry : PendingEntry} {decision : Admission}

/-- A purge keeps what has not expired. -/
theorem purgeExpiredPending_kept (held : cache.peek key = some entry)
    (current : now < entry.expiresAt) : (purgeExpiredPending cache now).peek key = some entry := by
  -- The entry reads as before unless its key is among those purged.
  rw [purgeExpiredPending, peek_foldl_pop, if_neg, held]
  intro purged
  -- A purged key names an entry of the cache, which is the one it reads.
  simp only [List.mem_map, List.mem_filter, decide_eq_true_eq] at purged
  obtain ⟨item, ⟨scanned, expired⟩, named⟩ := purged
  have listed : (key, item.2) ∈ cache.iter := by grind
  have same := (peek_eq_some_iff cache key item.2).mpr listed
  rw [held] at same
  cases same
  omega

/-- A purge adds nothing. -/
theorem purgeExpiredPending_source (held : (purgeExpiredPending cache now).peek key = some entry) :
    cache.peek key = some entry := by
  -- What is read after removals was there before them.
  rw [purgeExpiredPending, peek_foldl_pop] at held
  split at held
  · cases held
  · exact held

/-- A purge keeps the capacity. -/
theorem purgeExpiredPending_cap : (purgeExpiredPending cache now).cap = cache.cap :=
  cap_foldl_pop _ cache

/-- Who joins finds a live entry, and only purges. -/
theorem enterPending_joined
    (entered : enterPending cache now paymentTtl eventId fresh = (.joined lifecycle, after)) :
    (∃ entry, cache.peek eventId = some entry ∧ now < entry.expiresAt ∧
        entry.inFlight = lifecycle) ∧ after = purgeExpiredPending cache now := by
  -- Only the first branch joins, and it found the entry after the purge.
  simp only [enterPending] at entered
  split at entered
  · grind [Prod.mk.injEq, Option.filter_eq_some_iff, purgeExpiredPending_source]
  · grind

/-- Who is refused finds the cache full of live entries. -/
theorem enterPending_refused
    (entered : enterPending cache now paymentTtl eventId fresh = (.refused, after)) :
    after = purgeExpiredPending cache now ∧ (purgeExpiredPending cache now).len = cache.cap ∧
      ∀ key entry, (purgeExpiredPending cache now).peek key = some entry →
        now < entry.expiresAt := by
  -- Only a full cache in which no expired entry is found refuses.
  simp only [enterPending] at entered
  split at entered
  · simp at entered
  · split at entered
    · rename_i full
      split at entered
      · simp at entered
      · grind [Prod.mk.injEq, purgeExpiredPending_cap, List.find?_eq_none, peek_eq_some_iff]
    · simp at entered

/-- What an insertion found and wrote: no live entry before, its own entry after. -/
theorem enterPending_inserted
    (entered : enterPending cache now paymentTtl eventId fresh = (.inserted, after)) :
    (∀ entry, cache.peek eventId = some entry → entry.expiresAt ≤ now) ∧
      after.peek eventId = some ⟨now + paymentTtl, fresh⟩ ∧
      ∀ key entry, key ≠ eventId → now < entry.expiresAt →
        cache.peek key = some entry → after.peek key = some entry := by
  simp only [enterPending] at entered
  -- Two branches insert: one removes an expired entry first, the other has space.
  split at entered
  · simp at entered
  · rename_i none_live
    -- A live entry would have survived the purge and been joined.
    have expired : ∀ entry, cache.peek eventId = some entry → entry.expiresAt ≤ now := by
      grind [purgeExpiredPending_kept]
    split at entered
    · split at entered
      · rename_i victim entryGone found
        simp only [Prod.mk.injEq, true_and] at entered
        subst entered
        have listed := List.mem_of_find?_eq_some found
        have gone : entryGone.expiresAt ≤ now := by simpa using List.find?_some found
        have held := (peek_eq_some_iff _ victim entryGone).mpr listed
        -- Removing an expired entry by name makes room, so the write pushes nothing out.
        have room : ¬ ((purgeExpiredPending cache now).pop victim).Overflows eventId := by
          intro overflow
          have := len_pop_lt held
          have := overflow.2
          simp only [cap_pop] at this
          omega
        refine ⟨expired, peek_put_self _ _ _, ?_⟩
        intro key entry other current kept
        rw [peek_put_of_fits _ _ room other, peek_pop, if_neg,
          purgeExpiredPending_kept kept current]
        -- The removed entry was expired, so it was not this one.
        intro same
        subst same
        rw [purgeExpiredPending_kept kept current] at held
        cases held
        omega
      · simp at entered
    · rename_i space
      simp only [Prod.mk.injEq, true_and] at entered
      subst entered
      -- There was space already.
      have room : ¬ (purgeExpiredPending cache now).Overflows eventId :=
        fun overflow => space overflow.2
      refine ⟨expired, peek_put_self _ _ _, ?_⟩
      intro key entry other current kept
      rw [peek_put_of_fits _ _ room other, purgeExpiredPending_kept kept current]

section

variable (entered : enterPending cache now paymentTtl eventId fresh = (decision, after))
include entered

/-- No critical section drops a live entry. -/
theorem enterPending_kept (held : cache.peek key = some entry) (current : now < entry.expiresAt) :
    after.peek key = some entry := by
  -- Only the purge and the one removal by name take entries, and both take expired ones.
  cases decision with
  | joined lifecycle =>
    rw [(enterPending_joined entered).2]
    exact purgeExpiredPending_kept held current
  | refused =>
    rw [(enterPending_refused entered).1]
    exact purgeExpiredPending_kept held current
  | inserted =>
    obtain ⟨expired, -, others⟩ := enterPending_inserted entered
    refine others key entry ?_ current held
    -- The event's own entry was not live, so the key is another one.
    intro same
    subst same
    have := expired entry held
    omega

/-- What is read after a critical section was there before, but for the entry it writes. -/
theorem enterPending_source (held : after.peek key = some entry) :
    cache.peek key = some entry ∨
      (decision = .inserted ∧ key = eventId ∧ entry.inFlight = fresh) := by
  cases decision with
  | joined lifecycle =>
    rw [(enterPending_joined entered).2] at held
    exact .inl (purgeExpiredPending_source held)
  | refused =>
    rw [(enterPending_refused entered).1] at held
    exact .inl (purgeExpiredPending_source held)
  | inserted =>
    by_cases own : key = eventId
    · -- At its own key the section reads back what it has written.
      have written := (enterPending_inserted entered).2.1
      rw [← own, held] at written
      cases written
      exact .inr ⟨rfl, own, rfl⟩
    · -- Making room and writing elsewhere only remove.
      refine .inl (purgeExpiredPending_source (?_ : (purgeExpiredPending cache now).peek key = _))
      simp only [enterPending] at entered
      split at entered
      · cases entered
      · split at entered
        · split at entered
          · cases entered
            rw [peek_put, if_neg own, peek_pop] at held
            grind
          · cases entered
        · cases entered
          rw [peek_put, if_neg own] at held
          grind

/-- A critical section keeps the capacity. -/
theorem enterPending_cap : after.cap = cache.cap := by
  have purged : (purgeExpiredPending cache now).cap = cache.cap := purgeExpiredPending_cap
  -- Purging, removing and writing all keep the capacity.
  simp only [enterPending] at entered
  split at entered
  · cases entered
    exact purged
  · split at entered
    · split at entered <;> cases entered <;> exact purged
    · cases entered
      exact purged

end

/-- A full cache of live entries refuses an event it does not hold. -/
theorem enterPending_full (full : cache.len = cache.cap)
    (live : ∀ key entry, cache.peek key = some entry → now < entry.expiresAt)
    (absent : cache.peek eventId = none) :
    (enterPending cache now paymentTtl eventId fresh).1 = .refused := by
  -- With nothing expired the purge removes nothing at all.
  have nothing : ((cache.iter.reverse.take pendingPurgeScanLimit).filter fun item =>
      item.2.expiresAt ≤ now) = [] := by
    rw [List.filter_eq_nil_iff]
    intro item scanned
    have listed := List.mem_reverse.mp (List.mem_of_mem_take scanned)
    have := live item.1 item.2 ((peek_eq_some_iff cache item.1 item.2).mpr listed)
    simp only [decide_eq_true_eq]
    omega
  have unpurged : purgeExpiredPending cache now = cache := by
    simp [purgeExpiredPending, nothing]
  have unexpired : cache.iter.find? (fun item => item.2.expiresAt ≤ now) = none := by
    -- For the same reason there is none to give up by name.
    rw [List.find?_eq_none]
    intro item listed
    have := live item.1 item.2 ((peek_eq_some_iff cache item.1 item.2).mpr listed)
    simp only [decide_eq_true_eq]
    omega
  simp [enterPending, unpurged, absent, full, unexpired]

end PendingCache

end ContextVm
