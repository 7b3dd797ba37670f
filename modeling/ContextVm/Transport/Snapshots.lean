import ContextVm.Lib.Execution
import ContextVm.Transport.RouteStore

/-! The snapshots that payments take of routes: recorded, taken, put back, and purged. -/

namespace ContextVm

open Lru

/-- Remove the snapshot of an event and return it. -/
def takePaymentRouteSnapshot (cache : Lru String PaymentRouteSnapshot) (eventId : String) :
    Option PaymentRouteSnapshot × Lru String PaymentRouteSnapshot :=
  (cache.peek eventId, cache.pop eventId)

/-- Put a snapshot back whose delivery failed. -/
def reinsertPaymentRouteSnapshot (cache : Lru String PaymentRouteSnapshot) (eventId : String)
    (entry : PaymentRouteSnapshot) : Lru String PaymentRouteSnapshot :=
  cache.put eventId entry

/-- Drop the snapshots that have expired. -/
def purgeExpiredSnapshots (cache : Lru String PaymentRouteSnapshot) (now : Nat) :
    Lru String PaymentRouteSnapshot :=
  ((cache.iter.filter fun item => item.2.expiresAt ≤ now).map Prod.fst).foldl Lru.pop cache

/-- The snapshots, and those that deliveries have taken and not used up. -/
structure Snapshots where
  cache : Lru String PaymentRouteSnapshot
  taken : List (String × PaymentRouteSnapshot)

/-- What is done to the snapshots, each in one critical section. -/
inductive SnapshotOperation where
  | record (now : Nat) (eventId : String) (snapshot : RouteSnapshot) (expiresAt : Nat)
  | take (eventId : String)
  -- A delivery from a taken snapshot succeeds, or fails and puts the snapshot back.
  | deliver (item : String × PaymentRouteSnapshot)
  | reinsert (now : Nat) (item : String × PaymentRouteSnapshot)
  | purge (now : Nat)

/-- When an operation happens, if it can drop what has expired by then. -/
def SnapshotOperation.time : SnapshotOperation → Option Nat
  | .record now .. | .reinsert now _ | .purge now => some now
  | _ => none

namespace Snapshots

/-- No snapshots, with room for so many. -/
def start (capacity : Nat) : Snapshots := ⟨.withCapacity capacity, []⟩

/-- One operation; only what was taken can be delivered or put back. -/
def step (state : Snapshots) : SnapshotOperation → Option Snapshots
  | .record now eventId snapshot expiresAt => some
    { state with
      cache := recordPaymentRouteSnapshot state.cache now eventId snapshot expiresAt }
  | .take eventId =>
    let (entry, cache) := takePaymentRouteSnapshot state.cache eventId
    some ⟨cache, entry.toList.map (eventId, ·) ++ state.taken⟩
  | .deliver item =>
    if item ∈ state.taken then some { state with taken := state.taken.erase item } else none
  | .reinsert _ item =>
    if item ∈ state.taken then
      some ⟨reinsertPaymentRouteSnapshot state.cache item.1 item.2, state.taken.erase item⟩
    else none
  | .purge now => some { state with cache := purgeExpiredSnapshots state.cache now }

/-- What an operation is to leave of the snapshots, with room for so many. -/
structure Keeps (capacity : Nat) (before : Snapshots) (operation : SnapshotOperation)
    (after : Snapshots) : Prop where
  bounded : after.cache.len ≤ max capacity 1
  -- What has not expired stays, unless it is taken.
  live : ∀ eventId entry, before.cache.peek eventId = some entry →
    operation ≠ .take eventId → (∀ now, operation.time = some now → now < entry.expiresAt) →
    (after.cache.peek eventId).isSome = true
  -- What comes in is what is recorded or put back.
  entered : ∀ eventId entry, before.cache.peek eventId = none →
    after.cache.peek eventId = some entry →
    ∃ now, operation = .record now eventId entry.snapshot entry.expiresAt ∨
      operation = .reinsert now (eventId, entry)
  -- What is there keeps its fields, and does not expire earlier.
  steady : ∀ eventId entry later, before.cache.peek eventId = some entry →
    after.cache.peek eventId = some later →
    later.snapshot = entry.snapshot ∧ entry.expiresAt ≤ later.expiresAt

/--
Whether an operation puts a snapshot back at the cost of another one: of the same event with other
fields or a later expiry, or of another event in a full cache that has not expired.
-/
def clobbers (state : Snapshots) : SnapshotOperation → Bool
  | .reinsert now item =>
    match state.cache.peek item.1 with
    | some held => item.2.snapshot ≠ held.snapshot ∨ item.2.expiresAt < held.expiresAt
    | none => (state.cache.victim item.1).any fun lost =>
      (state.cache.peek lost).any fun old => now < old.expiresAt
  | _ => false

end Snapshots

/-! What each operation reads like afterwards. -/

theorem peek_purgeExpiredSnapshots (cache : Lru String PaymentRouteSnapshot) (now : Nat)
    (eventId : String) :
    (purgeExpiredSnapshots cache now).peek eventId =
      (cache.peek eventId).filter fun entry => now < entry.expiresAt := by
  rw [purgeExpiredSnapshots, peek_foldl_pop]
  -- An event is among the purged ones exactly if its snapshot has expired.
  have purged : eventId ∈ (cache.iter.filter fun item => item.2.expiresAt ≤ now).map Prod.fst ↔
      ∃ entry, cache.peek eventId = some entry ∧ entry.expiresAt ≤ now := by
    simp [peek_eq_some_iff]
  simp only [purged]
  cases held : cache.peek eventId with
  | none => simp
  | some entry =>
    by_cases expired : entry.expiresAt ≤ now
    · simp [Option.filter, expired]
    · simp [Option.filter, expired, Nat.not_le.mp expired]

theorem peek_pop_put {cache : Lru String PaymentRouteSnapshot} {lost : String}
    {old : PaymentRouteSnapshot} (held : cache.peek lost = some old) (eventId : String)
    (entry : PaymentRouteSnapshot) (other : String) :
    ((cache.pop lost).put eventId entry).peek other =
      if other = eventId then some entry else if other = lost then none else cache.peek other := by
  have room : ¬ (cache.pop lost).Overflows eventId := by
    intro overflow
    have fewer := len_pop_lt held
    have bounded := cache.len_le_cap
    have full : (cache.pop lost).len = cache.cap := overflow.2
    omega
  by_cases same : other = eventId
  · simp [same]
  · rw [peek_put_of_fits _ _ room same, if_neg same, peek_pop]

section

variable (cache : Lru String PaymentRouteSnapshot) (now : Nat) (eventId : String)
  (snapshot : RouteSnapshot) (expiresAt : Nat)
include cache now eventId snapshot expiresAt

/--
What recording does: it extends an expiry, or adds a snapshot where there is room or in the place of
one that has expired, or does nothing.
-/
theorem recordPaymentRouteSnapshot_cases :
    let recorded := recordPaymentRouteSnapshot cache now eventId snapshot expiresAt
    recorded = cache ∨
      (∃ held, cache.peek eventId = some held ∧ held.expiresAt < expiresAt ∧
        ∀ other, recorded.peek other =
          if other = eventId then some { held with expiresAt } else cache.peek other) ∨
      (cache.peek eventId = none ∧ ∃ lost : Option String,
        (∀ key, lost = some key → ∃ old, cache.peek key = some old ∧ old.expiresAt ≤ now) ∧
        ∀ other, recorded.peek other =
          if other = eventId then some ⟨snapshot, expiresAt⟩
          else if lost = some other then none else cache.peek other) := by
  intro recorded
  cases held : cache.peek eventId with
  | some existing =>
    -- The event has a snapshot, which at most lives longer.
    have unfolded : recorded = if existing.expiresAt < expiresAt then
        cache.replace eventId { existing with expiresAt } else cache := by
      simp only [recorded, recordPaymentRouteSnapshot, held]
    by_cases later : existing.expiresAt < expiresAt
    · grind [peek_replace]
    · grind
  | none =>
    simp only [recorded, recordPaymentRouteSnapshot, held]
    split
    · -- The cache is full, so that something expired has to make room.
      split
      · rename_i lost old found
        have expired := List.find?_some found
        have reads := (peek_eq_some_iff cache lost old).mpr (List.mem_of_find?_eq_some found)
        refine .inr (.inr ⟨trivial, some lost, ?_, ?_⟩)
        · grind
        · grind [peek_pop_put, Option.some.injEq]
      · exact .inl rfl
    · rename_i room
      refine .inr (.inr ⟨trivial, none, by simp, ?_⟩)
      intro other
      have fits : ¬ cache.Overflows eventId := fun overflow => room overflow.2
      by_cases same : other = eventId
      · simp [same]
      · grind [peek_put_of_fits]

theorem cap_recordPaymentRouteSnapshot :
    (recordPaymentRouteSnapshot cache now eventId snapshot expiresAt).cap = cache.cap := by
  unfold recordPaymentRouteSnapshot
  split
  · split <;> rfl
  · split
    · split <;> rfl
    · rfl

end

/-! What operations keep. -/

namespace Snapshots

variable {state after : Snapshots} {operation : SnapshotOperation} {capacity : Nat}

theorem cap_step (taken : state.step operation = some after) :
    after.cache.cap = state.cache.cap := by
  cases operation with
  | record now eventId snapshot expiresAt =>
    cases taken
    exact cap_recordPaymentRouteSnapshot _ _ _ _ _
  | take eventId =>
    cases taken
    rfl
  | deliver item | reinsert now item =>
    obtain ⟨-, rfl⟩ := Option.ite_some_none_eq_some.mp taken
    rfl
  | purge now =>
    cases taken
    exact cap_foldl_pop _ _

theorem cap_reached (reached : Reaches step Unrestricted (start capacity) state) :
    state.cache.cap = max capacity 1 := by
  induction reached with
  | start => rfl
  | next operation _ _ taken ih => rw [cap_step taken, ih]

section

variable (bounded : after.cache.len ≤ max capacity 1)
include bounded

/-- What only removes snapshots keeps those that it does not remove. -/
theorem keeps_of_removes (removes : ∀ eventId, after.cache.peek eventId = state.cache.peek eventId ∨
      (after.cache.peek eventId = none ∧ (operation = .take eventId ∨ ∃ now,
        operation.time = some now ∧
          ∀ entry, state.cache.peek eventId = some entry → entry.expiresAt ≤ now))) :
    state.Keeps capacity operation after := by
  refine ⟨bounded, ?_, ?_, ?_⟩
  · grind
  · grind
  · grind

/-- What writes a snapshot keeps the others, if at most an expired one makes room. -/
theorem keeps_of_writes {eventId : String} {written : PaymentRouteSnapshot} {lost : Option String}
    (reads : ∀ other, after.cache.peek other =
      if other = eventId then some written
      else if lost = some other then none else state.cache.peek other)
    (expired : ∀ key old, lost = some key → state.cache.peek key = some old →
      ∃ now, operation.time = some now ∧ old.expiresAt ≤ now)
    (enters : state.cache.peek eventId = none →
      ∃ now, operation = .record now eventId written.snapshot written.expiresAt ∨
        operation = .reinsert now (eventId, written))
    (stays : ∀ old, state.cache.peek eventId = some old →
      written.snapshot = old.snapshot ∧ old.expiresAt ≤ written.expiresAt) :
    state.Keeps capacity operation after := by
  refine ⟨bounded, ?_, ?_, ?_⟩
  · intro other entry found _ alive
    rw [reads]
    split
    · rfl
    · split
      · -- What made room had expired.
        rename_i given
        obtain ⟨now, time, dead⟩ := expired other entry given found
        have := alive now time
        omega
      · simp [found]
  · intro other entry missing found
    rw [reads] at found
    split at found
    · grind
    · grind
  · intro other entry later found read
    rw [reads] at read
    split at read
    · grind
    · grind

/-- Recording a snapshot loses none that is live, and changes no fields. -/
theorem keeps_record {now : Nat} {eventId : String} {snapshot : RouteSnapshot} {expiresAt : Nat}
    (taken : state.step (.record now eventId snapshot expiresAt) = some after) :
    state.Keeps capacity (.record now eventId snapshot expiresAt) after := by
  cases taken
  rcases recordPaymentRouteSnapshot_cases state.cache now eventId snapshot expiresAt with
    same | ⟨held, present, later, reads⟩ | ⟨absent, lost, expired, reads⟩
  · -- Nothing was done.
    apply keeps_of_removes bounded
    intro other
    exact .inl (by rw [same])
  · -- The snapshot that is there lives longer.
    have writes (other : String) :
        (recordPaymentRouteSnapshot state.cache now eventId snapshot expiresAt).peek other =
          if other = eventId then some { held with expiresAt }
          else if none = some other then none else state.cache.peek other := by
      rw [reads, if_neg (Option.some_ne_none other).symm]
    apply keeps_of_writes bounded writes
    · grind
    · grind
    · grind
  · -- A new snapshot is added, at most at the cost of an expired one.
    apply keeps_of_writes bounded reads
    · intro key old given found
      obtain ⟨dead, held, late⟩ := expired key given
      rw [found] at held
      cases held
      exact ⟨now, rfl, late⟩
    · exact fun _ => ⟨now, .inl rfl⟩
    · grind

/-- Putting a snapshot back keeps the others exactly if it does not clobber one. -/
theorem keeps_reinsert_iff {now : Nat} {item : String × PaymentRouteSnapshot}
    (taken : state.step (.reinsert now item) = some after) :
    state.Keeps capacity (.reinsert now item) after ↔
      state.clobbers (.reinsert now item) = false := by
  simp only [step] at taken
  split at taken
  swap
  · cases taken
  cases taken
  have reads (other : String) := peek_put state.cache item.1 other item.2
  simp only [clobbers]
  cases held : state.cache.peek item.1 with
  | some old =>
    -- The event has another snapshot by now, which is overwritten.
    simp only [ne_eq, Bool.decide_or, Bool.or_eq_false_iff, decide_eq_false_iff_not, not_not,
      Nat.not_lt]
    constructor
    · intro keeps
      have steady := keeps.steady item.1 old item.2 held (by
        rw [reinsertPaymentRouteSnapshot, reads, if_pos rfl])
      exact ⟨steady.1, steady.2⟩
    · rintro ⟨same, later⟩
      apply keeps_of_writes bounded reads
      · grind [victim_of_held]
      · grind
      · grind
  | none =>
    -- The snapshot comes back, and in a full cache the least recently used one makes room.
    constructor
    · intro keeps
      rw [Bool.eq_false_iff]
      intro lossy
      obtain ⟨lost, given, dies⟩ := (Option.any_eq_true _ _).mp lossy
      obtain ⟨old, found, alive⟩ := (Option.any_eq_true _ _).mp dies
      have distinct := (victim_held given).2
      have still := keeps.live lost old found (by simp) (by
        intro time same
        cases same
        exact of_decide_eq_true alive)
      simp [reinsertPaymentRouteSnapshot, reads, if_neg distinct, if_pos given] at still
    · intro spared
      apply keeps_of_writes bounded reads
      · intro key old given found
        refine ⟨now, rfl, ?_⟩
        simpa [given, found] using spared
      · exact fun _ => ⟨now, .inr rfl⟩
      · grind

end

end Snapshots

/--
In every run, an operation keeps the snapshots exactly if it does not put one back at the cost of
another: the same event's with other fields or a later expiry, or, in a full cache, that of the
least recently used event while it is live.
-/
theorem snapshots_keep_iff_not_clobbers (capacity : Nat) (state after : Snapshots)
    (operation : SnapshotOperation)
    (reached : Reaches Snapshots.step Unrestricted (.start capacity) state)
    (taken : state.step operation = some after) :
    state.Keeps capacity operation after ↔ state.clobbers operation = false := by
  have bounded : after.cache.len ≤ max capacity 1 := by
    rw [← Snapshots.cap_reached reached, ← Snapshots.cap_step taken]
    exact after.cache.len_le_cap
  cases operation with
  | record now eventId snapshot expiresAt =>
    exact iff_of_true (Snapshots.keeps_record bounded taken) rfl
  | reinsert now item => exact Snapshots.keeps_reinsert_iff bounded taken
  | take eventId =>
    refine iff_of_true (Snapshots.keeps_of_removes bounded ?_) rfl
    cases taken
    intro other
    by_cases same : other = eventId
    · simp_all
    · grind [peek_pop]
  | deliver item =>
    refine iff_of_true (Snapshots.keeps_of_removes bounded ?_) rfl
    obtain ⟨-, rfl⟩ := Option.ite_some_none_eq_some.mp taken
    exact fun other => .inl rfl
  | purge now =>
    refine iff_of_true (Snapshots.keeps_of_removes bounded ?_) rfl
    cases taken
    intro other
    rw [peek_purgeExpiredSnapshots]
    cases held : state.cache.peek other with
    | none => exact .inl rfl
    | some entry =>
      by_cases expired : entry.expiresAt ≤ now
      · refine .inr ⟨by simp [expired], .inr ⟨now, rfl, ?_⟩⟩
        intro found same
        cases same
        exact expired
      · grind

/-- Two requests that have to be paid, in a cache with room for one. -/
def paysTwice : List SnapshotOperation :=
  [.record 0 "paid-1" ⟨"alice", .ofU64 1, false, none⟩ 10, .take "paid-1",
    .record 1 "paid-2" ⟨"bob", .ofU64 2, false, none⟩ 20]

/-- The snapshot of the first request, after it was taken. -/
def firstPaid : String × PaymentRouteSnapshot :=
  ("paid-1", ⟨⟨"alice", .ofU64 1, false, none⟩, 10⟩)

theorem snapshots_of_operations (capacity : Nat) (operations : List SnapshotOperation)
    (good : Snapshots → Prop) [DecidablePred good]
    (ran : (execute Snapshots.step (.start capacity) operations).any (decide <| good ·) = true) :
    ∃ state, Reaches Snapshots.step Unrestricted (.start capacity) state ∧ good state :=
  Reaches.of_run operations good ran

/-- Where there is room for both, the snapshot of the first request is put back. -/
theorem snapshots_keep_iff_not_clobbers_roomy :
    ∃ state after, Reaches Snapshots.step Unrestricted (.start 2) state ∧
      state.step (.reinsert 5 firstPaid) = some after ∧
      state.Keeps 2 (.reinsert 5 firstPaid) after := by
  obtain ⟨state, reached, possible, spared⟩ := snapshots_of_operations 2 paysTwice
    (fun state => (state.step (.reinsert 5 firstPaid)).isSome ∧
      state.clobbers (.reinsert 5 firstPaid) = false) (by decide +kernel)
  obtain ⟨after, taken⟩ := Option.isSome_iff_exists.mp possible
  exact ⟨state, after, reached, taken,
    (snapshots_keep_iff_not_clobbers 2 state after _ reached taken).mpr spared⟩

/-- Putting a snapshot back evicts the one that was recorded meanwhile, which is live. -/
theorem reinsert_evicts_live :
    ∃ state after, Reaches Snapshots.step Unrestricted (.start 1) state ∧
      (∃ entry, state.cache.peek "paid-2" = some entry ∧ 5 < entry.expiresAt) ∧
      state.step (.reinsert 5 firstPaid) = some after ∧ after.cache.peek "paid-2" = none := by
  obtain ⟨state, reached, checked⟩ := snapshots_of_operations 1 paysTwice
    (fun state => ((state.cache.peek "paid-2").any fun entry => 5 < entry.expiresAt) ∧
      ((state.step (.reinsert 5 firstPaid)).any fun after => after.cache.peek "paid-2" = none))
    (by decide +kernel)
  simp only [Option.any_eq_true, decide_eq_true_eq] at checked
  obtain ⟨live, after, taken, gone⟩ := checked
  exact ⟨state, after, reached, live, taken, gone⟩

end ContextVm
