import ContextVm.Payments.Offers

/-! Where every settled explicit payment of an identity goes, over all interleavings. -/

namespace ContextVm

namespace System

/-- How many settled payments of an identity have been claimed. -/
def claimed (id : CanonicalInvocationIdentity) (system : System) : Nat :=
  (storeCalls system.log).countP (StoreCall.succeeds id)

/-- How many an invocation arriving now can claim. -/
def claimable (id : CanonicalInvocationIdentity) (system : System) : Nat :=
  (live system.clock (system.store.cell id).grant).toNat

/-- How many settled payments have not reached the store yet. -/
def underway (id : CanonicalInvocationIdentity) (system : System) : Nat :=
  tableWeight (grantCredit id) system.verifications

/-- How many grants have run out, whether or not the store has noticed. -/
def expired (id : CanonicalInvocationIdentity) (system : System) : Nat :=
  (storeCalls system.log).countP (StoreCall.lapses id) +
    ((system.store.cell id).grant.any fun expiry => decide (expiry < system.clock)).toNat

/-- How many grants were pushed out of the full cache. -/
def evicted (id : CanonicalInvocationIdentity) (system : System) : Nat :=
  (storeCalls system.log).countP (StoreCall.evictsGrant id)

/-- How many grants were written over while they could still be claimed. -/
def overwritten (id : CanonicalInvocationIdentity) (system : System) : Nat :=
  (storeCalls system.log).countP (StoreCall.overwrites id)

/-- A stored grant can be claimed, or is expired. -/
theorem stored_split (id : CanonicalInvocationIdentity) (system : System) :
    StoreCall.stored (system.store.cell id).grant = system.claimable id +
      ((system.store.cell id).grant.any fun expiry => decide (expiry < system.clock)).toNat := by
  -- An expiry lies before the clock or it does not.
  simp only [claimable]
  cases (system.store.cell id).grant with
  | none => rfl
  | some expiry =>
    by_cases past : expiry < system.clock
    · have late : ¬ system.clock ≤ expiry := by omega
      simp [StoreCall.stored, live, past, late]
    · have early : system.clock ≤ expiry := by omega
      simp [StoreCall.stored, live, past, early]

end System

/-- What becomes of the settled payments of an identity. -/
structure Conserved (server : PaymentServer) (id : CanonicalInvocationIdentity)
    (system : System) : Prop where
  -- Each one is claimed, claimable, on its way, or lost in one of three ways.
  balance : (settledIds system.log).count id =
    system.claimed id + system.claimable id + system.underway id +
      (system.expired id + system.evicted id + system.overwritten id)
  -- An invocation that meets a live grant is forwarded, with no offer and no verification.
  forwarded : ∀ (index : Nat) (row : Delivery) (engaged : Engagement),
    system.deliveries[index]? = some row → row.phase = .gating engaged id .claiming →
    live row.arrivedAt (system.store.cell id).grant = true →
    System.step server system (.delivery index .run) = some
      { system with
        store := { system.store with authorizations := system.store.authorizations.pop id.key }
        deliveries := system.deliveries.set index { row with phase := .forwarding }
        log := .stored ⟨row.arrivedAt, id, .claimOrSetPending server.options.paymentTtlMs,
          system.store⟩ :: system.log }

/-- Every settled payment of an identity is accounted for in every reachable state. -/
theorem verified_conserved {server : PaymentServer} {system : System}
    (reached : Reached server Unrestricted system) (id : CanonicalInvocationIdentity) :
    Conserved server id system := by
  constructor
  · -- What the store conserves, what the verifications hold, and the clock, in one sum.
    obtain ⟨requests, calls, store⟩ := reached.recorded
    have conserved := grants_conserved authStoreMaxEntries id requests
    have granted := reached.granted id
    have split := system.stored_split id
    simp only [← calls, ← store, List.countP_reverse] at conserved
    simp only [Granted] at granted
    simp only [System.claimed, System.underway, System.expired, System.evicted, System.overwritten]
    omega
  · intro index row engaged found standing current
    -- The first branch of the entry sequence claims, whatever else is stored.
    have held : live row.arrivedAt (system.store.authorizations.peek id.key) = true := current
    simp [System.step, found, standing, gatingStep, AuthorizationStore.claimOrSetPending, held,
      performed, called, AuthorizationStore.perform]

/-- The identity of the priced tool call, as the explicit-gating middleware computes it. -/
def toolIdentity : Option CanonicalInvocationIdentity :=
  (computeCanonicalInvocationIdentity (toolServer 0 0).digests "c1" "tools/call"
    (some (.object [("name", .string "add")]))).toOption

/-- One paid call of the tool is accounted for by its one claim. -/
theorem verified_conserved_paidRun :
    ∃ system id, Reached (toolServer 1000 1) Unrestricted system ∧
      (settledIds system.log).count id = 1 ∧ system.claimed id = 1 ∧
      Conserved (toolServer 1000 1) id system := by
  -- The run pays for one explicit call and lets a retry claim it.
  obtain ⟨system, reached, checked⟩ := Reached.of_run (toolServer 1000 1) paidRun
    (fun system => toolIdentity.any fun id =>
      (settledIds system.log).count id = 1 ∧ system.claimed id = 1) (by decide)
  simp only [Option.any_eq_true, decide_eq_true_eq] at checked
  obtain ⟨id, -, settled, claimed⟩ := checked
  exact ⟨system, id, reached, settled, claimed, verified_conserved reached id⟩

/-- Two overlapping offers of one identity, both paid. -/
def overlappingPayments : List Action :=
  overlappingOffers ++
    [.verification 0 (.verified (.ok ⟨none⟩)), .verification 0 .run,
      .verification 1 (.verified (.ok ⟨none⟩)), .verification 1 .run]

/-- A paid call can be lost although its grant neither ran out nor was pushed out. -/
theorem verified_lost :
    ¬ ∀ (server : PaymentServer) (system : System) (id : CanonicalInvocationIdentity),
      Reached server Unrestricted system → system.underway id = 0 → system.expired id = 0 →
      system.evicted id = 0 →
      (settledIds system.log).count id = system.claimed id + system.claimable id := by
  intro conserved
  -- The second grant is written over the first before anyone has claimed it.
  obtain ⟨system, reached, checked⟩ := Reached.of_run (toolServer 1000000 1) overlappingPayments
    (fun system => toolIdentity.any fun id => system.underway id = 0 ∧ system.expired id = 0 ∧
      system.evicted id = 0 ∧ (settledIds system.log).count id = 2 ∧ system.claimed id = 0 ∧
      system.claimable id = 1) (by decide)
  simp only [Option.any_eq_true, decide_eq_true_eq] at checked
  obtain ⟨id, -, arrived, unexpired, unevicted, settled, unclaimed, one⟩ := checked
  have equal := conserved (toolServer 1000000 1) system id reached arrived unexpired unevicted
  omega

end ContextVm
