import ContextVm.Lib.Table
import ContextVm.Payments.Moves
import ContextVm.Payments.System

/-! What the log of a server counts, and what each process adds to it in one step. -/

namespace ContextVm

open Observation

variable {clock index : Nat} {observed : List Observation} {row : Delivery}

/-- Whether a message is a request some pricing entry matches. -/
def isPriced (options : ServerPaymentsOptions) : JsonRpcMessage → Bool
  | .request request => (matchPricedCapability request options.pricedCapabilities).isSome
  | _ => false

namespace Observation

/-- The observation of a priced request reaching the handler. -/
def handsPriced (options : ServerPaymentsOptions) : Observation → Bool
  | .handed _ _ message => isPriced options message
  | _ => false

/-- The observation of a decision to let a request through unpaid. -/
def waives : Observation → Bool
  | .waived => true
  | _ => false

/-- The observation of a settled payment of the transparent lifecycle. -/
def settlesTransparent : Observation → Bool
  | .verified none => true
  | _ => false

end Observation

/-- The calls of the store in a log, newest first. -/
def storeCalls (log : List Observation) : List StoreCall :=
  log.filterMap fun
    | .stored call => some call
    | _ => none

/-- The identities whose explicit payments a log has seen settled, each as often as it was. -/
def settledIds (log : List Observation) : List CanonicalInvocationIdentity :=
  log.filterMap fun
    | .verified id => id
    | _ => none

/-- The identities whose grants a list of calls has claimed, each as often as it was. -/
def claimedIds (calls : List StoreCall) : List CanonicalInvocationIdentity :=
  calls.filterMap fun call => if call.succeeds call.id then some call.id else none

@[simp] theorem storeCalls_append (newer older : List Observation) :
    storeCalls (newer ++ older) = storeCalls newer ++ storeCalls older :=
  List.filterMap_append

@[simp] theorem storeCalls_nil : storeCalls [] = [] := rfl

section

variable (store : AuthorizationStore) (id : CanonicalInvocationIdentity)

@[simp] theorem called_none : called store id none = [] := rfl

@[simp] theorem storeCalls_called (call : Nat × StoreOp) :
    storeCalls (called store id (some call)) = [⟨call.1, id, call.2, store⟩] := rfl

end

@[simp] theorem settledIds_append (newer older : List Observation) :
    settledIds (newer ++ older) = settledIds newer ++ settledIds older :=
  List.filterMap_append

@[simp] theorem claimedIds_append (newer older : List StoreCall) :
    claimedIds (newer ++ older) = claimedIds newer ++ claimedIds older :=
  List.filterMap_append

theorem count_claimedIds (id : CanonicalInvocationIdentity) (calls : List StoreCall) :
    (claimedIds calls).count id = calls.countP (StoreCall.succeeds id) := by
  -- Call by call: each side counts a call on this identity that wins.
  induction calls with
  | nil => rfl
  | cons call rest ih =>
    rw [List.countP_cons, ← ih]
    by_cases own : call.id = id
    · grind [claimedIds]
    · -- A call on another identity counts on neither side.
      have other : call.succeeds id = false := by simp [StoreCall.succeeds, own]
      by_cases won : call.succeeds call.id = true
      · simp [claimedIds, won, other, own]
      · simp [claimedIds, won, other]

/-- A delivery keeps its message, its context, and its clock reading for good. -/
theorem Transition.delivery_kept {server : PaymentServer} {system after : System} {action : Action}
    (taken : Transition server system action after) (found : system.deliveries[index]? = some row) :
    ∃ kept, after.deliveries[index]? = some kept ∧ kept.message = row.message ∧
      kept.ctx = row.ctx ∧ kept.arrivedAt = row.arrivedAt := by
  -- At most one row is rewritten, and only in its phase.
  have moved {other : Nat} {old : Delivery} {phase : DeliveryPhase}
      (listed : system.deliveries[other]? = some old) :
      ∃ kept, (system.deliveries.set other { old with phase })[index]? = some kept ∧
        kept.message = row.message ∧ kept.ctx = row.ctx ∧ kept.arrivedAt = row.arrivedAt := by grind
  cases taken with
  | tick elapsed => exact ⟨row, found, rfl, rfl, rfl⟩
  | deliver message ctx => grind
  | join listed standing entered | refuse listed standing entered
  | insert listed standing entered | drop listed standing awaited ended
  | settle listed standing awaited ended | unwind listed standing awaited ended
  | gating listed standing stepped | handOver listed standing =>
    exact moved listed
  | lifecycle listed stepped | verification listed stepped => exact ⟨row, found, rfl, rfl, rfl⟩

/-- A lifecycle keeps its owner, its window, and its event, and its result once it has one. -/
theorem Transition.lifecycle_kept {server : PaymentServer} {system after : System} {action : Action}
    (taken : Transition server system action after) {row : Lifecycle}
    (found : system.lifecycles[index]? = some row) :
    ∃ kept, after.lifecycles[index]? = some kept ∧ kept.owner = row.owner ∧
      kept.insertedAt = row.insertedAt ∧ kept.ctx = row.ctx ∧
      (row.phase.ended = true → kept.phase = row.phase) := by
  -- Only a new lifecycle and a moving one touch the table.
  cases taken with
  | insert listed standing entered => grind
  | lifecycle listed stepped =>
    rw [getElem?_set_eq _ listed]
    split
    · -- The lifecycle that moves has not ended yet.
      rename_i same
      subst same
      rw [found] at listed
      cases listed
      have running := (lifecycleStep_move stepped).running
      exact ⟨_, rfl, rfl, rfl, rfl, fun ended => by simp [running] at ended⟩
    · exact ⟨row, found, rfl, rfl, rfl, fun _ => rfl⟩
  | _ => exact ⟨row, found, rfl, rfl, rfl, fun _ => rfl⟩

/-- A settled or waived payment that a lifecycle has not yet used for its forward. -/
def lifecycleCredit : LifecyclePhase → Nat
  | .accepting _ _ | .forwarding => 1
  | _ => 0

/-- A priced request that has left its middleware and is still on its way to the handler. -/
def deliveryCredit (options : ServerPaymentsOptions) (message : JsonRpcMessage) :
    DeliveryPhase → Nat
  | .forwarding => if isPriced options message then 1 else 0
  | _ => 0

theorem deliveryCredit_le_one (options : ServerPaymentsOptions) (message : JsonRpcMessage)
    (phase : DeliveryPhase) : deliveryCredit options message phase ≤ 1 := by
  unfold deliveryCredit
  split
  · split <;> omega
  · omega

/-- A settled payment of an identity whose grant has not reached the store yet. -/
def grantCredit (id : CanonicalInvocationIdentity) (row : Verification) : Nat :=
  match row.phase with
  | .granting _ => if row.id = id then 1 else 0
  | _ => 0

/-- A lifecycle spends on a forward only what it was paid or waived. -/
theorem LifecycleMove.ledger {row : Lifecycle} {before after : LifecyclePhase}
    (move : LifecycleMove clock index row before after observed) (options : ServerPaymentsOptions) :
    lifecycleCredit after + observed.countP (Observation.handsPriced options) ≤
      lifecycleCredit before + observed.countP Observation.settlesTransparent +
        observed.countP Observation.waives := by
  -- Only a waiver and a settlement earn a credit, and only the forward spends it.
  cases move with
  | fail running classed | reject => simp [lifecycleCredit]
  | waive => simp [lifecycleCredit, handsPriced, waives]
  | price => simp [lifecycleCredit]
  | refuse | require => simp [lifecycleCredit, handsPriced]
  | settle => simp [lifecycleCredit, handsPriced, settlesTransparent]
  | accept =>
    simp [lifecycleCredit, handsPriced, settlesTransparent, waives]
  | acceptUnheard => simp [lifecycleCredit]
  | @forward delivered =>
    -- The forward spends the credit, whether or not the terminal takes the message.
    cases delivered with
    | false => simp [lifecycleCredit]
    | true => grind [handsPriced, List.countP_le_length, lifecycleCredit]

theorem LifecycleMove.silent {row : Lifecycle} {before after : LifecyclePhase}
    (move : LifecycleMove clock index row before after observed) :
    storeCalls observed = [] ∧ settledIds observed = [] := by
  cases move with
  | @forward delivered => cases delivered <;> exact ⟨rfl, rfl⟩
  | _ => exact ⟨rfl, rfl⟩

section

variable {options : ServerPaymentsOptions} {store : AuthorizationStore} {engaged : Engagement}
  {id : CanonicalInvocationIdentity} {before : GatingPhase} {effect : GatingEffect}
  (move : GatingMove options clock store row engaged id before effect)
include move

/-- A delivery leaves the gate for the handler only on a claim or a waiver. -/
theorem GatingMove.ledger :
    deliveryCredit options row.message effect.phase ≤ effect.observed.countP Observation.waives +
      (claimedIds (storeCalls (called store id effect.request))).length := by
  -- Only a claim and a waiver lead to the forward; every other move earns nothing.
  cases move with
  | claim answered =>
    -- The one call of this move is a successful claim.
    have won : StoreCall.succeeds id
        ⟨row.arrivedAt, id, .claimOrSetPending options.paymentTtlMs, store⟩ = true := by
      simp [StoreCall.succeeds, StoreCall.reply, AuthorizationStore.perform, Prod.map, answered]
    have credit := deliveryCredit_le_one options row.message .forwarding
    -- So the claim pays for the forward.
    simpa [called, storeCalls, claimedIds, won] using credit
  | waive =>
    have credit := deliveryCredit_le_one options row.message .forwarding
    simp only [List.countP_cons, List.countP_nil, waives, if_true]
    omega
  | quit ends => grind [deliveryCredit]
  | clear cycle ends => grind [deliveryCredit]
  | park answered | pend answered | price | answer | refuse | retime | offer =>
    simp [deliveryCredit]

/-- Only a verification grants, and only the chain hands a priced request over. -/
theorem GatingMove.silent :
    storeCalls effect.observed = [] ∧ settledIds effect.observed = [] ∧
      effect.observed.countP (Observation.handsPriced options) = 0 ∧
      (∀ other, (storeCalls (called store id effect.request)).countP (StoreCall.grants other) = 0) ∧
      ∀ other, tableWeight (grantCredit other) effect.spawned.toList = 0 := by
  cases move with
  -- An offer starts a verification, which has nothing to grant yet.
  | offer =>
    exact ⟨rfl, rfl, rfl, fun other => rfl, fun other => by simp [tableWeight, grantCredit]⟩
  | _ =>
    refine ⟨rfl, rfl, rfl, fun other => ?_, fun other => rfl⟩
    simp [called, storeCalls, StoreCall.grants]

end

theorem VerificationMove.ledger {row : Verification} {after : VerificationPhase}
    {request : Option (Nat × StoreOp)}
    (move : VerificationMove clock row row.phase after request observed)
    (store : AuthorizationStore) (id : CanonicalInvocationIdentity) :
    grantCredit id { row with phase := after } +
        (storeCalls (called store row.id request)).countP (StoreCall.grants id) =
      grantCredit id row + (settledIds observed).count id := by
  -- A settlement moves one credit in, and the grant moves it on to the store.
  generalize stood : row.phase = before at move
  cases move with
  | settle =>
    by_cases own : row.id = id
    · simp [grantCredit, stood, storeCalls, settledIds, own]
    · simp [grantCredit, stood, storeCalls, settledIds, own]
  | fail => simp [grantCredit, stood, storeCalls, called, settledIds, StoreCall.grants]
  | grant =>
    by_cases own : row.id = id
    · simp [grantCredit, stood, called, storeCalls, settledIds, StoreCall.grants, own]
    · simp [grantCredit, stood, called, storeCalls, settledIds, StoreCall.grants, own]

theorem VerificationMove.silent {row : Verification} {before after : VerificationPhase}
    {request : Option (Nat × StoreOp)}
    (move : VerificationMove clock row before after request observed)
    (options : ServerPaymentsOptions) (store : AuthorizationStore) :
    storeCalls observed = [] ∧ observed.countP (Observation.handsPriced options) = 0 ∧
      claimedIds (storeCalls (called store row.id request)) = [] := by
  cases move with
  | settle => exact ⟨rfl, rfl, rfl⟩
  | fail | grant => exact ⟨rfl, rfl, by simp [called, storeCalls, claimedIds, StoreCall.succeeds]⟩

theorem called_silent (store : AuthorizationStore) (id : CanonicalInvocationIdentity)
    (request : Option (Nat × StoreOp)) (options : ServerPaymentsOptions) :
    settledIds (called store id request) = [] ∧
      (called store id request).countP (Observation.handsPriced options) = 0 := by
  cases request with
  | none | some call => exact ⟨rfl, rfl⟩

end ContextVm
