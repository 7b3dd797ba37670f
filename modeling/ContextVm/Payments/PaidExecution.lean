import Mathlib.Data.List.Perm.Subperm
import ContextVm.Payments.Ledger

/-! No priced request executes unpaid, over every interleaving of both payment lifecycles. -/

namespace ContextVm

open Observation

variable {system : System} {server : PaymentServer} {permitted : System → Action → Prop}

/-- A message that passes both middlewares of the permissive policy is not priced. -/
theorem enter_unpriced {message : JsonRpcMessage} {ctx : InboundContext}
    (both : server.options.paymentInteraction = .optional)
    (passed : enter server message ctx (withServerPayments server.options) = .forwarding) :
    isPriced server.options message = false := by
  -- Only a request can be priced, and what no entry matches is not.
  cases message with
  | request request =>
    cases priced : matchPricedCapability request server.options.pricedCapabilities with
    | none => simp [isPriced, priced]
    | some entry =>
      -- A priced request stops at the middleware of its session's mode.
      simp only [withServerPayments, both, enter, gate, transparentGate, explicitGate, priced]
        at passed
      by_cases explicit : ctx.paymentInteraction = some .explicitGating
      · simp only [explicit, if_true, ne_eq, not_true_eq_false, if_false] at passed
        split at passed
        · grind
        · grind
      · simp only [explicit, if_false] at passed
        split at passed
        · grind
        · grind
  | response body | errorResponse body | notification body => rfl

/-- The calls a log has seen are a history of the store, which ended where the store is. -/
def Recorded (system : System) : Prop :=
  ∃ requests,
    (storeCalls system.log).reverse = record (.withMaxEntries authStoreMaxEntries) requests ∧
    system.store = replay (.withMaxEntries authStoreMaxEntries) requests

/-- A call that is made is recorded. -/
theorem Recorded.perform {after : System} (recorded : Recorded system)
    {id : CanonicalInvocationIdentity} {request : Option (Nat × StoreOp)}
    {observed : List Observation} (silent : storeCalls observed = [])
    (store : after.store = performed system.store id request)
    (log : after.log = observed ++ called system.store id request ++ system.log) :
    Recorded after := by
  obtain ⟨requests, calls, same⟩ := recorded
  -- Without a call the history stands; a call is appended to it at both ends.
  cases request with
  | none => exact ⟨requests, by simp [log, silent, ← calls], store.trans same⟩
  | some call =>
    refine ⟨requests ++ [(call.1, id, call.2)], ?_, ?_⟩
    · rw [record_append, ← calls, log, ← same]
      simp [silent, StoreRequest.call]
    · rw [replay_append, ← same, store]
      rfl

/-- The log records every call of the store. -/
theorem Reached.recorded (reached : Reached server permitted system) : Recorded system := by
  -- An invariant: only the gate and the verifications call the store.
  refine reached.invariant ⟨[], rfl, rfl⟩ ?_
  intro before action after _ recorded _ taken
  cases taken with
  | gating found standing moved =>
    obtain ⟨silent, -⟩ := (gatingStep_move moved).silent
    exact recorded.perform silent rfl rfl
  | verification found moved =>
    obtain ⟨silent, -⟩ := (verificationStep_move moved).silent server.options before.store
    exact recorded.perform silent rfl rfl
  | lifecycle found moved =>
    obtain ⟨requests, calls, same⟩ := recorded
    exact ⟨requests, by simp [(lifecycleStep_move moved).silent.1, calls], same⟩
  | @handOver index row delivered found standing =>
    -- A message handed over is no call of the store.
    obtain ⟨requests, calls, same⟩ := recorded
    exact ⟨requests, by cases delivered <;> exact calls, same⟩
  -- The other transitions reach neither the store nor its part of the log.
  | _ => exact recorded

/-- Grants made and grants on their way are together the payments seen settled. -/
def Granted (id : CanonicalInvocationIdentity) (system : System) : Prop :=
  (storeCalls system.log).countP (StoreCall.grants id) +
    tableWeight (grantCredit id) system.verifications = (settledIds system.log).count id

/-- Every settled payment of an identity is granted once, or is about to be. -/
theorem Reached.granted (reached : Reached server permitted system)
    (id : CanonicalInvocationIdentity) : Granted id system := by
  -- An invariant: the verifications move each settlement on to a grant.
  refine reached.invariant rfl ?_
  intro before action after _ granted _ taken
  cases taken with
  | @gating index input row engaged called phase effect found standing moved =>
    -- The gate neither settles nor grants, and a spawned verification has settled nothing.
    obtain ⟨silent, unsettled, -, ungranted, unspent⟩ := (gatingStep_move moved).silent
    simp only [Granted, storeCalls_append, settledIds_append, silent, unsettled,
      (called_silent before.store called effect.request server.options).1, List.nil_append,
      List.countP_append, ungranted, Nat.zero_add, tableWeight_append_list, unspent,
      Nat.add_zero]
    exact granted
  | @verification index input row phase request observed found moved =>
    have move := verificationStep_move moved
    -- What the verification holds changes by what it settles and what it grants.
    have spent := move.ledger before.store id
    have weight := tableWeight_set (grantCredit id) { row with phase } found
    simp only [Granted] at granted
    simp only [Granted, storeCalls_append, settledIds_append,
      (move.silent server.options before.store).1,
      (called_silent before.store row.id request server.options).1, List.nil_append,
      List.append_nil, List.countP_append, List.count_append]
    omega
  | lifecycle found moved =>
    obtain ⟨silent, unsettled⟩ := (lifecycleStep_move moved).silent
    simp only [Granted, storeCalls_append, settledIds_append, silent, unsettled, List.nil_append]
    exact granted
  | @handOver index row delivered found standing => cases delivered <;> exact granted
  -- The other transitions reach neither the grants nor the settlements.
  | _ => exact granted

/-- Forwards of priced requests, made and under way, are covered by payments or otherwise. -/
def Covered (options : ServerPaymentsOptions) (system : System) : Prop :=
  system.log.countP (Observation.handsPriced options) +
      tableWeight (fun row => lifecycleCredit row.phase) system.lifecycles +
      tableWeight (fun row => deliveryCredit options row.message row.phase) system.deliveries ≤
    system.log.countP Observation.settlesTransparent + system.log.countP Observation.waives +
      (claimedIds (storeCalls system.log)).length

/-- A delivery that stays inside its middleware or returns needs no cover. -/
theorem Covered.moveDelivery {options : ServerPaymentsOptions} {after : System}
    (covered : Covered options system) {index : Nat} {row : Delivery} {phase : DeliveryPhase}
    (found : system.deliveries[index]? = some row)
    (free : deliveryCredit options row.message phase = 0)
    (deliveries : after.deliveries = system.deliveries.set index { row with phase })
    (lifecycles : tableWeight (fun row => lifecycleCredit row.phase) after.lifecycles =
      tableWeight (fun row => lifecycleCredit row.phase) system.lifecycles)
    (log : after.log = system.log ∨ after.log = .locked row.arrivedAt :: system.log) :
    Covered options after := by
  -- Only one row of the table changes its weight, and it changes to nothing.
  have weight := tableWeight_set
    (fun row : Delivery => deliveryCredit options row.message row.phase) { row with phase } found
  simp only [free] at weight
  rcases log with same | locked
  · grind [Covered]
  · -- Noting the critical section down counts towards nothing.
    have counts : after.log.countP (handsPriced options) = system.log.countP (handsPriced options) ∧
        after.log.countP settlesTransparent = system.log.countP settlesTransparent ∧
        after.log.countP waives = system.log.countP waives ∧
        storeCalls after.log = storeCalls system.log := by
      simp [locked, handsPriced, settlesTransparent, waives, storeCalls]
    obtain ⟨handed, settled, waived, calls⟩ := counts
    simp only [Covered, deliveries, lifecycles, handed, settled, waived, calls] at covered ⊢
    omega

/-- Every priced request on its way to the handler is covered. -/
theorem Reached.covered (reached : Reached server permitted system)
    (both : server.options.paymentInteraction = .optional) : Covered server.options system := by
  -- An invariant: each kind of process brings its own ledger to the balance.
  refine reached.invariant (Nat.zero_le _) ?_
  intro before action after _ covered _ taken
  cases taken with
  | tick elapsed => exact covered
  | deliver message ctx =>
    -- A message that passes both gates is free, and any other one is not forwarded yet.
    have free : deliveryCredit server.options message
        (enter server message ctx (withServerPayments server.options)) = 0 := by
      grind [withServerPayments, deliveryCredit, enter_unpriced]
    simp only [Covered, tableWeight_append, free] at covered ⊢
    exact covered
  | join found standing admitted | refuse found standing admitted =>
    exact covered.moveDelivery found rfl rfl rfl (.inr rfl)
  | insert found standing admitted =>
    -- A lifecycle starts with nothing paid.
    exact covered.moveDelivery found rfl rfl (by simp [lifecycleCredit]) (.inr rfl)
  | drop found standing awaited ended | settle found standing awaited ended
  | unwind found standing awaited ended =>
    exact covered.moveDelivery found rfl rfl rfl (.inl rfl)
  | @gating index input row engaged id phase effect found standing moved =>
    have move := gatingStep_move moved
    have spent := move.ledger
    obtain ⟨silent, -, unhanded, -, -⟩ := move.silent
    -- The delivery was still inside the gate, so it had no credit before.
    have weight := tableWeight_set
      (fun row : Delivery => deliveryCredit server.options row.message row.phase)
      { row with phase := effect.phase } found
    have uncredited : deliveryCredit server.options row.message row.phase = 0 := by
      rw [standing]
      rfl
    simp only [Covered, uncredited] at covered weight
    simp only [Covered, List.countP_append, storeCalls_append, claimedIds_append, silent, unhanded,
      (called_silent before.store id effect.request server.options).2, List.length_append,
      List.nil_append]
    omega
  | @handOver index row delivered found standing =>
    have weight := tableWeight_set
      (fun row : Delivery => deliveryCredit server.options row.message row.phase)
      { row with phase := .returned delivered } found
    have owed : deliveryCredit server.options row.message row.phase =
        if isPriced server.options row.message then 1 else 0 := by
      rw [standing]
      rfl
    have paid : deliveryCredit server.options row.message (.returned delivered) = 0 := rfl
    simp only [owed, paid] at weight
    cases delivered with
    | false => grind [Covered, Bool.false_eq_true]
    | true =>
      -- The credit of the delivery pays for the observation of its handover.
      have calls : storeCalls (.handed (.delivery index) row.ctx.requestEventId row.message ::
          before.log) = storeCalls before.log := rfl
      cases priced : isPriced server.options row.message with
      | false | true =>
        simp only [Covered, if_true, List.countP_cons, calls, handsPriced,
          settlesTransparent, waives, priced, Bool.false_eq_true, if_false]
          at covered weight ⊢
        omega
  | @lifecycle index input row phase observed found moved =>
    have move := lifecycleStep_move moved
    have spent := move.ledger server.options
    -- The weight of the table follows the credit of the lifecycle that moved.
    have weight := tableWeight_set (fun row : Lifecycle => lifecycleCredit row.phase)
      { row with phase } found
    simp only [Covered, List.countP_append, storeCalls_append, move.silent.1, List.nil_append]
      at covered weight ⊢
    omega
  | @verification index input row phase request observed found moved =>
    obtain ⟨silent, unhanded, unclaimed⟩ :=
      (verificationStep_move moved).silent server.options before.store
    simp only [Covered, List.countP_append, storeCalls_append, claimedIds_append, silent, unhanded,
      unclaimed, (called_silent before.store row.id request server.options).2, List.nil_append]
      at covered ⊢
    omega

/-- No more grants are claimed than payments were settled. -/
theorem Reached.claimed_le (reached : Reached server permitted system)
    (id : CanonicalInvocationIdentity) :
    (claimedIds (storeCalls system.log)).count id ≤ (settledIds system.log).count id := by
  -- The store claims no more than it was granted, and is granted no more than was settled.
  obtain ⟨requests, calls, -⟩ := reached.recorded
  have spent := grants_conserved authStoreMaxEntries id requests
  have granted := reached.granted id
  simp only [← calls, List.countP_reverse] at spent
  rw [count_claimedIds]
  simp only [Granted] at granted
  omega

/--
No priced request executes unpaid.

At every moment of every interleaving, the priced requests handed to the handler are at most the
payments that settled together with the waivers.
In the explicit lifecycle the bound holds for each identity on its own.
-/
theorem paid_execution {server : PaymentServer} {system : System}
    (both : server.options.paymentInteraction = .optional)
    (reached : Reached server Unrestricted system) :
    system.log.countP (Observation.handsPriced server.options) ≤
        system.log.countP Observation.settlesTransparent + (settledIds system.log).length +
          system.log.countP Observation.waives ∧
      ∀ id, (claimedIds (storeCalls system.log)).count id ≤ (settledIds system.log).count id := by
  have perIdentity := reached.claimed_le
  -- A bound for each identity is a bound for all of them together.
  have total : (claimedIds (storeCalls system.log)).length ≤ (settledIds system.log).length :=
    (List.subperm_ext_iff.mpr fun id _ => perIdentity id).length_le
  have covered := reached.covered both
  simp only [Covered] at covered
  exact ⟨by omega, perIdentity⟩

/-- A server that prices one tool, as witnesses and counterexamples run it. -/
def toolServer (paymentTtl maxPendingPayments : Nat) : PaymentServer where
  options :=
    { processors := [⟨"bitcoin-lightning-bolt11"⟩]
      pricedCapabilities := [⟨"tools/call", some "add", 21, none⟩]
      resolvePrice := true
      paymentTtl
      maxPendingPayments
      paymentInteraction := .optional }
  digests :=
    -- The canonical text of a call of one tool without arguments, and the digest of one such text.
    { jcs := fun
        | .object [("method", .string method), ("params", .object [("name", .string name)])] =>
          some ("\x7b\"method\":\"" ++ method ++ "\",\"params\":\x7b\"name\":\"" ++ name ++
            "\"\x7d\x7d")
        | _ => none
      sha256 := fun text =>
        if text = "\x7b\"method\":\"tools/call\",\"params\":\x7b\"name\":\"add\"\x7d\x7d" then
          [140, 161, 81, 6, 103, 83, 242, 156, 221, 27, 138, 22, 130, 95, 17, 49, 146, 139, 193,
            59, 31, 148, 246, 150, 46, 78, 237, 55, 107, 224, 1, 72]
        else [] }

/-- A call of the priced tool. -/
def toolCall : JsonRpcMessage :=
  .request ⟨"2.0", .string "1", "tools/call", some (.object [("name", .string "add")])⟩

/-- The context of an event in a session of the given mode. -/
def toolContext (eventId : String) (mode : PaymentInteractionMode) : InboundContext :=
  ⟨"c1", eventId, none, none, some mode⟩

/-- Initiation that ends with a payment request of this lifetime. -/
def invoiced (ttl : Option UInt64) : Input :=
  .initiated (.ok (.quote 21 none none))
    (.ok ⟨21, "lnbc1", "bitcoin-lightning-bolt11", none, ttl, none⟩)

/-- Initiation that ends with a waiver. -/
def waivedPrice : Input := .initiated (.ok (.waive none)) (.err (.processor ""))

/-- One paid transparent call and one paid explicit call, both executed. -/
def paidRun : List Action :=
  [.deliver toolCall (toolContext "e1" .transparent), .delivery 0 .run,
    .lifecycle 0 (invoiced none), .lifecycle 0 (.published (.ok ())),
    .lifecycle 0 (.verified (.ok ⟨none⟩)), .lifecycle 0 (.published (.ok ())),
    .lifecycle 0 (.sent true), .delivery 0 .run,
    .deliver toolCall (toolContext "e2" .explicitGating), .delivery 1 .run,
    .delivery 1 (invoiced none), .delivery 1 .run, .delivery 1 (.published (.ok ())),
    .verification 0 (.verified (.ok ⟨none⟩)), .verification 0 .run,
    .deliver toolCall (toolContext "e3" .explicitGating), .delivery 2 .run,
    .delivery 2 (.sent true)]

/-- The run reaches a state in which both payments were spent on one execution each. -/
theorem paid_execution_paidRun :
    ∃ system, Reached (toolServer 1000 1) Unrestricted system ∧
      system.log.countP (Observation.handsPriced (toolServer 1000 1).options) = 2 ∧
      2 ≤ system.log.countP Observation.settlesTransparent + (settledIds system.log).length +
        system.log.countP Observation.waives := by
  -- The run is executed, and the bound applies to the state it ends in.
  refine Reaches.exists_of_run paidRun (fun system =>
    system.log.countP (handsPriced (toolServer 1000 1).options) = 2) (by decide) ?_
  intro system reached spent
  have bound := (paid_execution rfl reached).1
  exact ⟨spent, spent ▸ bound⟩

end ContextVm
