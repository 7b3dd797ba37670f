import ContextVm.Lib.History
import ContextVm.Payments.AuthorizationLaws

/-! Histories of store calls, and what becomes of every grant they make. -/

namespace ContextVm

/-- One call of a history, with the store it was made on. -/
structure StoreCall where
  now : Nat
  id : CanonicalInvocationIdentity
  op : StoreOp
  before : AuthorizationStore

namespace StoreCall

/-- What the call returned. -/
def reply (call : StoreCall) : StoreReply := (call.before.perform call.now call.id call.op).1

/-- The store the call left behind. -/
def after (call : StoreCall) : AuthorizationStore :=
  (call.before.perform call.now call.id call.op).2

/-- The call grants an identity. -/
def grants (id : CanonicalInvocationIdentity) (call : StoreCall) : Bool :=
  decide (call.id = id) && match call.op with
    | .grant _ => true
    | _ => false

/-- The call claims a grant of an identity, through either of the two claiming operations. -/
def succeeds (id : CanonicalInvocationIdentity) (call : StoreCall) : Bool :=
  decide (call.id = id) && match call.op with
    | .claim => call.reply == .flag true
    | .claimOrSetPending _ => call.reply == .entered .claimed
    | _ => false

/-- The call moves an identity into the pending state. -/
def setsPending (id : CanonicalInvocationIdentity) (call : StoreCall) : Bool :=
  decide (call.id = id) && match call.op with
    | .trySetPending _ => call.reply == .flag true
    | .claimOrSetPending _ => call.reply == .entered .pendingSet
    | _ => false

/-- The call clears the pending state of an identity. -/
def clears (id : CanonicalInvocationIdentity) (call : StoreCall) : Bool :=
  decide (call.id = id) && call.op == .clearPending

/-- The call pushes the pending state of an identity out of the full cache. -/
def evictsPending (id : CanonicalInvocationIdentity) (call : StoreCall) : Bool :=
  call.before.pendingVictim call.now call.id call.op == some id.key

/-- The call writes a grant over one that could still be claimed. -/
def overwrites (id : CanonicalInvocationIdentity) (call : StoreCall) : Bool :=
  call.grants id && live call.now (call.before.cell id).grant

/-- The call meets a grant of an identity that has run out, and removes or replaces it. -/
def lapses (id : CanonicalInvocationIdentity) (call : StoreCall) : Bool :=
  -- A grant that has run out stays in the cache until some call on its identity meets it.
  decide (call.id = id) && (call.before.cell id).grant.isSome &&
    !live call.now (call.before.cell id).grant && match call.op with
      | .grant _ | .claim | .claimOrSetPending _ => true
      | _ => false

/-- The call pushes the grant of an identity out of the full cache. -/
def evictsGrant (id : CanonicalInvocationIdentity) (call : StoreCall) : Bool :=
  call.before.grantVictim call.id call.op == some id.key

end StoreCall

/-- One call to make: a clock reading, the identity, and the operation. -/
abbrev StoreRequest := Nat × CanonicalInvocationIdentity × StoreOp

/-- The call a request makes on a store. -/
def StoreRequest.call (store : AuthorizationStore) (request : StoreRequest) : StoreCall :=
  ⟨request.1, request.2.1, request.2.2, store⟩

/-- The calls of a history, each made on what the one before left behind. -/
def record (store : AuthorizationStore) (requests : List StoreRequest) : List StoreCall :=
  history (fun before request => (StoreRequest.call before request).after) StoreRequest.call store
    requests

/-- The store a history ends with. -/
def replay (store : AuthorizationStore) (requests : List StoreRequest) : AuthorizationStore :=
  requests.foldl (fun before request => (StoreRequest.call before request).after) store

section

variable (store : AuthorizationStore) (earlier : List StoreRequest) (request : StoreRequest)

theorem record_append :
    record store (earlier ++ [request]) =
      record store earlier ++ [StoreRequest.call (replay store earlier) request] :=
  history_concat store earlier request

theorem replay_append :
    replay store (earlier ++ [request]) =
      (StoreRequest.call (replay store earlier) request).after := by
  rw [replay, List.foldl_append]
  rfl

theorem record_concat :
    ∃ call : StoreCall, call.before = replay store earlier ∧
      record store (earlier ++ [request]) = record store earlier ++ [call] ∧
      replay store (earlier ++ [request]) = call.after :=
  ⟨_, rfl, record_append store earlier request, replay_append store earlier request⟩

end

theorem record_split {store : AuthorizationStore} {requests : List StoreRequest}
    {earlier later : List StoreCall} {call : StoreCall}
    (split : record store requests = earlier ++ call :: later) :
    ∃ first, earlier = record store first ∧ call.before = replay store first := by
  obtain ⟨first, request, same, made, -⟩ := history_split split
  exact ⟨first, same, by rw [made]; rfl⟩

namespace StoreCall

theorem reply_eq (call : StoreCall) :
    call.reply = ((call.before.cell call.id).perform call.now call.op).1 :=
  call.before.reply_perform call.now call.id call.op

theorem after_self (call : StoreCall) :
    call.after.cell call.id = ((call.before.cell call.id).perform call.now call.op).2 :=
  call.before.cell_perform_self call.now call.id call.op

theorem evictsGrant_spec {call : StoreCall} {id : CanonicalInvocationIdentity}
    (pushed : call.evictsGrant id = true) :
    call.id ≠ id ∧ (call.before.cell id).grant.isSome = true := by
  simp only [evictsGrant, beq_iff_eq] at pushed
  -- Only a grant writes into the cache of grants, and what it pushes out was held there.
  cases op : call.op with
  | grant ttlMs =>
    simp only [op, AuthorizationStore.grantVictim] at pushed
    obtain ⟨held, distinct⟩ := Lru.victim_held pushed
    exact ⟨fun same => distinct (by rw [same]), Option.isSome_iff_ne_none.mpr held⟩
  | _ => simp [op, AuthorizationStore.grantVictim] at pushed

/-- How many grants an entry amounts to. -/
def stored (entry : Option Nat) : Nat := entry.toList.length

theorem grant_after_self (call : StoreCall) :
    (call.after.cell call.id).grant = match call.op with
      | .grant ttlMs => some (call.now + Duration.fromMillis ttlMs)
      | .claim | .claimOrSetPending _ => none
      | _ => (call.before.cell call.id).grant := by
  rw [after_self]
  -- The operations that look at the pending state first leave the grant in either case.
  cases call.op with
  | claimOrSetPending ttlMs => grind [Cell.perform]
  | trySetPending ttlMs | updatePendingTtl ttlMs =>
    simp only [Cell.perform]
    split <;> rfl
  | _ => rfl

theorem succeeds_self (call : StoreCall) :
    call.succeeds call.id = match call.op with
      | .claim | .claimOrSetPending _ => live call.now (call.before.cell call.id).grant
      | _ => false := by
  simp only [succeeds, decide_true, Bool.true_and, reply_eq]
  cases call.op with
  | claim => grind [Cell.perform]
  | claimOrSetPending ttlMs =>
    simp only [Cell.perform]
    cases live call.now (call.before.cell call.id).grant with
    | true => rfl
    | false =>
      -- Without a live grant the answer is one of the two pending ones.
      cases live call.now (call.before.cell call.id).pending <;> rfl
  | _ => rfl

/-- A call accounts for the grant it makes and the one it finds. -/
theorem grant_balance (call : StoreCall) (id : CanonicalInvocationIdentity) :
    (call.grants id).toNat + stored (call.before.cell id).grant =
      (call.succeeds id).toNat + stored (call.after.cell id).grant + (call.overwrites id).toNat +
        (call.lapses id).toNat + (call.evictsGrant id).toNat := by
  by_cases own : call.id = id
  · subst own
    have spared : call.evictsGrant call.id = false := by
      by_contra pushed
      exact (evictsGrant_spec (by simpa using pushed)).1 rfl
    rw [grant_after_self, succeeds_self, spared]
    simp only [grants, overwrites, lapses, decide_true, Bool.true_and]
    -- What is found is nothing, a grant that has run out, or one that is still good.
    cases (call.before.cell call.id).grant with
    | none =>
      have absent : live call.now none = false := rfl
      cases call.op <;> simp [stored, absent]
    | some expiry =>
      cases live call.now (some expiry) with
      | true | false => cases call.op <;> simp [stored]
  · -- A call on another identity can only push the grant out.
    have left : (call.after.cell id).grant = if call.evictsGrant id then none
        else (call.before.cell id).grant := by
      rw [after, call.before.cell_perform_other call.now call.op (Ne.symm own)]
      simp [evictsGrant]
    have foreign : call.grants id = false ∧ call.succeeds id = false ∧ call.lapses id = false := by
      simp [grants, succeeds, lapses, own]
    obtain ⟨ungranted, unclaimed, kept⟩ := foreign
    rw [left, overwrites, ungranted, unclaimed, kept]
    cases pushed : call.evictsGrant id with
    | false => simp
    | true =>
      obtain ⟨expiry, held⟩ := Option.isSome_iff_exists.mp (evictsGrant_spec pushed).2
      simp [stored, held]

end StoreCall

/-- Over a whole history every grant is claimed, stored, overwritten, run out, or pushed out. -/
theorem grants_conserved (maxEntries : Nat) (id : CanonicalInvocationIdentity)
    (requests : List StoreRequest) :
    (record (.withMaxEntries maxEntries) requests).countP (StoreCall.grants id) =
      (record (.withMaxEntries maxEntries) requests).countP (StoreCall.succeeds id) +
        StoreCall.stored ((replay (.withMaxEntries maxEntries) requests).cell id).grant +
        (record (.withMaxEntries maxEntries) requests).countP (StoreCall.overwrites id) +
        (record (.withMaxEntries maxEntries) requests).countP (StoreCall.lapses id) +
        (record (.withMaxEntries maxEntries) requests).countP (StoreCall.evictsGrant id) := by
  -- The induction is on the history, and each call moves the balance by what it does.
  induction requests using List.reverseRecOn with
  | nil => rfl
  | append_singleton earlier request ih =>
    obtain ⟨newest, made, recorded, replayed⟩ :=
      record_concat (.withMaxEntries maxEntries) earlier request
    rw [← made] at ih
    -- The newest call moves what the earlier ones left stored.
    have balance := newest.grant_balance id
    have counted (test : StoreCall → Bool) : ([newest] : List StoreCall).countP test =
        (test newest).toNat := by
      cases passed : test newest <;> simp [passed]
    rw [recorded, replayed]
    simp only [List.countP_append, counted]
    omega

end ContextVm
