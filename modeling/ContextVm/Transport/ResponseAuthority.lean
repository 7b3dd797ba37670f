import ContextVm.Transport.InboundChain

/-! When a redelivery leaves the response of a request that already reached the handler alone. -/

namespace ContextVm

open ChainRun Correlation JsonRpcMessage RunPhase

/-- The states a transport can get to while every action meets a condition. -/
def Transport.Reached (config : TransportConfig) (permitted : Transport → TransportAction → Prop)
    (state : Transport) : Prop :=
  Reaches (Transport.step config) permitted .start state

/-- Whether a run is still inside the chain. -/
def RunPhase.isInside : RunPhase → Bool
  | .inside _ => true
  | _ => false

/-- Whether a response is still to come of a run: it has reached the handler, or still may. -/
def ChainRun.owes (responded : List String) (row : ChainRun) : Bool :=
  row.message.isRequest && (row.phase.isInside || row.reached) &&
    decide (row.ctx.requestEventId ∉ responded)

/-- Every request that reached the handler and is not answered yet can still be answered. -/
def Answerable (state : Transport) : Prop :=
  ∀ row ∈ state.runs, row.message.isRequest = true → row.reached = true →
    row.ctx.requestEventId ∉ state.responded →
    ∃ authority, (state.held.correlateResponse row.ctx.requestEventId).1 = .ok authority

/-- No cleanup takes a route another run needs, and no entry is pushed out by another event. -/
structure SparesRoutes (state : Transport) (action : TransportAction) : Prop where
  -- A dropped run pops the route only when it is the last to need it, or a snapshot stands in.
  cleanups : ∀ (index : Nat) (row : ChainRun), action = .run index .cleanUp →
    state.runs[index]? = some row → row.phase = .returned → row.reached = false →
    (state.held.paymentRouteSnapshots.peek row.ctx.requestEventId).isSome = true ∨
      ∀ (other : Nat) (shared : ChainRun), other ≠ index → state.runs[other]? = some shared →
        shared.ctx.requestEventId = row.ctx.requestEventId →
        shared.owes state.responded = false
  registers : ∀ (message : JsonRpcMessage) (ctx : InboundContext), action = .deliver message ctx →
    state.held.eventRoutes.routes.victim ctx.requestEventId = none
  captures : ∀ (index : Nat) (session : Option Bool), action = .run index (.capture session) →
    state.held.paymentRouteSnapshots.len ≠ state.held.paymentRouteSnapshots.cap

namespace Correlation

/-- Where there is room, tracking a request makes it answerable. -/
theorem answers_track {held : Correlation} {ctx : InboundContext}
    (room : held.eventRoutes.routes.victim ctx.requestEventId = none) (serde : SerdeJson)
    (now : Nat) (message : JsonRpcMessage) (eventId : String) :
    (held.track serde now ctx message).answers eventId =
      (held.answers eventId || (message.isRequest && decide (eventId = ctx.requestEventId))) := by
  -- Only a request registers a route, and there is room for it.
  cases message with
  | request request =>
    simp only [track, answers, RouteStore.getRoute_register, room, isRequest]
    by_cases same : eventId = ctx.requestEventId
    · simp [same]
    · simp [same]
  | _ => simp [track, isRequest]

end Correlation

/-- What one step of a run can do to the response authorities. -/
inductive RunEffect (held : Correlation) (row : ChainRun) (input : RunInput) :
    ChainRun → Correlation → Prop
  -- The run moves, and every event that could be answered still can.
  | spare {moved : ChainRun} {left : Correlation} (ctx : moved.ctx = row.ctx)
      (message : moved.message = row.message)
      (owes : ∀ responded, moved.owes responded = true → row.owes responded = true)
      (kept : ∀ eventId, held.answers eventId = true → left.answers eventId = true) :
      RunEffect held row input moved left
  -- The cleanup of a dropped run pops the route of its event.
  | pop {moved : ChainRun} {left : Correlation} (acted : input = .cleanUp)
      (standing : row.phase = .returned) (dropped : row.reached = false)
      (ctx : moved.ctx = row.ctx) (owes : ∀ responded, moved.owes responded = false)
      (others : ∀ eventId, eventId ≠ row.ctx.requestEventId →
        left.answers eventId = held.answers eventId)
      (snapshots : left.paymentRouteSnapshots = held.paymentRouteSnapshots) :
      RunEffect held row input moved left

/-- A step of a run has one of the two effects. -/
theorem runStep_effect {config : TransportConfig} {clock : Nat} {held left : Correlation}
    {row moved : ChainRun} {input : RunInput}
    (room : ∀ session, input = .capture session →
      held.paymentRouteSnapshots.len ≠ held.paymentRouteSnapshots.cap)
    (taken : runStep config clock held row input = some (moved, left)) :
    RunEffect held row input moved left := by
  -- One input after another, each in the phases that take it.
  unfold runStep at taken
  split at taken
  · -- Forwarding keeps the run inside.
    split at taken
    · rename_i standing
      split at taken <;> cases taken
      exact .spare rfl rfl (by simp [owes, standing, isInside]) fun _ => id
    · cases taken
  · split at taken
    · -- Dropping ends the run, which can only owe less.
      rename_i standing
      split at taken <;> cases taken
      refine .spare rfl rfl ?_ fun _ => id
      simp +contextual [owes, standing, isInside]
    · cases taken
  · -- The terminal decides whether the run that was inside has reached the handler.
    split at taken
    · rename_i standing
      split at taken <;> cases taken
      refine .spare rfl rfl ?_ fun _ => id
      simp +contextual [owes, standing, isInside]
    · cases taken
  · simp only at taken
    split at taken
    · rename_i standing
      split at taken
      · cases taken
        refine .spare rfl rfl ?_ fun _ => id
        simp [owes, standing, isInside]
      · -- Nobody is in the way of a dropped run, so the route goes.
        rename_i dropped
        cases taken
        have unreached : row.reached = false := by simpa using dropped
        refine .pop rfl standing unreached rfl ?_ ?_ rfl
        · intro responded
          simp only [owes, unreached, Bool.or_false]
          split <;> simp [isInside]
        · intro eventId distinct
          simp [answers, RouteStore.getRoute_pop, distinct]
    · rename_i standing
      cases taken
      refine .spare rfl rfl ?_ fun _ => id
      simp [owes, standing, isInside]
    · cases taken
  · split at taken
    · cases taken
      exact .spare rfl rfl (fun _ => id) fun _ => id
    · cases taken
  · split at taken
    · -- A new snapshot takes no other one's place while there is room.
      cases taken
      refine .spare rfl rfl (fun _ => id) ?_
      intro eventId held
      simp only [answers, Bool.or_eq_true] at held ⊢
      rcases held with routed | kept
      · exact .inl routed
      · exact .inr (isSome_recordPaymentRouteSnapshot (room _ rfl) _ _ _ _ kept)
    · cases taken
      exact .spare rfl rfl (fun _ => id) fun _ => id
    · cases taken

/-- Every run that still owes a response has a route or a snapshot to answer with. -/
def Covers (state : Transport) : Prop :=
  ∀ row ∈ state.runs, row.owes state.responded = true →
    state.held.answers row.ctx.requestEventId = true

/-- No reachable run is left without an authority while routes are spared. -/
theorem Transport.Reached.covers {config : TransportConfig} {state : Transport}
    (reached : Transport.Reached config SparesRoutes state) : Covers state := by
  -- An invariant: authorities go by cleanups, by responses, and by nothing else.
  refine Reaches.invariant reached (by simp [Covers, Transport.start]) ?_
  intro before action after _ covers spares taken
  cases action with
  | tick elapsed =>
    cases taken
    exact covers
  | deliver message ctx =>
    cases taken
    have room := spares.registers message ctx rfl
    intro row member owes
    rw [answers_track room, Bool.or_eq_true]
    simp only [List.mem_append, List.mem_singleton] at member
    rcases member with old | rfl
    · exact .inl (covers row old owes)
    · -- The new run finds the route its own delivery has registered.
      refine .inr ?_
      simp only [ChainRun.owes, ChainRun.spawn] at owes ⊢
      split <;> simp_all
  | respond eventId =>
    cases taken
    -- A run whose event has been answered owes nothing, and the others are untouched.
    intro row member owes
    simp only [ChainRun.owes, Bool.and_eq_true, decide_eq_true_eq, List.mem_cons, not_or] at owes
    rw [Correlation.correlateResponse_snd, Correlation.answers, RouteStore.getRoute_pop,
      Lru.peek_pop, if_neg owes.2.1, if_neg owes.2.1]
    exact covers row member (by simp [ChainRun.owes, owes])
  | run index input =>
    simp only [Transport.step] at taken
    cases found : before.runs[index]? with
    | none => simp [found] at taken
    | some row =>
      simp only [found] at taken
      obtain ⟨⟨moved, left⟩, stepped, rfl⟩ := Option.map_eq_some_iff.mp taken
      have listed := List.mem_of_getElem? found
      have effect := runStep_effect
        (fun session acted => spares.captures index session (by rw [acted])) stepped
      intro other member owes
      obtain ⟨place, read⟩ := List.mem_iff_getElem?.mp member
      cases effect with
      | spare ctx message stillOwes kept =>
        apply kept
        -- The row is the one that moved or an old one.
        rcases getElem?_set_cases found read with ⟨-, rfl⟩ | ⟨-, old⟩
        · rw [ctx]
          exact covers row listed (stillOwes _ owes)
        · exact covers other (List.mem_of_getElem? old) owes
      | pop acted standing dropped ctx settled others snapshots =>
        rcases getElem?_set_cases found read with ⟨-, rfl⟩ | ⟨elsewhere, old⟩
        · simp [settled] at owes
        · have covered := covers other (List.mem_of_getElem? old) owes
          by_cases same : other.ctx.requestEventId = row.ctx.requestEventId
          · -- Another run of the event needs an authority, so the snapshot stands in.
            subst acted
            rcases spares.cleanups index row rfl found standing dropped with stands | nobody
            · simp only [answers, snapshots, same, stands, Bool.or_true]
            · simp [nobody place other elsewhere old same] at owes
          · grind

/--
A redelivery never destroys the response authority of a request that reached the handler.

This holds in every run in which a dropped delivery pops the route only when no other delivery
of the event is still in the chain or awaits its response, or a payment snapshot stands in, and
in which no entry is pushed out for another event.
-/
theorem redelivery_answerable {config : TransportConfig} {state : Transport}
    (reached : Transport.Reached config SparesRoutes state) : Answerable state := by
  -- A request that reached the handler and is not answered still owes a response.
  intro row member request delivered unanswered
  rw [correlateResponse_ok]
  exact reached.covers row member (by simp [owes, request, delivered, unanswered])

/-- Whether an action spares the routes, as a test. -/
def sparesRoutes (state : Transport) : TransportAction → Bool
  | .run index .cleanUp => (state.runs[index]?).all fun row =>
    row.phase != .returned || row.reached ||
      (state.held.paymentRouteSnapshots.peek row.ctx.requestEventId).isSome ||
      (state.runs.eraseIdx index).all fun shared =>
        shared.ctx.requestEventId != row.ctx.requestEventId || !shared.owes state.responded
  | .deliver _ ctx => (state.held.eventRoutes.routes.victim ctx.requestEventId).isNone
  | .run _ (.capture _) =>
    state.held.paymentRouteSnapshots.len != state.held.paymentRouteSnapshots.cap
  | _ => true

/-- The test finds every route that is not spared. -/
theorem sparesRoutes_ensures (state : Transport) (action : TransportAction)
    (passed : sparesRoutes state action = true) : SparesRoutes state action := by
  -- The three conditions, each for the action it is about.
  constructor
  · intro index row acted found standing dropped
    subst acted
    simp only [sparesRoutes, found, Option.all_some, standing, dropped, bne_self_eq_false,
      Bool.false_or, Bool.or_eq_true, List.all_eq_true, bne_iff_ne, Bool.not_eq_true'] at passed
    rcases passed with stands | nobody
    · exact .inl stands
    · refine .inr fun other shared elsewhere read event => ?_
      -- Every other row is still there once the run's own is taken out.
      have listed : shared ∈ state.runs.eraseIdx index :=
        List.mem_eraseIdx_iff_getElem?.mpr ⟨other, elsewhere, read⟩
      rcases nobody shared listed with distinct | settled
      · exact absurd event distinct
      · exact settled
  · intro message ctx acted
    subst acted
    simpa [sparesRoutes] using passed
  · grind [sparesRoutes]

/-- Every run has finished, and a request that reached the handler cannot be answered. -/
def Stranded (state : Transport) (eventId : String) : Prop :=
  (∀ row ∈ state.runs, row.phase = .finished) ∧
    (∃ row ∈ state.runs, row.message.isRequest = true ∧ row.reached = true ∧
      row.ctx.requestEventId = eventId) ∧
    eventId ∉ state.responded ∧
    (state.held.correlateResponse eventId).1 = .error ("No client found for event " ++ eventId)

instance (state : Transport) (eventId : String) : Decidable (Stranded state eventId) := by
  unfold Stranded
  infer_instance

/-- A chain of two middlewares, as witnesses and counterexamples run it. -/
def twoMiddlewares : TransportConfig where
  serde := .silent
  middlewares := 2
  snapshotTtl := 1000

/-- A request of one tool, as it arrives twice. -/
def twiceDelivered : TransportAction :=
  .deliver (.request ⟨"2.0", .string "1", "tools/call", none⟩) ⟨"c1", "e1", none, none, none⟩

/-- A redelivery is dropped while the first delivery, whose route was captured, still runs. -/
theorem redelivery_answerable_captured :
    ∃ state, Transport.Reached twoMiddlewares SparesRoutes state ∧
      state.held.eventRoutes.getRoute "e1" = none ∧
      (state.runs.map fun row => (row.phase, row.reached)) =
        [(.finished, true), (.finished, false)] ∧
      Answerable state := by
  -- The redelivery pops the route, and the snapshot stands in for it.
  refine Reaches.exists_of_any sparesRoutes_ensures
    [twiceDelivered, .run 0 .lookUp, .run 0 (.capture (some true)), twiceDelivered,
      .run 1 .unwind, .run 1 .cleanUp, .run 1 .cleanUp, .run 0 .advance, .run 0 .advance,
      .run 0 (.send true), .run 0 .cleanUp]
    (fun state => state.held.eventRoutes.getRoute "e1" = none ∧
      (state.runs.map fun row => (row.phase, row.reached)) =
        [(.finished, true), (.finished, false)]) (by decide) ?_
  intro state reached checked
  exact ⟨checked.1, checked.2, redelivery_answerable reached⟩

end ContextVm
