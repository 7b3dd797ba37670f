import ContextVm.Payments.ClientEngine

/-! How often a wallet is asked to pay one and the same payment request. -/

namespace ContextVm

open ClientPaymentsEngine EngineCall

/-! The tasks that put offers before the policy and a wallet. -/

/-- How far such a task has come. -/
inductive ChainPhase where
  -- The policy, and then the wallet, is asked whether to pay.
  | deciding
  | asking
  -- The wallet pays.
  | paying
  -- The task is over, but for the claim it holds.
  | leaving
  | finished
  deriving DecidableEq

/-- A task and its phase. -/
structure ChainTask where
  chain : PaymentChain
  phase : ChainPhase
  deriving DecidableEq

/-- What a task is waiting for. -/
inductive ChainInput where
  -- The policy or the wallet answers, or panics.
  | decide (verdict : Option Bool)
  | ask (verdict : Option Bool)
  -- The wallet is done, fails, or panics.
  | settle (outcome : Answer PaymentError Unit)
  -- The claim is given up.
  | release

namespace ChainTask

/-- The payment request that a task is about. -/
def payReq (task : ChainTask) : String := task.chain.request.payReq

/-- A task that has just been spawned. -/
def spawn (options : ClientPaymentsOptions) (chain : PaymentChain) : ChainTask where
  chain
  phase := if options.paymentPolicy then .deciding else .asking

/-- Give the offer up and fail its request. -/
def decline (engine : ClientPaymentsEngine) (task : ChainTask) (message : String) :
    List EngineCall :=
  stopKeepalives task.chain.request.requestEventId task.chain.entry ++
    engine.synthesizeDecline task.chain.entry message task.chain.request.pmi
      task.chain.request.amount

/-- The next phase of a task, and what the engine does. -/
def advance (engine : ClientPaymentsEngine) (task : ChainTask) (input : ChainInput) :
    Option (ChainPhase × List EngineCall) :=
  match task.phase, input with
  | .deciding, .decide verdict => match verdict with
    | some true => some (.asking, [])
    | some false => some (.leaving, task.decline engine "Payment declined by client policy")
    | none => some (.leaving, [])
  | .asking, .ask verdict => match verdict with
    | some true => some (.paying, [])
    | some false => some (.leaving, task.decline engine "Payment declined by client handler")
    | none => some (.leaving, [])
  -- Nothing is made of a failure: the server decides when to stop waiting.
  | .paying, .settle _ => some (.leaving, [])
  | .leaving, .release => some (.finished, [])
  | _, _ => none

end ChainTask

/-! The engine at work. -/

/-- Something that happens to a payment request. -/
inductive WalletEvent where
  | claimed (payReq : String)
  | invoked (payReq : String)
  | released (payReq : String)
  deriving DecidableEq

/-- An engine at work, with what has happened, the latest first. -/
structure EngineRun where
  engine : ClientPaymentsEngine
  tasks : List ChainTask
  log : List WalletEvent

/-- What can happen to an engine. -/
inductive EngineAction where
  -- The transport calls: for a request that is sent, a payment notification, the end of a request.
  | cache (message : JsonRpcMessage)
  | notify (notification : JsonRpcNotification) (eventId : String) (entry : Option PendingRequest)
      (requestedGating effectiveGating : Bool)
  | terminal (entry : Option PendingRequest) (eventId : Option String) (message : JsonRpcMessage)
  | advance (index : Nat) (input : ChainInput)

/-- The task that a call spawns for an offer. -/
def EngineCall.chain : EngineCall → Option PaymentChain
  | .spawnChain chain => some chain
  | _ => none

/-- What it means for the payment request when a task goes over to a phase. -/
def ChainTask.entering (task : ChainTask) : ChainPhase → List WalletEvent
  | .paying => [.invoked task.payReq]
  | .finished => [.released task.payReq]
  | _ => []

namespace EngineRun

/-- An engine that has just been installed. -/
def start : EngineRun := ⟨.new, [], []⟩

/-- One thing that happens to an engine. -/
def step (options : ClientPaymentsOptions) (state : EngineRun) : EngineAction → Option EngineRun
  | .cache message => some { state with engine := state.engine.cacheRawRequest message }
  | .notify notification eventId entry requestedGating effectiveGating =>
    let (_, engine, calls) := state.engine.handlePaymentNotification options notification eventId
      entry requestedGating effectiveGating
    let spawned := calls.filterMap EngineCall.chain
    some
      { engine
        tasks := state.tasks ++ spawned.map (.spawn options)
        log := spawned.map (fun chain => .claimed chain.request.payReq) ++ state.log }
  | .terminal entry eventId message =>
    some { state with engine := (state.engine.onTerminalResponse options entry eventId message).1 }
  | .advance index input =>
    match state.tasks[index]? with
    | none => none
    | some task => (task.advance state.engine input).map fun (phase, _) =>
      { engine :=
          { state.engine with
            inFlightPayReqs := if phase = .finished then
                state.engine.inFlightPayReqs.filter (· ≠ task.payReq)
              else state.engine.inFlightPayReqs }
        tasks := state.tasks.set index { task with phase }
        log := task.entering phase ++ state.log }

/-- The engines that can be reached from one that was just installed. -/
def Reached (options : ClientPaymentsOptions) (state : EngineRun) : Prop :=
  Reaches (step options) Unrestricted start state

end EngineRun

/-! What has happened to one payment request. -/

/-- How things stand with a payment request. -/
inductive WalletStage where
  | idle
  | claimed
  | invoked
  deriving DecidableEq

/-- How things stand with a payment request after what has happened. -/
def stage (payReq : String) : List WalletEvent → WalletStage
  | [] => .idle
  | .claimed other :: earlier => if other = payReq then .claimed else stage payReq earlier
  | .invoked other :: earlier => if other = payReq then .invoked else stage payReq earlier
  | .released other :: earlier => if other = payReq then .idle else stage payReq earlier

/-- A payment request is claimed when idle, and a wallet is invoked only once for a claim. -/
def Orderly : List WalletEvent → Prop
  | [] => True
  | .claimed payReq :: earlier => stage payReq earlier = .idle ∧ Orderly earlier
  | .invoked payReq :: earlier => stage payReq earlier = .claimed ∧ Orderly earlier
  | .released _ :: earlier => Orderly earlier

section Log

variable {payReq : String}
variable {earlier : List WalletEvent}

theorem released_of_idle {between : List WalletEvent}
    (idle : stage payReq (between ++ .invoked payReq :: earlier) = .idle) :
    .released payReq ∈ between := by
  induction between with
  | nil => simp [stage] at idle
  | cons event between ih =>
    -- The latest event about the payment request decides.
    cases event with
    | claimed other | invoked other =>
      simp only [List.cons_append, stage] at idle
      split at idle
      · cases idle
      · exact List.mem_cons_of_mem _ (ih idle)
    | released other =>
      simp only [List.cons_append, stage] at idle
      split at idle
      · grind
      · exact List.mem_cons_of_mem _ (ih idle)

/-- A payment request whose wallet was invoked is claimed again only after a release. -/
theorem released_of_claimed {between : List WalletEvent}
    (orderly : Orderly (between ++ .invoked payReq :: earlier))
    (claimed : stage payReq (between ++ .invoked payReq :: earlier) = .claimed) :
    .released payReq ∈ between := by
  induction between with
  | nil => simp [stage] at claimed
  | cons event between ih =>
    cases event with
    | claimed other =>
      simp only [List.cons_append, stage] at claimed
      -- The claim itself was made when idle.
      by_cases same : other = payReq
      · subst same
        exact List.mem_cons_of_mem _ (released_of_idle orderly.1)
      · rw [if_neg same] at claimed
        exact List.mem_cons_of_mem _ (ih orderly.2 claimed)
    | invoked other =>
      simp only [List.cons_append, stage] at claimed
      split at claimed
      · cases claimed
      · exact List.mem_cons_of_mem _ (ih orderly.2 claimed)
    | released other =>
      simp only [List.cons_append, stage] at claimed
      split at claimed
      · cases claimed
      · exact List.mem_cons_of_mem _ (ih orderly claimed)

theorem Orderly.of_append {later : List WalletEvent} (orderly : Orderly (later ++ earlier)) :
    Orderly earlier := by
  induction later with
  | nil => exact orderly
  | cons event later ih =>
    cases event with
    | claimed other | invoked other => exact ih orderly.2
    | released other => exact ih orderly

/-- A wallet is invoked no more often than its payment request is claimed. -/
theorem count_invoked_le (payReq : String) {log : List WalletEvent} (orderly : Orderly log) :
    log.count (.invoked payReq) + (if stage payReq log = .claimed then 1 else 0) ≤
      log.count (.claimed payReq) := by
  induction log with
  | nil => simp [stage]
  | cons event earlier ih =>
    cases event with
    | claimed other =>
      have before := ih orderly.2
      by_cases same : other = payReq
      · subst same
        -- A claim that is made has not led to an invocation yet.
        simp [stage] at before ⊢
        omega
      · simpa [stage, same] using before
    | invoked other =>
      have before := ih orderly.2
      by_cases same : other = payReq
      · subst same
        rw [if_pos orderly.1] at before
        simpa [stage] using before
      · simpa [stage, same] using before
    | released other =>
      have before := ih orderly
      by_cases same : other = payReq
      · have fewer : earlier.count (.invoked payReq) ≤ earlier.count (.claimed payReq) := by omega
        simpa [stage, same] using fewer
      · simpa [stage, same] using before

end Log

/-! What the engine keeps to. -/

namespace ClientPaymentsEngine

variable {options : ClientPaymentsOptions} {engine : ClientPaymentsEngine}

/-- What is done about a message can claim a payment request that nobody holds, and no more. -/
inductive Claims (engine : ClientPaymentsEngine) :
    ClientPaymentsEngine → List PaymentChain → Prop
  | nothing {after : ClientPaymentsEngine}
      (same : after.inFlightPayReqs = engine.inFlightPayReqs) : Claims engine after []
  | one {after : ClientPaymentsEngine} {chain : PaymentChain}
      (free : chain.request.payReq ∉ engine.inFlightPayReqs)
      (taken : after.inFlightPayReqs = chain.request.payReq :: engine.inFlightPayReqs) :
      Claims engine after [chain]

theorem chain_keepAlive (eventId : String) (entry : Option PendingRequest) (ttl : Nat) :
    (keepAlive eventId entry ttl).filterMap EngineCall.chain = [] := by
  unfold keepAlive
  split
  · simp [List.filterMap_append, chain]
  · rfl

theorem chain_stopKeepalives (eventId : String) (entry : Option PendingRequest) :
    (stopKeepalives eventId entry).filterMap EngineCall.chain = [] := by
  simp [stopKeepalives, chain]

/-- A payment notification claims at most one payment request, which nobody holds. -/
theorem claims_handlePaymentNotification (options : ClientPaymentsOptions)
    (engine : ClientPaymentsEngine) (notification : JsonRpcNotification) (eventId : String)
    (entry : Option PendingRequest) (requestedGating effectiveGating : Bool) :
    let handled := (engine.handlePaymentNotification options notification eventId entry
      requestedGating effectiveGating).2
    engine.Claims handled.1 (handled.2.filterMap EngineCall.chain) := by
  unfold handlePaymentNotification
  simp only
  split
  · -- Only an offer for a pending request is engaged.
    unfold onPaymentRequiredNotification
    split
    · exact .nothing rfl
    · split
      · exact .nothing rfl
      · split
        · exact .nothing rfl
        · unfold engage
          simp only
          split
          · rw [chain_keepAlive]
            exact .nothing rfl
          · split
            · rw [chain_keepAlive]
              exact .nothing rfl
            · rename_i free
              rw [List.filterMap_append, chain_keepAlive]
              exact .one free rfl
  · split
    · simp only [chain_stopKeepalives]
      exact .nothing rfl
    · split
      · split
        · exact .nothing rfl
        · simp only [List.filterMap_append, chain_stopKeepalives, synthesizeError, chain,
            List.filterMap_cons, List.filterMap_nil, List.append_nil]
          exact .nothing rfl
      · exact .nothing rfl

/-- The end of a request claims and releases nothing. -/
theorem inFlight_onTerminalResponse (options : ClientPaymentsOptions)
    (engine : ClientPaymentsEngine) (entry : Option PendingRequest) (eventId : Option String)
    (message : JsonRpcMessage) :
    (engine.onTerminalResponse options entry eventId message).1.inFlightPayReqs =
      engine.inFlightPayReqs := by
  -- Only the requests that are kept to be tried again are touched.
  have retired : (engine.retire entry message).1.inFlightPayReqs = engine.inFlightPayReqs := by
    unfold retire
    split <;> rfl
  unfold onTerminalResponse classify
  simp only
  split
  · split
    · grind [interceptPaymentRequiredError]
    · split
      · grind [interceptPaymentPendingError]
      · exact retired
  · exact retired

end ClientPaymentsEngine

namespace EngineRun

variable {options : ClientPaymentsOptions} {state : EngineRun}
variable {task : ChainTask} {index : Nat} {engine : ClientPaymentsEngine}

/-- The claims that are held belong to tasks that are not finished, one to each. -/
structure Sound (state : EngineRun) : Prop where
  orderly : Orderly state.log
  held : ∀ payReq, payReq ∈ state.engine.inFlightPayReqs ↔ stage payReq state.log ≠ .idle
  holds : ∀ task ∈ state.tasks, task.phase ≠ .finished →
    task.payReq ∈ state.engine.inFlightPayReqs
  single : ∀ (index other : Nat) (task shared : ChainTask), state.tasks[index]? = some task →
    state.tasks[other]? = some shared → task.phase ≠ .finished → shared.phase ≠ .finished →
    task.payReq = shared.payReq → index = other
  uninvoked : ∀ task ∈ state.tasks, task.phase = .deciding ∨ task.phase = .asking →
    stage task.payReq state.log = .claimed

section

variable (sound : state.Sound)
include sound

theorem Sound.of_inFlight (same : engine.inFlightPayReqs = state.engine.inFlightPayReqs) :
    { state with engine }.Sound where
  orderly := sound.orderly
  held payReq := by
    rw [← sound.held payReq, ← same]
  holds task member active := by
    rw [same]
    exact sound.holds task member active
  single := sound.single
  uninvoked := sound.uninvoked

/-- An offer whose payment request nobody holds gets a task of its own. -/
theorem Sound.claim {chain : PaymentChain}
    (free : chain.request.payReq ∉ state.engine.inFlightPayReqs)
    (taken : engine.inFlightPayReqs = chain.request.payReq :: state.engine.inFlightPayReqs) :
    ({ engine
       tasks := state.tasks ++ [.spawn options chain]
       log := .claimed chain.request.payReq :: state.log } : EngineRun).Sound := by
  -- Nothing of the payment request is left from before.
  have idle : stage chain.request.payReq state.log = .idle := by
    by_contra busy
    exact free ((sound.held _).mpr busy)
  have foreign {task : ChainTask} (member : task ∈ state.tasks) (active : task.phase ≠ .finished) :
      task.payReq ≠ chain.request.payReq := by
    intro same
    exact free (same ▸ sound.holds task member active)
  constructor
  · exact ⟨idle, sound.orderly⟩
  · intro payReq
    simp only [taken, List.mem_cons, stage, sound.held payReq]
    by_cases same : chain.request.payReq = payReq
    · simp [same]
    · simp [same, Ne.symm same]
  · intro task member active
    simp only [taken, List.mem_cons]
    rcases List.mem_append.mp member with old | new
    · exact .inr (sound.holds task old active)
    · rw [List.mem_singleton.mp new]
      exact .inl rfl
  · intro index other task shared found read active busy same
    -- The new task stands at the end.
    rcases getElem?_append_singleton found with old | ⟨last, rfl⟩
    · rcases getElem?_append_singleton read with kept | ⟨-, rfl⟩
      · exact sound.single index other task shared old kept active busy same
      · exact absurd same (foreign (List.mem_of_getElem? old) active)
    · rcases getElem?_append_singleton read with kept | ⟨end_, -⟩
      · exact absurd same.symm (foreign (List.mem_of_getElem? kept) busy)
      · rw [last, end_]
  · intro task member waiting
    simp only [stage]
    rcases List.mem_append.mp member with old | new
    · have active : task.phase ≠ .finished := by
        rcases waiting with phase | phase <;> simp [phase]
      rw [if_neg (foreign old active).symm]
      exact sound.uninvoked task old waiting
    · rw [List.mem_singleton.mp new]
      exact if_pos rfl

theorem Sound.single_set (found : state.tasks[index]? = some task)
    (active : task.phase ≠ .finished) (phase : ChainPhase) (first second : Nat)
    (one another : ChainTask)
    (read : (state.tasks.set index { task with phase })[first]? = some one)
    (again : (state.tasks.set index { task with phase })[second]? = some another)
    (busy : one.phase ≠ .finished) (alive : another.phase ≠ .finished)
    (same : one.payReq = another.payReq) : first = second := by
  -- The task that moved is about the payment request that it was about.
  rcases getElem?_set_cases found read with ⟨here, rfl⟩ | ⟨elsewhere, old⟩
  · rcases getElem?_set_cases found again with ⟨there, rfl⟩ | ⟨-, kept⟩
    · rw [here, there]
    · rw [here]
      exact sound.single index second task another found kept active alive same
  · rcases getElem?_set_cases found again with ⟨there, rfl⟩ | ⟨-, kept⟩
    · rw [there]
      exact sound.single first index one task old found busy active same
    · exact sound.single first second one another old kept busy alive same

theorem Sound.move (found : state.tasks[index]? = some task)
    (active : task.phase ≠ .finished) {phase : ChainPhase}
    (next : phase = .asking ∧ task.phase = .deciding ∨ phase = .leaving) :
    { state with tasks := state.tasks.set index { task with phase } }.Sound := by
  have listed := List.mem_of_getElem? found
  constructor
  · exact sound.orderly
  · exact sound.held
  · intro moved member busy
    rcases List.mem_or_eq_of_mem_set member with old | rfl
    · exact sound.holds moved old busy
    · exact sound.holds task listed active
  · exact sound.single_set found active phase
  · intro moved member waiting
    rcases List.mem_or_eq_of_mem_set member with old | rfl
    · exact sound.uninvoked moved old waiting
    · rcases next with ⟨-, deciding⟩ | leaving
      · exact sound.uninvoked task listed (.inl deciding)
      · rcases waiting with phase | phase <;> simp [leaving] at phase

/-- A wallet that agrees to pay is invoked for a claim that it was not invoked for. -/
theorem Sound.invoke (found : state.tasks[index]? = some task) (asking : task.phase = .asking) :
    { state with
      tasks := state.tasks.set index { task with phase := .paying }
      log := .invoked task.payReq :: state.log }.Sound := by
  have listed := List.mem_of_getElem? found
  have active : task.phase ≠ .finished := by simp [asking]
  have claimed := sound.uninvoked task listed (.inr asking)
  constructor
  · exact ⟨claimed, sound.orderly⟩
  · intro payReq
    simp only [sound.held payReq, stage]
    by_cases same : task.payReq = payReq
    · rw [← same, claimed]
      simp
    · rw [if_neg same]
  · intro moved member busy
    rcases List.mem_or_eq_of_mem_set member with old | rfl
    · exact sound.holds moved old busy
    · exact sound.holds task listed active
  · exact sound.single_set found active .paying
  · intro moved member waiting
    simp only [stage]
    obtain ⟨place, read⟩ := List.mem_iff_getElem?.mp member
    rcases getElem?_set_cases found read with ⟨-, rfl⟩ | ⟨elsewhere, old⟩
    · rcases waiting with phase | phase <;> cases phase
    · -- No other task is about this payment request.
      have busy : moved.phase ≠ .finished := by
        rcases waiting with phase | phase <;> simp [phase]
      rw [if_neg fun same => elsewhere
        (sound.single place index moved task old found busy active same.symm)]
      exact sound.uninvoked moved (List.mem_of_getElem? old) waiting

/-- A task that is over gives its claim up. -/
theorem Sound.release (found : state.tasks[index]? = some task) (active : task.phase ≠ .finished) :
    ({ engine := { state.engine with
         inFlightPayReqs := state.engine.inFlightPayReqs.filter (· ≠ task.payReq) }
       tasks := state.tasks.set index { task with phase := .finished }
       log := .released task.payReq :: state.log } : EngineRun).Sound := by
  -- Every other task that is not finished is about another payment request.
  have foreign {moved : ChainTask}
      (member : moved ∈ state.tasks.set index { task with phase := .finished })
      (busy : moved.phase ≠ .finished) : moved ∈ state.tasks ∧ moved.payReq ≠ task.payReq := by
    obtain ⟨place, read⟩ := List.mem_iff_getElem?.mp member
    rcases getElem?_set_cases found read with ⟨-, rfl⟩ | ⟨elsewhere, old⟩
    · exact absurd rfl busy
    · exact ⟨List.mem_of_getElem? old, fun same => elsewhere
        (sound.single place index moved task old found busy active same)⟩
  constructor
  · exact sound.orderly
  · intro payReq
    simp only [List.mem_filter, decide_eq_true_eq, sound.held payReq, stage]
    by_cases same : task.payReq = payReq
    · simp [same]
    · simp [same, Ne.symm same]
  · intro moved member busy
    obtain ⟨old, distinct⟩ := foreign member busy
    exact List.mem_filter.mpr ⟨sound.holds moved old busy, by simpa using distinct⟩
  · exact sound.single_set found active .finished
  · intro moved member waiting
    have busy : moved.phase ≠ .finished := by
      rcases waiting with phase | phase <;> simp [phase]
    obtain ⟨old, distinct⟩ := foreign member busy
    simp only [stage]
    rw [if_neg distinct.symm]
    exact sound.uninvoked moved old waiting

end

/-- What a task can do next. -/
theorem advance_cases {input : ChainInput} {phase : ChainPhase} {calls : List EngineCall}
    (advanced : task.advance engine input = some (phase, calls)) :
    task.phase ≠ .finished ∧
      (phase = .asking ∧ task.phase = .deciding ∨ phase = .leaving ∨
        phase = .paying ∧ task.phase = .asking ∨ phase = .finished) := by
  unfold ChainTask.advance at advanced
  split at advanced
  · grind
  · grind
  · grind
  · grind
  · cases advanced

/-- Everything that happens to an engine keeps to this. -/
theorem Sound.step (sound : state.Sound) {action : EngineAction} {after : EngineRun}
    (taken : state.step options action = some after) : after.Sound := by
  cases action with
  | cache message =>
    cases taken
    refine sound.of_inFlight ?_
    unfold cacheRawRequest
    split <;> rfl
  | notify notification eventId entry requestedGating effectiveGating =>
    have claims := claims_handlePaymentNotification options state.engine
      notification eventId entry requestedGating effectiveGating
    simp only [EngineRun.step, Option.some.injEq] at taken
    subst taken
    generalize state.engine.handlePaymentNotification options notification eventId entry
      requestedGating effectiveGating = handled at claims ⊢
    simp only at claims
    generalize handled.2.2.filterMap chain = spawned at claims ⊢
    cases claims with
    | nothing same =>
      have kept := sound.of_inFlight same
      simpa using kept
    | one free claimed => exact sound.claim free claimed
  | terminal entry eventId message =>
    cases taken
    exact sound.of_inFlight (inFlight_onTerminalResponse options _ entry eventId message)
  | advance index input =>
    simp only [EngineRun.step] at taken
    split at taken
    · cases taken
    · rename_i task found
      obtain ⟨⟨phase, calls⟩, advanced, rfl⟩ := Option.map_eq_some_iff.mp taken
      obtain ⟨active, next | next | ⟨rfl, asking⟩ | rfl⟩ := advance_cases advanced
      · rw [next.1]
        exact sound.move found active (.inl ⟨rfl, next.2⟩)
      · rw [next]
        exact sound.move found active (.inr rfl)
      · exact sound.invoke found asking
      · exact sound.release found active

theorem Reached.sound (reached : Reached options state) : state.Sound := by
  refine Reaches.invariant reached ?_ ?_
  · refine ⟨trivial, ?_, ?_, ?_, ?_⟩
    · intro payReq
      simp [start, new, stage]
    · intro task member
      cases member
    · intro index other task shared found
      cases found
    · intro task member
      cases member
  · intro before action after _ sound _ taken
    exact sound.step taken

end EngineRun

/--
A payment request is put before a wallet at most once for each time it is claimed.

It is claimed again only after the task that claimed it before is over, so that two deliveries of
one offer never have wallets pay at the same time.
-/
theorem wallet_invoked_in_turn (options : ClientPaymentsOptions) (state : EngineRun)
    (reached : EngineRun.Reached options state) (payReq : String) :
    (∀ later between earlier,
      state.log = later ++ .invoked payReq :: (between ++ .invoked payReq :: earlier) →
      .released payReq ∈ between) ∧
    state.log.count (.invoked payReq) ≤ state.log.count (.claimed payReq) ∧
    ∀ (index other : Nat) (task shared : ChainTask), state.tasks[index]? = some task →
      state.tasks[other]? = some shared → task.phase ≠ .finished → shared.phase ≠ .finished →
      task.payReq = payReq → shared.payReq = payReq → index = other := by
  have sound := reached.sound
  refine ⟨?_, ?_, ?_⟩
  · intro later between earlier log
    have orderly := sound.orderly
    rw [log] at orderly
    -- The second invocation finds its payment request claimed.
    obtain ⟨claimed, before⟩ := orderly.of_append
    exact released_of_claimed before claimed
  · have counted := count_invoked_le payReq sound.orderly
    omega
  · intro index other task shared found read active busy about same
    exact sound.single index other task shared found read active busy (about.trans same.symm)

/-- A client with one wallet and no policy. -/
def oneWallet : ClientPaymentsOptions where
  handlers := [⟨"fake"⟩]
  defaultPaymentTtl := 300
  paymentPolicy := false
  maxPendingRetries := 10
  onPaymentRequired := false

/-- An offer for a request that is pending. -/
def offered : EngineAction :=
  .notify ⟨"2.0", paymentRequiredMethod, some (.object [("amount", .ofI64 21),
      ("pay_req", .string "inv-1"), ("pmi", .string "fake")])⟩ "event-1"
    (some ⟨.string "1", false, 0, none⟩) false false

/-- While the wallet pays, the same offer once more is left alone. -/
theorem wallet_invoked_in_turn_twice :
    ∃ state, EngineRun.Reached oneWallet state ∧
      state.log = [.invoked "inv-1", .claimed "inv-1"] ∧
      ((∀ later between earlier,
        state.log = later ++ .invoked "inv-1" :: (between ++ .invoked "inv-1" :: earlier) →
        .released "inv-1" ∈ between) ∧
      state.log.count (.invoked "inv-1") ≤ state.log.count (.claimed "inv-1") ∧
      ∀ (index other : Nat) (task shared : ChainTask), state.tasks[index]? = some task →
        state.tasks[other]? = some shared → task.phase ≠ .finished → shared.phase ≠ .finished →
        task.payReq = "inv-1" → shared.payReq = "inv-1" → index = other) := by
  refine Reaches.exists_of_run [offered, .advance 0 (.ask (some true)), offered]
    (·.log = [.invoked "inv-1", .claimed "inv-1"]) (by decide +kernel) ?_
  intro state reached log
  exact ⟨log, wallet_invoked_in_turn oneWallet state reached _⟩

/-- Once it has paid, the same offer for the same request is paid again. -/
theorem wallet_invoked_twice :
    ∃ state, EngineRun.Reached oneWallet state ∧ state.log.count (.invoked "inv-1") = 2 := by
  exact Reaches.of_run
    [offered, .advance 0 (.ask (some true)), .advance 0 (.settle (.ok ())), .advance 0 .release,
      offered, .advance 1 (.ask (some true))] _ (by decide +kernel)

end ContextVm
