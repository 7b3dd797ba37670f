import ContextVm.Transport.Client

/-! The touch loops of a paying client, which keep requests pending while they are paid for. -/

namespace ContextVm

/-- How far a touch loop has come. -/
inductive LoopPhase where
  -- It is entered in the table, with the time it may take, and still to be spawned.
  | starting (ttl : Nat)
  -- It sleeps until an instant, unless it is cancelled before.
  | sleeping (wakeAt stopAt : Nat)
  -- It is about to touch the pending request.
  | awake (stopAt : Nat)
  -- It is about to take its entry out of the table.
  | leaving
  | finished
  deriving DecidableEq

/-- A touch loop, known to the table by its cancellation token. -/
structure TouchLoop where
  eventId : String
  cancelled : Bool
  phase : LoopPhase
  -- How often it has touched the pending request.
  touches : Nat

/-- What a loop does between two looks at the table. -/
inductive LoopMove where
  | spawn (now : Nat)
  | wake (now : Nat)
  -- The cancellation is noticed during the sleep.
  | cancel
  | touch (now : Nat)
  deriving DecidableEq

namespace TouchLoop

/-- A loop that is neither cancelled nor at its end. -/
def Running (loop : TouchLoop) : Prop := loop.cancelled = false ∧ loop.phase ≠ .finished

instance (loop : TouchLoop) : Decidable loop.Running :=
  inferInstanceAs (Decidable (_ ∧ _))

/-- Begin to sleep, unless the cancellation is already there and the sleep is not over at once. -/
def select (cadence : Nat) (loop : TouchLoop) (now stopAt : Nat) : TouchLoop :=
  { loop with
    phase := if loop.cancelled ∧ 0 < cadence then .leaving else .sleeping (now + cadence) stopAt }

/-- The next move of a loop, given what is pending. -/
def move (cadence : Nat) (pending : ClientCorrelationStore) (loop : TouchLoop) :
    LoopMove → Option TouchLoop
  | .spawn now =>
    match loop.phase with
    | .starting ttl =>
      match Instant.checkedAdd now ttl with
      -- An instant that cannot be held ends the call before the loop is spawned.
      | none => some { loop with phase := .finished }
      | some stopAt => some (loop.select cadence now stopAt)
    | _ => none
  | .wake now =>
    match loop.phase with
    | .sleeping wakeAt stopAt =>
      if wakeAt ≤ now then
        some { loop with phase := if stopAt ≤ now then .leaving else .awake stopAt }
      else none
    | _ => none
  | .cancel =>
    match loop.phase with
    | .sleeping _ _ => if loop.cancelled then some { loop with phase := .leaving } else none
    | _ => none
  | .touch now =>
    match loop.phase with
    | .awake stopAt =>
      if pending.contains loop.eventId then
        some ({ loop with touches := loop.touches + 1 }.select cadence now stopAt)
      -- The request is answered or swept, so there is nothing to keep alive.
      else some { loop with phase := .leaving }
    | _ => none

/-- How often a loop may still touch once it is cancelled. -/
def due (loop : TouchLoop) : Nat :=
  match loop.phase with
  | .sleeping _ _ | .awake _ => 1
  | _ => 0

end TouchLoop

/-- The touch loops of an engine and the requests they keep pending. -/
structure TouchState where
  -- The loop that is tracked for an event.
  touchLoops : AList fun _ : String => Nat
  loops : List TouchLoop
  pending : ClientCorrelationStore
  -- Whether the engine was disposed.
  cancelled : Bool

namespace TouchState

/-- An engine without touch loops. -/
def start (pending : ClientCorrelationStore) : TouchState := ⟨∅, [], pending, false⟩

/-- Enter a touch loop for an event, unless one is tracked for it. -/
def startTouchLoop (state : TouchState) (eventId : String) (ttl : Nat) : TouchState :=
  if (state.touchLoops.lookup eventId).isSome then state
  else
    { state with
      touchLoops := state.touchLoops.insert eventId state.loops.length
      -- The token is a child of the engine's, so that it may be cancelled from the first.
      loops := state.loops ++ [⟨eventId, state.cancelled, .starting ttl, 0⟩] }

/-- Stop the touch loop that is tracked for an event. -/
def stopTouchLoop (state : TouchState) (eventId : String) : TouchState :=
  match state.touchLoops.lookup eventId with
  | some index =>
    { state with
      touchLoops := state.touchLoops.erase eventId
      loops := state.loops.modify index fun loop => { loop with cancelled := true } }
  | none => state

/-- Stop all touch loops for good. -/
def dispose (state : TouchState) : TouchState :=
  { state with
    touchLoops := ∅
    loops := state.loops.map fun loop => { loop with cancelled := true }
    cancelled := true }

/-- The pending requests after a move of a loop. -/
def touched (state : TouchState) (loop : TouchLoop) : LoopMove → ClientCorrelationStore
  | .touch now => state.pending.touch now loop.eventId
  | _ => state.pending

end TouchState

/-- What happens to the touch loops. -/
inductive TouchAction where
  -- An offer is taken up.
  | start (eventId : String) (ttl : Nat)
  -- A payment is settled, or its request is answered.
  | stop (eventId : String)
  | move (index : Nat) (move : LoopMove)
  -- A loop takes out the entry of its event.
  | exit (index : Nat)
  -- The requests come and go.
  | register (now : Nat) (eventId : String) (originalId : Json)
  | remove (eventId : String)
  | sweep (now timeout : Nat)
  | dispose
  deriving DecidableEq

/-- One action, for a time between the touches. -/
def TouchState.step (cadence : Nat) (state : TouchState) : TouchAction → Option TouchState
  | .start eventId ttl => some (state.startTouchLoop eventId ttl)
  | .stop eventId => some (state.stopTouchLoop eventId)
  | .move index move =>
    match state.loops[index]? with
    | some loop =>
      (loop.move cadence state.pending move).map fun moved =>
        { state with
          loops := state.loops.set index moved
          pending := state.touched loop move }
    | none => none
  | .exit index =>
    match state.loops[index]? with
    | some loop =>
      if loop.phase = .leaving then
        some { state with
          touchLoops := state.touchLoops.erase loop.eventId
          loops := state.loops.set index { loop with phase := .finished } }
      else none
    | none => none
  | .register now eventId originalId =>
    some { state with pending := state.pending.register now eventId originalId false none }
  | .remove eventId => some { state with pending := (state.pending.remove eventId).2 }
  | .sweep now timeout => some { state with pending := state.pending.sweepExpired now timeout }
  | .dispose => some state.dispose

/-- Whether a loop that exits finds its own entry in the table, or none. -/
def TouchAction.ownExit (state : TouchState) : TouchAction → Bool
  | .exit index => state.loops[index]?.all fun loop =>
      (state.touchLoops.lookup loop.eventId).all fun tracked => tracked = index
  | _ => true

/-! What a move does to a loop. -/

/-- What happens to a loop in the course of time. -/
structure LoopKept (cadence : Nat) (loop kept : TouchLoop) : Prop where
  eventId : kept.eventId = loop.eventId
  running : kept.Running → loop.Running
  -- A cancelled loop does not begin to sleep again, so each touch is one less that is due.
  spent : ¬ loop.Running → 0 < cadence → kept.touches + kept.due ≤ loop.touches + loop.due

theorem LoopKept.refl (cadence : Nat) (loop : TouchLoop) : LoopKept cadence loop loop :=
  ⟨rfl, id, fun _ _ => Nat.le_refl _⟩

namespace TouchLoop

variable {cadence : Nat} {pending : ClientCorrelationStore} {loop moved : TouchLoop}

theorem kept_cancel (cadence : Nat) (loop : TouchLoop) :
    LoopKept cadence loop { loop with cancelled := true } := by
  grind [LoopKept, Running, due]

theorem kept_phase {phase : LoopPhase} (unfinished : loop.phase ≠ .finished)
    (less : { loop with phase := phase }.due ≤ loop.due) :
    LoopKept cadence loop { loop with phase := phase } := by
  grind [LoopKept, Running]

theorem kept_select {now stopAt more : Nat} (unfinished : loop.phase ≠ .finished)
    (less : more ≤ loop.due) :
    LoopKept cadence loop
      ({ loop with touches := loop.touches + more }.select cadence now stopAt) := by
  refine ⟨rfl, ?_, ?_⟩
  · rintro ⟨live, -⟩
    exact ⟨live, unfinished⟩
  · intro stopped positive
    -- It has not finished, so it must be cancelled.
    have cancelled : loop.cancelled = true := by
      cases live : loop.cancelled with
      | false => exact absurd ⟨live, unfinished⟩ stopped
      | true => rfl
    simp only [select, due, cancelled, positive, and_self, if_true, Nat.add_zero] at less ⊢
    omega

/-- Every move keeps the loop. -/
theorem kept_move {move : LoopMove} (made : loop.move cadence pending move = some moved) :
    LoopKept cadence loop moved := by
  -- Each move is made in one phase only.
  cases move with
  | spawn now =>
    simp only [TouchLoop.move] at made
    split at made
    · rename_i ttl starting
      split at made
      · cases made
        exact kept_phase (by simp [starting]) (Nat.zero_le _)
      · cases made
        exact kept_select (by simp [starting]) (Nat.zero_le _)
    · cases made
  | wake now =>
    simp only [TouchLoop.move] at made
    split at made
    · rename_i wakeAt stopAt sleeping
      obtain ⟨-, rfl⟩ := Option.ite_some_none_eq_some.mp made
      refine kept_phase (by simp [sleeping]) ?_
      simp only [due, sleeping]
      split <;> omega
    · cases made
  | cancel =>
    simp only [TouchLoop.move] at made
    split at made
    · rename_i wakeAt stopAt sleeping
      obtain ⟨-, rfl⟩ := Option.ite_some_none_eq_some.mp made
      exact kept_phase (by simp [sleeping]) (Nat.zero_le _)
    · cases made
  | touch now =>
    simp only [TouchLoop.move] at made
    split at made
    · rename_i stopAt awake
      split at made
      · cases made
        exact kept_select (by simp [awake]) (by simp [due, awake])
      · cases made
        exact kept_phase (by simp [awake]) (Nat.zero_le _)
    · cases made

end TouchLoop

/-! What an action does to each loop, and to the table. -/

variable {cadence : Nat} {state after : TouchState} {action : TouchAction}

theorem loops_kept_set {loops : List TouchLoop} {index : Nat} {loop kept : TouchLoop}
    (found : loops[index]? = some loop) (keeps : LoopKept cadence loop kept) {other : Nat}
    {old : TouchLoop} (present : loops[other]? = some old) :
    ∃ new, (loops.set index kept)[other]? = some new ∧ LoopKept cadence old new := by
  grind [LoopKept]

/-- Every action keeps every loop. -/
theorem TouchState.loops_kept (taken : state.step cadence action = some after) {index : Nat}
    {loop : TouchLoop} (present : state.loops[index]? = some loop) :
    ∃ kept, after.loops[index]? = some kept ∧ LoopKept cadence loop kept := by
  cases action with
  | start eventId ttl =>
    cases taken
    unfold startTouchLoop
    split
    · exact ⟨loop, present, .refl _ _⟩
    · -- A loop that is there is not the new one.
      have within := (List.getElem?_eq_some_iff.mp present).1
      refine ⟨loop, ?_, .refl _ _⟩
      rw [List.getElem?_append_left within]
      exact present
  | stop eventId =>
    cases taken
    unfold stopTouchLoop
    split
    · simp only [List.getElem?_modify, present]
      split
      · exact ⟨_, rfl, loop.kept_cancel cadence⟩
      · exact ⟨_, rfl, .refl _ _⟩
    · exact ⟨loop, present, .refl _ _⟩
  | move moving move =>
    simp only [step] at taken
    split at taken
    · rename_i old found
      obtain ⟨moved, made, rfl⟩ := Option.map_eq_some_iff.mp taken
      exact loops_kept_set found (TouchLoop.kept_move made) present
    · cases taken
  | exit leaving =>
    simp only [step] at taken
    split at taken
    · rename_i old found
      obtain ⟨phase, rfl⟩ := Option.ite_some_none_eq_some.mp taken
      exact loops_kept_set found (TouchLoop.kept_phase (by simp [phase]) (Nat.zero_le _)) present
    · cases taken
  | register _ _ _ | remove _ | sweep _ _ =>
    cases taken
    exact ⟨loop, present, .refl _ _⟩
  | dispose =>
    cases taken
    refine ⟨{ loop with cancelled := true }, ?_, loop.kept_cancel cadence⟩
    simp only [dispose, List.getElem?_map, present, Option.map_some]

/-- Every loop that runs is the one that is tracked for its event. -/
def LoopsTracked (state : TouchState) : Prop :=
  ∀ index loop, state.loops[index]? = some loop → loop.Running →
    state.touchLoops.lookup loop.eventId = some index

namespace LoopsTracked

section

variable (tracked : LoopsTracked state)
include tracked

theorem startTouchLoop (eventId : String) (ttl : Nat) :
    LoopsTracked (state.startTouchLoop eventId ttl) := by
  unfold TouchState.startTouchLoop
  split
  · exact tracked
  · rename_i free
    intro index loop read running
    rcases getElem?_append_singleton read with old | ⟨last, rfl⟩
    · have entered := tracked index loop old running
      -- An event with a running loop has an entry, so it is another event.
      have other : loop.eventId ≠ eventId := by grind
      rw [AList.lookup_insert_ne other]
      exact entered
    · rw [last, AList.lookup_insert]

/-- The loops that run after a stop ran before it, for other events. -/
theorem running_of_stopTouchLoop {eventId : String} {index : Nat}
    {loop : TouchLoop} (read : (state.stopTouchLoop eventId).loops[index]? = some loop)
    (running : loop.Running) : state.loops[index]? = some loop ∧ loop.eventId ≠ eventId := by
  unfold TouchState.stopTouchLoop at read
  split at read
  · rename_i stopped found
    simp only [List.getElem?_modify, Option.map_eq_map, Option.map_eq_some_iff] at read
    obtain ⟨old, present, rfl⟩ := read
    by_cases same : stopped = index
    · -- The loop that was tracked is cancelled.
      rw [if_pos same] at running
      exact absurd running.1 (by simp)
    · rw [if_neg same] at running ⊢
      refine ⟨present, ?_⟩
      rintro rfl
      rw [tracked index old present running, Option.some.injEq] at found
      exact same found.symm
  · rename_i free
    refine ⟨read, ?_⟩
    rintro rfl
    simp [tracked index loop read running] at free

theorem stopTouchLoop (eventId : String) : LoopsTracked (state.stopTouchLoop eventId) := by
  intro index loop read running
  obtain ⟨present, other⟩ := tracked.running_of_stopTouchLoop read running
  have entered := tracked index loop present running
  unfold TouchState.stopTouchLoop
  split
  · simp_all
  · exact entered

theorem move {index : Nat} {loop moved : TouchLoop}
    (found : state.loops[index]? = some loop) (keeps : LoopKept cadence loop moved)
    (pending : ClientCorrelationStore) :
    LoopsTracked { state with loops := state.loops.set index moved, pending } := by
  intro other held read running
  rcases getElem?_set_cases found read with ⟨rfl, rfl⟩ | ⟨-, old⟩
  · rw [keeps.eventId]
    exact tracked other loop found (keeps.running running)
  · exact tracked other held old running

theorem exit {index : Nat} {loop : TouchLoop} (found : state.loops[index]? = some loop)
    (own : ∀ tracked, state.touchLoops.lookup loop.eventId = some tracked → tracked = index) :
    LoopsTracked { state with
      touchLoops := state.touchLoops.erase loop.eventId
      loops := state.loops.set index { loop with phase := .finished } } := by
  intro other held read running
  rcases getElem?_set_cases found read with ⟨-, rfl⟩ | ⟨foreign, old⟩
  · exact absurd rfl running.2
  · have entered := tracked other held old running
    -- A loop that runs for the same event would be the one that exits.
    have distinct : held.eventId ≠ loop.eventId := by grind
    rw [AList.lookup_erase_ne distinct]
    exact entered

/-- Every action keeps the loops tracked if exits find their own entries. -/
theorem step (own : action.ownExit state = true)
    (taken : state.step cadence action = some after) : LoopsTracked after := by
  cases action with
  | start eventId ttl =>
    cases taken
    exact tracked.startTouchLoop eventId ttl
  | stop eventId =>
    cases taken
    exact tracked.stopTouchLoop eventId
  | move index move =>
    simp only [TouchState.step] at taken
    split at taken
    · rename_i loop found
      obtain ⟨moved, made, rfl⟩ := Option.map_eq_some_iff.mp taken
      exact tracked.move found (TouchLoop.kept_move made) _
    · cases taken
  | exit index =>
    simp only [TouchState.step] at taken
    split at taken
    · rename_i loop found
      obtain ⟨-, rfl⟩ := Option.ite_some_none_eq_some.mp taken
      refine tracked.exit found ?_
      intro entered same
      simpa [TouchAction.ownExit, found, same] using own
    · cases taken
  | register _ _ _ | remove _ | sweep _ _ =>
    cases taken
    exact tracked
  | dispose =>
    cases taken
    -- All loops are cancelled.
    intro index loop read running
    simp only [TouchState.dispose, List.getElem?_map, Option.map_eq_some_iff] at read
    obtain ⟨old, -, rfl⟩ := read
    exact absurd running.1 (by simp)

end

end LoopsTracked

/-- A loop does not run, and has touched and will touch no more than so often. -/
def Silenced (index limit : Nat) (state : TouchState) : Prop :=
  ∃ loop, state.loops[index]? = some loop ∧ ¬ loop.Running ∧ loop.touches + loop.due ≤ limit

/--
Touch loops are tracked as long as no loop takes out the entry of another when it exits.

At most one loop of an event runs uncancelled. Once the loops of an event are stopped, none of
those started before touches more than the one time it may be in the middle of, however the engine
goes on.
-/
theorem touch_loops_are_tracked (positive : 0 < cadence) {pending : ClientCorrelationStore}
    (reached : Reaches (TouchState.step cadence) (fun state action => action.ownExit state = true)
      (.start pending) state) :
    (∀ first second : Nat, ∀ loop other : TouchLoop,
      state.loops[first]? = some loop → state.loops[second]? = some other →
      loop.eventId = other.eventId → loop.Running → other.Running → first = second) ∧
    ∀ eventId final,
      Reaches (TouchState.step cadence) Unrestricted (state.stopTouchLoop eventId) final →
      ∀ (index : Nat) (loop : TouchLoop), (state.stopTouchLoop eventId).loops[index]? = some loop →
        loop.eventId = eventId → ∃ later, final.loops[index]? = some later ∧
          ¬ later.Running ∧ later.touches ≤ loop.touches + 1 := by
  have tracked : LoopsTracked state := by
    refine reached.invariant (fun index loop read => ?_) ?_
    · simp [TouchState.start] at read
    · intro before action after _ tracked own taken
      exact tracked.step own taken
  constructor
  · intro first second loop other found read same running live
    -- Both are the one that is tracked.
    have entered := tracked first loop found running
    rw [same, tracked second other read live, Option.some.injEq] at entered
    exact entered.symm
  · intro eventId final later index loop present same
    have stopped : ¬ loop.Running := fun running =>
      (tracked.running_of_stopTouchLoop present running).2 same
    have once : loop.due ≤ 1 := by
      unfold TouchLoop.due
      split <;> omega
    have silenced : Silenced index (loop.touches + 1) (state.stopTouchLoop eventId) :=
      ⟨loop, present, stopped, Nat.add_le_add_left once _⟩
    obtain ⟨kept, found, halted, bound⟩ : Silenced index (loop.touches + 1) final := by
      refine later.invariant silenced ?_
      rintro before action after - ⟨held, read, halted, bound⟩ - taken
      obtain ⟨kept, found, keeps⟩ := TouchState.loops_kept taken read
      refine ⟨kept, found, fun running => halted (keeps.running running), ?_⟩
      exact Nat.le_trans (keeps.spent halted positive) bound
    exact ⟨kept, found, halted, Nat.le_of_add_right_le bound⟩

/-- Two touches of a loop, the second of which would come after it is stopped. -/
theorem touch_loops_are_tracked_stopped :
    ∃ state : TouchState, Reaches (TouchState.step 1)
        (fun state action => action.ownExit state = true) (.start (.withMaxPending 8)) state ∧
      (∃ loop : TouchLoop, state.loops[0]? = some loop ∧ loop.eventId = "event" ∧
        loop.Running ∧ loop.touches = 1) ∧
      ∀ final, Reaches (TouchState.step 1) Unrestricted (state.stopTouchLoop "event") final →
        ∃ later, final.loops[0]? = some later ∧ later.touches ≤ 2 := by
  refine Reaches.exists_of_any (fun _ _ passed => passed)
    [.register 0 "event" (.string "1"), .start "event" 100, .move 0 (.spawn 0),
      .move 0 (.wake 1), .move 0 (.touch 1)]
    (fun state => state.touchLoops.lookup "event" = some 0 ∧
      state.loops[0]?.any fun loop : TouchLoop =>
        loop.eventId = "event" ∧ loop.Running ∧ loop.touches = 1) (by decide +kernel) ?_
  intro state reached checked
  simp only [decide_eq_true_eq, Option.any_eq_true] at checked
  obtain ⟨entered, loop, present, named, running, touches⟩ := checked
  refine ⟨⟨loop, present, named, running, touches⟩, ?_⟩
  intro final later
  -- The stop cancels the loop and leaves its count.
  have stopped : (state.stopTouchLoop "event").loops[0]? =
      some { loop with cancelled := true } := by
    simp [TouchState.stopTouchLoop, entered, present]
  obtain ⟨kept, found, -, bound⟩ :=
    (touch_loops_are_tracked Nat.one_pos reached).2 "event" final later 0 _ stopped named
  exact ⟨kept, found, by simpa [touches] using bound⟩

/--
A loop that exits late takes out the entry of the loop that came after it.

A third loop is then started next to the second, and a stop cancels the third only, so that the
second goes on touching.
-/
theorem late_exit_loses_newer_loop :
    ∃ state final : TouchState,
      Reaches (TouchState.step 1) Unrestricted (.start (.withMaxPending 8)) state ∧
      (∃ second third : TouchLoop, state.loops[1]? = some second ∧ state.loops[2]? = some third ∧
        second.eventId = third.eventId ∧ second.Running ∧ third.Running) ∧
      Reaches (TouchState.step 1) Unrestricted (state.stopTouchLoop "event") final ∧
      ∃ loop later : TouchLoop, (state.stopTouchLoop "event").loops[1]? = some loop ∧
        loop.eventId = "event" ∧ final.loops[1]? = some later ∧ later.Running ∧
        later.touches = loop.touches + 2 := by
  -- The second loop wakes and touches twice after the stop.
  let touching : List TouchAction :=
    [.move 1 (.wake 1), .move 1 (.touch 1), .move 1 (.wake 2), .move 1 (.touch 2)]
  obtain ⟨state, reached, checked⟩ :
      ∃ state : TouchState, Reaches (TouchState.step 1) Unrestricted
        (.start (.withMaxPending 8)) state ∧
        ((state.loops[1]?.any fun second : TouchLoop => state.loops[2]?.any fun third : TouchLoop =>
            decide (second.eventId = third.eventId ∧ second.Running ∧ third.Running)) &&
          (state.stopTouchLoop "event").loops[1]?.any fun loop : TouchLoop =>
            decide (loop.eventId = "event") &&
            (execute (TouchState.step 1) (state.stopTouchLoop "event")
              touching).any fun final : TouchState => final.loops[1]?.any fun later : TouchLoop =>
                decide (later.Running ∧ later.touches = loop.touches + 2)) = true :=
    Reaches.of_run
      [.register 0 "event" (.string "1"), .start "event" 100, .move 0 (.spawn 0), .stop "event",
        .move 0 .cancel, .start "event" 100, .move 1 (.spawn 0), .exit 0, .start "event" 100]
      _ (by decide +kernel)
  simp only [Bool.and_eq_true, decide_eq_true_eq, Option.any_eq_true] at checked
  obtain
    ⟨⟨second, found, third, read, twice⟩, loop, present, named, final, ran, later, kept, went⟩ :=
    checked
  have reaches : Reaches (TouchState.step 1) Unrestricted (state.stopTouchLoop "event") final :=
    Reaches.start.of_executed ran
  exact ⟨state, final, reached, ⟨second, third, found, read, twice⟩, reaches,
    loop, later, present, named, kept, went⟩

end ContextVm
