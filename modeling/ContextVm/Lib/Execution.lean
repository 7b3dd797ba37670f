import Mathlib.Data.List.Basic

/-! Runs of a partial step function, and the induction rule for what every run keeps. -/

namespace ContextVm

section Execution

variable {σ α : Type}

/-- Perform a list of actions in order, stopping if one of them is not enabled. -/
def execute (step : σ → α → Option σ) : σ → List α → Option σ
  | state, [] => some state
  | state, action :: rest => (step state action).bind fun next => execute step next rest

/--
The states a system gets to from `start` when every action it takes is permitted.

The permission may look at the state the action is taken in.
-/
inductive Reaches (step : σ → α → Option σ) (permitted : σ → α → Prop) (start : σ) : σ → Prop
  /-- Nothing has happened yet. -/
  | start : Reaches step permitted start start
  /-- One more permitted action is taken. -/
  | next {state after : σ} (action : α) (reached : Reaches step permitted start state)
      (allowed : permitted state action) (taken : step state action = some after) :
      Reaches step permitted start after

/-- No restriction on the actions a run may take. -/
def Unrestricted : σ → α → Prop := fun _ _ => True

variable {step : σ → α → Option σ} {permitted : σ → α → Prop} {start state : σ}

/--
What holds at the start and is kept by every permitted action holds throughout.

An action may be assumed to be taken in a reachable state, where earlier invariants hold.
-/
theorem Reaches.invariant {kept : σ → Prop} (reached : Reaches step permitted start state)
    (initially : kept start)
    (preserved : ∀ before action after, Reaches step permitted start before → kept before →
      permitted before action → step before action = some after → kept after) : kept state := by
  -- The run grows by one action at its end.
  induction reached with
  | start => exact initially
  | next action earlier allowed taken ih => exact preserved _ action _ earlier ih allowed taken

/-- The steps that pass a guard. -/
def guarded (guard : σ → α → Bool) (step : σ → α → Option σ) (state : σ) (action : α) : Option σ :=
  if guard state action then step state action else none

/-- An execution whose guard holds is a run. -/
theorem Reaches.of_execute {guard : σ → α → Bool} {middle : σ}
    (ensures : ∀ before action, guard before action = true → permitted before action)
    (reached : Reaches step permitted start middle) {actions : List α}
    (ran : execute (guarded guard step) middle actions = some state) :
    Reaches step permitted start state := by
  -- The actions are performed from the front, so the reached state is general.
  induction actions generalizing middle with
  | nil =>
    cases ran
    exact reached
  | cons action rest ih =>
    -- The first action leads to a state from which the rest is executed.
    simp only [execute, guarded] at ran
    split at ran
    · rename_i passed
      cases taken : step middle action with
      | none => simp [taken] at ran
      | some next =>
        simp only [taken, Option.bind_some] at ran
        exact ih (.next action reached (ensures middle action passed) taken) ran
    · simp at ran

/-- A run that can be executed ends in a state that can be tested. -/
theorem Reaches.of_any {guard : σ → α → Bool}
    (ensures : ∀ before action, guard before action = true → permitted before action)
    (actions : List α) (good : σ → Prop) [DecidablePred good]
    (ran : (execute (guarded guard step) start actions).any (decide <| good ·) = true) :
    ∃ state, Reaches step permitted start state ∧ good state := by
  obtain ⟨state, ended, passed⟩ := (Option.any_eq_true _ _).mp ran
  exact ⟨state, Reaches.of_execute ensures .start ended, of_decide_eq_true passed⟩

/-- A checked execution gives a run to what its end entails. -/
theorem Reaches.exists_of_any {guard : σ → α → Bool} {goal : σ → Prop}
    (ensures : ∀ before action, guard before action = true → permitted before action)
    (actions : List α) (good : σ → Prop) [DecidablePred good]
    (ran : (execute (guarded guard step) start actions).any (decide <| good ·) = true)
    (entails : ∀ state, Reaches step permitted start state → good state → goal state) :
    ∃ state, Reaches step permitted start state ∧ goal state := by
  obtain ⟨state, reached, met⟩ := Reaches.of_any ensures actions good ran
  exact ⟨state, reached, entails state reached met⟩

/-- Any execution is an unrestricted run. -/
theorem Reaches.of_executed {middle : σ} (reached : Reaches step Unrestricted start middle)
    {actions : List α} (ran : execute step middle actions = some state) :
    Reaches step Unrestricted start state := by
  -- A guard that everything passes is no guard.
  have unguarded : guarded (fun _ _ => true) step = step := by
    funext before action
    exact if_pos rfl
  rw [← unguarded] at ran
  exact reached.of_execute (fun _ _ _ => trivial) ran

/-- A checked execution gives a run to a good state. -/
theorem Reaches.of_run (actions : List α) (good : σ → Prop) [DecidablePred good]
    (ran : (execute step start actions).any (decide <| good ·) = true) :
    ∃ state, Reaches step Unrestricted start state ∧ good state := by
  obtain ⟨state, ended, passed⟩ := (Option.any_eq_true _ _).mp ran
  exact ⟨state, Reaches.start.of_executed ended, of_decide_eq_true passed⟩

/-- A checked execution gives a run to what its end entails. -/
theorem Reaches.exists_of_run {goal : σ → Prop} (actions : List α) (good : σ → Prop)
    [DecidablePred good] (ran : (execute step start actions).any (decide <| good ·) = true)
    (entails : ∀ state, Reaches step Unrestricted start state → good state → goal state) :
    ∃ state, Reaches step Unrestricted start state ∧ goal state := by
  obtain ⟨state, reached, met⟩ := Reaches.of_run actions good ran
  exact ⟨state, reached, entails state reached met⟩

end Execution

end ContextVm
