import ContextVm.Core.Json
import ContextVm.Core.Time
import ContextVm.Lib.Execution
import ContextVm.Lib.Table
import Mathlib.Data.List.AList

/-! The heartbeats of a paying client, and the one scheduler that beats for all of them. -/

namespace ContextVm

/-- A heartbeat, which goes on until an instant. -/
structure HeartbeatEntry where
  stopAt : Nat
  token : Json

/-- How far a call that registers a heartbeat has come. -/
inductive RegisterPhase where
  -- The entry is made and the first beat is out; the scheduler is still to be looked after.
  | inserted
  | returned
  deriving DecidableEq

/-- How far a scheduler has come. -/
inductive SchedulerPhase where
  -- It is spawned, and the first tick, which comes at once, is still to be passed over.
  | starting
  | waiting
  | ended
  deriving DecidableEq

/-- What a scheduler counts for among those that run. -/
def SchedulerPhase.load : SchedulerPhase → Nat
  | .ended => 0
  | _ => 1

/-- The live heartbeats with the scheduler flag, and the tasks that work on them. -/
structure HeartbeatState where
  -- The text of a token stands for the token, so the entries are kept under the tokens themselves.
  entries : AList fun _ : Json => HeartbeatEntry
  schedulerRunning : Bool
  registrations : List RegisterPhase
  schedulers : List SchedulerPhase
  -- Whether the engine was disposed.
  cancelled : Bool
  -- What was pushed to the consumer.
  pushed : List JsonRpcMessage

/-- The beat of a token, which resets the time the consumer waits for a response. -/
def beat (token : Json) : JsonRpcMessage :=
  .notification ⟨"2.0", "notifications/progress",
    some (.object [("progress", .ofU64 0), ("progressToken", token)])⟩

/-- The entries that are not to stop yet. -/
def retainUnexpired (entries : AList fun _ : Json => HeartbeatEntry) (now : Nat) :
    AList fun _ : Json => HeartbeatEntry :=
  ⟨entries.entries.filter fun item => now < item.2.stopAt,
    entries.nodupKeys.sublist List.filter_sublist⟩

namespace HeartbeatState

/-- An engine without heartbeats. -/
def start : HeartbeatState := ⟨∅, false, [], [], false, []⟩

/-- How many schedulers are running. -/
def runningSchedulers (state : HeartbeatState) : Nat :=
  tableWeight SchedulerPhase.load state.schedulers

/-- The first half of a registration: the entry is made under the lock, its first beat is sent. -/
def registerHeartbeat (state : HeartbeatState) (token : Json) (ttl now : Nat) : HeartbeatState :=
  if (state.entries.lookup token).isSome then state
  else
    match Instant.checkedAdd now ttl with
    -- An instant that cannot be held ends the call before the entry is made.
    | none => state
    | some stopAt =>
      { state with
        entries := state.entries.insert token ⟨stopAt, token⟩
        registrations := state.registrations ++ [.inserted]
        pushed := state.pushed ++ [beat token] }

/-- The second half of a registration, under the lock again. -/
def ensureScheduler (state : HeartbeatState) : HeartbeatState :=
  if state.schedulerRunning ∨ state.entries.entries = [] then state
  else
    { state with
      schedulerRunning := true
      schedulers := state.schedulers ++ [.starting] }

/-- Stop the heartbeat of a token. -/
def stopHeartbeat (state : HeartbeatState) (token : Json) : HeartbeatState :=
  { state with entries := state.entries.erase token }

/-- A tick: the entries that are left are beaten, and without any the scheduler stops. -/
def tick (state : HeartbeatState) (scheduler now : Nat) : HeartbeatState :=
  let entries := retainUnexpired state.entries now
  if entries.entries = [] then
    { state with
      entries
      schedulerRunning := false
      schedulers := state.schedulers.set scheduler .ended }
  else
    { state with
      entries
      pushed := state.pushed ++ entries.entries.map fun item => beat item.2.token }

/-- Dispose of the heartbeats. -/
def dispose (state : HeartbeatState) : HeartbeatState :=
  { state with
    entries := ∅
    cancelled := true }

end HeartbeatState

/-- What happens to the heartbeats; each acquisition of their lock is one action. -/
inductive HeartbeatAction where
  | register (token : Json) (ttl now : Nat)
  | ensure (call : Nat)
  | stop (token : Json)
  -- A scheduler sets up its interval.
  | begin (scheduler : Nat)
  | tick (scheduler now : Nat)
  -- A scheduler takes note of the disposal.
  | quit (scheduler : Nat)
  | dispose
  deriving DecidableEq

/-- One action, for an interval between the beats. -/
def HeartbeatState.step (interval : Nat) (state : HeartbeatState) :
    HeartbeatAction → Option HeartbeatState
  | .register token ttl now => some (state.registerHeartbeat token ttl now)
  | .ensure call =>
    if state.registrations[call]? = some .inserted then
      some { state.ensureScheduler with
        registrations := state.registrations.set call .returned }
    else none
  | .stop token => some (state.stopHeartbeat token)
  | .begin scheduler =>
    if state.schedulers[scheduler]? = some .starting then
      -- An interval of zero is refused with a panic, which leaves the flag up.
      let phase := if interval = 0 then .ended else .waiting
      some { state with schedulers := state.schedulers.set scheduler phase }
    else none
  | .tick scheduler now =>
    if state.schedulers[scheduler]? = some .waiting then some (state.tick scheduler now) else none
  | .quit scheduler =>
    if state.cancelled ∧ state.schedulers[scheduler]? = some .waiting then
      some { state with
        schedulerRunning := false
        schedulers := state.schedulers.set scheduler .ended }
    else none
  | .dispose => some state.dispose

/-- Everything but the disposal of the engine. -/
def HeartbeatAction.Ongoing (_ : HeartbeatState) (action : HeartbeatAction) : Prop :=
  action ≠ .dispose

instance (state : HeartbeatState) (action : HeartbeatAction) :
    Decidable (action.Ongoing state) := inferInstanceAs (Decidable (action ≠ .dispose))

/-- The flag tells of the one scheduler, and entries have it or a call that is about to start it. -/
structure Attended (state : HeartbeatState) : Prop where
  flag : state.runningSchedulers = if state.schedulerRunning then 1 else 0
  served : state.entries.entries ≠ [] →
    state.schedulerRunning = true ∨ .inserted ∈ state.registrations
  live : state.cancelled = false

namespace Attended

variable {state after : HeartbeatState}

section

variable (attended : Attended state)
include attended

theorem registerHeartbeat (token : Json) (ttl now : Nat) :
    Attended (state.registerHeartbeat token ttl now) := by
  unfold HeartbeatState.registerHeartbeat
  split
  · exact attended
  split
  · exact attended
  · exact ⟨attended.flag, fun _ => .inr (List.mem_append_right _ List.mem_cons_self), attended.live⟩

theorem ensure (registrations : List RegisterPhase) :
    Attended { state.ensureScheduler with registrations } := by
  unfold HeartbeatState.ensureScheduler
  split
  · -- Nothing is to be done: a scheduler runs, or there is nothing to beat.
    rename_i idle
    refine ⟨attended.flag, fun held => ?_, attended.live⟩
    exact idle.imp id fun empty => absurd empty held
  · rename_i needed
    -- The flag was down, so the spawned scheduler is the only one.
    have down : state.schedulerRunning = false := by grind
    have none := attended.flag
    rw [down, HeartbeatState.runningSchedulers] at none
    refine ⟨?_, fun _ => .inl rfl, attended.live⟩
    simp only [HeartbeatState.runningSchedulers, tableWeight_append, none]
    rfl

theorem running_of_waiting {scheduler : Nat}
    (waiting : state.schedulers[scheduler]? = some .waiting) :
    tableWeight SchedulerPhase.load (state.schedulers.set scheduler .ended) = 0 ∧
      state.schedulerRunning = true := by
  -- It counts for one, so the flag cannot be down, and nothing counts without it.
  have exchanged := tableWeight_set SchedulerPhase.load .ended waiting
  have flag := attended.flag
  simp only [SchedulerPhase.load] at exchanged
  rw [HeartbeatState.runningSchedulers] at flag
  cases running : state.schedulerRunning with
  | false => grind
  | true => grind

theorem tick {scheduler : Nat} (now : Nat)
    (waiting : state.schedulers[scheduler]? = some .waiting) :
    Attended (state.tick scheduler now) := by
  obtain ⟨rest, running⟩ := attended.running_of_waiting waiting
  simp only [HeartbeatState.tick]
  split
  · rename_i empty
    exact ⟨rest, fun held => absurd empty held, attended.live⟩
  · exact ⟨attended.flag, fun _ => .inl running, attended.live⟩

end

end Attended

/-- Every action keeps the entries attended while the engine is not disposed. -/
theorem Attended.step {interval : Nat} (positive : 0 < interval) {state after : HeartbeatState}
    {action : HeartbeatAction} (attended : Attended state) (ongoing : action.Ongoing state)
    (taken : state.step interval action = some after) : Attended after := by
  cases action with
  | register token ttl now =>
    cases taken
    exact attended.registerHeartbeat token ttl now
  | ensure call =>
    obtain ⟨-, rfl⟩ := Option.ite_some_none_eq_some.mp taken
    exact attended.ensure _
  | stop token =>
    cases taken
    -- What is left after a removal was there before it.
    refine ⟨attended.flag, fun held => attended.served ?_, attended.live⟩
    intro empty
    refine held ?_
    show state.entries.entries.kerase token = []
    rw [empty, List.kerase_nil]
  | begin scheduler =>
    obtain ⟨starting, rfl⟩ := Option.ite_some_none_eq_some.mp taken
    -- With a positive interval the scheduler goes on to wait, and counts as before.
    rw [if_neg (Nat.ne_of_gt positive)]
    refine ⟨?_, attended.served, attended.live⟩
    have exchanged := tableWeight_set SchedulerPhase.load .waiting starting
    rw [← attended.flag]
    exact Nat.add_right_cancel exchanged
  | tick scheduler now =>
    obtain ⟨waiting, rfl⟩ := Option.ite_some_none_eq_some.mp taken
    exact attended.tick now waiting
  | quit scheduler =>
    obtain ⟨⟨disposed, -⟩, -⟩ := Option.ite_some_none_eq_some.mp taken
    simp [attended.live] at disposed
  | dispose => exact absurd rfl ongoing

theorem HeartbeatState.tick_beats (state : HeartbeatState) (scheduler now : Nat) :
    ∃ beats, (state.tick scheduler now).pushed = state.pushed ++ beats ∧
      ∀ token entry, state.entries.lookup token = some entry → now < entry.stopAt →
        beat entry.token ∈ beats := by
  refine ⟨(retainUnexpired state.entries now).entries.map fun item => beat item.2.token, ?_, ?_⟩
  · simp only [HeartbeatState.tick]
    split
    · -- Nothing is left, so there is nothing to beat.
      rename_i empty
      simp only [empty, List.map_nil, List.append_nil]
    · rfl
  · intro token entry held unexpired
    have kept : ⟨token, entry⟩ ∈ (retainUnexpired state.entries now).entries :=
      List.mem_filter.mpr ⟨AList.mem_lookup_iff.mp held, decide_eq_true unexpired⟩
    exact List.mem_map.mpr ⟨_, kept, rfl⟩

/-- The scheduler that runs is about to tick, at once or after it has set up its interval. -/
theorem HeartbeatState.exists_tick {interval : Nat} (positive : 0 < interval)
    {state : HeartbeatState} (running : state.runningSchedulers ≠ 0) :
    ∃ scheduler lead, ∃ waiting : HeartbeatState,
      (lead = [] ∨ lead = [HeartbeatAction.begin scheduler]) ∧
        waiting.entries = state.entries ∧ waiting.pushed = state.pushed ∧
        ∀ now, execute (step interval) state (lead ++ [.tick scheduler now]) =
          some (waiting.tick scheduler now) := by
  -- Something counts, so some scheduler has not ended.
  obtain ⟨phase, member, counts⟩ := List.exists_mem_ne_zero_of_sum_ne_zero running
  obtain ⟨old, present, rfl⟩ := List.mem_map.mp member
  obtain ⟨scheduler, found⟩ := List.mem_iff_getElem?.mp present
  cases old with
  | starting =>
    -- It comes to wait first, which changes nothing else.
    have begun : (state.schedulers.set scheduler .waiting)[scheduler]? = some .waiting := by
      rw [getElem?_set_eq _ found, if_pos rfl]
    refine ⟨scheduler, _, { state with schedulers := state.schedulers.set scheduler .waiting },
      .inr rfl, rfl, rfl, ?_⟩
    intro now
    simp [execute, step, found, begun, Nat.ne_of_gt positive]
  | waiting =>
    refine ⟨scheduler, [], state, .inl rfl, rfl, rfl, ?_⟩
    intro now
    simp [execute, step, found]
  | ended => exact absurd rfl counts

/--
Heartbeats never silently stop, and never more than one scheduler beats them.

Whenever there is an entry, and no call is between making one and looking after the scheduler, the
flag is up, exactly one scheduler runs, and at its next tick it beats every entry that has not
expired.
-/
theorem heartbeats_go_on {interval : Nat} (positive : 0 < interval) {state : HeartbeatState}
    (reached : Reaches (HeartbeatState.step interval) (fun state action => action.Ongoing state)
      .start state) :
    state.runningSchedulers ≤ 1 ∧
      (state.entries.entries ≠ [] → RegisterPhase.inserted ∉ state.registrations →
        state.schedulerRunning = true ∧ state.runningSchedulers = 1 ∧
        ∃ scheduler lead, (lead = [] ∨ lead = [HeartbeatAction.begin scheduler]) ∧
          ∀ now, ∃ after beats,
            execute (HeartbeatState.step interval) state (lead ++ [.tick scheduler now]) =
              some after ∧
            after.pushed = state.pushed ++ beats ∧
            ∀ token entry, state.entries.lookup token = some entry → now < entry.stopAt →
              beat entry.token ∈ beats) := by
  have attended : Attended state := by
    refine reached.invariant ⟨rfl, fun held => absurd rfl held, rfl⟩ ?_
    intro before action after _ attended ongoing taken
    exact attended.step positive ongoing taken
  have flag := attended.flag
  constructor
  · rw [flag]
    split <;> decide
  intro held settled
  -- No call is about to start a scheduler, so one is running already.
  have running : state.schedulerRunning = true := (attended.served held).resolve_right settled
  rw [running, if_pos rfl] at flag
  obtain ⟨scheduler, lead, waiting, shape, entries, pushed, ticks⟩ :=
    HeartbeatState.exists_tick positive (by omega : state.runningSchedulers ≠ 0)
  refine ⟨running, flag, scheduler, lead, shape, ?_⟩
  intro now
  obtain ⟨beats, grown, beaten⟩ := waiting.tick_beats scheduler now
  rw [pushed] at grown
  rw [entries] at beaten
  exact ⟨_, beats, ticks now, grown, beaten⟩

/-- A request whose heartbeat is registered and attended. -/
theorem heartbeats_go_on_registered :
    ∃ state, (Reaches (HeartbeatState.step 1) (fun state action => action.Ongoing state)
        .start state ∧ state.entries.entries ≠ [] ∧
        RegisterPhase.inserted ∉ state.registrations) ∧
      state.schedulerRunning = true ∧ state.runningSchedulers = 1 := by
  obtain ⟨state, reached, held, settled⟩ :
      ∃ state, Reaches (HeartbeatState.step 1) (fun state action => action.Ongoing state)
        .start state ∧ state.entries.entries ≠ [] ∧ RegisterPhase.inserted ∉ state.registrations :=
    Reaches.of_any (fun _ _ => of_decide_eq_true)
      [.register (.string "token") 100 0, .ensure 0] _ (by decide +kernel)
  have running := (heartbeats_go_on Nat.one_pos reached).2 held settled
  exact ⟨state, ⟨reached, held, settled⟩, running.1, running.2.1⟩

end ContextVm
