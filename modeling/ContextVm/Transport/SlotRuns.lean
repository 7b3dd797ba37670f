import ContextVm.Transport.StreamSlots

/-! Which runs of the chain hold the slot of a request. -/

namespace ContextVm

/-- How far a delivery of a request has come. -/
inductive SlotPhase where
  -- It has seen to it that there is a slot, and registered on it.
  | created
  | entered
  -- The handler has the request, and then the slot says so.
  | sent
  | marked
  | left
  deriving DecidableEq

/-- The steps of a delivery. -/
def SlotPhase.leadsTo : SlotPhase → SlotPhase → Bool
  | .created, .entered | .entered, .sent | .sent, .marked => true
  -- A delivery leaves after it was dropped, or after it was forwarded.
  | .entered, .left | .marked, .left => true
  | _, _ => false

/-- A delivery, and which of the slots its request was given it is registered on. -/
structure SlotRun where
  phase : SlotPhase
  slot : Option Nat
  deriving DecidableEq

/-- Whether a delivery is in the chain. -/
def SlotRun.inChain (run : SlotRun) : Bool :=
  run.phase = .entered ∨ run.phase = .sent ∨ run.phase = .marked

/-- What a delivery adds to the count of those in the chain. -/
def SlotRun.weight (run : SlotRun) : Nat := if run.inChain then 1 else 0

/-- The slots of a server, and the deliveries of one request. -/
structure RequestRuns where
  streams : ServerOpenStreamState
  runs : List SlotRun
  -- How many slots the request was given, and whether it got to the handler since the last one.
  slots : Nat
  reached : Bool

/-- What happens to a request. -/
inductive RunAction where
  | arrive (token : String) (snapshot : RouteSnapshot)
  | move (index : Nat) (phase : SlotPhase)
  -- What its stream and its response do to the slot.
  | operate (operation : SlotOperation)

namespace RequestRuns

/-- Nothing has arrived. -/
def start : RequestRuns := ⟨.empty, [], 0, false⟩

/-- The slot of the request. -/
def slot (eventId : String) (state : RequestRuns) : Option OpenStreamSlot :=
  state.streams.slots.lookup eventId

/-- A delivery arrives, and a slot is made if there is none. -/
def arrive (forms : HexForms) (eventId : String) (state : RequestRuns) (token : String)
    (snapshot : RouteSnapshot) : RequestRuns :=
  let streams := state.streams.createOpenStreamWriter forms eventId token snapshot
  let made := (state.slot eventId).isNone && (streams.slots.lookup eventId).isSome
  { streams
    runs := state.runs ++ [⟨.created, none⟩]
    slots := if made then state.slots + 1 else state.slots
    reached := state.reached && !made }

/-- A delivery gets to its next phase. -/
def move (eventId : String) (state : RequestRuns) (index : Nat) (run : SlotRun)
    (phase : SlotPhase) : RequestRuns :=
  let moved := { state with runs := state.runs.set index { run with phase } }
  match phase with
  | .created => moved
  | .entered =>
    { state with
      streams := state.streams.enterChain eventId
      runs := state.runs.set index
        ⟨.entered, if (state.slot eventId).isSome then some state.slots else none⟩ }
  | .sent => { moved with reached := true }
  | .marked => { moved with streams := state.streams.markForwarded eventId }
  | .left => { moved with streams := state.streams.leaveChain eventId }

/-- One step of a delivery, of the stream or of the response. -/
def step (forms : HexForms) (eventId : String) (state : RequestRuns) :
    RunAction → Option RequestRuns
  | .arrive token snapshot => some (state.arrive forms eventId token snapshot)
  | .move index phase =>
    match state.runs[index]? with
    | none => none
    | some run =>
      if run.phase.leadsTo phase then some (state.move eventId index run phase) else none
  | .operate operation =>
    match operation with
    | .start | .respond _ | .terminate =>
      some { state with streams := state.streams.perform forms eventId operation }
    | _ => none

/-- Whether a delivery that finds no slot finds no other delivery under way. -/
def alone (eventId : String) (state : RequestRuns) : RunAction → Bool
  | .arrive _ _ => (state.slot eventId).isSome || state.runs.all (·.phase = .left)
  | _ => true

open ServerOpenStreamState

variable {forms : HexForms} {eventId : String} {state after : RequestRuns} {index : Nat}
  {run : SlotRun} {found left : OpenStreamSlot}

/-- The slot of the request counts the deliveries in the chain, all of which registered on it. -/
structure Counts (state : RequestRuns) (slot : OpenStreamSlot) : Prop where
  registered : ∀ run ∈ state.runs, run.inChain = true → run.slot = some state.slots
  count : slot.liveChains = tableWeight SlotRun.weight state.runs
  -- What the handler has and the slot does not say yet is about to be marked.
  reached : state.reached = true ↔ slot.forwarded = true ∨ ∃ run ∈ state.runs, run.phase = .sent

/-- The slot of a request counts right, if it has one. -/
def Counted (eventId : String) (state : RequestRuns) : Prop :=
  ∀ slot, state.slot eventId = some slot → state.Counts slot

/-- The last delivery to leave takes a slot that was not forwarded. -/
theorem lookup_leaveChain (known : state.slot eventId = some found) :
    (state.streams.leaveChain eventId).slots.lookup eventId =
      if found.liveChains ≤ 1 ∧ found.forwarded = false then none
      else some { found with liveChains := found.liveChains - 1 } := by
  simp only [slot] at known
  simp only [leaveChain, known]
  split
  · rename_i last
    rw [if_pos ⟨by omega, last.2⟩]
    exact AList.lookup_erase _ _
  · simp_all

/-- A delivery that arrives leaves the count right, if it is alone when it finds no slot. -/
theorem Counted.arrive (counted : state.Counted eventId) {token : String} {snapshot : RouteSnapshot}
    (alone : state.alone eventId (.arrive token snapshot) = true) :
    (state.arrive forms eventId token snapshot).Counted eventId := by
  intro slot known
  cases before : state.slot eventId with
  | some held =>
    -- The slot stays, and the delivery has yet to register on it.
    have kept : state.streams.createOpenStreamWriter forms eventId token snapshot =
        state.streams := by grind [createOpenStreamWriter, RequestRuns.slot]
    simp only [RequestRuns.slot, RequestRuns.arrive, kept] at known
    obtain ⟨registered, count, reached⟩ := counted slot known
    refine ⟨?_, ?_, ?_⟩
    · simpa [RequestRuns.arrive, before, or_imp, forall_and, SlotRun.inChain] using registered
    · simpa [RequestRuns.arrive, SlotRun.weight, SlotRun.inChain] using count
    · simpa [RequestRuns.arrive, before, or_and_right, exists_or] using reached
  | none =>
    -- A new slot counts none, and no other delivery is under way.
    simp only [RequestRuns.alone, before, Option.isSome_none, Bool.false_or, List.all_eq_true,
      decide_eq_true_eq] at alone
    have fresh : slot.liveChains = 0 ∧ slot.forwarded = false := by
      simp only [RequestRuns.slot] at before
      simp only [RequestRuns.slot, RequestRuns.arrive, createOpenStreamWriter, before] at known
      split at known
      · grind [AList.lookup_insert, Option.some.injEq]
      · grind
    simp only [RequestRuns.slot, RequestRuns.arrive] at known
    have idle : ∀ run ∈ state.runs ++ [⟨.created, none⟩], run.inChain = false := by
      grind [SlotRun.inChain, List.mem_singleton]
    refine ⟨?_, ?_, ?_⟩
    · intro run member inside
      simp [idle run member] at inside
    · rw [fresh.1]
      exact (tableWeight_eq_zero fun run member => by simp [SlotRun.weight, idle run member]).symm
    · grind [SlotRun.inChain, RequestRuns.arrive]

/-- A delivery that was not sent and is not sent changes nothing there. -/
theorem exists_sent_set (read : state.runs[index]? = some run) (before : run.phase ≠ .sent)
    {next : SlotRun} (later : next.phase ≠ .sent) :
    (∃ run ∈ state.runs.set index next, run.phase = .sent) ↔
      ∃ run ∈ state.runs, run.phase = .sent := by
  constructor
  · grind
  · rintro ⟨other, member, sending⟩
    obtain ⟨place, found⟩ := List.getElem?_of_mem member
    refine ⟨other, List.mem_of_getElem? (i := place) ?_, sending⟩
    rw [getElem?_set_eq next read, if_neg]
    · exact found
    · grind

/-- A delivery that moves on keeps the counts. -/
theorem Counts.set (counts : state.Counts found) (read : state.runs[index]? = some run)
    {next : SlotRun} (registered : next.inChain = true → next.slot = some state.slots)
    (count : left.liveChains + run.weight = found.liveChains + next.weight)
    {streams : ServerOpenStreamState} {reached : Bool}
    (handed : reached = true ↔
      left.forwarded = true ∨ ∃ run ∈ state.runs.set index next, run.phase = .sent) :
    Counts ⟨streams, state.runs.set index next, state.slots, reached⟩ left := by
  refine ⟨?_, ?_, handed⟩
  · intro other member inside
    rcases List.mem_or_eq_of_mem_set member with held | rfl
    · exact counts.registered other held inside
    · exact registered inside
  · have moved := tableWeight_set SlotRun.weight next read
    have before := counts.count
    show left.liveChains = tableWeight SlotRun.weight (state.runs.set index next)
    omega

/-- A step of a delivery leaves the count right. -/
theorem Counted.move (counted : state.Counted eventId) (read : state.runs[index]? = some run)
    {phase : SlotPhase} (leads : run.phase.leadsTo phase = true) :
    (state.move eventId index run phase).Counted eventId := by
  intro slot known
  obtain ⟨before, registration⟩ := run
  cases phase with
  | created => cases before <;> cases leads
  | entered =>
    simp only [RequestRuns.move, RequestRuns.slot, enterChain, lookup_update,
      Option.map_eq_some_iff] at known
    obtain ⟨held, found, rfl⟩ := known
    cases before <;> cases leads
    refine (counted held found).set read ?_ ?_ ?_
    · simp [RequestRuns.slot, found]
    · rfl
    · rw [exists_sent_set read (by simp) (by simp)]
      exact (counted held found).reached
  | sent =>
    cases before <;> cases leads
    have counts := counted slot known
    refine counts.set read ?_ ?_ ?_
    · intro inside
      exact counts.registered ⟨.entered, registration⟩ (List.mem_of_getElem? read) rfl
    · rfl
    · grind [List.mem_set, List.getElem?_eq_some_iff, SlotRun]
  | marked =>
    simp only [RequestRuns.move, RequestRuns.slot, markForwarded,
      lookup_update, Option.map_eq_some_iff] at known
    obtain ⟨held, found, rfl⟩ := known
    cases before <;> cases leads
    have counts := counted held found
    refine counts.set read ?_ ?_ ?_
    · intro inside
      exact counts.registered ⟨.sent, registration⟩ (List.mem_of_getElem? read) rfl
    · rfl
    · have handed := counts.reached.mpr (.inr ⟨_, List.mem_of_getElem? read, rfl⟩)
      exact ⟨fun _ => .inl rfl, fun _ => handed⟩
  | left =>
    have inside : (⟨before, registration⟩ : SlotRun).inChain = true ∧ before ≠ .sent := by
      cases before <;> cases leads <;> simp [SlotRun.inChain]
    cases held : state.slot eventId with
    | none => grind [RequestRuns.slot, RequestRuns.move, leaveChain]
    | some found =>
      simp only [RequestRuns.move, RequestRuns.slot, lookup_leaveChain held] at known
      split at known
      · cases known
      · cases known
        have counts := counted found held
        -- The delivery that leaves is one of those that were counted.
        have one := le_tableWeight SlotRun.weight (List.mem_of_getElem? read)
        rw [← counts.count] at one
        refine counts.set read (by simp [SlotRun.inChain]) ?_ ?_
        · simp only [SlotRun.weight, inside.1, if_true] at one ⊢
          show found.liveChains - 1 + 1 = found.liveChains + 0
          omega
        · rw [exists_sent_set read inside.2 (by simp)]
          exact counts.reached

/-- What the stream and the response do leaves the count right. -/
theorem Counted.operate (counted : state.Counted eventId) {operation : SlotOperation}
    (taken : state.step forms eventId (.operate operation) = some after) :
    after.Counted eventId := by
  -- A slot that is still there has neither its count nor its mark changed.
  suffices kept : ∀ slot, after.slot eventId = some slot → ∃ held, state.slot eventId = some held ∧
      slot.liveChains = held.liveChains ∧ slot.forwarded = held.forwarded ∧
      after.runs = state.runs ∧ after.slots = state.slots ∧ after.reached = state.reached by
    intro slot known
    obtain ⟨held, found, count, forwarded, runs, slots, reached⟩ := kept slot known
    obtain ⟨registered, counts, handed⟩ := counted held found
    refine ⟨?_, ?_, ?_⟩
    · rwa [runs, slots]
    · rw [count, runs, counts]
    · rw [forwarded, runs, reached, handed]
  intro slot known
  cases operation with
  | create | enter | forward | leave => cases taken
  | start =>
    cases taken
    simp only [RequestRuns.slot, perform, startWriter,
      lookup_update, Option.map_eq_some_iff] at known
    obtain ⟨held, found, rfl⟩ := known
    exact ⟨held, found, rfl, rfl, rfl, rfl, rfl⟩
  | respond response =>
    cases taken
    simp only [RequestRuns.slot, perform, tryDeferOpenStreamResponse] at known
    split at known
    · exact ⟨slot, known, rfl, rfl, rfl, rfl, rfl⟩
    · rename_i held found
      split at known
      · simp [release] at known
      · split at known
        · simp [release] at known
        · rw [AList.lookup_insert] at known
          cases known
          exact ⟨held, found, rfl, rfl, rfl, rfl, rfl⟩
  | terminate =>
    cases taken
    simp only [RequestRuns.slot, perform, terminate] at known
    split at known
    · exact ⟨slot, known, rfl, rfl, rfl, rfl, rfl⟩
    · rename_i held found
      split at known
      · simp [release] at known
      · rw [AList.lookup_insert] at known
        cases known
        exact ⟨held, found, rfl, rfl, rfl, rfl, rfl⟩

/-- In every state that lone deliveries lead to, the slot counts right. -/
theorem counted_of_reaches (reached : Reaches (step forms eventId)
    (fun before action => before.alone eventId action = true) start state) :
    state.Counted eventId := by
  refine reached.invariant ?_ ?_
  · intro slot known
    cases known
  · intro before action after _ counted alone taken
    cases action with
    | arrive token snapshot =>
      cases taken
      exact counted.arrive alone
    | move index phase =>
      simp only [step] at taken
      split at taken
      · cases taken
      · rename_i run read
        split at taken
        · rename_i leads
          cases taken
          exact counted.move read leads
        · cases taken
    | operate operation => exact counted.operate taken

/--
The end of a run gives the slot up exactly if it is time to.

Deliveries that find no slot have to be alone: then a slot goes only if no other delivery that
registered on it is in the chain and the request did not get to the handler since it was made, and
it does go with the last of its deliveries if the request did not.
-/
theorem leaveChain_protects (reached : Reaches (step forms eventId)
      (fun before action => before.alone eventId action = true) start state)
    (known : state.slot eventId = some found) (read : state.runs[index]? = some run)
    (taken : state.step forms eventId (.move index .left) = some after) :
    (after.slot eventId = none →
      (∀ other held, other ≠ index → state.runs[other]? = some held → held.inChain = true →
        held.slot ≠ some state.slots) ∧ state.reached = false) ∧
    (run.slot = some state.slots →
      (∀ other held, other ≠ index → state.runs[other]? = some held → held.inChain = true →
        held.slot ≠ some state.slots) →
      state.reached = false → after.slot eventId = none) := by
  have counts := counted_of_reaches reached found known
  simp only [step, read] at taken
  split at taken
  · rename_i leads
    cases taken
    have inside : run.weight = 1 ∧ run.phase ≠ .sent := by
      obtain ⟨phase, registration⟩ := run
      cases phase <;> cases leads <;> simp [SlotRun.weight, SlotRun.inChain]
    have gone : (state.move eventId index run .left).slot eventId = none ↔
        found.liveChains ≤ 1 ∧ found.forwarded = false := by
      simp only [slot, move, lookup_leaveChain known]
      split <;> simp_all
    rw [gone, counts.count]
    refine ⟨?_, ?_⟩
    · rintro ⟨last, unmarked⟩
      have others (other : Nat) (held : SlotRun) (apart : other ≠ index)
          (there : state.runs[other]? = some held) : held.inChain = false := by
        grind [weight_eq_zero_of_others, SlotRun.weight]
      refine ⟨?_, ?_⟩
      · grind
      · -- Whoever is handing the request over is in the chain, and is not the one that leaves.
        rw [Bool.eq_false_iff]
        intro handed
        rcases counts.reached.mp handed with marked | ⟨held, member, sending⟩
        · grind
        · grind [List.getElem?_of_mem, Option.some.injEq, SlotRun.inChain]
    · intro registered alone unreached
      refine ⟨?_, ?_⟩
      · -- Everyone in the chain is registered, so only the one that leaves is in it.
        have moved := tableWeight_set SlotRun.weight ⟨.left, none⟩ read
        have none : tableWeight SlotRun.weight (state.runs.set index ⟨.left, none⟩) = 0 := by
          refine tableWeight_eq_zero fun held member => ?_
          obtain ⟨other, there⟩ := List.getElem?_of_mem member
          rcases getElem?_set_cases read there with ⟨-, rfl⟩ | ⟨apart, there⟩
          · rfl
          · cases inChain : held.inChain with
            | false => simp [SlotRun.weight, inChain]
            | true =>
              exact absurd (counts.registered held (List.mem_of_getElem? there) inChain)
                (alone other held apart there inChain)
        omega
      · rw [Bool.eq_false_iff]
        intro marked
        simp [counts.reached.mpr (.inl marked)] at unreached
  · cases taken

open SlotHistory (sampleForms sampleResponse)

/-- A delivery of a call, and its registration on the slot. -/
def sampleDelivery (index : Nat) : List RunAction :=
  [.arrive "0" ⟨aliceKey, .ofU64 1, false, none⟩, .move index .entered]

/-- The first of two deliveries leaves a slot to the second, and the second takes it with it. -/
theorem leaveChain_protects_dropped : ∃ state middle after,
    Reaches (step sampleForms firstEvent)
      (fun before action => before.alone firstEvent action = true) start state ∧
    (state.runs = [⟨.entered, some 1⟩, ⟨.entered, some 1⟩] ∧ state.slots = 1 ∧
      state.reached = false ∧ (state.slot firstEvent).isSome = true) ∧
    step sampleForms firstEvent state (.move 0 .left) = some middle ∧
    (middle.slot firstEvent).isSome = true ∧
    step sampleForms firstEvent middle (.move 1 .left) = some after ∧
    after.slot firstEvent = none := by
  obtain ⟨state, reached, facts⟩ := Reaches.of_any (fun _ _ passed => passed)
    (sampleDelivery 0 ++ sampleDelivery 1)
    (fun state => state.runs = [⟨.entered, some 1⟩, ⟨.entered, some 1⟩] ∧ state.slots = 1 ∧
      state.reached = false ∧ (state.slot firstEvent).isSome = true)
    (by decide +kernel :
      ((execute (guarded (alone firstEvent) (step sampleForms firstEvent)) start _).any _ = true))
  obtain ⟨runs, slots, unreached, present⟩ := facts
  obtain ⟨slot, known⟩ := Option.isSome_iff_exists.mp present
  have read : state.runs[0]? = some ⟨.entered, some 1⟩ := by rw [runs]; rfl
  have leaves : step sampleForms firstEvent state (.move 0 .left) =
      some (state.move firstEvent 0 ⟨.entered, some 1⟩ .left) := by simp [step, read]; rfl
  -- The second delivery is still in the chain, so the slot stays.
  have stays :
      ((state.move firstEvent 0 ⟨.entered, some 1⟩ .left).slot firstEvent).isSome = true := by
    rw [Option.isSome_iff_ne_none]
    intro gone
    have free := ((leaveChain_protects reached known read leaves).1 gone).1
    exact free 1 ⟨.entered, some 1⟩ (by decide) (by rw [runs]; rfl) rfl (by rw [slots])
  generalize moved : state.move firstEvent 0 ⟨.entered, some 1⟩ .left = middle at leaves stays
  have left : middle.runs = [⟨.left, some 1⟩, ⟨.entered, some 1⟩] := by
    rw [← moved]
    simp [move, runs]
  obtain ⟨rest, still⟩ := Option.isSome_iff_exists.mp stays
  have second : middle.runs[1]? = some ⟨.entered, some 1⟩ := by rw [left]; rfl
  have last : step sampleForms firstEvent middle (.move 1 .left) =
      some (middle.move firstEvent 1 ⟨.entered, some 1⟩ .left) := by simp [step, second]; rfl
  refine ⟨state, middle, _, reached, ⟨runs, slots, unreached, present⟩, leaves, stays, last, ?_⟩
  -- Nobody else is in the chain when the second one leaves.
  have count : middle.slots = 1 ∧ middle.reached = false := by
    rw [← moved]
    exact ⟨slots, unreached⟩
  refine (leaveChain_protects (.next _ reached rfl leaves) still second last).2 (by rw [count.1])
    ?_ count.2
  intro other held apart there inChain
  rw [left] at there
  cases other with
  | zero =>
    cases there
    cases inChain
  | succ other =>
    cases other with
    | zero => exact absurd rfl apart
    | succ other => cases there

/-- A delivery whose slot was given up takes the next one's away. -/
theorem leaveChain_takes_next : ¬ ∀ state index run after,
    Reaches (step sampleForms firstEvent) Unrestricted start state →
    (state.slot firstEvent).isSome = true → state.runs[index]? = some run →
    step sampleForms firstEvent state (.move index .left) = some after →
    after.slot firstEvent = none →
    ∀ other held, other ≠ index → state.runs[other]? = some held → held.inChain = true →
      held.slot ≠ some state.slots := by
  intro all
  -- The first delivery is forwarded and answered while it is in the chain, and the second follows.
  obtain ⟨state, reached, present, runs, slots, gone⟩ := Reaches.of_run
    (sampleDelivery 0 ++ [.move 0 .sent, .move 0 .marked, .operate (.respond sampleResponse)] ++
      sampleDelivery 1)
    (fun state => (state.slot firstEvent).isSome ∧
      state.runs = [⟨.marked, some 1⟩, ⟨.entered, some 2⟩] ∧ state.slots = 2 ∧
      (state.move firstEvent 0 ⟨.marked, some 1⟩ .left).slot firstEvent = none)
    (by decide +kernel : ((execute (step sampleForms firstEvent) start _).any _ = true))
  have read : state.runs[0]? = some ⟨.marked, some 1⟩ := by rw [runs]; rfl
  refine all state 0 _ _ reached present read (by simp [step, read]; rfl) gone 1
    ⟨.entered, some 2⟩ (by decide) (by rw [runs]; rfl) rfl ?_
  rw [slots]

end RequestRuns

end ContextVm
