import ContextVm.Lib.Execution
import ContextVm.Lib.Weights
import ContextVm.OpenStream.Registry

/-! The readers of a registry over its whole life: who is registered, and what runs at an end. -/

namespace ContextVm.OpenStream.OpenStreamRegistry

/-- Do something to a reader. -/
def change (registry : OpenStreamRegistry) (session : Nat) (act : SessionState → SessionState) :
    OpenStreamRegistry :=
  { registry with made := registry.made.modify session act }

/-- Tick one reader, and note what it asks for. -/
def tickOne (now : Nat) (ticked : List (String × KeepaliveAction) × OpenStreamRegistry)
    (entry : Sigma fun _ : String => RegistryEntry) :
    List (String × KeepaliveAction) × OpenStreamRegistry :=
  match ticked.2.made[entry.2.session]? with
  | none => ticked
  | some session =>
    let action := (session.tick now).1
    (ticked.1 ++ if action = .none then [] else [(entry.1, action)],
      ticked.2.change entry.2.session fun session => (session.tick now).2)

/-- Take a reader out that has given up; nothing runs for it. -/
def dropAborted (registry : OpenStreamRegistry) : String × KeepaliveAction → OpenStreamRegistry
  | (token, .abort _) => { registry with sessions := registry.sessions.erase token }
  | (_, .none) | (_, .sendPing _) => registry

/-- Tick all readers, in the order of the table, and take out those that have given up. -/
def tickAll (registry : OpenStreamRegistry) (now : Nat) :
    List (String × KeepaliveAction) × OpenStreamRegistry :=
  let ticked := registry.sessions.entries.foldl (tickOne now) ([], registry)
  (ticked.1, ticked.1.foldl dropAborted ticked.2)

/-- The consumer cancels: the reader ends, and what is to run then is run. -/
def consumerAbort (registry : OpenStreamRegistry) (progressToken : String)
    (reason : Option String) : OpenStreamRegistry :=
  match registry.sessions.lookup progressToken with
  | none => registry
  | some entry =>
    (registry.change entry.session (·.fail (.abort progressToken reason))).runAbort progressToken
      reason

/-- Dispose of all readers and drop them; nothing runs for them. -/
def clear (registry : OpenStreamRegistry) : OpenStreamRegistry :=
  { registry.sessions.entries.foldl (fun cleared entry =>
      cleared.change entry.2.session SessionState.dispose) registry with sessions := ∅ }

/-- What is done to the readers of a peer. -/
inductive RegistryAction where
  | createSessionWith (now : Nat) (progressToken : String) (init : OpenStreamSessionInit)
  | processFrame (now : Nat) (notification : JsonRpcNotification)
  | tickAll (now : Nat)
  | consumerAbort (progressToken : String) (reason : Option String)
  | clear
  -- Whoever holds a reader may use it, also when it has left.
  | use (session : Nat) (action : SessionAction)

/-- The readers after one thing is done to them, unless that is a panic. -/
def step (serde : SerdeJson) (arithmetic : Arithmetic) (registry : OpenStreamRegistry) :
    RegistryAction → Option OpenStreamRegistry
  | .createSessionWith now progressToken init =>
    match registry.createSessionWith now progressToken init with
    | .ok (_, after) => some after
    | .error _ => some registry
  | .processFrame now notification =>
    (registry.processFrame serde arithmetic now notification).map Prod.snd
  | .tickAll now => some (registry.tickAll now).2
  | .consumerAbort progressToken reason => some (registry.consumerAbort progressToken reason)
  | .clear => some registry.clear
  | .use session action => (registry.made[session]?.bind (·.step arithmetic action)).map fun used =>
    registry.change session fun _ => used

/-! What stays true of the readers. -/

/-- Whether an entry is for a reader, as a number. -/
def counts (number : Nat) (entry : RegistryEntry) : Nat := if entry.session = number then 1 else 0

/-- How often a reader is registered or has had something run at its end. -/
def uses (registry : OpenStreamRegistry) (number : Nat) : Nat :=
  heldWeight (counts number) registry.sessions + registry.ran.countP (·.1 = number)

/-- There is room for the readers, and none of them is registered or ended twice. -/
structure Kept (registry : OpenStreamRegistry) : Prop where
  room : registry.sessions.entries.length ≤ registry.policy.maxConcurrentStreams.toNat
  once : ∀ number, registry.uses number ≤ if number < registry.made.length then 1 else 0

variable {serde : SerdeJson} {arithmetic : Arithmetic} {registry after : OpenStreamRegistry}
  {now : Nat} {token : String} {entry : RegistryEntry}

section

variable (kept : registry.Kept)
include kept

theorem Kept.change (session : Nat) (act : SessionState → SessionState) :
    Kept (registry.change session act) := by
  grind [Kept, change, uses]

/-- A reader leaves, and at most one hook of its own is run. -/
theorem Kept.leave (token : String) {ran : List (Nat × RegistryHook)}
    (run : ∀ number, ran.countP (·.1 = number) ≤ registry.ran.countP (·.1 = number) +
      (registry.sessions.lookup token).elim 0 (counts number)) :
    Kept { registry with sessions := registry.sessions.erase token, ran } := by
  have fewer := List.kerase_sublist token registry.sessions.entries
  refine ⟨fewer.length_le.trans kept.room, fun number => ?_⟩
  have before := kept.once number
  have erased := heldWeight_erase (counts number) registry.sessions token
  have hooks := run number
  simp only [uses] at before ⊢
  omega

theorem Kept.remove (token : String) (hook : RegistryHook) : Kept (registry.remove token hook) := by
  unfold OpenStreamRegistry.remove
  split
  · exact kept
  · rename_i entry found
    refine kept.leave token fun number => ?_
    rw [found, List.countP_append]
    refine Nat.add_le_add_left ?_ _
    cases hook <;> dsimp only <;> split_ifs <;> simp [counts]

theorem Kept.createSessionWith {init : OpenStreamSessionInit}
    (created : registry.createSessionWith now token init = .ok (entry, after)) : after.Kept := by
  simp only [OpenStreamRegistry.createSessionWith] at created
  split at created
  · cases created
  split at created
  · cases created
  rename_i taken full
  cases created
  have inserted (weigh : RegistryEntry → Nat) :=
    insert_of_free weigh ⟨registry.made.length, init.onClose, init.onAbort⟩
      (Option.not_isSome_iff_eq_none.mp taken)
  refine ⟨?_, fun number => ?_⟩
  · exact (inserted fun _ => 0).1.trans_le (Nat.lt_of_not_le full)
  · -- The new number is beyond all earlier ones.
    have before := kept.once number
    simp only [uses, (inserted _).2, List.length_append, List.length_singleton, counts] at before ⊢
    split_ifs at before ⊢ <;> omega

theorem Kept.admitFrame {frame : OpenStreamFrame}
    (admitted : registry.admitFrame now token frame = .ok (some (entry, after))) :
    after.Kept := by
  simp only [OpenStreamRegistry.admitFrame] at admitted
  split at admitted
  · cases admitted
    exact kept
  split at admitted
  · -- A start makes a reader.
    cases created : registry.createSessionWith now token ⟨false, false, false⟩ <;>
      rw [created] at admitted <;> cases admitted
    exact kept.createSessionWith created
  all_goals cases admitted

theorem Kept.feed {progress : Int64} {frame : OpenStreamFrame}
    {result : Except OpenStreamError FrameOutcome}
    (fed : registry.feed arithmetic now token progress frame entry = some (result, after)) :
    after.Kept := by
  obtain ⟨session, -, fed⟩ := Option.bind_eq_some_iff.mp fed
  obtain ⟨⟨answer, rest⟩, -, fed⟩ := Option.bind_eq_some_iff.mp fed
  simp only [List.set_eq_modify] at fed
  repeat' split at fed
  all_goals cases fed
  all_goals first | exact (kept.change ..).remove token _ | exact kept.change ..

theorem Kept.tickAll (now : Nat) : Kept (registry.tickAll now).2 := by
  have ticked : Kept (registry.sessions.entries.foldl (tickOne now) ([], registry)).2 := by
    refine List.foldlRecOn (motive := fun ticked => ticked.2.Kept) _ (tickOne now) ?_ ?_
    · exact kept
    intro ticked kept entry _
    unfold tickOne
    split
    · exact kept
    · exact kept.change ..
  refine List.foldlRecOn _ dropAborted (motive := Kept) ticked ?_
  rintro registry kept ⟨token, action⟩ _
  cases action with
  | abort reason => exact kept.leave token fun _ => Nat.le_add_right ..
  | none | sendPing => exact kept

theorem Kept.step {action : RegistryAction}
    (taken : registry.step serde arithmetic action = some after) : after.Kept := by
  cases action with
  | createSessionWith now token init =>
    simp only [OpenStreamRegistry.step] at taken
    split at taken <;> cases taken
    · exact kept.createSessionWith ‹_›
    · exact kept
  | processFrame now notification =>
    obtain ⟨⟨result, rest⟩, processed, rfl⟩ := Option.map_eq_some_iff.mp taken
    unfold OpenStreamRegistry.processFrame at processed
    repeat' split at processed
    case h_3 => exact (kept.admitFrame ‹_›).feed processed
    all_goals
      cases processed
      exact kept
  | tickAll now =>
    cases taken
    exact kept.tickAll now
  | consumerAbort token reason =>
    cases taken
    unfold OpenStreamRegistry.consumerAbort
    split
    · exact kept
    · exact (kept.change ..).remove token _
  | clear =>
    cases taken
    have cleared := List.foldlRecOn registry.sessions.entries _ (motive := Kept) kept
      fun _ kept entry _ => kept.change entry.2.session SessionState.dispose
    exact ⟨Nat.zero_le _, fun number =>
      (Nat.add_le_add_right (Nat.zero_le _) _).trans (cleared.once number)⟩
  | use session action =>
    obtain ⟨used, -, rfl⟩ := Option.map_eq_some_iff.mp taken
    exact kept.change ..

end

/-- Whatever is done, the readers have room, and at most one hook of each is ever run. -/
theorem kept_throughout {policy : OpenStreamRegistryPolicy}
    (reached : Reaches (step serde arithmetic) Unrestricted (withPolicy policy) registry) :
    registry.Kept :=
  reached.invariant ⟨Nat.zero_le _, fun _ => Nat.zero_le _⟩ fun _ _ _ _ kept _ taken =>
    kept.step taken

theorem kept_after_abort : ∃ registry, Reaches (step .silent .checked) Unrestricted
    (withPolicy samplePolicy) registry ∧ registry.ran = [(0, .onAbort none)] ∧ registry.Kept :=
  Reaches.exists_of_run [.createSessionWith 0 "a" ⟨false, true, true⟩, .consumerAbort "a" none]
    (·.ran = [(0, .onAbort none)]) (by decide) fun _ reached ran => ⟨ran, kept_throughout reached⟩

end ContextVm.OpenStream.OpenStreamRegistry
