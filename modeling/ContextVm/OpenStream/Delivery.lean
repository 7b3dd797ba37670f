import ContextVm.OpenStream.Accounting

/-! A reader hands out every chunk that it has stored once, in the order of their indexes. -/

namespace ContextVm.OpenStream

open DataPlane SessionState

/-! What goes into a reader and comes out of it. -/

/-- The chunk that a frame makes a reader store. -/
def SessionState.storedChunk (arithmetic : Arithmetic) (state : SessionState) (progress : Int64) :
    OpenStreamFrame → Option (Nat × String)
  | .chunk chunkIndex data =>
    if state.Accepts progress ∧ state.started = true then
      match state.toDataPlane.bufferChunk arithmetic state.options chunkIndex data with
      | some (.ok _) => some (chunkIndex.toNat, data)
      | _ => none
    else none
  | _ => none

/-- What a close declares that a reader takes. -/
def SessionState.takenClose (state : SessionState) (progress : Int64) :
    OpenStreamFrame → Option (Option UInt64)
  | .close last => if state.Accepts progress ∧ state.started = true then some last else none
  | _ => none

/-- The item that a poll finds. -/
def SessionState.yieldedItem (arithmetic : Arithmetic) (state : SessionState) :
    Option (Option (Except OpenStreamError String)) :=
  match state.pollNext arithmetic with
  | some (.ready item, _) => some item
  | _ => none

/-- A reader, with what has gone into it and what has come out of it so far. -/
structure Reading where
  session : SessionState
  -- The chunks that were stored, and what the closes declared that were taken.
  stored : List (Nat × String)
  closes : List (Option UInt64)
  -- What the stream has yielded to its consumer.
  yielded : List (Option (Except OpenStreamError String))

/-- The data of an item, unless it is an error or the end. -/
def itemData : Option (Except OpenStreamError String) → Option String
  | some (.ok data) => some data
  | _ => none

namespace Reading

/-- A reader that was just made, with nothing in or out. -/
def new (options : OpenStreamSessionOptions) (made : Nat) : Reading :=
  ⟨.new options made, [], [], []⟩

/-- One thing is done to the reader. -/
def step (arithmetic : Arithmetic) (reading : Reading) (action : SessionAction) : Option Reading :=
  (reading.session.step arithmetic action).map fun session =>
    match action with
    | .processFrame _ progress frame =>
      { reading with
        session
        stored := reading.stored ++ (reading.session.storedChunk arithmetic progress frame).toList
        closes := reading.closes ++ (reading.session.takenClose progress frame).toList }
    | .pollNext =>
      { reading with
        session
        yielded := reading.yielded ++ (reading.session.yieldedItem arithmetic).toList }
    | .tick _ | .fail _ | .dispose | .abort _ => { reading with session }

/-- The data that the stream has yielded. -/
def items (reading : Reading) : List String := reading.yielded.filterMap itemData

/-- The data that was put in order, whether the consumer has it yet or not. -/
def emitted (reading : Reading) : List String := reading.items ++ reading.session.queue

/-- What an ended stream still has to yield before its end shows. -/
def remaining (session : SessionState) : List (Option (Except OpenStreamError String)) :=
  session.queue.map (fun data => some (.ok data)) ++
    session.terminal.toList.map fun error => some (.error error)

end Reading

/-- Whether the index that a close declares has a successor. -/
def OpenStreamFrame.declaresBelowMax : OpenStreamFrame → Prop
  | .close (some last) => last.toNat < u64Max
  | _ => True

instance : DecidablePred OpenStreamFrame.declaresBelowMax := fun frame =>
  match frame with
  | .close (some last) => inferInstanceAs (Decidable (last.toNat < u64Max))
  | .close none | .start _ | .accept | .chunk _ _ | .ping _ | .pong _ | .abort _ => isTrue trivial

/-- Whether an action stays away from the largest index. -/
def SessionAction.declaresBelowMax : SessionAction → Prop
  | .processFrame _ _ frame => frame.declaresBelowMax
  | .pollNext | .tick _ | .fail _ | .dispose | .abort _ => True

instance : DecidablePred SessionAction.declaresBelowMax := fun action =>
  match action with
  | .processFrame _ _ frame => inferInstanceAs (Decidable frame.declaresBelowMax)
  | .pollNext | .tick _ | .fail _ | .dispose | .abort _ => isTrue trivial

/-! Where the stored chunks are. -/

namespace DataPlane

variable {stored : List (Nat × String)} {taken : List String} {plane : DataPlane}
  {options : OpenStreamSessionOptions} {data : String}

/-- The stored chunks were handed out or queued up to the next expected one, or are put aside. -/
structure Delivers (stored : List (Nat × String)) (taken : List String) (plane : DataPlane) :
    Prop where
  distinct : (stored.map Prod.fst).Nodup
  length : (taken ++ plane.queue).length = plane.nextExpectedChunk
  emitted : ∀ index data, (taken ++ plane.queue)[index]? = some data → (index, data) ∈ stored
  held : ∀ index data, plane.buffered.lookup index = some data → (index, data) ∈ stored
  placed : ∀ index data, (index, data) ∈ stored →
    index < plane.nextExpectedChunk ∨ plane.buffered.lookup index = some data

theorem delivers_empty : Delivers [] [] empty where
  distinct := List.nodup_nil
  length := rfl
  emitted := by simp [empty]
  held := by simp [empty]
  placed := by simp

section

variable (delivers : Delivers stored taken plane)
include delivers

/-- A chunk that is admitted joins those that are put aside. -/
theorem Delivers.store {chunkIndex : UInt64} (admits : plane.Admits options chunkIndex data) :
    Delivers (stored ++ [(chunkIndex.toNat, data)]) taken (plane.store chunkIndex.toNat data) := by
  obtain ⟨current, unknown, -, -⟩ := admits
  -- The index is neither behind nor put aside, so no stored chunk has it.
  have fresh : chunkIndex.toNat ∉ stored.map Prod.fst := by
    intro known
    obtain ⟨⟨index, old⟩, member, rfl⟩ := List.mem_map.mp known
    rcases delivers.placed _ _ member with behind | held
    · exact absurd current (Nat.not_le.mpr behind)
    · grind
  refine ⟨?_, delivers.length, ?_, ?_, ?_⟩
  · rw [List.map_append]
    exact delivers.distinct.append (List.nodup_singleton _) (by simpa using fresh)
  · intro index found read
    exact List.mem_append_left _ (delivers.emitted index found read)
  · intro index found read
    rcases lookup_insert_cases read with ⟨rfl, rfl⟩ | old
    · simp
    · exact List.mem_append_left _ (delivers.held index found old)
  · intro index found member
    rcases List.mem_append.mp member with old | new
    · rcases delivers.placed index found old with behind | held
      · exact .inl behind
      · grind [DataPlane.store, AList.lookup_insert_ne]
    · rw [List.mem_singleton, Prod.mk.injEq] at new
      obtain ⟨rfl, rfl⟩ := new
      exact .inr (AList.lookup_insert _)

/-- A chunk that is queued was the next one in order. -/
theorem Delivers.advanced (next : plane.buffered.lookup plane.nextExpectedChunk = some data) :
    Delivers stored taken (plane.advanced data) := by
  have length := delivers.length
  refine ⟨delivers.distinct, ?_, ?_, ?_, ?_⟩
  · show (taken ++ (plane.queue ++ [data])).length = plane.nextExpectedChunk + 1
    rw [← List.append_assoc, List.length_append, length, List.length_singleton]
  · intro index found read
    change (taken ++ (plane.queue ++ [data]))[index]? = some found at read
    rw [← List.append_assoc, List.getElem?_append] at read
    split at read
    · exact delivers.emitted index found read
    · -- Behind the others there is the chunk alone, at the index that was next.
      rw [List.getElem?_singleton] at read
      split at read
      · cases read
        have index_eq : index = plane.nextExpectedChunk := by omega
        rw [index_eq]
        exact delivers.held _ _ next
      · cases read
  · intro index found read
    by_cases same : index = plane.nextExpectedChunk
    · subst same
      simp [DataPlane.advanced] at read
    · rw [DataPlane.advanced, AList.lookup_erase_ne same] at read
      exact delivers.held index found read
  · intro index found member
    show index < plane.nextExpectedChunk + 1 ∨ _
    rcases delivers.placed index found member with behind | held
    · exact .inl (by omega)
    · grind [DataPlane.advanced, AList.lookup_erase_ne]

theorem Delivers.flushed : Delivers stored taken plane.flushed :=
  flushed_induction (Delivers stored taken) delivers fun _ _ next holds => holds.advanced next

theorem Delivers.popped {item : String} {rest : List String} (front : plane.queue = item :: rest) :
    Delivers stored (taken ++ [item]) (plane.popped item rest) := by
  -- What was handed out and what is queued make the same list as before.
  have same : taken ++ [item] ++ (plane.popped item rest).queue = taken ++ plane.queue := by
    rw [front, List.append_assoc]
    rfl
  refine ⟨delivers.distinct, ?_, ?_, delivers.held, delivers.placed⟩
  · rw [same]
    exact delivers.length
  · rw [same]
    exact delivers.emitted

/-- A chunk that was emitted is the only one that was stored under its index. -/
theorem Delivers.single {index : Nat} (found : (taken ++ plane.queue)[index]? = some data) :
    stored.filter (fun chunk => chunk.1 = index) = [(index, data)] := by
  have member := delivers.emitted index data found
  have distinct := delivers.distinct
  clear delivers found
  -- Walk to the chunk; the indexes before and behind it are other ones.
  induction stored with
  | nil => simp at member
  | cons head rest ih =>
    rw [List.map_cons, List.nodup_cons] at distinct
    rcases List.mem_cons.mp member with rfl | later
    · grind [List.filter_eq_nil_iff, List.filter_cons_of_pos]
    · grind

end

end DataPlane

/-! The whole reading. -/

namespace SessionState

variable {arithmetic : Arithmetic} {state : SessionState} {progress : Int64}

theorem storedChunk_chunk (sound : state.Sound) {chunkIndex : UInt64} {data : String}
    (fits : state.fits (.chunk chunkIndex data)) :
    state.storedChunk arithmetic progress (.chunk chunkIndex data) =
      if state.Accepts progress ∧ state.started = true ∧
          state.toDataPlane.Admits state.options chunkIndex data then
        some (chunkIndex.toNat, data)
      else none := by
  have room := sound.room fits
  simp only [storedChunk]
  by_cases admits : state.toDataPlane.Admits state.options chunkIndex data
  · simp [bufferChunk_of_admits room arithmetic admits, admits]
  · obtain ⟨error, refused⟩ := bufferChunk_of_not_admits room arithmetic admits
    simp [refused, admits]

theorem storedChunk_eq_none (sound : state.Sound) {frame : OpenStreamFrame}
    (fits : state.fits frame)
    (unstored : ∀ chunkIndex data, frame = .chunk chunkIndex data → ¬ (state.Accepts progress ∧
      state.started = true ∧ state.toDataPlane.Admits state.options chunkIndex data)) :
    state.storedChunk arithmetic progress frame = none := by
  grind [OpenStreamFrame, storedChunk, storedChunk_chunk]

theorem takenClose_eq_none {frame : OpenStreamFrame}
    (unclosed : ∀ last, frame = .close last → ¬ (state.Accepts progress ∧ state.started = true)) :
    state.takenClose progress frame = none := by
  grind [OpenStreamFrame, takenClose]

end SessionState

namespace Reading

open SessionState

variable {arithmetic : Arithmetic} {reading after : Reading} {now : Nat} {progress : Int64}
  {frame : OpenStreamFrame} {result : Except OpenStreamError FrameOutcome}

/-- What the latest close has declared. -/
def latestClose (state : SessionState) : Option (Option UInt64) :=
  if state.closedRemotely then some state.expectedLastChunkIndex else none

/-- The reader is sound, and the record of what went in and out agrees with its state. -/
structure Sound (reading : Reading) : Prop where
  session : reading.session.Sound
  delivers : reading.session.toDataPlane.Delivers reading.stored reading.items
  closes : reading.closes.getLast? = latestClose reading.session
  below : ∀ last, reading.session.expectedLastChunkIndex = some last → last.toNat < u64Max

theorem sound_new (options : OpenStreamSessionOptions) (made : Nat) : (new options made).Sound where
  session := SessionState.sound_new options made
  delivers := DataPlane.delivers_empty
  closes := rfl
  below := by
    intro last declared
    cases declared

theorem Sound.of_same (sound : reading.Sound) {session : SessionState} (still : session.Sound)
    (plane : session.toDataPlane = reading.session.toDataPlane)
    (closed : session.closedRemotely = reading.session.closedRemotely)
    (last : session.expectedLastChunkIndex = reading.session.expectedLastChunkIndex) :
    Sound { reading with session } := by
  refine ⟨still, ?_, ?_, ?_⟩
  · simpa [plane, items] using sound.delivers
  · simpa [latestClose, closed, last] using sound.closes
  · simpa [last] using sound.below

theorem Settles.delivers {middle rest : SessionState} {stored : List (Nat × String)}
    {taken : List String} (settles : Settles arithmetic middle result rest)
    (delivers : middle.toDataPlane.Delivers stored taken) :
    rest.toDataPlane.Delivers stored taken ∧ latestClose rest = latestClose middle ∧
      rest.expectedLastChunkIndex = middle.expectedLastChunkIndex := by
  have flushed := delivers.flushed
  cases settles with
  | unfinished deadline going => exact ⟨flushed, rfl, rfl⟩
  | finished complete =>
    have untouched := untouched_finalize middle.settle none
    rw [untouched.plane, latestClose, untouched.closed, untouched.last]
    exact ⟨flushed, rfl, rfl⟩

/-- What a frame leaves of a sound reading is sound. -/
theorem Sound.processed (sound : reading.Sound) (fits : reading.session.fits frame)
    (below : frame.declaresBelowMax) {rest : SessionState}
    (processed : Processed arithmetic reading.session now progress frame result rest) :
    Sound { reading with
      session := rest
      stored := reading.stored ++ (reading.session.storedChunk arithmetic progress frame).toList
      closes := reading.closes ++ (reading.session.takenClose progress frame).toList } := by
  have session := processed.sound sound.session
  -- The four parts of the record, by what the frame has done.
  cases processed with
  | refused rejected =>
    rw [storedChunk_eq_none sound.session fits fun _ _ _ taken => rejected taken.1,
      takenClose_eq_none fun _ _ taken => rejected taken.1]
    exact ⟨session, by simpa using sound.delivers, by simpa using sound.closes, sound.below⟩
  | noted accepts unstored unclosed going untouched =>
    have nothing : reading.session.takenClose progress frame = none := by grind [takenClose_eq_none]
    rw [storedChunk_eq_none sound.session fits fun _ _ same taken => unstored _ _ same taken.2,
      nothing]
    simp only [Option.toList_none, List.append_nil]
    exact sound.of_same session untouched.plane untouched.closed untouched.last
  | chunk accepts started admits settles =>
    rw [storedChunk_chunk sound.session fits, if_pos ⟨accepts, started, admits⟩]
    obtain ⟨delivers, latest, last⟩ := Settles.delivers settles (sound.delivers.store admits)
    refine ⟨session, delivers, ?_, ?_⟩
    · rw [latest]
      simp only [takenClose, Option.toList_none, List.append_nil]
      exact sound.closes
    · rw [last]
      exact sound.below
  | close accepts started settles =>
    rw [takenClose, if_pos ⟨accepts, started⟩]
    obtain ⟨delivers, latest, last⟩ := Settles.delivers settles sound.delivers
    refine ⟨session, by simpa [storedChunk, items] using delivers, ?_, ?_⟩
    · rw [latest]
      simp [latestClose, closing]
    · -- The declared index is the frame's own.
      intro index declared
      rw [last] at declared
      subst declared
      exact below

theorem Sound.polled (sound : reading.Sound) {polled : Polled} {rest : SessionState}
    (poll : reading.session.pollNext arithmetic = some (polled, rest)) :
    Sound { reading with
      session := rest
      yielded := reading.yielded ++ (reading.session.yieldedItem arithmetic).toList } := by
  have session := sound.session.pollNext poll
  rcases pollNext_cases sound.session poll with ⟨item, queue, front, rfl, rfl⟩ |
    ⟨-, -, rfl, rfl⟩ | ⟨empty, -, rfl, rfl⟩
  · refine ⟨session, ?_, sound.closes, sound.below⟩
    simpa [items, yieldedItem, poll, itemData] using sound.delivers.popped front
  · exact ⟨session, by simpa [items, yieldedItem, poll] using sound.delivers, sound.closes,
      sound.below⟩
  · -- An error or the end is no data.
    refine ⟨session, ?_, sound.closes, sound.below⟩
    have silent : itemData (reading.session.terminal.map .error) = none := by
      cases reading.session.terminal <;> rfl
    simpa [items, yieldedItem, poll, silent] using sound.delivers

/-- Everything that is done to a sound reading leaves it sound. -/
theorem Sound.step {action : SessionAction} (sound : reading.Sound)
    (below : action.declaresBelowMax) (taken : reading.step arithmetic action = some after) :
    after.Sound := by
  obtain ⟨session, moved, rfl⟩ := Option.map_eq_some_iff.mp taken
  have still := sound.session.step moved
  cases action with
  | processFrame now progress frame =>
    obtain ⟨fits, moved⟩ := Option.ite_none_right_eq_some.mp moved
    obtain ⟨⟨result, rest⟩, processed, rfl⟩ := Option.map_eq_some_iff.mp moved
    exact sound.processed fits below (processFrame_cases sound.session fits processed)
  | pollNext =>
    obtain ⟨⟨polled, rest⟩, poll, rfl⟩ := Option.map_eq_some_iff.mp moved
    exact sound.polled poll
  | tick now =>
    cases moved
    have untouched := untouched_tick reading.session now
    exact sound.of_same still untouched.plane untouched.closed untouched.last
  | fail error =>
    cases moved
    have untouched := untouched_finalize reading.session (some error)
    exact sound.of_same still untouched.plane untouched.closed untouched.last
  | dispose =>
    cases moved
    have untouched := untouched_finalize reading.session none
    exact sound.of_same still untouched.plane untouched.closed untouched.last
  | abort reason =>
    cases moved
    have untouched := untouched_abort reading.session reason
    exact sound.of_same still untouched.plane untouched.closed untouched.last

theorem sound_of_reaches {options : OpenStreamSessionOptions} {made : Nat}
    (reached : Reaches (step arithmetic) (fun _ action => action.declaresBelowMax)
      (new options made) reading) : reading.Sound := by
  apply reached.invariant
  · exact sound_new options made
  · intro before action after _ sound below taken
    exact sound.step below taken

theorem Sound.emitted_of_complete (sound : reading.Sound)
    (complete : reading.session.Complete arithmetic) :
    reading.closes ≠ [] ∧ reading.session.buffered = ∅ ∧
      ∀ last : UInt64, reading.closes.getLast? = some (some last) →
        reading.emitted.length = last.toNat + 1 := by
  have latest := sound.closes
  rw [latestClose, if_pos complete.closed] at latest
  refine ⟨?_, complete.drained, ?_⟩
  · grind
  · intro last declared
    rw [latest, Option.some.injEq] at declared
    -- The declared index has a successor, which is the same in all builds.
    have below := sound.below last declared
    have count := complete.last last declared
    rw [Arithmetic.add_eq arithmetic below, Option.some.injEq] at count
    rw [count]
    exact sound.delivers.length

/-- A reader that has ended is changed by nothing but a poll. -/
theorem step_of_inactive (inactive : reading.session.active = false) {action : SessionAction}
    (other : action ≠ .pollNext) (taken : reading.step arithmetic action = some after) :
    after.session = reading.session ∧ after.yielded = reading.yielded := by
  obtain ⟨session, moved, rfl⟩ := Option.map_eq_some_iff.mp taken
  have ended : ∀ error, reading.session.finalize error = reading.session := by
    intro error
    rw [finalize, if_neg (by simp [inactive])]
  cases action with
  | processFrame now progress frame => grind [SessionState.step, SessionState.processFrame]
  | pollNext => exact absurd rfl other
  | tick now =>
    simp only [SessionState.step, tick, if_pos inactive] at moved
    cases moved
    exact ⟨rfl, rfl⟩
  | fail error | dispose =>
    cases moved
    exact ⟨ended _, rfl⟩
  | abort reason =>
    simp only [SessionState.step, abort, inactive] at moved
    cases moved
    exact ⟨rfl, rfl⟩

theorem poll_of_inactive (sound : reading.session.Sound) (inactive : reading.session.active = false)
    (taken : reading.step arithmetic .pollNext = some after) :
    after.session.active = false ∧ ∃ item, after.yielded = reading.yielded ++ [item] ∧
      (remaining reading.session = item :: remaining after.session ∨
        (remaining reading.session = [] ∧ item = none ∧ remaining after.session = [])) := by
  obtain ⟨session, moved, rfl⟩ := Option.map_eq_some_iff.mp taken
  obtain ⟨⟨polled, rest⟩, poll, rfl⟩ := Option.map_eq_some_iff.mp moved
  rcases pollNext_cases sound poll with ⟨item, queue, front, rfl, rfl⟩ | ⟨-, active, -, -⟩ |
    ⟨empty, -, rfl, rfl⟩
  · refine ⟨inactive, some (.ok item), by simp [yieldedItem, poll], .inl ?_⟩
    simp [remaining, front, popped]
  · grind
  · refine ⟨inactive, reading.session.terminal.map .error, by simp [yieldedItem, poll], ?_⟩
    -- The error is taken away with the poll that yields it.
    cases failed : reading.session.terminal with
    | none => exact .inr ⟨by simp [remaining, empty, failed], rfl, by simp [remaining, empty]⟩
    | some error => exact .inl (by simp [remaining, empty, failed])

/-- What an ended stream yields from then on. -/
structure Drains (reading later : Reading) : Prop where
  sound : later.session.Sound
  inactive : later.session.active = false
  yields : ∃ more ends, later.yielded = reading.yielded ++ more ∧
    more ++ remaining later.session = remaining reading.session ++ List.replicate ends none ∧
    (ends = 0 ∨ remaining later.session = [])

/-- An ended stream yields what remains, and then its end again and again. -/
theorem drains_of_reaches {later : Reading} {permitted : Reading → SessionAction → Prop}
    (sound : reading.session.Sound) (inactive : reading.session.active = false)
    (reached : Reaches (step arithmetic) permitted reading later) : Drains reading later := by
  apply reached.invariant
  · exact ⟨sound, inactive, [], 0, by simp, by simp, .inl rfl⟩
  · intro before action after _ drains _ taken
    obtain ⟨more, ends, yielded, whole, spent⟩ := drains.yields
    have still : after.session.Sound := by
      obtain ⟨session, moved, rfl⟩ := Option.map_eq_some_iff.mp taken
      have kept := drains.sound.step moved
      cases action <;> exact kept
    by_cases polled : action = .pollNext
    · subst polled
      obtain ⟨ended, item, yields, first | ⟨nothing, rfl, rest⟩⟩ :=
        poll_of_inactive drains.sound drains.inactive taken
      · -- Something was left, so the end has not shown yet.
        refine ⟨still, ended, more ++ [item], ends, by simp [yields, yielded], ?_, ?_⟩
        · grind
        · grind
      · refine ⟨still, ended, more ++ [none], ends + 1, by simp [yields, yielded], ?_, .inr rest⟩
        rw [nothing, List.append_nil] at whole
        rw [rest, List.append_nil, whole, List.replicate_succ', List.append_assoc]
    · obtain ⟨same, silent⟩ := step_of_inactive drains.inactive polled taken
      refine ⟨still, by rw [same]; exact drains.inactive, more, ends, by rw [silent, yielded],
        ?_, ?_⟩
      · rw [same]
        exact whole
      · rw [same]
        exact spent

/-- What a reader takes in and gives out, by the record of what was stored and yielded so far. -/
structure Serves (arithmetic : Arithmetic) (reading : Reading) : Prop where
  -- A start in progress order is taken by a reader that has had none.
  start : ∀ now progress contentType, reading.session.Accepts progress →
    reading.session.started = false →
    ∃ after, reading.step arithmetic (.processFrame now progress (.start contentType)) =
      some after ∧ after.session.started = true
  -- A chunk in progress order, of a new index and within the limits, is stored from then on.
  chunk : ∀ now progress (chunkIndex : UInt64) data, reading.session.Accepts progress →
    reading.session.started = true → (∀ old, (chunkIndex.toNat, old) ∉ reading.stored) →
    reading.session.buffered.entries.length + reading.session.queue.length <
      reading.session.options.maxBufferedChunks.toNat →
    reading.session.bufferedBytes + reading.session.queuedBytes + data.utf8ByteSize ≤
      reading.session.options.maxBufferedBytes.toNat →
    ∃ after, reading.step arithmetic (.processFrame now progress (.chunk chunkIndex data)) =
      some after ∧ after.stored = reading.stored ++ [(chunkIndex.toNat, data)]
  -- A stored chunk whose predecessors are all stored is put in order, at its index.
  inOrder : ∀ index data, (index, data) ∈ reading.stored →
    (∀ earlier < index, ∃ old, (earlier, old) ∈ reading.stored) →
    reading.emitted[index]? = some data
  -- What is put in order next to what was yielded is what the next poll yields.
  poll : ∀ data, reading.emitted[reading.items.length]? = some data →
    ∃ after, reading.step arithmetic .pollNext = some after ∧
      after.items = reading.items ++ [data]

section

variable (sound : reading.Sound)
include sound

/-- A chunk whose index was not stored yet is neither behind nor put aside. -/
theorem Sound.admits {chunkIndex : UInt64} {data : String}
    (fresh : ∀ old, (chunkIndex.toNat, old) ∉ reading.stored)
    (free : reading.session.buffered.entries.length + reading.session.queue.length <
      reading.session.options.maxBufferedChunks.toNat)
    (small : reading.session.bufferedBytes + reading.session.queuedBytes + data.utf8ByteSize ≤
      reading.session.options.maxBufferedBytes.toNat) :
    reading.session.toDataPlane.Admits reading.session.options chunkIndex data := by
  refine ⟨?_, ?_, free, small⟩
  · refine Nat.le_of_not_lt fun behind => ?_
    rw [← sound.delivers.length] at behind
    exact fresh _ (sound.delivers.emitted _ _ (List.getElem?_eq_getElem behind))
  · rw [Option.eq_none_iff_forall_not_mem]
    exact fun old held => fresh old (sound.delivers.held _ _ held)

/-- Every chunk without a gap before it has left the buffer. -/
theorem Sound.emitted_of_stored {index : Nat} {data : String}
    (stored : (index, data) ∈ reading.stored)
    (filled : ∀ earlier < index, ∃ old, (earlier, old) ∈ reading.stored) :
    reading.emitted[index]? = some data := by
  have settled := sound.session.settled
  -- The next expected chunk is not put aside, so it is not stored, and the gap lies behind.
  have behind : index < reading.session.nextExpectedChunk := by
    refine Nat.lt_of_not_le fun ahead => ?_
    obtain ⟨old, member⟩ : ∃ old, (reading.session.nextExpectedChunk, old) ∈ reading.stored := by
      rcases Nat.lt_or_eq_of_le ahead with gap | same
      · exact filled _ gap
      · exact ⟨data, same ▸ stored⟩
    rcases sound.delivers.placed _ _ member with past | held
    · exact absurd past (Nat.lt_irrefl _)
    · cases settled.symm.trans held
  rw [← sound.delivers.length] at behind
  -- What stands at the index was stored under it, and one chunk only was.
  have found := List.getElem?_eq_getElem behind
  have single := sound.delivers.single found
  have listed : (index, data) ∈ reading.stored.filter (fun chunk => chunk.1 = index) := by
    simp [stored]
  rw [single, List.mem_singleton, Prod.mk.injEq] at listed
  rw [listed.2]
  exact found

/-- A chunk that the reader has room for is stored, in every build. -/
theorem Sound.step_chunk {chunkIndex : UInt64} {data : String} (arithmetic : Arithmetic)
    (now : Nat) (accepts : reading.session.Accepts progress)
    (started : reading.session.started = true)
    (admits : reading.session.toDataPlane.Admits reading.session.options chunkIndex data) :
    ∃ after, reading.step arithmetic (.processFrame now progress (.chunk chunkIndex data)) =
      some after ∧ after.stored = reading.stored ++ [(chunkIndex.toNat, data)] := by
  have limit := toNat_le_u64Max reading.session.options.maxBufferedBytes
  have fits : reading.session.fits (.chunk chunkIndex data) := by
    simp only [SessionState.fits, sound.session.heldBytes, OpenStreamFrame.dataBytes]
    have small := admits.2.2.2
    omega
  -- The build could only panic over a declared index without a successor.
  have goes : reading.session.processFrame arithmetic now progress (.chunk chunkIndex data) ≠
      none := by
    rw [Ne, processFrame_eq_none sound.session fits]
    rintro ⟨middle, flushes, panics⟩
    have counted := flushes.counted sound.session
    rw [flushContiguousChunks_eq_none counted.1 counted.2] at panics
    obtain ⟨-, -, expected, declared, sum⟩ := panics
    cases flushes with
    | chunk accepts started admits =>
      rw [Arithmetic.add_eq arithmetic (sound.below expected declared)] at sum
      cases sum
  obtain ⟨⟨result, rest⟩, processed⟩ := Option.ne_none_iff_exists'.mp goes
  have moved : reading.session.step arithmetic
      (.processFrame now progress (.chunk chunkIndex data)) = some rest := by
    simp [SessionState.step, fits, processed]
  refine ⟨_, Option.map_eq_some_iff.mpr ⟨rest, moved, rfl⟩, ?_⟩
  simp [storedChunk_chunk sound.session fits, accepts, started, admits]

end

/-- Every sound reading serves both its sides. -/
theorem Sound.serves (sound : reading.Sound) (arithmetic : Arithmetic) :
    reading.Serves arithmetic where
  start := by
    intro now progress contentType accepts unstarted
    have fits : reading.session.fits (.start contentType) := sound.session.fits rfl
    have noted : (reading.session.noted now progress).started = false := unstarted
    have moved : reading.session.step arithmetic (.processFrame now progress (.start contentType)) =
        some { reading.session.noted now progress with started := true } := by
      simp [SessionState.step, fits, processFrame_of_accepts accepts, handleFrame, noted]
    exact ⟨_, Option.map_eq_some_iff.mpr ⟨_, moved, rfl⟩, rfl⟩
  chunk := by
    intro now progress chunkIndex data accepts started fresh free small
    exact sound.step_chunk arithmetic now accepts started (sound.admits fresh free small)
  inOrder := by
    intro index data stored filled
    exact sound.emitted_of_stored stored filled
  poll := by
    intro data next
    rw [emitted, List.getElem?_append_right (Nat.le_refl _), Nat.sub_self] at next
    cases front : reading.session.queue with
    | nil => simp [front] at next
    | cons item rest =>
      rw [front] at next
      cases next
      have popped := popFront_cons arithmetic sound.session.counted front
      have moved : reading.session.step arithmetic .pollNext =
          some { reading.session with toDataPlane := reading.session.popped data rest } := by
        simp [SessionState.step, pollNext, popped]
      refine ⟨_, Option.map_eq_some_iff.mpr ⟨_, moved, rfl⟩, ?_⟩
      simp [items, yieldedItem, pollNext, popped, itemData]

end Reading

/--
A reader delivers each chunk once and in order.

The item at each place is the one chunk that was stored under its index; the end is reported only
for a started stream that was closed, with nothing put aside and all declared chunks in order; and
an ended stream yields what is queued, then its error, and then nothing but its end. What comes in
order and within the limits is stored, and what is stored without a gap before it is yielded.
-/
theorem reader_delivers_in_order (options : OpenStreamSessionOptions) (made : Nat)
    (arithmetic : Arithmetic) (reading : Reading)
    (reached : Reaches (Reading.step arithmetic) (fun _ action => action.declaresBelowMax)
      (.new options made) reading) :
    (∀ index data, reading.items[index]? = some data →
      reading.stored.filter (fun chunk => chunk.1 = index) = [(index, data)]) ∧
    (∀ now progress frame rest after, frame.declaresBelowMax →
      reading.session.processFrame arithmetic now progress frame = some (.ok .closed, rest) →
      reading.step arithmetic (.processFrame now progress frame) = some after →
      reading.session.started = true ∧ after.closes ≠ [] ∧ after.session.buffered = ∅ ∧
        ∀ last : UInt64, after.closes.getLast? = some (some last) →
          after.emitted.length = last.toNat + 1 ∧
          ∀ index ≤ last.toNat, ∃ data, after.emitted[index]? = some data ∧
            after.stored.filter (fun chunk => chunk.1 = index) = [(index, data)]) ∧
    (reading.session.active = false → ∀ later,
      Reaches (Reading.step arithmetic) (fun _ action => action.declaresBelowMax) reading later →
      (later.session.yieldedItem arithmetic).isSome ∧
      ∃ more ends, later.yielded = reading.yielded ++ more ∧
        more <+: Reading.remaining reading.session ++ List.replicate ends none) ∧
    reading.Serves arithmetic := by
  have sound := Reading.sound_of_reaches reached
  refine ⟨?_, ?_, ?_, sound.serves arithmetic⟩
  · intro index data found
    -- What was yielded comes before what is queued.
    refine sound.delivers.single ?_
    rw [List.getElem?_append_left (List.getElem?_eq_some_iff.mp found).1]
    exact found
  · intro now progress frame rest after below closed taken
    have permitted : SessionAction.declaresBelowMax (.processFrame now progress frame) := below
    have next := sound.step permitted taken
    obtain ⟨session, moved, rfl⟩ := Option.map_eq_some_iff.mp taken
    obtain ⟨fits, moved⟩ := Option.ite_none_right_eq_some.mp moved
    rw [closed] at moved
    cases moved
    obtain ⟨middle, flushes, complete, rfl⟩ :=
      (processFrame_cases sound.session fits closed).complete
    obtain ⟨some, drained, count⟩ := next.emitted_of_complete
      (complete.of_untouched (untouched_finalize _ _))
    refine ⟨flushes.started, some, drained, ?_⟩
    intro last declared
    have length := count last declared
    refine ⟨length, ?_⟩
    intro index small
    have within := List.getElem?_eq_getElem (Nat.lt_of_lt_of_eq (Nat.lt_succ_of_le small)
      length.symm)
    exact ⟨_, within, next.delivers.single within⟩
  · intro inactive later continued
    have drains := Reading.drains_of_reaches sound.session inactive continued
    obtain ⟨more, ends, yielded, whole, -⟩ := drains.yields
    refine ⟨?_, more, ends, yielded, ⟨_, whole⟩⟩
    -- Only a stream that goes on lets its consumer wait.
    cases front : later.session.queue with
    | nil =>
      simp [yieldedItem, pollNext, popFront, front, drains.inactive]
    | cons item queue =>
      simp [yieldedItem, pollNext, popFront_cons arithmetic drains.sound.counted front]

/-- Two chunks that come in the wrong order and a close, which the consumer then reads. -/
def swappedActions : List SessionAction :=
  [.processFrame 0 1 (.start none), .processFrame 0 2 (.chunk 1 "b"),
    .processFrame 0 3 (.chunk 0 "a"), .pollNext, .processFrame 0 4 (.close (some 1)), .pollNext]

/-- Chunks that come in the wrong order are handed out in the right one. -/
theorem reader_delivers_in_order_swapped : ∃ reading : Reading,
    Reaches (Reading.step .checked) (fun _ action => action.declaresBelowMax)
      (.new sampleOptions 0) reading ∧
    (reading.stored = [(1, "b"), (0, "a")] ∧ reading.items = ["a", "b"] ∧
      reading.session.active = false) ∧
    reading.stored.filter (fun chunk => chunk.1 = 1) = [(1, "b")] ∧
    reading.Serves .checked := by
  obtain ⟨reading, reached, facts⟩ : ∃ reading : Reading,
      Reaches (Reading.step .checked) (fun _ action => action.declaresBelowMax)
        (.new sampleOptions 0) reading ∧
      reading.stored = [(1, "b"), (0, "a")] ∧ reading.items = ["a", "b"] ∧
        reading.session.active = false :=
    Reaches.of_any (fun _ _ => of_decide_eq_true) swappedActions _ (by decide +kernel)
  have delivers := reader_delivers_in_order sampleOptions 0 .checked reading reached
  refine ⟨reading, reached, facts, delivers.1 1 "b" ?_, delivers.2.2.2⟩
  rw [facts.2.1]
  rfl

end ContextVm.OpenStream
