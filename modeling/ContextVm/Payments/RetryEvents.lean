import ContextVm.Payments.UnderWay

/-! Whether a request that is sent again goes out as a new event. -/

namespace ContextVm

open Duration SendTask

variable {setting : PayingSetting} {state after : PayingClient} {move : PayingMove} {id : Json}

/-! Seconds. -/

theorem second_le_computeBackoff (doubles : DoubleArithmetic) (retryAfterSecs : UInt64)
    (retries : Nat) : Duration.fromSecs 1 ≤ computeBackoff doubles retryAfterSecs retries := by
  -- Whatever the arithmetic gives is brought into the range from one to ten seconds.
  unfold computeBackoff
  obtain ⟨value, same, atLeast, atMost⟩ := Double.max_min_finite
    (doubles.mul (doubles.mul (doubles.ofU64 retryAfterSecs) (.finite 1000))
      (doubles.powi (.finite (3 / 2)) (retriesExponent retries)))
    (show (1000 : ℚ) ≤ 10000 by norm_num)
  have bounds := Double.toU64_bounds (show ((1000 : Nat) : ℚ) ≤ value by exact_mod_cast atLeast)
    (show value ≤ ((10000 : Nat) : ℚ) by exact_mod_cast atMost) (by decide)
  simp only [same]
  exact Nat.mul_le_mul_right _ bounds.1

theorem second_ne_of_apart {earlier later : Nat} (apart : earlier + Duration.fromSecs 1 ≤ later) :
    earlier / Duration.fromSecs 1 ≠ later / Duration.fromSecs 1 := by
  have positive : 0 < fromSecs 1 := by decide
  have next : (earlier + fromSecs 1) / fromSecs 1 =
    earlier / fromSecs 1 + 1 := Nat.add_div_right earlier positive
  have order : (earlier + fromSecs 1) / fromSecs 1 ≤
    later / fromSecs 1 := Nat.div_le_div_right apart
  omega

/-! The moves that are looked at. -/

/-- Whether the next step of a send builds the event that its request goes out as. -/
def SendTask.builds (config : ClientConfig) (task : SendTask) : Bool :=
  match task.phase with
  | .composed => (task.token.filter fun _ => task.isOversized config).isNone
  | .streaming _ _ [] => true
  | _ => false

/-- The attempts that were made for a request. -/
def PayingClient.tried (id : Json) (state : PayingClient) : List Attempt :=
  state.attempts.filter fun attempt => attempt.originalId = id

/-- The clock does not go back. -/
def PayingMove.inTime (state : PayingClient) (move : PayingMove) : Prop :=
  ∀ now ∈ move.time, state.clock ≤ now

/-- A request that was paid for is not sent again in the second of an earlier attempt and with the
same tags. -/
def PayingMove.spaced (setting : PayingSetting) (id : Json) (state : PayingClient) :
    PayingMove → Prop
  | .advance index now _ => ∀ sending ∈ state.sends[index]?,
    sending.origin = .paid → sending.task.message.asks id = 1 →
    sending.task.builds setting.config = true → ∀ attempt ∈ state.tried id,
      attempt.builtAt / Duration.fromSecs 1 = now / Duration.fromSecs 1 →
      attempt.tags ≠ (sending.task.outbound setting.config).1
  | _ => True

/-- A run with a clock and with new ids, in which paid requests are sent again so. -/
def PayingMove.timely (setting : PayingSetting) (id : Json) (state : PayingClient)
    (move : PayingMove) : Prop :=
  move.fresh id state ∧ move.inTime state ∧ move.spaced setting id state

instance (state : PayingClient) (move : PayingMove) : Decidable (move.inTime state) :=
  inferInstanceAs (Decidable (∀ now ∈ move.time, state.clock ≤ now))

instance (setting : PayingSetting) (id : Json) (state : PayingClient) :
    (move : PayingMove) → Decidable (move.spaced setting id state)
  | .advance .. => inferInstanceAs (Decidable (∀ _ ∈ _, _ → _ → _ → ∀ _ ∈ _, _ → _ ≠ _))
  | .send _ | .enter _ | .report .. | .handle .. | .sweep .. | .touch .. | .proceed ..
  | .settle .. | .wake .. => inferInstanceAs (Decidable True)

instance PayingMove.decidableTimely (setting : PayingSetting) (id : Json) (state : PayingClient)
    (move : PayingMove) : Decidable (move.timely setting id state) :=
  inferInstanceAs (Decidable (_ ∧ _ ∧ _))

/-! The next attempt. -/

/-- Whether a phase comes before the event of the request is built. -/
def SendPhase.unbuilt : SendPhase → Bool
  | .composed | .resolved .. | .enlisted .. | .waiting _ | .streaming .. => true
  | _ => false

/-- When one more attempt may be made, with the ones before it. -/
def SendOrigin.Due (tried : List Attempt) (clock : Nat) : SendOrigin → Prop
  | .consumer => tried = []
  | .waited => ∀ attempt ∈ tried, attempt.builtAt + Duration.fromSecs 1 ≤ clock
  | .paid => True

/-- When a task may lead to one more attempt. -/
def Errand.Due (id : Json) (tried : List Attempt) (clock : Nat) : Errand → Prop
  | .retry _ request wakeAt =>
    request.id = id → ∀ attempt ∈ tried, attempt.builtAt + Duration.fromSecs 1 ≤ wakeAt
  | .sending origin message => message.asks id = 1 → origin.Due tried clock
  | _ => True

/-- When a send may. -/
def Sending.Due (id : Json) (tried : List Attempt) (clock : Nat) (sending : Sending) : Prop :=
  sending.task.phase.unbuilt = true → sending.task.message.asks id = 1 →
    sending.origin.Due tried clock

theorem SendOrigin.Due.mono {tried : List Attempt} {clock later : Nat} {origin : SendOrigin}
    (due : origin.Due tried clock) (order : clock ≤ later) : origin.Due tried later := by
  grind [SendOrigin, SendOrigin.Due]

theorem Errand.Due.mono {tried : List Attempt} {clock later : Nat} {errand : Errand}
    (due : errand.Due id tried clock) (order : clock ≤ later) : errand.Due id tried later := by
  grind [Errand, Errand.Due, SendOrigin.Due.mono]

theorem Sending.Due.mono {tried : List Attempt} {clock later : Nat} {sending : Sending}
    (due : sending.Due id tried clock) (order : clock ≤ later) : sending.Due id tried later :=
  fun unbuilt asks => (due unbuilt asks).mono order

theorem SendPhase.carrying_of_unbuilt {phase : SendPhase} (unbuilt : phase.unbuilt = true) :
    phase.carrying = true := by
  cases phase <;> first | rfl | cases unbuilt

theorem SendTask.Moves.unbuilt {config : ClientConfig} {task : SendTask} {met : Circumstances}
    {before next : SendPhase} {deed : Deed} (moves : task.Moves config met before next deed)
    (unbuilt : next.unbuilt = true) : before.unbuilt = true := by
  cases moves with
  | resolve | enlist | skip | knock | enter | resume | piece => rfl
  | note | publish | miss | forget | refuse | close | fail | abandon | leave | pend | latch =>
    cases unbuilt

theorem Errand.due_of_light {errand : Errand} (light : errand.carries id = 0)
    (tried : List Attempt) (clock : Nat) : errand.Due id tried clock := by
  cases errand with
  | retry originalId request wakeAt =>
    intro same
    simp [Errand.carries, JsonRpcRequest.named, if_pos same] at light
  | sending origin message =>
    intro asks
    simp [Errand.carries, asks] at light
  | chain | callback | done => trivial

theorem Sending.due_of_light {sending : Sending} (light : sending.carries id = 0)
    (tried : List Attempt) (clock : Nat) : sending.Due id tried clock := by
  intro unbuilt asks
  simp [Sending.carries, if_pos (SendPhase.carrying_of_unbuilt unbuilt), asks] at light

/-- How things stand with the attempts for a request. -/
structure PayingClient.Dated (setting : PayingSetting) (id : Json) (state : PayingClient) :
    Prop where
  past : ∀ attempt ∈ state.tried id, attempt.builtAt ≤ state.clock
  -- The event of an attempt has the second and the tags of the attempt.
  spelled : ∀ attempt ∈ state.tried id, ∃ content, attempt.eventId =
    setting.hash.idOf setting.config.publicKey (attempt.builtAt / Duration.fromSecs 1)
      ctxvmMessagesKind attempt.tags content
  distinct : ((state.tried id).map Attempt.eventId).Nodup
  errands : ∀ errand ∈ state.errands, errand.Due id (state.tried id) state.clock
  sends : ∀ sending ∈ state.sends, sending.Due id (state.tried id) state.clock

/-- A step that builds an event builds the next one, of a send that had none before. -/
theorem SendTask.built_of_advance {config : ClientConfig} {client : ClientState} {index : Nat}
    {task : SendTask} {met : Circumstances} {phase : SendPhase} {deed : Deed} {eventId : String}
    (advanced : task.advance config client index met = some (phase, deed))
    (built : phase.built = some eventId) :
    eventId = met.eventId ∧ task.builds config = true ∧ task.phase.unbuilt = true ∧
      phase.unbuilt = false := by
  unfold advance at advanced
  unfold builds
  cases here : task.phase with
  | composed =>
    simp only [here] at advanced
    split at advanced
    · split at advanced <;>
      · cases advanced
        cases built
    · rename_i single
      split at advanced
      · cases advanced
        cases built
        exact ⟨rfl, by simp only [single, Option.isNone_none], rfl, rfl⟩
      · cases advanced
        cases built
  | streaming needsAccept transfer left =>
    cases left with
    | nil =>
      simp only [here] at advanced
      split at advanced
      · cases advanced
        cases built
        exact ⟨rfl, rfl, rfl, rfl⟩
      · cases advanced
        cases built
    | cons chunk left =>
      simp only [here] at advanced
      split at advanced <;>
      · cases advanced
        cases built
  | registered eventId =>
    simp only [here] at advanced
    split at advanced <;>
    · cases advanced
      cases built
  | enlisted needsAccept transfer =>
    simp only [here] at advanced
    split at advanced
    · cases needsAccept <;>
      · cases advanced
        cases built
    · cases advanced
      cases built
  | waiting transfer =>
    simp only [here] at advanced
    split at advanced <;>
    · cases advanced
      cases built
  | unpublished eventId | resolved needsAccept transfer | failing needsAccept token
  | ended needsAccept token endId | delisted endId | latching | finished sent =>
    simp only [here] at advanced
    cases advanced <;> cases built

namespace PayingClient

/-- A move without an attempt for the request. -/
theorem Dated.of_same (dated : state.Dated setting id) (tried : after.tried id = state.tried id)
    (order : state.clock ≤ after.clock)
    (errands : ∀ errand ∈ after.errands, errand ∈ state.errands ∨
      errand.Due id (state.tried id) after.clock)
    (sends : ∀ sending ∈ after.sends, sending ∈ state.sends ∨
      sending.Due id (state.tried id) after.clock) : after.Dated setting id := by
  refine ⟨?_, ?_, ?_, ?_, ?_⟩
  · rw [tried]
    exact fun attempt member => (dated.past attempt member).trans order
  · rw [tried]
    exact dated.spelled
  · rw [tried]
    exact dated.distinct
  · rw [tried]
    intro errand member
    rcases errands errand member with old | due
    · exact (dated.errands errand old).mono order
    · exact due
  · rw [tried]
    intro sending member
    rcases sends sending member with old | due
    · exact (dated.sends sending old).mono order
    · exact due

/-- An attempt for the request. -/
theorem dated_of_built (dated : state.Dated setting id) (single : state.Single id)
    {index now : Nat} {ok : Bool} {sending : Sending} {phase : SendPhase} {deed : Deed}
    (spaced : (PayingMove.advance index now ok).spaced setting id state)
    (order : state.clock ≤ now) (found : state.sends[index]? = some sending)
    (advanced : sending.task.advance setting.config state.client index
      ⟨now, setting.eventId sending.task now, ok⟩ = some (phase, deed))
    {eventId : String} (built : phase.built = some eventId)
    (asks : sending.task.message.asks id = 1)
    (tried : after.tried id = state.tried id ++
      [⟨id, eventId, (sending.task.outbound setting.config).1, now⟩])
    (clock : after.clock = now) (errands : after.errands = state.errands)
    (sends : after.sends = state.sends.set index (sending.goTo phase)) :
    after.Dated setting id := by
  obtain ⟨rfl, builds, unbuilt, done⟩ := built_of_advance advanced built
  -- The send is all there is of the request.
  have carries : sending.carries id = 1 := by
    rw [Sending.carries, if_pos (SendPhase.carrying_of_unbuilt unbuilt), asks]
  have once := single.once
  have row := le_tableWeight (Sending.carries id) (List.mem_of_getElem? found)
  unfold underWay outgoing at once
  have due := dated.sends sending (List.mem_of_getElem? found) unbuilt asks
  refine ⟨?_, ?_, ?_, ?_, ?_⟩
  · rw [tried, clock]
    intro attempt member
    rcases List.mem_append.mp member with old | new
    · exact (dated.past attempt old).trans order
    · grind
  · rw [tried]
    intro attempt member
    rcases List.mem_append.mp member with old | new
    · exact dated.spelled attempt old
    · cases List.mem_singleton.mp new
      exact ⟨_, rfl⟩
  · -- An event id tells when and under which tags its event was built.
    have new : setting.eventId sending.task now ∉ (state.tried id).map Attempt.eventId := by
      intro member
      obtain ⟨attempt, among, same⟩ := List.mem_map.mp member
      obtain ⟨content, spelled⟩ := dated.spelled attempt among
      rw [spelled] at same
      obtain ⟨-, seconds, -, tags, -⟩ := setting.hash.injective same
      cases origin : sending.origin with
      | consumer =>
        rw [origin] at due
        simp [show state.tried id = [] from due] at among
      | paid => exact spaced sending found origin asks builds attempt among seconds tags
      | waited =>
        rw [origin] at due
        exact absurd seconds (second_ne_of_apart ((due attempt among).trans order))
    rw [tried, List.map_append, List.nodup_append]
    refine ⟨dated.distinct, List.nodup_singleton _, ?_⟩
    intro one earlier other last same
    cases List.mem_singleton.mp last
    rw [same] at earlier
    exact new earlier
  · grind [le_tableWeight, Errand.carries, Errand.due_of_light]
  · rw [sends]
    intro other member
    obtain ⟨place, read⟩ := List.mem_iff_getElem?.mp member
    rcases getElem?_set_cases found read with ⟨-, rfl⟩ | ⟨apart, elsewhere⟩
    · -- Its event is built.
      intro again
      simp [show (sending.goTo phase).task.phase = phase from rfl, done] at again
    · exact Sending.due_of_light (weight_eq_zero_of_others found (by omega) apart elsewhere) _ _

theorem tried_of_unsent (owned : state.Owned) (unsent : state.Unsent id) : state.tried id = [] := by
  rw [tried, List.filter_eq_nil_iff]
  intro attempt member same
  obtain ⟨request, known, own⟩ := owned.attempts attempt member
  exact unsent request known (own.trans (of_decide_eq_true same))

/-- Every move keeps it so. -/
theorem dated_does (owned : state.Owned) (single : state.Single id)
    (dated : state.Dated setting id) (fresh : move.fresh id state) (inTime : move.inTime state)
    (spaced : move.spaced setting id state) (does : state.Does setting move after) :
    Dated setting id { after with clock := move.time.getD state.clock } := by
  have order : state.clock ≤ move.time.getD state.clock := by
    cases time : move.time with
    | none => exact Nat.le_refl _
    | some now => exact inTime now (by rw [time]; rfl)
  -- Most moves change one task at most, into one that is due as well.
  have rewritten {index : Nat} (next : Errand)
      (due : next.Due id (state.tried id) (move.time.getD state.clock)) :
      ∀ errand ∈ state.errands.set index next, errand ∈ state.errands ∨
        errand.Due id (state.tried id) (move.time.getD state.clock) := by grind
  have same : ∀ sending ∈ state.sends, sending ∈ state.sends ∨
      sending.Due id (state.tried id) (move.time.getD state.clock) := fun _ member => .inl member
  cases does with
  | send message =>
    refine dated.of_same rfl order ?_ same
    intro errand member
    rcases List.mem_append.mp member with old | new
    · exact .inl old
    · cases List.mem_singleton.mp new
      right
      intro asks
      exact tried_of_unsent owned (unsent_of_fresh fresh (by rw [PayingMove.opens, asks]; simp))
  | emulate found => exact dated.of_same rfl order (rewritten .done trivial) same
  | enter found =>
    refine dated.of_same rfl order (rewritten .done trivial) ?_
    intro sending member
    rcases List.mem_append.mp member with old | new
    · exact .inl old
    · cases List.mem_singleton.mp new
      right
      intro _ asks
      exact (dated.errands _ (List.mem_of_getElem? found) asks).mono order
  | advance found advanced =>
    rename_i index now ok sending phase deed
    cases attempted : (sending.task.attempt setting.config now phase).filter
        (fun attempt => attempt.originalId = id) with
    | some attempt =>
      obtain ⟨made, own⟩ := Option.filter_eq_some_iff.mp attempted
      obtain ⟨request, carried, eventId, built, rfl⟩ := attempt_eq_some.mp made
      have asks : sending.task.message.asks id = 1 := by
        rw [carried]
        exact if_pos (of_decide_eq_true own)
      refine dated_of_built dated single spaced order found advanced built asks ?_ rfl rfl rfl
      rw [tried, List.filter_append, tried, ← Option.toList_filter, attempted,
        show request.id = id from of_decide_eq_true own]
      rfl
    | none =>
      refine dated.of_same ?_ order (fun _ member => .inl member) ?_
      · rw [tried, List.filter_append, tried, ← Option.toList_filter, attempted,
          Option.toList_none, List.append_nil]
      · intro other member
        rcases List.mem_or_eq_of_mem_set member with old | rfl
        · exact .inl old
        · right
          intro unbuilt asks
          have before := (moves_of_advance advanced).unbuilt unbuilt
          exact (dated.sends sending (List.mem_of_getElem? found) before asks).mono order
  | report found waited failed carried unnoted own =>
    refine dated.of_same rfl order (fun _ member => .inl member) ?_
    intro sending member
    rcases List.mem_or_eq_of_mem_set member with old | rfl
    · exact .inl old
    · exact .inr ((dated.sends _ (List.mem_of_getElem? found)).mono order)
  | handle now event =>
    refine dated.of_same rfl order ?_ same
    intro errand member
    rcases (handling_handle setting now state event).spawned member with old | ⟨task, rfl⟩ |
      ⟨originalId, cached, kept, ⟨data, rfl⟩ | ⟨seconds, retries, rfl⟩⟩
    · exact .inl old
    · exact .inr trivial
    · exact .inr trivial
    · right
      intro own attempt among
      have past := dated.past attempt among
      have backoff := second_le_computeBackoff setting.doubles seconds retries
      exact Nat.add_le_add (past.trans order) backoff
  | sweep client fewer | touch client fewer =>
    exact dated.of_same rfl order (fun _ member => .inl member) same
  | proceed phase engine found cache | decline phase engine found cache declines offered own =>
    exact dated.of_same rfl order (rewritten (.chain _) trivial) same
  | settle found =>
    rename_i errand outcome originalId request data
    cases outcome with
    | paid =>
      exact dated.of_same rfl order (rewritten (.sending .paid (.request request))
        fun _ => trivial) same
    | declined reason | failed reason | panicked =>
      exact dated.of_same rfl order (rewritten .done trivial) same
  | wake found late =>
    rename_i errand now wakeAt originalId request
    refine dated.of_same rfl order (rewritten (.sending .waited (.request request)) ?_) same
    intro asks attempt among
    have own : request.id = id := by
      by_contra other
      exact absurd (asks.symm.trans (if_neg other)) Nat.one_ne_zero
    exact (dated.errands _ (List.mem_of_getElem? found) own attempt among).trans late

theorem dated_of_reaches {maxPending : Nat} {pmis : List String}
    {requested : Option PaymentInteractionMode}
    (reached : Reaches (step setting) (PayingMove.timely setting id)
      (start setting maxPending pmis requested) state) : state.Dated setting id := by
  refine reached.invariant ⟨?_, ?_, List.nodup_nil, ?_, ?_⟩ ?_
  · intro attempt member
    cases member
  · intro attempt member
    cases member
  · intro errand member
    cases member
  · intro sending member
    cases member
  · intro before move after earlier dated timely taken
    have owned := owned_of_reaches (owned_start maxPending pmis requested) earlier
    have single : before.Single id := single_of_reaches (fun _ _ allowed => allowed.1) earlier
    obtain ⟨middle, does, rfl⟩ := does_of_step taken
    exact dated_does owned single dated timely.1 timely.2.1 timely.2.2 does

end PayingClient

/-- The attempts for a request are different events, if the paid ones are spaced out. -/
theorem attempts_are_new_events (setting : PayingSetting) (maxPending : Nat) (pmis : List String)
    (requested : Option PaymentInteractionMode) (id : Json) (state : PayingClient)
    (reached : Reaches (PayingClient.step setting) (PayingMove.timely setting id)
      (.start setting maxPending pmis requested) state) :
    ((state.attempts.filter fun attempt => attempt.originalId = id).map Attempt.eventId).Nodup :=
  (PayingClient.dated_of_reaches reached).distinct

/-- A request that is put off and then paid for goes out as three events. -/
theorem attempts_are_new_events_put_off :
    ∃ state, Reaches (PayingClient.step payingSetting) (PayingMove.timely payingSetting (.ofU64 2))
        (.start payingSetting 10 [] none) state ∧
      (state.attempts.map Attempt.eventId = [payingEventId 0, payingEventId 1, payingEventId 2]) ∧
      ((state.attempts.filter fun attempt => attempt.originalId = .ofU64 2).map
        Attempt.eventId).Nodup := by
  refine Reaches.exists_of_any (fun _ _ passed => of_decide_eq_true passed)
    ([.send (.request payingRequest)] ++ goesOut 0 0 0 ++
      [.handle 0 (serverAnswer 0 pendingText), .wake 1 (fromSecs 1)] ++
      goesOut 1 1 (fromSecs 1) ++
      [.handle (fromSecs 1) (serverAnswer 1 requiredText), .settle 2 .paid] ++
      goesOut 2 2 (fromSecs 2))
    (·.attempts.map Attempt.eventId = [payingEventId 0, payingEventId 1, payingEventId 2])
    (by decide +kernel) ?_
  intro state reached events
  exact ⟨events, attempts_are_new_events payingSetting 10 [] none (.ofU64 2) state reached⟩

/-- A request that is paid for at once goes out as the same event again. -/
theorem paid_request_repeats_event :
    ∃ state, Reaches (PayingClient.step payingSetting)
        (fun before move => move.fresh (.ofU64 2) before ∧ move.inTime before)
        (.start payingSetting 10 [] none) state ∧
      state.sent = [payingRequest] ∧ state.resent = [(.paid, payingRequest)] ∧
      state.attempts.map Attempt.eventId = [payingEventId 0, payingEventId 0] := by
  exact Reaches.of_any (fun _ _ passed => of_decide_eq_true passed)
    ([.send (.request payingRequest)] ++ goesOut 0 0 0 ++
      [.handle 0 (serverAnswer 0 requiredText), .settle 1 .paid] ++ goesOut 1 1 0) _
    (by decide +kernel)

end ContextVm
