import ContextVm.Transport.Bookkeeping

/-! A server that has dealt with all of its requests keeps nothing of them, if it tidies up. -/

namespace ContextVm

open Correlation Correlation.Grounded Desk LifeSetting Lru RequestLog RouteStore
  ServerOpenStreamState ServerOpenStreamState.NoNew ServerState

namespace Desk

variable {setting : LifeSetting} {desk : Desk}
variable {eventId : String} {now : Nat} {item : String × RouteEntry} {event : ReceivedEvent}
  {published : Bool}

/-! What the parts of a step keep. -/

theorem sessionKeeps_eq_false :
    desk.sessionKeeps setting eventId = false ↔
      ∀ client session, setting.authorOf eventId = some client →
        desk.serving.server.sessions.sessions.peek client = some session →
        session.keeps eventId (setting.tokenOf eventId) = false := by
  simp only [sessionKeeps, SessionStore.keeps, Option.any_eq_false]
  exact ⟨fun unkept client session own found => unkept client own session found,
    fun unkept client own session found => unkept client session own found⟩

theorem slotStays_of_absent (absent : desk.openStream.slots.lookup eventId = none) :
    desk.slotStays eventId = false := by
  rw [slotStays, absent]
  rfl

theorem Covered.isAnswering_of_route (covered : desk.Covered setting) {route : RouteEntry}
    (found : desk.serving.server.held.eventRoutes.getRoute eventId = some route) :
    desk.isAnswering eventId = false := by
  rw [isAnswering, List.any_eq_false]
  intro item member same
  have unrouted := (covered.answering item member).2.1
  simp [of_decide_eq_true same, found] at unrouted

theorem Covered.isAnswering_of_slot (covered : desk.Covered setting) {slot : OpenStreamSlot}
    (found : desk.openStream.slots.lookup eventId = some slot) :
    desk.isAnswering eventId = false := by
  rw [isAnswering, List.any_eq_false]
  intro item member same
  have slotless := (covered.answering item member).2.2.1
  rw [of_decide_eq_true same, found] at slotless
  cases slotless

theorem ne_of_isAnswering (idle : desk.isAnswering eventId = false)
    (member : item ∈ desk.serving.answering) : item.1 ≠ eventId := by
  intro same
  rw [isAnswering, List.any_eq_false] at idle
  exact idle item member (decide_eq_true same)

section

variable (covered : desk.Covered setting)
include covered

theorem Covered.withStreams {streams : ServerOpenStreamState}
    (slots : streams.Covered desk.log) (noNew : desk.openStream.NoNew streams) :
    Covered setting { desk with openStream := streams } where
  sessions := covered.sessions
  held := covered.held.relog (List.Subset.refl _) covered.held.unswept
    fun eventId live bare => .inl ⟨live, noNew eventId bare⟩
  streams := slots
  answering item member := by
    obtain ⟨live, unrouted, slotless, own⟩ := covered.answering item member
    exact ⟨live, unrouted, noNew item.1 slotless, own⟩
  distinct := covered.distinct
  clock := covered.clock

theorem Covered.withRuns (runs : List (String × RunStage))
    (deciding : List (String × Option PaymentRouteSnapshot)) :
    Covered setting { desk with runs, deciding } :=
  ⟨covered.sessions, covered.held, covered.streams, covered.answering, covered.distinct,
    covered.clock⟩

theorem Covered.withServing (serving : Serving)
    (sessions : serving.server.sessions.All (ClientSession.Covered setting desk.log))
    (held : serving.server.held.Covered setting desk.log
      fun eventId => desk.openStream.slots.lookup eventId = none)
    (answering : serving.answering.Sublist desk.serving.answering)
    (unrouted : ∀ item ∈ serving.answering,
      desk.serving.server.held.eventRoutes.getRoute item.1 = none →
      serving.server.held.eventRoutes.getRoute item.1 = none) :
    Covered setting { desk with serving } where
  sessions := sessions
  held := held
  streams := covered.streams
  answering item member := by
    obtain ⟨live, without, slotless, own⟩ := covered.answering item (answering.subset member)
    exact ⟨live, unrouted item member without, slotless, own⟩
  distinct := covered.distinct.sublist (answering.map Prod.fst)
  clock := covered.clock

theorem Covered.hold {held : Correlation}
    (fewer : held.Covered setting desk.log
      fun eventId => desk.openStream.slots.lookup eventId = none)
    (routes : ∀ eventId, desk.serving.server.held.eventRoutes.getRoute eventId = none →
      held.eventRoutes.getRoute eventId = none) : (desk.hold held).Covered setting :=
  covered.withServing (desk.serving.update desk.serving.server.sessions held) covered.sessions fewer
    (List.Sublist.refl _) fun item _ without => routes item.1 without

theorem Covered.advance (late : desk.log.clock ≤ now) :
    Covered setting { desk with log := desk.log.advance now } where
  sessions client session found := (covered.sessions client session found).mono fun _ live => live
  held := covered.held.relog (List.Subset.refl _) covered.held.unswept
    fun _ live bare => .inl ⟨live, bare⟩
  streams := covered.streams.relog fun _ _ _ _ live => live
  answering := covered.answering
  distinct := covered.distinct
  clock time member := (covered.clock time member).trans late

/-- Requests may end that nothing else is kept for. -/
theorem Covered.finish {eventIds : List String}
    (unkept : ∀ eventId ∈ eventIds, desk.sessionKeeps setting eventId = false)
    (slotless : ∀ eventId ∈ eventIds, desk.slotStays eventId = false)
    (grounded : ∀ eventId ∈ eventIds, desk.serving.server.held.Grounded desk.log eventId)
    (idle : ∀ eventId ∈ eventIds, desk.isAnswering eventId = false) :
    Covered setting { desk with log := desk.log.finish eventIds } where
  sessions client session found :=
    (covered.sessions client session found).finish
      fun eventId member own =>
        sessionKeeps_eq_false.mp (unkept eventId member) client session own found
  held := by
    refine covered.held.relog (List.Subset.refl _) covered.held.unswept ?_
    intro eventId live bare
    by_cases member : eventId ∈ eventIds
    · exact .inr ⟨(grounded eventId member).dated, (grounded eventId member).kinds⟩
    · exact .inl ⟨open_finish.mpr ⟨live, member⟩, bare⟩
  streams := by
    apply covered.streams.relog
    intro eventId slot found without live
    refine open_finish.mpr ⟨live, fun member => ?_⟩
    have stays := slotless eventId member
    simp [slotStays, found, without] at stays
  answering item member := by
    obtain ⟨live, rest⟩ := covered.answering item member
    refine ⟨open_finish.mpr ⟨live, fun ended => ?_⟩, rest⟩
    exact ne_of_isAnswering (idle item.1 ended) member rfl
  distinct := covered.distinct
  clock := covered.clock

theorem Covered.finish_one
    (unkept : desk.sessionKeeps setting eventId = false) (slotless : desk.slotStays eventId = false)
    (grounded : desk.serving.server.held.Grounded desk.log eventId)
    (idle : desk.isAnswering eventId = false) :
    Covered setting { desk with log := desk.log.finish [eventId] } :=
  covered.finish (by simpa using unkept) (by simpa using slotless) (by simpa using grounded)
    (by simpa using idle)

end

/-! One step. -/

/-- An event that is not tracked keeps everything covered. -/
theorem Covered.receive_untracked (covered : desk.Covered setting) (late : desk.log.clock ≤ now)
    (committed : setting.commits event.eventId = some (event.senderPubkey, event.message))
    (untracked : desk.serving.server.tracks setting.config now event = false) (looping : Bool) :
    (desk.received setting now event
      { desk.serving with
        server := (desk.serving.server.receive setting.config now event).1
        looping }).Covered setting := by
  have same := (trackedAs_receive setting.config now desk.serving.server event).2 untracked
  have later := covered.advance late
  -- No request is let in, and so there is no new slot.
  have plain (item : InboundContext × JsonRpcMessage)
      (member : item ∈ ((desk.serving.server.receive setting.config now event).2.getD []).filterMap
        LoopEffect.dispatch) : item.2.isRequest = false := by
    cases request : item.2.isRequest with
    | false => rfl
    | true =>
      simp [(mem_dispatched member).2 request] at untracked
  unfold received
  simp only [untracked, Bool.false_eq_true, if_false]
  have served := later.withServing
    { desk.serving with
      server := (desk.serving.server.receive setting.config now event).1, looping }
    (covered_receive later.sessions committed fun tracked => by simp [untracked] at tracked)
    (same ▸ later.held) (List.Sublist.refl _) (fun item _ unrouted => by rw [same]; exact unrouted)
  refine (served.withStreams ?_ ?_).withRuns _ _
  · exact covered_foldl served.streams fun item member request => by
      simp [plain item member] at request
  · exact noNew_foldl plain

theorem mem_evicted {evicted : String} (member : evicted ∈ desk.evicted eventId) :
    desk.serving.server.held.eventRoutes.routes.victim eventId = some evicted ∧ evicted ≠ eventId ∧
      ∃ route, desk.serving.server.held.eventRoutes.getRoute evicted = some route := by
  have victim := Option.mem_toList.mp member
  obtain ⟨held, different⟩ := victim_held victim
  exact ⟨victim, different, Option.ne_none_iff_exists'.mp held⟩

theorem lookup_of_spent {evicted : String}
    (spent : ∀ other ∈ desk.evicted eventId, desk.spent setting other = true)
    (victim : desk.serving.server.held.eventRoutes.routes.victim eventId = some evicted) :
    desk.serving.server.held.requestWrapKinds.lookup evicted = none := by
  have unkinded := (of_decide_eq_true (spent evicted (Option.mem_toList.mpr victim))).2.2
  simpa [hasKind] using unkinded

theorem lookup_received (setting : LifeSetting) (desk : Desk) (now : Nat) (event : ReceivedEvent)
    (serving : Serving) (other : eventId ≠ event.eventId) :
    (desk.received setting now event serving).openStream.slots.lookup eventId =
      desk.openStream.slots.lookup eventId := by
  apply lookup_foldl
  intro item member
  rw [(mem_dispatched member).1]
  exact other

section

variable (covered : desk.Covered setting) (late : desk.log.clock ≤ now)
  (committed : setting.commits event.eventId = some (event.senderPubkey, event.message))
include covered late committed

/-- An event that is tracked keeps everything covered, if what it evicts is spent. -/
theorem Covered.receive_tracked
    (tracked : desk.serving.server.tracks setting.config now event = true)
    (idle : desk.isAnswering event.eventId = false)
    (spent : ∀ eventId ∈ desk.evicted event.eventId, desk.spent setting eventId = true)
    (looping : Bool) :
    (desk.received setting now event
      { desk.serving with
        server := (desk.serving.server.receive setting.config now event).1
        looping }).Covered setting := by
  have later := covered.advance late
  have tracks := (trackedAs_receive setting.config now desk.serving.server event).1 tracked
  have different (evicted : String) (member : evicted ∈ desk.evicted event.eventId) :
      evicted ≠ event.eventId := (mem_evicted member).2.1
  -- The evicted requests end before the event is received.
  have stays (eventId : String) (live : desk.log.Open eventId)
      (kept : eventId ∉ desk.evicted event.eventId) :
      (((desk.log.advance now).finish (desk.evicted event.eventId)).arrive now
        event.eventId).Open eventId :=
    open_arrive.mpr (.inr (open_finish.mpr ⟨live, kept⟩))
  have opened : (((desk.log.advance now).finish (desk.evicted event.eventId)).arrive now
      event.eventId).Open event.eventId := open_arrive.mpr (.inl rfl)
  -- This is the log, since the event is tracked.
  have logged (serving : Serving) : (desk.received setting now event serving).log =
      ((desk.log.advance now).finish (desk.evicted event.eventId)).arrive now event.eventId :=
    if_pos tracked
  refine ⟨?_, ?_, ?_, ?_, covered.distinct, ?_⟩
  all_goals rw [logged]
  · -- What the sessions keep is for requests that stay open, and for this one.
    apply covered_receive _ committed fun _ => opened
    intro client session found
    have finished := (later.sessions client session found).finish
      fun eventId member own => sessionKeeps_eq_false.mp
        (of_decide_eq_true (spent eventId member)).1 client session own found
    exact finished.mono fun _ live => open_arrive.mpr (.inr live)
  · -- The route of this request is dated, whether or not it gets a slot.
    have routed := later.held.track tracks committed (fun _ => lookup_of_spent spent) later.clock
      fun _ other without =>
        (lookup_received setting desk now event desk.serving other).trans without
    refine routed.relog (List.Subset.refl _) routed.unswept ?_
    intro eventId live without
    by_cases member : eventId ∈ desk.evicted event.eventId
    · -- Nothing is held for it any more.
      right
      obtain ⟨kind, original, same⟩ := tracks
      rw [same]
      apply of_absent
      · rw [getRoute_register, if_neg (different eventId member), if_pos (mem_evicted member).1]
      · rw [AList.lookup_insert_ne (different eventId member)]
        exact lookup_of_spent spent (mem_evicted member).1
    · refine .inl ⟨?_, without⟩
      rcases open_arrive.mp live with own | old
      · exact own ▸ opened
      · exact stays eventId old member
  · -- A slot of an evicted request has its response, and a new one is for this request.
    apply covered_foldl
    · apply covered.streams.relog
      intro eventId slot found without live
      apply stays eventId live
      intro member
      have slotless := (of_decide_eq_true (spent eventId member)).2.1
      simp [slotStays, found, without] at slotless
    · intro item member _
      rw [(mem_dispatched member).1]
      exact opened
  · -- Nobody who is being answered is evicted, or comes in again.
    intro item member
    have other := ne_of_isAnswering idle member
    obtain ⟨live, unrouted, slotless, own⟩ := covered.answering item member
    have kept : item.1 ∉ desk.evicted event.eventId := by
      intro evicted
      obtain ⟨route, found⟩ := (mem_evicted evicted).2.2
      simp [unrouted] at found
    refine ⟨stays item.1 live kept, ?_,
      (lookup_received setting desk now event desk.serving other).trans slotless, own⟩
    obtain ⟨kind, original, same⟩ := tracks
    show (desk.serving.server.receive setting.config now event).1.held.eventRoutes.getRoute item.1 =
      none
    rw [same, getRoute_register, if_neg other, if_neg]
    · exact unrouted
    · exact fun victim => kept (Option.mem_toList.mpr victim)
  · exact later.clock

theorem Covered.receive (tidy : desk.tidies setting (.receive now event) = true) (looping : Bool) :
    (desk.received setting now event
      { desk.serving with
        server := (desk.serving.server.receive setting.config now event).1
        looping }).Covered setting := by
  cases tracked : desk.serving.server.tracks setting.config now event with
  | false => exact covered.receive_untracked late committed tracked looping
  | true =>
    obtain ⟨idle, spent⟩ := of_decide_eq_true tidy tracked
    exact covered.receive_tracked late committed tracked idle spent looping

end

theorem Covered.withSnapshots (covered : desk.Covered setting)
    (snapshots : Lru String PaymentRouteSnapshot) :
    (desk.hold { desk.serving.server.held with
      paymentRouteSnapshots := snapshots }).Covered setting := by
  have held := covered.held
  exact covered.hold ⟨held.own, held.dated, held.unswept, held.indexes, held.kinds⟩
    fun _ unrouted => unrouted

theorem Covered.defer (covered : desk.Covered setting) (eventId : String)
    (response : JsonRpcMessage) :
    Covered setting { desk with openStream := (desk.defer setting eventId response).2 } := by
  apply covered.withStreams
  · unfold Desk.defer
    split
    · exact covered.streams.tryDefer eventId response
    · exact covered.streams
  · unfold Desk.defer
    split
    · exact (modified_tryDefer _ eventId response).noNew
    · exact fun _ absent => absent

section

variable (covered : desk.Covered setting)
include covered

/-- A response keeps everything covered, if the session keeps nothing for one that goes out. -/
theorem Covered.respond {response : JsonRpcMessage}
    (tidy : desk.tidies setting (.respond eventId response published) = true) :
    (desk.respond setting eventId response published).Covered setting := by
  have taken := (covered.defer eventId response).withSnapshots
    (desk.serving.server.held.paymentRouteSnapshots.pop eventId)
  simp only [tidies] at tidy
  unfold Desk.respond
  cases decided : desk.defer setting eventId response with
  | mk deferral streams =>
    rw [decided] at taken tidy
    cases deferral with
    | deferred => exact taken
    | passthrough => exact taken.withRuns _ _
    | sendNow snapshot =>
      simp only
      split
      · rename_i sent
        unfold Desk.defer at decided
        split at decided
        case isFalse => cases decided
        have released := lookup_tryDefer decided (by simp)
        unfold tryDeferOpenStreamResponse at decided
        split at decided
        · cases decided
        rename_i slot found
        -- While there was a slot, the route and the wrap kind needed no open request.
        have grounded := covered.held.grounded fun bare => by rw [found] at bare; cases bare
        exact taken.finish_one (of_decide_eq_true tidy sent) (slotStays_of_absent released)
          ⟨grounded.dated, grounded.kinds⟩ (covered.isAnswering_of_slot found)
      · exact taken

/-- A response takes the route of its request, if there is one. -/
theorem Covered.popRoute (eventId : String)
    (live : (desk.serving.server.held.eventRoutes.getRoute eventId).isSome = true →
      desk.log.Open eventId ∧ desk.openStream.slots.lookup eventId = none) :
    (desk.hold { desk.serving.server.held with
      eventRoutes := (desk.serving.server.held.eventRoutes.pop eventId).2 }).Covered setting := by
  apply covered.hold
  · apply covered.held.thin
    · intro other route found
      rw [getRoute_pop] at found
      split at found
      · cases found
      · exact found
    · exact covered.held.indexes.pop eventId
    · intro other kind read
      refine ⟨read, fun routed => ?_⟩
      rw [getRoute_pop]
      by_cases same : other = eventId
      · subst same
        exact .inr (live routed)
      · exact .inl (by rwa [if_neg same])
  · intro other unrouted
    rw [getRoute_pop]
    split
    · rfl
    · exact unrouted

theorem Covered.correlate_route {item : String × Option PaymentRouteSnapshot} {entry : RouteEntry}
    (found : desk.serving.server.held.eventRoutes.getRoute item.1 = some entry)
    (live : desk.log.Open item.1) (slotless : desk.openStream.slots.lookup item.1 = none)
    (published : Bool) : (desk.correlate item published).Covered setting := by
  have popped := covered.popRoute item.1 fun _ => ⟨live, slotless⟩
  unfold correlate
  simp only [pop_fst, found]
  refine ⟨popped.sessions, popped.held, popped.streams, ?_, ?_, popped.clock⟩
  · intro other member
    rcases List.mem_cons.mp member with new | old
    · rw [new]
      refine ⟨live, ?_, slotless, covered.held.own item.1 entry found⟩
      exact (getRoute_pop _ item.1 item.1).trans (if_pos rfl)
    · exact popped.answering other old
  · -- The request had a route until now, so it is not among those being answered.
    refine List.nodup_cons.mpr ⟨fun member => ?_, covered.distinct⟩
    obtain ⟨other, old, same⟩ := List.mem_map.mp member
    exact ne_of_isAnswering (covered.isAnswering_of_route found) old same

/-- Without a route, a response goes out by the snapshot of a payment, or finds nobody. -/
theorem Covered.correlate_unrouted {item : String × Option PaymentRouteSnapshot}
    (unrouted : desk.serving.server.held.eventRoutes.getRoute item.1 = none)
    (spent : item.2.isSome = true → published = true →
      desk.spent setting item.1 = true ∧ desk.isAnswering item.1 = false) :
    (desk.correlate item published).Covered setting := by
  have popped := (covered.popRoute item.1 fun routed => by
    rw [unrouted] at routed
    cases routed).withRuns desk.runs (desk.deciding.erase item)
  obtain ⟨eventId, snapshot⟩ := item
  unfold correlate
  cases snapshot with
  | none =>
    simp only [pop_fst, unrouted]
    exact popped
  | some entry =>
    simp only [pop_fst, unrouted]
    split
    · rename_i sent
      obtain ⟨nothing, idle⟩ := spent rfl sent
      obtain ⟨unkept, slotless, unkinded⟩ := of_decide_eq_true nothing
      refine popped.finish_one unkept slotless ?_ idle
      apply of_absent
      · exact (getRoute_pop _ eventId eventId).trans (if_pos rfl)
      · show desk.serving.server.held.requestWrapKinds.lookup eventId = none
        simpa [hasKind] using unkinded
    · exact popped.withSnapshots _

theorem Covered.correlate {item : String × Option PaymentRouteSnapshot}
    (tidy : desk.tidies setting (.correlate item published) = true) :
    (desk.correlate item published).Covered setting := by
  obtain ⟨routed, spent⟩ := of_decide_eq_true tidy
  cases found : desk.serving.server.held.eventRoutes.getRoute item.1 with
  | some entry =>
    obtain ⟨unended, slotless⟩ := routed (by rw [hasRoute, found]; rfl)
    have live : desk.log.Open item.1 := by
      rcases covered.held.dated item.1 entry found with ⟨arrival, -, member⟩ | live
      · exact ⟨List.mem_map_of_mem member, unended⟩
      · exact live.1
    exact covered.correlate_route found live slotless published
  | none => exact covered.correlate_unrouted found (spent (by rw [hasRoute, found]; rfl))

theorem Covered.ne_of_mem_erase {other : String × RouteEntry}
    (member : item ∈ desk.serving.answering) (left : other ∈ desk.serving.answering.erase item) :
    other.1 ≠ item.1 := by
  intro same
  rw [List.inj_on_of_nodup_map covered.distinct (List.mem_of_mem_erase left) member same] at left
  exact (covered.distinct.of_map Prod.fst).not_mem_erase left

/-- A published response leaves everything covered. -/
theorem Covered.settle (member : item ∈ desk.serving.answering) :
    Covered setting { desk with
      serving := { desk.serving.update
        ((desk.serving.server.sessions.getMut item.2.clientPubkey
          (ClientSession.settled item.1 item.2.progressToken)).getD desk.serving.server.sessions)
        (desk.serving.server.held.forgetKinds [item.1]) with
        answering := desk.serving.answering.erase item }
      log := desk.log.finish [item.1] } := by
  obtain ⟨live, unrouted, slotless, own⟩ := covered.answering item member
  have settled := covered.withServing
    { desk.serving.update
      ((desk.serving.server.sessions.getMut item.2.clientPubkey
        (ClientSession.settled item.1 item.2.progressToken)).getD desk.serving.server.sessions)
      (desk.serving.server.held.forgetKinds [item.1]) with
      answering := desk.serving.answering.erase item }
    (covered.sessions.getMut fun session kept => kept.settled item.1 item.2.progressToken)
    (by
      refine covered.held.thin (fun _ _ found => found) covered.held.indexes ?_
      intro eventId kind read
      change (desk.serving.server.held.forgetKinds [item.1]).requestWrapKinds.lookup eventId =
        some kind at read
      rw [lookup_forgetKinds] at read
      split at read
      · cases read
      · exact ⟨read, .inl⟩)
    (List.erase_sublist) (fun _ _ without => without)
  refine settled.finish_one ?_ ?_ ?_ ?_
  · -- The session of its client has just been told that the request is settled.
    refine sessionKeeps_eq_false.mpr fun client session author read => ?_
    rw [own.author, Option.some.injEq] at author
    subst author
    change ((desk.serving.server.sessions.getMut _ _).getD _).sessions.peek _ = some session at read
    rw [SessionStore.peek_getMut, if_pos rfl] at read
    obtain ⟨earlier, -, rfl⟩ := Option.map_eq_some_iff.mp read
    rw [← own.token]
    exact earlier.keeps_settled item.1 item.2.progressToken
  · exact slotStays_of_absent slotless
  · apply of_absent
    · exact unrouted
    · exact (lookup_forgetKinds _ _ _).trans (if_pos List.mem_cons_self)
  · rw [isAnswering, List.any_eq_false]
    intro answered left same
    exact covered.ne_of_mem_erase member left (of_decide_eq_true same)

/-- A route that is put back leaves everything covered, if what it evicts is spent. -/
theorem Covered.restore (late : desk.log.clock ≤ now) (member : item ∈ desk.serving.answering)
    (tidy : desk.tidies setting (.restore now item) = true) :
    Covered setting { desk with
      serving := { desk.serving.update desk.serving.server.sessions
        { desk.serving.server.held with
          eventRoutes := desk.serving.server.held.eventRoutes.register now item.1
            item.2.clientPubkey item.2.originalRequestId item.2.progressToken } with
        answering := desk.serving.answering.erase item }
      log := (desk.log.advance now).finish (desk.evicted item.1) } := by
  have spent := of_decide_eq_true tidy
  obtain ⟨live, unrouted, slotless, own⟩ := covered.answering item member
  have registered := covered.held.register own.author (fun _ => lookup_of_spent spent)
    (.inr ⟨live, slotless⟩) (fun time swept => (covered.clock time swept).trans late)
    item.2.originalRequestId
  rw [← own.token] at registered
  have restored := (covered.withServing
    { desk.serving.update desk.serving.server.sessions
      { desk.serving.server.held with
        eventRoutes := desk.serving.server.held.eventRoutes.register now item.1
          item.2.clientPubkey item.2.originalRequestId item.2.progressToken } with
      answering := desk.serving.answering.erase item }
    covered.sessions registered List.erase_sublist (by
      intro other left without
      show (register _ _ _ _ _ _).getRoute other.1 = none
      rw [getRoute_register, if_neg (covered.ne_of_mem_erase member left)]
      split
      · rfl
      · exact without)).advance late
  refine restored.finish ?_ ?_ ?_ ?_
  all_goals
    intro evicted lost
    obtain ⟨victim, different, route, found⟩ := mem_evicted lost
    obtain ⟨unkept, stays, -⟩ := of_decide_eq_true (spent evicted lost)
  · exact unkept
  · exact stays
  · apply of_absent
    · show (register _ _ _ _ _ _).getRoute evicted = none
      rw [getRoute_register, if_neg different, if_pos victim]
    · have forgotten := lookup_of_spent spent victim
      exact forgotten
  · rw [isAnswering, List.any_eq_false]
    intro answered left same
    exact ne_of_isAnswering (covered.isAnswering_of_route found) (List.mem_of_mem_erase left)
      (of_decide_eq_true same)

end

theorem grounded_held (grounded : desk.grounded eventId = true) :
    desk.serving.server.held.Grounded desk.log eventId := by
  obtain ⟨kinded, dated⟩ := of_decide_eq_true grounded
  refine ⟨?_, ?_⟩
  · intro route found
    rw [found, Option.all_some, List.any_eq_true] at dated
    obtain ⟨⟨arrived, arrival⟩, member, matching⟩ := dated
    obtain ⟨same, early⟩ := of_decide_eq_true matching
    subst same
    exact ⟨arrival, early, member⟩
  · intro kind read
    exact kinded (by rw [hasKind, read]; rfl)

section

variable (covered : desk.Covered setting)
include covered

theorem Covered.leave {run : String × RunStage} (tidy : desk.tidies setting (.leave run) = true) :
    Covered setting { desk with
      openStream := desk.openStream.leaveChain run.1
      runs := desk.runs.erase run
      log := if run.2 = .dropped then desk.log.finish [run.1] else desk.log } := by
  have left := (covered.withStreams (covered.streams.leaveChain run.1)
    (modified_leaveChain _ run.1).noNew).withRuns (desk.runs.erase run) desk.deciding
  split
  · rename_i dropped
    obtain ⟨unkept, idle, grounded, chained⟩ := of_decide_eq_true tidy dropped
    refine left.finish_one unkept ?_ (grounded_held grounded) idle
    -- A slot that stays without a response has more runs, or one that got to the handler.
    simp only [slotStays, leaveChain]
    split
    · simp_all
    · rename_i slot found
      split
      · simp [ServerOpenStreamState.release]
      · rename_i kept
        simp only [AList.lookup_insert, Option.any_some, decide_eq_false_iff_not]
        intro without
        have last := chained (by simp [slotStays, found, without])
        simp only [found, Option.any_some, decide_eq_true_eq] at last
        exact kept ⟨by omega, last.2⟩
  · exact left

theorem Covered.endStream (tidy : desk.tidies setting (.endStream eventId) = true) :
    Covered setting { desk with
      openStream := (desk.openStream.terminate eventId).2
      log := if (desk.openStream.terminate eventId).1.isSome then desk.log.finish [eventId]
        else desk.log } := by
  have ended := covered.withStreams (covered.streams.terminate eventId)
    (modified_terminate _ eventId).noNew
  split
  · rename_i flushed
    obtain ⟨slot, found, waiting, released⟩ : ∃ slot, desk.openStream.slots.lookup eventId =
        some slot ∧ slot.pendingResponse.isSome = true ∧
          (desk.openStream.terminate eventId).2.slots.lookup eventId = none := by
      unfold terminate at flushed ⊢
      cases found : desk.openStream.slots.lookup eventId with
      | none => simp [found] at flushed
      | some slot =>
        cases response : slot.pendingResponse with
        | none => simp [found, response] at flushed
        | some waiting => simp [response, ServerOpenStreamState.release]
    have unkept := of_decide_eq_true tidy (by rw [found]; exact waiting)
    have grounded := covered.held.grounded fun bare => by rw [found] at bare; cases bare
    exact ended.finish_one unkept (slotStays_of_absent released)
      ⟨grounded.dated, grounded.kinds⟩ (covered.isAnswering_of_slot found)
  · exact ended

/-- The cleanup of idle sessions leaves everything covered, if it leaves nothing of what it ends. -/
theorem Covered.cleanupSessions {timeout : Nat} (late : desk.log.clock ≤ now)
    (tidy : desk.tidies setting (.cleanupSessions now timeout) = true) :
    Covered setting { desk with
      serving := { desk.serving with server := (desk.serving.server.cleanupSessions now timeout).2 }
      log := (desk.log.advance now).finish (desk.popped now timeout) } := by
  have tidied := of_decide_eq_true tidy
  have live (client : String) (session : ClientSession)
      (read : (desk.serving.server.cleanupSessions now timeout).2.sessions.sessions.peek client =
        some session) :
      client ∉ desk.serving.server.sessions.expiredKeys now timeout ∧
        desk.serving.server.sessions.sessions.peek client = some session := by
    change peek (List.foldl _ _ _) client = some session at read
    rw [peek_foldl_pop] at read
    split at read
    · cases read
    · exact ⟨‹_›, read⟩
  have cleaned := (covered.withServing
    { desk.serving with server := (desk.serving.server.cleanupSessions now timeout).2 }
    (fun client session read => covered.sessions client session (live client session read).2)
    (covered.held.forget (desk.serving.server.staleEventIds now timeout))
    (List.Sublist.refl _) (by
      intro item _ without
      refine (getRoute_cleanupSessions _ _ _ _).trans ?_
      split
      · rfl
      · exact without)).advance late
  refine cleaned.finish ?_ ?_ ?_ ?_
  all_goals
    intro eventId member
    obtain ⟨stale, routed⟩ := List.mem_filter.mp member
    obtain ⟨kept, stays⟩ := tidied eventId member
  · refine sessionKeeps_eq_false.mpr fun client session own read => ?_
    obtain ⟨fresh, before⟩ := live client session read
    rcases kept with expired | unkept
    · -- The session of an expired client is gone.
      rw [own, Option.any_some, decide_eq_true_eq] at expired
      exact absurd expired fresh
    · exact sessionKeeps_eq_false.mp unkept client session own before
  · exact stays
  · apply of_absent
    · exact (getRoute_popRoutes _ _ _).trans (if_pos stale)
    · exact (lookup_forgetKinds _ _ _).trans (if_pos stale)
  · obtain ⟨route, found⟩ := Option.isSome_iff_exists.mp routed
    exact covered.isAnswering_of_route found

/-- A sweep may be noted that leaves only recent routes. -/
theorem Covered.sweep (current : now ≤ desk.log.clock)
    (recent : ∀ eventId route, desk.serving.server.held.eventRoutes.getRoute eventId = some route →
      now < route.registeredAt + setting.requestTimeout ∨ now ≤ route.registeredAt) :
    Covered setting { desk with log := desk.log.sweep now } where
  sessions client session found := (covered.sessions client session found).mono fun _ live => live
  held := by
    refine covered.held.relog (List.Subset.refl _) ?_ fun _ live bare => .inl ⟨live, bare⟩
    intro eventId route found time member
    rcases List.mem_cons.mp member with new | old
    · grind
    · exact covered.held.unswept eventId route found time old
  streams := covered.streams.relog fun _ _ _ _ live => live
  answering := covered.answering
  distinct := covered.distinct
  clock time member := by
    rcases List.mem_cons.mp member with new | old
    · rw [new]
      exact current
    · exact covered.clock time old

/-- A sweep leaves everything covered, if it leaves nothing of what it ends. -/
theorem Covered.sweepStaleRoutes (late : desk.log.clock ≤ now)
    (tidy : desk.tidies setting (.sweepStaleRoutes now) = true) :
    Covered setting { desk with
      serving := desk.serving.update desk.serving.server.sessions
        (desk.serving.server.held.sweep now setting.requestTimeout)
      log := ((desk.log.advance now).sweep now).finish
        (desk.serving.server.held.eventRoutes.staleKeys now setting.requestTimeout) } := by
  have tidied := of_decide_eq_true tidy
  have removed (eventId : String) :
      (desk.serving.server.held.sweep now setting.requestTimeout).eventRoutes.getRoute eventId =
        if eventId ∈ desk.serving.server.held.eventRoutes.staleKeys now setting.requestTimeout
        then none else desk.serving.server.held.eventRoutes.getRoute eventId :=
    getRoute_popRoutes desk.serving.server.held _ eventId
  have thinned := (covered.hold (covered.held.forget _) (by
      intro eventId without
      refine (removed eventId).trans ?_
      split
      · rfl
      · exact without)).advance late
  -- The routes that are left were not stale.
  have swept := thinned.sweep (le_refl now) (by
    intro eventId route found
    have left := (removed eventId).symm.trans found
    split at left
    · cases left
    · rename_i fresh
      have young : ¬ setting.requestTimeout ≤ now - route.registeredAt := fun old =>
        fresh (List.mem_map.mpr ⟨_, List.mem_filter.mpr
          ⟨(peek_eq_some_iff _ _ _).mp left, decide_eq_true old⟩, rfl⟩)
      omega)
  refine swept.finish ?_ ?_ ?_ ?_
  all_goals
    intro eventId stale
    obtain ⟨unkept, stays⟩ := tidied eventId stale
  · exact unkept
  · exact stays
  · apply of_absent
    · exact (removed eventId).trans (if_pos stale)
    · exact (lookup_forgetKinds _ _ _).trans (if_pos stale)
  · obtain ⟨⟨key, route⟩, member, rfl⟩ := List.mem_map.mp stale
    exact covered.isAnswering_of_route ((peek_eq_some_iff _ _ _).mpr (List.mem_filter.mp member).1)

/-- Everything stays covered, whatever happens, if it is tidied up. -/
theorem Covered.step {action : DeskAction} {after : Desk}
    (tidy : desk.tidies setting action = true) (taken : desk.step setting action = some after) :
    after.Covered setting := by
  cases action with
  | receive now event =>
    simp only [Desk.step, Serving.step] at taken
    split at taken
    · rename_i admitted
      split at taken
      · cases taken
        exact covered.receive admitted.1 admitted.2 tidy _
      · cases taken
    · cases taken
  | forward eventId =>
    obtain ⟨-, rfl⟩ := Option.ite_some_none_eq_some.mp taken
    exact (covered.withStreams (covered.streams.markForwarded eventId) (update _ _ _)).withRuns _ _
  | drop eventId =>
    -- The request ends only with its run, and until then it is open.
    obtain ⟨-, rfl⟩ := Option.ite_some_none_eq_some.mp taken
    refine (covered.hold (covered.held.release eventId) fun other unrouted => ?_).withRuns _ _
    unfold Correlation.release
    split
    · refine (getRoute_popRoutes _ [eventId] other).trans ?_
      split
      · rfl
      · exact unrouted
    · exact unrouted
  | leave run =>
    obtain ⟨-, rfl⟩ := Option.ite_some_none_eq_some.mp taken
    exact covered.leave tidy
  | respond eventId response published =>
    cases taken
    exact covered.respond tidy
  | correlate item published =>
    obtain ⟨-, rfl⟩ := Option.ite_some_none_eq_some.mp taken
    exact covered.correlate tidy
  | settle item =>
    simp only [Desk.step, Serving.step] at taken
    split at taken
    · rename_i answered
      cases taken
      exact covered.settle answered
    · cases taken
  | abandon item =>
    -- The request stays open, since nobody gets to know of the failure.
    simp only [Desk.step, Serving.step] at taken
    split at taken
    · cases taken
      exact covered.withServing _ covered.sessions covered.held List.erase_sublist
        fun _ _ without => without
    · cases taken
  | restore now item =>
    simp only [Desk.step, Serving.step] at taken
    split at taken
    · rename_i late
      split at taken
      · rename_i answered
        cases taken
        exact covered.restore late answered tidy
      · cases taken
    · cases taken
  | startStream eventId =>
    cases taken
    exact covered.withStreams (covered.streams.startWriter eventId) (update _ _ _)
  | endStream eventId =>
    cases taken
    exact covered.endStream tidy
  | recordSnapshot now eventId snapshot expiresAt | purgeSnapshots now =>
    cases taken
    exact covered.withSnapshots _
  | cleanupSessions now timeout =>
    obtain ⟨late, rfl⟩ := Option.ite_some_none_eq_some.mp taken
    exact covered.cleanupSessions late tidy
  | sweepStaleRoutes now =>
    obtain ⟨late, rfl⟩ := Option.ite_some_none_eq_some.mp taken
    exact covered.sweepStaleRoutes late tidy
  | publishTo clientPubkey =>
    cases taken
    refine covered.withServing _ ?_ covered.held (List.Sublist.refl _) fun _ _ without => without
    exact covered.sessions.getMut fun session kept => ⟨kept.pending, kept.tokens⟩
  | dropSession clientPubkey =>
    -- The other sessions are as they were.
    cases taken
    refine covered.withServing _ ?_ covered.held (List.Sublist.refl _) fun _ _ without => without
    apply Serving.all_of_peek covered.sessions
    intro client session read
    rw [peek_pop] at read
    split at read
    · cases read
    · exact read

end

theorem Covered.start (setting : LifeSetting) (maxSessions : Nat) (listening : Bool) :
    (Desk.start maxSessions listening).Covered setting := by
  refine ⟨?_, ⟨?_, ?_, ?_, ⟨?_, ?_⟩, ?_⟩, ⟨?_, ?_, ?_⟩, ?_, List.nodup_nil, ?_⟩
  · intro client session read
    cases read
  all_goals first
    | (intro eventId item read; cases read)
    | (intro item member; cases member)

/-! The whole run. -/

/--
Whether a server has nothing to do any more.

Every request that was received has ended, no stream is open, and old routes were swept more than
the timeout of a request after the last one was received.
-/
def quiet (setting : LifeSetting) (desk : Desk) : Bool :=
  (∀ item ∈ desk.log.arrivals, item.1 ∈ desk.log.ended) ∧
    (∀ entry ∈ desk.openStream.slots.entries,
      entry.2.hasStarted = true → entry.2.terminated = true) ∧
    ∃ time ∈ desk.log.sweeps, ∀ item ∈ desk.log.arrivals, item.2 + setting.requestTimeout < time

/-- No event and no token is left anywhere. -/
structure Clear (desk : Desk) : Prop where
  routes : ∀ eventId, desk.serving.server.held.eventRoutes.getRoute eventId = none
  routeTokens : ∀ token, desk.serving.server.held.eventRoutes.getEventIdByProgressToken token = none
  clients : ∀ client, desk.serving.server.held.eventRoutes.eventsOf client = ∅
  kinds : ∀ eventId, desk.serving.server.held.requestWrapKinds.lookup eventId = none
  sessions : ∀ client session, desk.serving.server.sessions.sessions.peek client = some session →
    ∀ key, session.pendingRequests.lookup key = none ∧
      session.eventToProgressToken.lookup key = none
  slots : ∀ eventId, desk.openStream.slots.lookup eventId = none
  tokens : ∀ key, desk.openStream.tokenToEvent.lookup key = none

/-- What is covered goes once the requests have ended, streams are closed and routes swept. -/
theorem Covered.clear (covered : desk.Covered setting) (quiet : desk.quiet setting = true) :
    desk.Clear := by
  obtain ⟨ended, closed, time, swept, late⟩ := of_decide_eq_true quiet
  have finished (eventId : String) : ¬ desk.log.Open eventId := by
    rintro ⟨arrived, unended⟩
    obtain ⟨item, member, rfl⟩ := List.mem_map.mp arrived
    exact unended (ended item member)
  -- A route that is as old as its request was swept.
  have routes (eventId : String) :
      desk.serving.server.held.eventRoutes.getRoute eventId = none := by
    cases found : desk.serving.server.held.eventRoutes.getRoute eventId with
    | none => rfl
    | some route =>
      rcases covered.held.dated eventId route found with ⟨arrival, early, member⟩ | live
      · have after := late (eventId, arrival) member
        have young := covered.held.unswept eventId route found time swept
        omega
      · exact absurd live.1 (finished eventId)
  have slots (eventId : String) : desk.openStream.slots.lookup eventId = none := by
    cases found : desk.openStream.slots.lookup eventId with
    | none => rfl
    | some slot =>
      rcases covered.streams.slots eventId slot found with live | waiting
      · exact absurd live (finished eventId)
      · -- A response waits only for a stream that is open.
        obtain ⟨started, running⟩ := covered.streams.waiting eventId slot found waiting
        have terminated := closed ⟨eventId, slot⟩ (AList.mem_lookup_iff.mp found) started
        simp [running] at terminated
  refine ⟨routes, ?_, ?_, ?_, ?_, slots, ?_⟩
  · intro token
    rw [Option.eq_none_iff_forall_ne_some]
    intro eventId read
    obtain ⟨route, found, -⟩ := covered.held.indexes.tokens token eventId read
    simp [routes] at found
  · intro client
    rw [Finset.eq_empty_iff_forall_notMem]
    intro eventId member
    obtain ⟨route, found, -⟩ := covered.held.indexes.clients client eventId member
    simp [routes] at found
  · intro eventId
    rw [Option.eq_none_iff_forall_ne_some]
    intro kind read
    rcases covered.held.kinds eventId kind read with routed | live
    · grind
    · exact finished eventId live.1
  · intro client session found key
    have session := covered.sessions client session found
    constructor
    · rw [Option.eq_none_iff_forall_ne_some]
      intro value read
      rcases session.pending key value read with ⟨live, -⟩ | ⟨eventId, -, -, live, -⟩
      · exact finished key live
      · exact finished eventId live
    · rw [Option.eq_none_iff_forall_ne_some]
      intro token read
      exact finished key (session.tokens key token read).1
  · intro key
    rw [Option.eq_none_iff_forall_ne_some]
    intro eventId read
    obtain ⟨slot, found, -⟩ := covered.streams.tokens key eventId read
    simp [slots] at found

end Desk

/-- A server that always tidies up keeps nothing of its requests, once it has nothing to do. -/
theorem nothing_left_of_tidies (setting : LifeSetting) (maxSessions : Nat) (listening : Bool)
    (desk : Desk)
    (reached : Reaches (Desk.step setting) (fun desk action => desk.tidies setting action = true)
      (.start maxSessions listening) desk)
    (quiet : desk.quiet setting = true) : desk.Clear := by
  refine Desk.Covered.clear ?_ quiet
  apply Reaches.invariant reached (Desk.Covered.start setting maxSessions listening)
  intro before action after _ covered tidy taken
  exact covered.step tidy taken

/-- Alice's tool calls, to a server with a middleware whose tools may stream. -/
def streamingSetting : LifeSetting where
  isPublicKey := isHex64
  isEventId := isHex64
  config := { ServerConfig.public pingPrimitives with openStreamEnabled := true }
  hasMiddlewares := true
  requestTimeout := 60
  commits := fun eventId =>
    [(firstEvent, aliceKey, toolCallWith 1 "1"), (secondEvent, aliceKey, toolCallWith 2 "2")].lookup
      eventId

/-- The cleanup task comes round, when nobody has been idle for long enough to be dropped. -/
def tick (now : Nat) : List DeskAction :=
  [.cleanupSessions now 300, .sweepStaleRoutes now, .purgeSnapshots now]

/-- Alice's first call is answered. -/
def answeredActions : List DeskAction :=
  [.receive 0 ⟨firstEvent, aliceKey, [], none, toolCallWith 1 "1"⟩, .forward firstEvent,
    .leave (firstEvent, .forwarded), .respond firstEvent (.response ⟨"2.0", .null, .null⟩) true,
    .correlate (firstEvent, none) true, .settle (firstEvent, ⟨aliceKey, .ofU64 1, some "1", 0⟩)] ++
    tick 100

/-- A call that is answered leaves nothing. -/
theorem nothing_left_of_tidies_answered :
    ∃ desk : Desk, Reaches (step streamingSetting)
        (fun desk action => desk.tidies streamingSetting action = true) (start 10 false) desk ∧
      (desk.log.arrivals = [(firstEvent, 0)] ∧ desk.quiet streamingSetting = true) ∧
      desk.Clear := by
  refine Reaches.exists_of_any (fun _ _ passed => passed) answeredActions
    (fun desk => desk.log.arrivals = [(firstEvent, 0)] ∧ desk.quiet streamingSetting = true)
    (by decide +kernel) ?_
  intro desk reached facts
  exact ⟨facts, nothing_left_of_tidies _ _ _ desk reached facts.2⟩

/-- Alice's first call is dropped by the middleware, and the second one never answered. -/
def unansweredActions : List DeskAction :=
  [.receive 0 ⟨firstEvent, aliceKey, [], none, toolCallWith 1 "1"⟩, .drop firstEvent,
    .leave (firstEvent, .dropped), .receive 1 ⟨secondEvent, aliceKey, [], none, toolCallWith 2 "2"⟩,
    .forward secondEvent, .leave (secondEvent, .forwarded)] ++ tick 100

/--
A call that is dropped, and one whose route is swept, leave entries that nothing removes.

Both are left in the session, each under its event and its token, and the second one keeps its slot
and its place in the index of the streams.
-/
theorem ended_calls_left :
    ∃ desk, Reaches (Desk.step streamingSetting) Unrestricted (Desk.start 10 false) desk ∧
      desk.quiet streamingSetting = true ∧
      ((desk.serving.server.sessions.sessions.peek aliceKey).map fun session =>
        session.pendingRequests.keys) = some ["2", secondEvent, "1", firstEvent] ∧
      ((desk.serving.server.sessions.sessions.peek aliceKey).map fun session =>
        session.eventToProgressToken.keys) = some [secondEvent, firstEvent] ∧
      desk.openStream.slots.keys = [secondEvent] ∧
      desk.openStream.tokenToEvent.keys = [clientTokenKey aliceKey "2"] := by
  exact Reaches.of_run unansweredActions _ (by decide +kernel)

end ContextVm
