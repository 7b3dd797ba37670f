import ContextVm.OpenStream.StreamedCalls

/-! When a call whose result is streamed gets the reader of its own request. -/

namespace ContextVm.OpenStream

/-! The readers of a registry and the tokens they were made for. -/

/-- Every registered reader was made for the token it is found under. -/
structure OpenStreamRegistry.Filed (registry : OpenStreamRegistry) : Prop where
  sound : ∀ reader ∈ registry.made, reader.Sound
  made : ∀ token entry, registry.sessions.lookup token = some entry →
    ∃ reader, registry.made[entry.session]? = some reader ∧ reader.options.progressToken = token

/-- All readers stay what they were made as. -/
def OpenStreamRegistry.Keeps (registry after : OpenStreamRegistry) : Prop :=
  ∀ (number : Nat) (reader : SessionState), registry.made[number]? = some reader →
    ∃ kept, after.made[number]? = some kept ∧ kept.options = reader.options

namespace OpenStreamRegistry

variable {registry after : OpenStreamRegistry}

theorem Keeps.refl (registry : OpenStreamRegistry) : registry.Keeps registry :=
  fun _ reader found => ⟨reader, found, rfl⟩

section

variable (filed : registry.Filed)
include filed

/-- A reader that is made is filed under its token, and the others stay. -/
theorem Filed.createSessionWith {now : Nat} {token : String}
    {init : OpenStreamSessionInit} {entry : RegistryEntry}
    (created : registry.createSessionWith now token init = .ok (entry, after)) :
    after.Filed ∧ registry.Keeps after ∧ after.sessions.lookup token = some entry := by
  simp only [OpenStreamRegistry.createSessionWith] at created
  split at created
  · cases created
  split at created
  · cases created
  cases created
  refine ⟨⟨?_, ?_⟩, ?_, AList.lookup_insert _⟩
  · intro reader member
    rcases List.mem_append.mp member with old | new
    · exact filed.sound reader old
    · rw [List.mem_singleton.mp new]
      exact SessionState.sound_new _ _
  · intro other held found
    rcases lookup_insert_cases found with ⟨rfl, rfl⟩ | old
    · -- The new reader is the last one.
      exact ⟨_, List.getElem?_concat_length, rfl⟩
    · obtain ⟨reader, read, named⟩ := filed.made other held old
      have within := (List.getElem?_eq_some_iff.mp read).1
      exact ⟨reader, by rw [List.getElem?_append_left within]; exact read, named⟩
  · intro number reader read
    have within := (List.getElem?_eq_some_iff.mp read).1
    exact ⟨reader, by rw [List.getElem?_append_left within]; exact read, rfl⟩

/-- The reader that a frame is admitted to is filed. -/
theorem Filed.admitFrame {now : Nat} {token : String}
    {frame : OpenStreamFrame} {entry : RegistryEntry}
    (admitted : registry.admitFrame now token frame = .ok (some (entry, after))) :
    after.Filed ∧ registry.Keeps after := by
  simp only [OpenStreamRegistry.admitFrame] at admitted
  split at admitted
  · cases admitted
    exact ⟨filed, .refl _⟩
  split at admitted
  · -- A start makes a reader.
    cases created : registry.createSessionWith now token ⟨false, false, false⟩ with
    | error error =>
      rw [created] at admitted
      cases admitted
    | ok pair =>
      rw [created] at admitted
      cases admitted
      obtain ⟨kept, keeps, -⟩ := filed.createSessionWith created
      exact ⟨kept, keeps⟩
  · cases admitted
  · cases admitted
  · cases admitted
  · cases admitted
  · cases admitted
  · cases admitted

theorem Filed.createOutboundOpenStreamSession {now session : Nat} {token : String}
    (created : registry.createOutboundOpenStreamSession now token = .ok (session, after)) :
    after.Filed ∧ registry.Keeps after ∧
      ∃ reader, after.made[session]? = some reader ∧ reader.options.progressToken = token := by
  simp only [OpenStreamRegistry.createOutboundOpenStreamSession] at created
  split at created
  · rename_i existing found
    cases created
    exact ⟨filed, .refl _, filed.made token existing found⟩
  · cases fresh : registry.createSessionWith now token ⟨true, false, false⟩ with
    | error error =>
      rw [fresh] at created
      cases created
    | ok pair =>
      obtain ⟨entry, made⟩ := pair
      rw [fresh] at created
      cases created
      obtain ⟨kept, keeps, found⟩ := filed.createSessionWith fresh
      exact ⟨kept, keeps, kept.made token entry found⟩

theorem Filed.remove (token : String) (hook : RegistryHook) :
    (registry.remove token hook).Filed ∧ registry.Keeps (registry.remove token hook) := by
  unfold OpenStreamRegistry.remove
  split
  · exact ⟨filed, .refl _⟩
  · refine ⟨⟨filed.sound, ?_⟩, fun _ reader read => ⟨reader, read, rfl⟩⟩
    intro other entry found
    by_cases same : other = token
    · grind [AList.lookup_erase]
    · rw [AList.lookup_erase_ne same] at found
      exact filed.made other entry found

theorem Filed.use {arithmetic : Arithmetic} {session : Nat}
    {reader used : SessionState} {action : SessionAction}
    (found : registry.made[session]? = some reader)
    (taken : reader.step arithmetic action = some used) :
    Filed { registry with made := registry.made.set session used } ∧
      registry.Keeps { registry with made := registry.made.set session used } := by
  have sound := filed.sound reader (List.mem_of_getElem? found)
  have options := SessionState.options_step sound taken
  have keeps : registry.Keeps { registry with made := registry.made.set session used } := by
    intro number held read
    exact exists_getElem?_set (fun held kept => kept.options = held.options) used found
      (fun _ => rfl) options read
  refine ⟨⟨?_, ?_⟩, keeps⟩
  · intro held member
    rcases List.mem_or_eq_of_mem_set member with old | rfl
    · exact filed.sound held old
    · exact sound.step taken
  · intro token entry registered
    obtain ⟨held, read, named⟩ := filed.made token entry registered
    obtain ⟨kept, still, same⟩ := keeps entry.session held read
    exact ⟨kept, still, by rw [same, named]⟩

end

end OpenStreamRegistry

/-! What is known of the calls, the requests and the placeholders. -/

/-- A call has got the lock at some time. -/
def StreamingClient.Entered (client : StreamingClient) (index : Nat) : Prop :=
  ∃ call, client.calls[index]? = some call ∧ call.phase ≠ .queued

/-- A call holds the lock. -/
def StreamingClient.Waits (client : StreamingClient) (index : Nat) : Prop :=
  ∃ call, client.calls[index]? = some call ∧ call.phase = .waiting

/-- A reader is the one for the token of the request that a call has issued. -/
structure Serves (setting : StreamingSetting) (client : StreamingClient) (index : Nat)
    (call : StreamedCall) (token : String) (session : Nat) : Prop where
  request : ∃ number issued, call.issued = some number ∧ client.requests[number]? = some issued ∧
    issued.origin = .streamed index ∧ setting.outboundToken issued.request = some token
  reader : ∃ reader, client.openStreamRegistry.made[session]? = some reader ∧
    reader.options.progressToken = token

/-- What holds between the steps of calls that are not disturbed. -/
structure Orderly (setting : StreamingSetting) (client : StreamingClient) : Prop where
  lock : ∀ index, client.Waits index → client.openStreamBindLock = some index
  entered : ∀ waiter ∈ client.pendingOutboundOpenStream, client.Entered waiter
  own : ∀ (number : Nat) (issued : IssuedRequest) (index : Nat),
    client.requests[number]? = some issued → issued.origin = .streamed index →
    ∃ call, client.calls[index]? = some call ∧ call.issued = some number
  binding : ∀ (number : Nat) (issued : IssuedRequest) (waiter : Nat) (token : String),
    client.requests[number]? = some issued → issued.phase = .binding waiter token →
    setting.outboundToken issued.request = some token ∧ client.Entered waiter ∧
      (client.Waits waiter → issued.origin = .streamed waiter)
  bound : ∀ (index : Nat) (call : StreamedCall) (token : String) (session : Nat),
    client.calls[index]? = some call → call.phase = .waiting →
    call.bound = some (.ok (token, session)) → Serves setting client index call token session
  returned : ∀ (index : Nat) (call : StreamedCall) (token : String) (session : Nat),
    client.calls[index]? = some call → call.phase = .returned token session →
    Serves setting client index call token session
  filed : client.openStreamRegistry.Filed
  streamed : ∀ item ∈ client.consumed, ∃ index, item.2 = .streamed index

variable {setting : StreamingSetting} {client after : StreamingClient}

theorem Serves.later {index session : Nat} {call moved : StreamedCall} {token : String}
    (serves : Serves setting client index call token session)
    (issued : ∀ number, call.issued = some number → moved.issued = some number)
    (requests : ∀ (number : Nat) (held : IssuedRequest), client.requests[number]? = some held →
      ∃ kept, after.requests[number]? = some kept ∧ kept.origin = held.origin ∧
        kept.request = held.request)
    (readers : client.openStreamRegistry.Keeps after.openStreamRegistry) :
    Serves setting after index moved token session := by
  obtain ⟨⟨number, held, own, found, origin, named⟩, reader, read, made⟩ := serves
  obtain ⟨kept, still, sameOrigin, sameRequest⟩ := requests number held found
  obtain ⟨later, stays, options⟩ := readers session reader read
  refine ⟨⟨number, kept, issued number own, still, ?_, ?_⟩, later, stays, ?_⟩
  · rw [sameOrigin, origin]
  · rw [sameRequest, named]
  · rw [options, made]

theorem Serves.congr {index session : Nat} {call : StreamedCall} {token : String}
    (serves : Serves setting client index call token session)
    (requests : after.requests = client.requests)
    (registry : after.openStreamRegistry = client.openStreamRegistry) :
    Serves setting after index call token session := by
  refine serves.later (fun _ => id) ?_ ?_
  · grind
  · rw [registry]
    exact .refl _

/-! What the parts of a step keep. -/

namespace Orderly

section

variable (orderly : Orderly setting client)
include orderly

theorem registry {registry : OpenStreamRegistry}
    (filed : registry.Filed) (keeps : client.openStreamRegistry.Keeps registry) :
    Orderly setting { client with openStreamRegistry := registry } where
  lock := orderly.lock
  entered := orderly.entered
  own := orderly.own
  binding := orderly.binding
  bound index call token session found waits bound :=
    (orderly.bound index call token session found waits bound).later (fun _ => id)
      (fun _ held found => ⟨held, found, rfl, rfl⟩) keeps
  returned index call token session found returned :=
    (orderly.returned index call token session found returned).later (fun _ => id)
      (fun _ held found => ⟨held, found, rfl, rfl⟩) keeps
  filed := filed
  streamed := orderly.streamed

theorem pending {rest : List Nat} {consumed : List (Nat × RequestOrigin)}
    (fewer : ∀ waiter ∈ rest, waiter ∈ client.pendingOutboundOpenStream)
    (streamed : ∀ item ∈ consumed, ∃ index, item.2 = .streamed index) :
    Orderly setting { client with pendingOutboundOpenStream := rest, consumed } :=
  { orderly with
    entered := fun waiter member => orderly.entered waiter (fewer waiter member)
    bound := fun index call token session found waits bound =>
      (orderly.bound index call token session found waits bound).congr rfl rfl
    returned := fun index call token session found returned =>
      (orderly.returned index call token session found returned).congr rfl rfl
    streamed }

/-- One more request, which a call knows of if it has issued it. -/
theorem append (origin : RequestOrigin) (request : JsonRpcRequest)
    (known : ∀ index, origin = .streamed index → ∃ call, client.calls[index]? = some call ∧
      call.issued = some client.requests.length) :
    Orderly setting
      { client with requests := client.requests ++ [⟨origin, request, .issued⟩] } := by
  have kept : ∀ (number : Nat) (held : IssuedRequest), client.requests[number]? = some held →
      ∃ kept, (client.requests ++ [⟨origin, request, .issued⟩])[number]? = some kept ∧
        kept.origin = held.origin ∧ kept.request = held.request := by grind
  refine { orderly with own := ?_, binding := ?_, bound := ?_, returned := ?_ }
  · intro number issued index found streamed
    rcases getElem?_append_singleton found with old | ⟨rfl, rfl⟩
    · exact orderly.own number issued index old streamed
    · exact known index streamed
  · intro number issued waiter token found binds
    rcases getElem?_append_singleton found with old | ⟨rfl, rfl⟩
    · exact orderly.binding number issued waiter token old binds
    · cases binds
  · intro index call token session found waits bound
    exact (orderly.bound index call token session found waits bound).later (fun _ => id) kept
      (.refl _)
  · intro index call token session found returned
    exact (orderly.returned index call token session found returned).later (fun _ => id) kept
      (.refl _)

/-- A request gets on; if it has taken out a placeholder, that was for its own call. -/
theorem setRequest {number : Nat} {issued : IssuedRequest}
    (found : client.requests[number]? = some issued) {phase : RequestPhase}
    (binds : ∀ waiter token, phase = .binding waiter token →
      setting.outboundToken issued.request = some token ∧ client.Entered waiter ∧
        (client.Waits waiter → issued.origin = .streamed waiter)) :
    Orderly setting
      { client with requests := client.requests.set number { issued with phase } } := by
  have kept : ∀ (other : Nat) (held : IssuedRequest), client.requests[other]? = some held →
      ∃ kept, (client.requests.set number { issued with phase })[other]? = some kept ∧
        kept.origin = held.origin ∧ kept.request = held.request := by grind
  refine { orderly with own := ?_, binding := ?_, bound := ?_, returned := ?_ }
  · intro other held index read streamed
    rcases getElem?_set_cases found read with ⟨rfl, rfl⟩ | ⟨-, old⟩
    · exact orderly.own other issued index found streamed
    · exact orderly.own other held index old streamed
  · intro other held waiter token read taken
    rcases getElem?_set_cases found read with ⟨rfl, rfl⟩ | ⟨-, old⟩
    · exact binds waiter token taken
    · exact orderly.binding other held waiter token old taken
  · intro index call token session read waits bound
    exact (orderly.bound index call token session read waits bound).later (fun _ => id) kept
      (.refl _)
  · intro index call token session read returned
    exact (orderly.returned index call token session read returned).later (fun _ => id) kept
      (.refl _)

end

end Orderly

/-- What may become of a call that has the lock, or has had it. -/
structure CallMoves (call moved : StreamedCall) : Prop where
  entered : moved.phase = .queued → call.phase = .queued
  waits : moved.phase = .waiting → call.phase = .waiting
  issued : ∀ number, call.issued = some number → moved.issued = some number

namespace CallMoves

variable {index : Nat} {call moved : StreamedCall}

theorem entered_set (moves : CallMoves call moved) (found : client.calls[index]? = some call)
    {other : Nat} (entered : client.Entered other) :
    (client.setCall index moved).Entered other := by
  obtain ⟨held, read, past⟩ := entered
  obtain ⟨kept, still, stays⟩ := exists_getElem?_set
    (fun held kept => kept.phase = .queued → held.phase = .queued) moved found (fun _ => id)
    moves.entered read
  exact ⟨kept, still, fun queued => past (stays queued)⟩

theorem waits_set (moves : CallMoves call moved) (found : client.calls[index]? = some call)
    {other : Nat} (waits : (client.setCall index moved).Waits other) : client.Waits other := by
  obtain ⟨held, read, waiting⟩ := waits
  rcases getElem?_set_cases found read with ⟨rfl, rfl⟩ | ⟨-, old⟩
  · exact ⟨call, found, moves.waits waiting⟩
  · exact ⟨held, old, waiting⟩

end CallMoves

/-- A call gets on; what it hears of or returns is what serves it. -/
theorem Orderly.setCall (orderly : Orderly setting client) {index : Nat}
    {call moved : StreamedCall} (found : client.calls[index]? = some call)
    (moves : CallMoves call moved)
    (bound : ∀ token session, moved.phase = .waiting → moved.bound = some (.ok (token, session)) →
      Serves setting client index moved token session)
    (returned : ∀ token session, moved.phase = .returned token session →
      Serves setting client index moved token session) :
    Orderly setting (client.setCall index moved) where
  lock other waits := orderly.lock other (moves.waits_set found waits)
  entered waiter member := moves.entered_set found (orderly.entered waiter member)
  own number issued other read streamed := by
    obtain ⟨held, present, own⟩ := orderly.own number issued other read streamed
    obtain ⟨kept, still, stays⟩ := exists_getElem?_set
      (fun held kept => held.issued = some number → kept.issued = some number) moved found
      (fun _ => id) (moves.issued number) present
    exact ⟨kept, still, stays own⟩
  binding number issued waiter token read binds := by
    obtain ⟨named, entered, own⟩ := orderly.binding number issued waiter token read binds
    exact ⟨named, moves.entered_set found entered, fun waits => own (moves.waits_set found waits)⟩
  bound other held token session read waits hears := by
    rcases getElem?_set_cases found read with ⟨rfl, rfl⟩ | ⟨-, old⟩
    · exact (bound token session waits hears).congr rfl rfl
    · exact (orderly.bound other held token session old waits hears).congr rfl rfl
  returned other held token session read ends := by
    rcases getElem?_set_cases found read with ⟨rfl, rfl⟩ | ⟨-, old⟩
    · exact (returned token session ends).congr rfl rfl
    · exact (orderly.returned other held token session old ends).congr rfl rfl
  filed := orderly.filed
  streamed := orderly.streamed

/-! What each action keeps. -/

/--
Whether a request that takes out a placeholder comes from a call that holds the lock.

Requests that find no placeholder, or have no token for one, are not looked at.
-/
def CallAction.undisturbed (setting : StreamingSetting) (client : StreamingClient) :
    CallAction → Bool
  | .reach number => client.requests[number]?.all fun issued =>
      (setting.outboundToken issued.request).isNone || client.pendingOutboundOpenStream.isEmpty ||
        match issued.origin with
        | .streamed index => client.calls[index]?.any fun call => call.phase = .waiting
        | .ordinary | .retry => false
  | _ => true

namespace Orderly

variable {index : Nat} {call : StreamedCall}

section

variable (orderly : Orderly setting client)
include orderly

/-- A new call waits for the lock. -/
theorem newCall :
    Orderly setting { client with calls := client.calls ++ [⟨.queued, none, none⟩] } := by
  have entered : ∀ other, client.Entered other → StreamingClient.Entered
      { client with calls := client.calls ++ [⟨.queued, none, none⟩] } other := by
    rintro other ⟨held, read, past⟩
    have within := (List.getElem?_eq_some_iff.mp read).1
    exact ⟨held, by rw [List.getElem?_append_left within]; exact read, past⟩
  -- The new call has no lock, so that those that wait are the old ones.
  have waits : ∀ other, StreamingClient.Waits
      { client with calls := client.calls ++ [⟨.queued, none, none⟩] } other →
      client.Waits other := by
    rintro other ⟨held, read, waiting⟩
    rcases getElem?_append_singleton read with old | ⟨-, rfl⟩
    · exact ⟨held, old, waiting⟩
    · cases waiting
  refine { orderly with
    lock := ?_, entered := ?_, own := ?_, binding := ?_, bound := ?_, returned := ?_ }
  · exact fun other waiting => orderly.lock other (waits other waiting)
  · exact fun waiter member => entered waiter (orderly.entered waiter member)
  · intro number issued other read streamed
    obtain ⟨held, present, own⟩ := orderly.own number issued other read streamed
    have within := (List.getElem?_eq_some_iff.mp present).1
    exact ⟨held, by rw [List.getElem?_append_left within]; exact present, own⟩
  · intro number issued waiter token read binds
    obtain ⟨named, past, own⟩ := orderly.binding number issued waiter token read binds
    exact ⟨named, entered waiter past, fun waiting => own (waits waiter waiting)⟩
  · intro other held token session read waiting hears
    rcases getElem?_append_singleton read with old | ⟨-, rfl⟩
    · exact (orderly.bound other held token session old waiting hears).congr rfl rfl
    · cases waiting
  · intro other held token session read ends
    rcases getElem?_append_singleton read with old | ⟨-, rfl⟩
    · exact (orderly.returned other held token session old ends).congr rfl rfl
    · cases ends

/-- A call that gets the lock is the only one that waits, and has heard nothing yet. -/
theorem prepareOutbound (found : client.calls[index]? = some call)
    (taken : client.prepareOutbound index call = some after) : Orderly setting after := by
  obtain ⟨⟨queued, free⟩, rfl⟩ := Option.ite_some_none_eq_some.mp taken
  -- While the lock is free no call waits.
  have idle : ∀ other, ¬ client.Waits other := by
    intro other waits
    simp [orderly.lock other waits] at free
  have entered : ∀ other, client.Entered other ∨ other = index →
      (client.setCall index { call with phase := .waiting, bound := none }).Entered other := by
    grind [StreamingClient.Entered, StreamingClient.setCall]
  refine ⟨?_, ?_, ?_, ?_, ?_, ?_, orderly.filed, orderly.streamed⟩
  · rintro other ⟨held, read, waiting⟩
    rcases getElem?_set_cases found read with ⟨rfl, -⟩ | ⟨-, old⟩
    · rfl
    · exact absurd ⟨held, old, waiting⟩ (idle other)
  · intro waiter member
    rcases List.mem_append.mp member with old | new
    · exact entered waiter (.inl (orderly.entered waiter old))
    · exact entered waiter (.inr (List.mem_singleton.mp new))
  · intro number issued other read streamed
    obtain ⟨held, present, own⟩ := orderly.own number issued other read streamed
    obtain ⟨kept, still, stays⟩ := exists_getElem?_set
      (fun held kept => kept.issued = held.issued) { call with phase := .waiting, bound := none }
      found (fun _ => rfl) rfl present
    exact ⟨kept, still, stays.trans own⟩
  · intro number issued waiter token read binds
    obtain ⟨named, past, -⟩ := orderly.binding number issued waiter token read binds
    refine ⟨named, entered waiter (.inl past), ?_⟩
    -- The call has just got the lock, so that its placeholder is not bound yet.
    rintro ⟨held, present, waiting⟩
    rcases getElem?_set_cases found present with ⟨rfl, -⟩ | ⟨-, old⟩
    · obtain ⟨before, earlier, entered⟩ := past
      rw [found, Option.some.injEq] at earlier
      exact absurd queued (earlier ▸ entered)
    · exact absurd ⟨held, old, waiting⟩ (idle waiter)
  · intro other held token session read waiting hears
    rcases getElem?_set_cases found read with ⟨rfl, rfl⟩ | ⟨-, old⟩
    · cases hears
    · exact absurd ⟨held, old, waiting⟩ (idle other)
  · intro other held token session read ends
    rcases getElem?_set_cases found read with ⟨rfl, rfl⟩ | ⟨-, old⟩
    · cases ends
    · exact (orderly.returned other held token session old ends).congr rfl rfl

/-- The request that a call issues is its own. -/
theorem issue (found : client.calls[index]? = some call)
    {request : JsonRpcRequest} (taken : client.issue index call request = some after) :
    Orderly setting after := by
  obtain ⟨⟨-, fresh⟩, rfl⟩ := Option.ite_some_none_eq_some.mp taken
  -- A call without a request of its own cannot have heard of its placeholder.
  have moves : CallMoves call { call with issued := some client.requests.length } :=
    ⟨id, id, fun number own => by rw [fresh] at own; cases own⟩
  have noted : Orderly setting
      (client.setCall index { call with issued := some client.requests.length }) := by
    refine orderly.setCall found moves ?_ ?_
    · intro token session waits hears
      exact (orderly.bound index call token session found waits hears).later moves.issued
        (fun _ held found => ⟨held, found, rfl, rfl⟩) (.refl _)
    · intro token session ends
      exact (orderly.returned index call token session found ends).later moves.issued
        (fun _ held found => ⟨held, found, rfl, rfl⟩) (.refl _)
  refine noted.append (.streamed index) request ?_
  rintro other same
  cases same
  refine ⟨{ call with issued := some client.requests.length }, ?_, rfl⟩
  simp only [StreamingClient.setCall, getElem?_set_eq _ found, if_pos]

/-- Whoever waits for the placeholder that a request takes out is the call that has issued it. -/
theorem bindPendingOutboundOpenStream {number : Nat}
    {issued : IssuedRequest} (found : client.requests[number]? = some issued)
    (undisturbed : (CallAction.reach number).undisturbed setting client = true)
    (taken : client.bindPendingOutboundOpenStream setting number issued = some after) :
    Orderly setting after := by
  obtain ⟨-, taken⟩ := Option.ite_none_right_eq_some.mp taken
  split at taken
  · rename_i token waiter rest named queue
    cases taken
    -- The request comes from a call that holds the lock, as no other call does.
    have holder : ∃ holder, issued.origin = .streamed holder ∧ client.Waits holder := by
      simp only [CallAction.undisturbed, found, Option.all_some, named, queue, Option.isNone_some,
        List.isEmpty_cons, Bool.false_or] at undisturbed
      split at undisturbed
      · rename_i holder origin
        simp only [Option.any_eq_true, decide_eq_true_eq] at undisturbed
        exact ⟨holder, origin, undisturbed⟩
      · cases undisturbed
      · cases undisturbed
    obtain ⟨holder, origin, waits⟩ := holder
    have entered := orderly.entered waiter (by rw [queue]; exact List.mem_cons_self)
    have binding : Orderly setting
        { client with requests :=
          client.requests.set number { issued with phase := .binding waiter token } } := by
      refine orderly.setRequest found ?_
      intro other text same
      cases same
      refine ⟨named, entered, ?_⟩
      intro waiting
      have lock := orderly.lock waiter waiting
      rw [orderly.lock holder waits, Option.some.injEq] at lock
      rw [origin, lock]
    refine binding.pending ?_ ?_
    · grind
    · intro item member
      rcases List.mem_append.mp member with old | new
      · exact orderly.streamed item old
      · grind
  · cases taken
    exact orderly.setRequest found fun _ _ same => by cases same

theorem resolve {waiter : Nat} {result : Except OpenStreamError (String × Nat)}
    (serves : ∀ call token session, client.calls[waiter]? = some call → call.phase = .waiting →
      result = .ok (token, session) →
      Serves setting client waiter { call with bound := some result } token session) :
    Orderly setting (client.resolve waiter result) := by
  unfold StreamingClient.resolve
  split
  · rename_i call found
    refine orderly.setCall found ⟨id, id, fun _ => id⟩ ?_ ?_
    · grind
    · intro token session ends
      exact (orderly.returned waiter call token session found ends).later (fun _ => id)
        (fun _ held found => ⟨held, found, rfl, rfl⟩) (.refl _)
  · exact orderly

/-- The reader of a request is found or made under its token, and told to the call. -/
theorem bindReader {number now : Nat}
    {issued : IssuedRequest} (found : client.requests[number]? = some issued)
    (taken : client.bindReader number issued now = some after) : Orderly setting after := by
  simp only [StreamingClient.bindReader] at taken
  split at taken
  · rename_i waiter token phase
    obtain ⟨named, -, own⟩ := orderly.binding number issued waiter token found phase
    have sent : Orderly setting
        { client with requests := client.requests.set number { issued with phase := .sent } } :=
      orderly.setRequest found fun _ _ same => by cases same
    split at taken
    · rename_i session registry created
      cases taken
      obtain ⟨filed, keeps, reader⟩ := orderly.filed.createOutboundOpenStreamSession created
      refine (sent.registry filed keeps).resolve ?_
      intro call text place present waits same
      cases same
      -- A call that waits has issued this very request.
      have origin := own ⟨call, present, waits⟩
      obtain ⟨held, again, mine⟩ := orderly.own number issued waiter found origin
      rw [present, Option.some.injEq] at again
      subst again
      refine ⟨⟨number, { issued with phase := .sent }, mine, ?_, origin, named⟩, reader⟩
      simp only [getElem?_set_eq _ found, if_pos]
    · cases taken
      exact sent.resolve fun _ _ _ _ _ same => by cases same
  · cases taken

/-- A call that ends lets go of the lock, for which no other call was waiting. -/
theorem finish (found : client.calls[index]? = some call)
    (waits : call.phase = .waiting) {phase : CallPhase}
    (ended : phase ≠ .waiting ∧ phase ≠ .queued)
    (returned : ∀ token session, phase = .returned token session →
      Serves setting client index { call with phase } token session) :
    Orderly setting (client.finish index call phase) := by
  have moves : CallMoves call { call with phase } :=
    ⟨fun queued => absurd queued ended.2, fun waiting => absurd waiting ended.1, fun _ => id⟩
  have moved : Orderly setting (client.setCall index { call with phase }) :=
    orderly.setCall found moves (fun _ _ waiting => absurd waiting ended.1) returned
  refine { moved with lock := ?_, bound := ?_, returned := ?_ }
  · -- Whoever still waited would hold the lock that this call has held.
    intro other waiting
    have lock := orderly.lock other (moves.waits_set found waiting)
    rw [orderly.lock index ⟨call, found, waits⟩, Option.some.injEq] at lock
    subst lock
    obtain ⟨held, read, still⟩ := waiting
    rcases getElem?_set_cases found read with ⟨-, rfl⟩ | ⟨different, -⟩
    · exact absurd still ended.1
    · exact absurd rfl different
  · intro other held token session read waiting hears
    exact (moved.bound other held token session read waiting hears).congr rfl rfl
  · intro other held token session read ends
    exact (moved.returned other held token session read ends).congr rfl rfl

theorem conclude (found : client.calls[index]? = some call)
    (taken : client.conclude index call = some after) : Orderly setting after := by
  obtain ⟨waits, taken⟩ := Option.ite_none_right_eq_some.mp taken
  split at taken
  · rename_i token session hears
    cases taken
    refine orderly.finish found waits ⟨by simp, by simp⟩ ?_
    intro text place same
    cases same
    exact (orderly.bound index call token session found waits hears).later (fun _ => id)
      (fun _ held found => ⟨held, found, rfl, rfl⟩) (.refl _)
  · cases taken
    exact orderly.finish found waits ⟨by simp, by simp⟩ (by simp)
  · cases taken

end

end Orderly

/-- Every action keeps the calls in order, as long as they are not disturbed. -/
theorem Orderly.step (orderly : Orderly setting client) {action : CallAction}
    (undisturbed : action.undisturbed setting client = true)
    (taken : client.step setting action = some after) : Orderly setting after := by
  cases action with
  | call =>
    cases taken
    exact orderly.newCall
  | prepare index =>
    obtain ⟨call, found, taken⟩ := Option.bind_eq_some_iff.mp taken
    exact orderly.prepareOutbound found taken
  | issue index request =>
    obtain ⟨call, found, taken⟩ := Option.bind_eq_some_iff.mp taken
    exact orderly.issue found taken
  | ordinary request =>
    cases taken
    exact orderly.append .ordinary request (fun _ same => by cases same)
  | retry request =>
    cases taken
    exact orderly.append .retry request (fun _ same => by cases same)
  | reach number =>
    obtain ⟨issued, found, taken⟩ := Option.bind_eq_some_iff.mp taken
    exact orderly.bindPendingOutboundOpenStream found undisturbed taken
  | bind number now =>
    obtain ⟨issued, found, taken⟩ := Option.bind_eq_some_iff.mp taken
    exact orderly.bindReader found taken
  | conclude index =>
    obtain ⟨call, found, taken⟩ := Option.bind_eq_some_iff.mp taken
    exact orderly.conclude found taken
  | settle index =>
    obtain ⟨call, found, taken⟩ := Option.bind_eq_some_iff.mp taken
    obtain ⟨⟨waits, -⟩, rfl⟩ := Option.ite_some_none_eq_some.mp taken
    have failed : Orderly setting (client.finish index call .failed) :=
      orderly.finish found waits ⟨by simp, by simp⟩ (by simp)
    exact failed.pending (fun _ member => List.mem_of_mem_dropLast member) failed.streamed
  | abandon index =>
    obtain ⟨call, found, taken⟩ := Option.bind_eq_some_iff.mp taken
    obtain ⟨waits, rfl⟩ := Option.ite_some_none_eq_some.mp taken
    exact orderly.finish found waits ⟨by simp, by simp⟩ (by simp)
  | admitFrame now token frame =>
    simp only [StreamingClient.step] at taken
    split at taken
    · rename_i registry admitted
      cases taken
      obtain ⟨filed, keeps⟩ := orderly.filed.admitFrame admitted
      exact orderly.registry filed keeps
    · cases taken
      exact orderly
    · cases taken
      exact orderly
  | use session action =>
    obtain ⟨used, made, rfl⟩ := Option.map_eq_some_iff.mp taken
    obtain ⟨reader, found, taken⟩ := Option.bind_eq_some_iff.mp made
    obtain ⟨filed, keeps⟩ := orderly.filed.use found taken
    exact orderly.registry filed keeps
  | remove token hook =>
    cases taken
    obtain ⟨filed, keeps⟩ := orderly.filed.remove token hook
    exact orderly.registry filed keeps

/--
Each streamed call gets its own stream, as long as it is not disturbed.

Every reader that a call returns was made for the token of the request that this call has issued,
and no ordinary request and no retry has taken out a placeholder.
-/
theorem calls_get_own_streams {policy : OpenStreamRegistryPolicy}
    (reached : Reaches (StreamingClient.step setting)
      (fun client action => action.undisturbed setting client = true) (.start policy) client) :
    (∀ (index : Nat) (call : StreamedCall) (token : String) (session : Nat),
      client.calls[index]? = some call → call.phase = .returned token session →
      Serves setting client index call token session) ∧
    ∀ item ∈ client.consumed, ∃ index, item.2 = .streamed index := by
  have orderly : Orderly setting client := by
    refine reached.invariant ?_ ?_
    · refine ⟨?_, ?_, ?_, ?_, ?_, ?_, ⟨?_, ?_⟩, ?_⟩ <;>
        simp [StreamingClient.start, StreamingClient.Waits, OpenStreamRegistry.withPolicy]
    · intro before action after _ orderly undisturbed taken
      exact orderly.step undisturbed taken
  exact ⟨orderly.returned, orderly.streamed⟩

/-- A client whose tools may stream. -/
def sampleStreaming : StreamingSetting := ⟨.silent, true, .checked⟩

/-- A request for a tool, with the token that was stamped on it. -/
def toolCall (token : UInt64) : JsonRpcRequest :=
  ⟨"2.0", .ofU64 token, "tools/call",
    some (.object [("_meta", .object [("progressToken", .ofU64 token)])])⟩

/-- A call next to an ordinary request that comes after its placeholder was bound. -/
theorem calls_get_own_streams_in_turn :
    ∃ client, Reaches (StreamingClient.step sampleStreaming)
        (fun client action => action.undisturbed sampleStreaming client = true)
        (.start samplePolicy) client ∧
      client.consumed = [(0, .streamed 0)] ∧
      ∃ call, client.calls[0]? = some call ∧ call.phase = .returned "7" 0 ∧
        Serves sampleStreaming client 0 call "7" 0 := by
  refine Reaches.exists_of_any (fun _ _ passed => passed)
    [.call, .prepare 0, .ordinary (toolCall 8), .issue 0 (toolCall 7), .reach 1, .reach 0,
      .bind 1 0, .conclude 0]
    (fun client => client.consumed = [(0, .streamed 0)] ∧ client.calls[0]?.any
      fun call : StreamedCall => call.phase = .returned "7" 0) (by decide +kernel) ?_
  intro client reached checked
  simp only [decide_eq_true_eq, Option.any_eq_true] at checked
  obtain ⟨consumed, call, found, returned⟩ := checked
  exact ⟨consumed, call, found, returned,
    (calls_get_own_streams reached).1 0 call "7" 0 found returned⟩

/-- An ordinary request that gets ahead of a call takes its placeholder, and the call its stream. -/
theorem ordinary_request_takes_stream :
    ∃ client, Reaches (StreamingClient.step sampleStreaming) Unrestricted
        (.start samplePolicy) client ∧
      client.consumed = [(0, .ordinary)] ∧
      ∃ call issued, client.calls[0]? = some call ∧ call.phase = .returned "8" 0 ∧
        call.issued = some 0 ∧ client.requests[0]? = some issued ∧
        sampleStreaming.outboundToken issued.request = some "7" := by
  refine Reaches.exists_of_run
    [.call, .prepare 0, .issue 0 (toolCall 7), .ordinary (toolCall 8), .reach 1, .bind 1 0,
      .reach 0, .conclude 0]
    (fun client => client.consumed = [(0, .ordinary)] ∧
      (client.calls[0]?.any fun call : StreamedCall =>
        call.phase = .returned "8" 0 ∧ call.issued = some 0) ∧
      client.requests[0]?.any fun issued : IssuedRequest =>
        sampleStreaming.outboundToken issued.request = some "7") (by decide +kernel) ?_
  intro client reached checked
  simp only [decide_eq_true_eq, Option.any_eq_true] at checked
  obtain ⟨consumed, ⟨call, found, returned, own⟩, issued, present, named⟩ := checked
  exact ⟨consumed, call, issued, found, returned, own, present, named⟩

end ContextVm.OpenStream
