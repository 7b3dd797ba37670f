import ContextVm.Payments.Canonical
import ContextVm.Transport.Cleanup
import ContextVm.Transport.OpenStream

/-! Which stream the frames of a client go to, while slots come and go. -/

namespace ContextVm

open ClientSession ServerOpenStreamState

/-- An operation on the slot of one event, as one step. -/
inductive SlotOperation where
  -- The ways into the table, and through it.
  | create (token : String) (snapshot : RouteSnapshot)
  | start
  | enter
  | forward
  -- The ways out: the end of a run, the response, and the end of the stream.
  | leave
  | respond (response : JsonRpcMessage)
  | terminate

/-- Whether an operation gives the slot up that it finds. -/
def SlotOperation.givesUp (slot : OpenStreamSlot) : SlotOperation → Bool
  | .leave => slot.liveChains ≤ 1 && !slot.forwarded
  | .respond _ => !slot.hasStarted || slot.terminated
  | .terminate => slot.pendingResponse.isSome
  | _ => false

namespace ServerOpenStreamState

/-- The event whose stream a client's frames under a token belong to. -/
def eventIdForToken (state : ServerOpenStreamState) (clientPubkey token : String) :
    Option String :=
  state.tokenToEvent.lookup (clientTokenKey clientPubkey token)

/-- Perform an operation on the slot of an event. -/
def perform (forms : HexForms) (state : ServerOpenStreamState) (eventId : String) :
    SlotOperation → ServerOpenStreamState
  | .create token snapshot => state.createOpenStreamWriter forms eventId token snapshot
  | .start => state.startWriter eventId
  | .enter => state.enterChain eventId
  | .forward => state.markForwarded eventId
  | .leave => state.leaveChain eventId
  | .respond response => (state.tryDeferOpenStreamResponse eventId response).2
  | .terminate => (state.terminate eventId).2

/-- Whether the slot of an event is that of a client and token. -/
def isOpen (state : ServerOpenStreamState) (eventId client token : String) : Bool :=
  (state.slots.lookup eventId).any fun slot =>
    slot.snapshot.clientPubkey = client && slot.progressToken = token

variable {forms : HexForms} {streams after : ServerOpenStreamState} {eventId : String}
  {slot changed : OpenStreamSlot}

theorem isOpen_iff {client token : String} : streams.isOpen eventId client token = true ↔
    ∃ slot, streams.slots.lookup eventId = some slot ∧ slot.snapshot.clientPubkey = client ∧
      slot.progressToken = token := by
  simp [isOpen, Option.any_eq_true]

theorem lookup_update (streams : ServerOpenStreamState) (change : OpenStreamSlot → OpenStreamSlot) :
    (streams.update eventId change).slots.lookup eventId =
      (streams.slots.lookup eventId).map change := by
  unfold update
  cases known : streams.slots.lookup eventId with
  | none => simp [known]
  | some slot => simp

/-- What an operation can do, other than making a slot. -/
inductive Modified (streams : ServerOpenStreamState) (eventId : String)
    (givesUp : OpenStreamSlot → Bool) : ServerOpenStreamState → Prop
  | kept : Modified streams eventId givesUp streams
  -- A slot that is written again stays that of its client and token.
  | replaced {slot changed : OpenStreamSlot} (found : streams.slots.lookup eventId = some slot)
      (client : changed.snapshot = slot.snapshot)
      (token : changed.progressToken = slot.progressToken) :
      Modified streams eventId givesUp
        { streams with slots := streams.slots.insert eventId changed }
  | released {slot last : OpenStreamSlot} (found : streams.slots.lookup eventId = some slot)
      (given : givesUp slot = true) (client : last.snapshot = slot.snapshot)
      (token : last.progressToken = slot.progressToken) :
      Modified streams eventId givesUp (streams.release eventId last)

section

variable (streams : ServerOpenStreamState) (eventId : String)

theorem modified_leaveChain :
    Modified streams eventId (SlotOperation.leave.givesUp ·) (streams.leaveChain eventId) := by
  unfold leaveChain
  split
  · exact .kept
  · rename_i slot found
    simp only
    split
    · rename_i last
      refine .released found ?_ rfl rfl
      simp only [SlotOperation.givesUp, last.2, Bool.not_false, Bool.and_true, decide_eq_true_eq]
      omega
    · exact .replaced found rfl rfl

theorem modified_tryDefer (response : JsonRpcMessage) :
    Modified streams eventId ((SlotOperation.respond response).givesUp ·)
      (streams.tryDeferOpenStreamResponse eventId response).2 := by
  unfold tryDeferOpenStreamResponse
  split
  · exact .kept
  · rename_i slot found
    split
    · exact .released found (by simp_all [SlotOperation.givesUp]) rfl rfl
    · split
      · exact .released found (by simp_all [SlotOperation.givesUp]) rfl rfl
      · exact .replaced found rfl rfl

theorem modified_terminate :
    Modified streams eventId (SlotOperation.terminate.givesUp ·) (streams.terminate eventId).2 := by
  unfold terminate
  split
  · exact .kept
  · rename_i slot found
    split
    · rename_i waiting
      exact .released found (by simp [SlotOperation.givesUp, waiting]) rfl rfl
    · exact .replaced found rfl rfl

end

/-- Every entry of the index is that of a slot. -/
def Indexed (streams : ServerOpenStreamState) : Prop :=
  ∀ key eventId, streams.tokenToEvent.lookup key = some eventId →
    ∃ slot, streams.slots.lookup eventId = some slot ∧
      key = clientTokenKey slot.snapshot.clientPubkey slot.progressToken

theorem Indexed.replace (indexed : streams.Indexed)
    (found : streams.slots.lookup eventId = some slot) (client : changed.snapshot = slot.snapshot)
    (token : changed.progressToken = slot.progressToken) :
    Indexed { streams with slots := streams.slots.insert eventId changed } := by
  intro key other entry
  obtain ⟨read, known, named⟩ := indexed key other entry
  by_cases same : other = eventId
  · grind [Option.some.injEq, AList.lookup_insert]
  · exact ⟨read, by rwa [AList.lookup_insert_ne same], named⟩

theorem Indexed.release (indexed : streams.Indexed)
    (found : streams.slots.lookup eventId = some slot) {last : OpenStreamSlot}
    (client : last.snapshot = slot.snapshot) (token : last.progressToken = slot.progressToken) :
    (streams.release eventId last).Indexed := by
  intro key other entry
  obtain ⟨read, known, named⟩ := indexed key other (lookup_of_erase entry)
  refine ⟨read, (AList.lookup_erase_ne ?_).trans known, named⟩
  -- The index entry of the slot itself is gone.
  rintro rfl
  rw [found, Option.some.injEq] at known
  subst known
  rw [named, ← client, ← token] at entry
  simp [release] at entry

theorem Indexed.insert (indexed : streams.Indexed)
    (absent : streams.slots.lookup eventId = none) (slot : OpenStreamSlot) :
    Indexed
      { slots := streams.slots.insert eventId slot
        tokenToEvent := streams.tokenToEvent.insert
          (clientTokenKey slot.snapshot.clientPubkey slot.progressToken) eventId } := by
  intro key other entry
  rcases lookup_insert_cases entry with ⟨same, rfl⟩ | old
  · exact ⟨_, AList.lookup_insert _, same⟩
  · obtain ⟨read, known, named⟩ := indexed key other old
    refine ⟨read, (AList.lookup_insert_ne ?_).trans known, named⟩
    rintro rfl
    simp [absent] at known

theorem clientTokenKey_inj {client other token second : String} (free : ':' ∉ client.toList)
    (otherFree : ':' ∉ other.toList)
    (same : clientTokenKey client token = clientTokenKey other second) :
    client = other ∧ token = second := by
  -- Read backwards, the client is what follows the last separator.
  have texts : token.toList.reverse ++ ':' :: client.toList.reverse =
      second.toList.reverse ++ ':' :: other.toList.reverse := by
    simpa [clientTokenKey] using congrArg (fun text => text.toList.reverse) same
  obtain ⟨tokens, clients⟩ := CanonicalInvocationIdentity.append_separator_inj
    (by simpa using free) (by simpa using otherFree) texts
  exact ⟨String.toList_inj.mp (List.reverse_injective clients),
    String.toList_inj.mp (List.reverse_injective tokens)⟩

end ServerOpenStreamState

/-- The slots of a server, and for each client and token the event that was given one last. -/
structure SlotHistory where
  streams : ServerOpenStreamState
  newest : String → String → Option String

namespace SlotHistory

/-- One operation, on the slot of any event. -/
def step (forms : HexForms) (history : SlotHistory) (action : String × SlotOperation) :
    Option SlotHistory :=
  let streams := history.streams.perform forms action.1 action.2
  some
    { streams
      newest := match history.streams.slots.lookup action.1, streams.slots.lookup action.1 with
        | none, some slot => fun client token =>
          if client = slot.snapshot.clientPubkey ∧ token = slot.progressToken then some action.1
          else history.newest client token
        | _, _ => history.newest }

/-- No slots yet. -/
def start : SlotHistory := ⟨.empty, fun _ _ => none⟩

/-- Whether no slot is given up while a later one of its client and token is open. -/
def inOrder (history : SlotHistory) (action : String × SlotOperation) : Bool :=
  (history.streams.slots.lookup action.1).all fun slot => !action.2.givesUp slot ||
    (history.newest slot.snapshot.clientPubkey slot.progressToken).all fun newest =>
      newest = action.1 ||
        !history.streams.isOpen newest slot.snapshot.clientPubkey slot.progressToken

open ServerOpenStreamState

/-- An operation makes a slot where there is none, or else does what those without a slot do. -/
theorem perform_cases (forms : HexForms) (streams : ServerOpenStreamState) (eventId : String)
    (operation : SlotOperation) :
    (∃ slot, streams.slots.lookup eventId = none ∧
      forms.isPublicKey slot.snapshot.clientPubkey = true ∧
      streams.perform forms eventId operation =
        { slots := streams.slots.insert eventId slot
          tokenToEvent := streams.tokenToEvent.insert
            (clientTokenKey slot.snapshot.clientPubkey slot.progressToken)
            eventId }) ∨
      streams.Modified eventId (operation.givesUp ·) (streams.perform forms eventId operation) := by
  cases operation with
  | create token snapshot =>
    simp only [perform, createOpenStreamWriter]
    split
    · rename_i valid
      split
      · exact .inr .kept
      · grind
    · exact .inr .kept
  | start | enter | forward =>
    refine .inr ?_
    simp only [perform, startWriter, enterChain, markForwarded, update]
    split
    · rename_i slot found
      exact .replaced found rfl rfl
    · exact .kept
  | leave => exact .inr (modified_leaveChain streams eventId)
  | respond response =>
    exact .inr (modified_tryDefer streams eventId response)
  | terminate => exact .inr (modified_terminate streams eventId)

variable {forms : HexForms} {history after : SlotHistory} {action : String × SlotOperation}

/-- What the index leads to is open, and the slots are those of public keys. -/
structure Sound (forms : HexForms) (history : SlotHistory) : Prop where
  indexed : history.streams.Indexed
  clients : ∀ eventId slot, history.streams.slots.lookup eventId = some slot →
    forms.isPublicKey slot.snapshot.clientPubkey = true

/-- Every operation keeps the index sound. -/
theorem Sound.step (sound : history.Sound forms) (taken : step forms history action = some after) :
    after.Sound forms := by
  cases taken
  rcases perform_cases forms history.streams action.1 action.2 with
    ⟨slot, absent, valid, made⟩ | modified
  · refine ⟨made ▸ sound.indexed.insert absent slot, ?_⟩
    intro other read known
    simp only [made] at known
    rcases lookup_insert_cases known with ⟨-, rfl⟩ | old
    · exact valid
    · exact sound.clients other read old
  · generalize history.streams.perform forms action.1 action.2 = streams at modified
    cases modified with
    | kept => exact ⟨sound.indexed, sound.clients⟩
    | replaced found client token =>
      refine ⟨sound.indexed.replace found client token, ?_⟩
      intro other read known
      rcases lookup_insert_cases known with ⟨-, rfl⟩ | old
      · rw [client]
        exact sound.clients _ _ found
      · exact sound.clients other read old
    | released found given client token =>
      exact ⟨sound.indexed.release found client token,
        fun other read known => sound.clients other read (lookup_of_erase known)⟩

/-- The newest slot of a client and token is the one the index leads to, while it is open. -/
def Current (history : SlotHistory) : Prop :=
  ∀ client token eventId, history.newest client token = some eventId →
    history.streams.isOpen eventId client token = true →
    history.streams.eventIdForToken client token = some eventId

theorem Sound.apart (sound : history.Sound forms)
    (hex : ∀ text, forms.isPublicKey text = true → ':' ∉ text.toList)
    {eventId client token other second : String}
    (opened : history.streams.isOpen eventId client token = true)
    (valid : forms.isPublicKey other = true)
    (same : clientTokenKey client token =
      clientTokenKey other second) : client = other ∧ token = second := by
  obtain ⟨slot, found, rfl, rfl⟩ := isOpen_iff.mp opened
  exact clientTokenKey_inj (hex _ (sound.clients _ _ found)) (hex _ valid) same

/-- Operations that give slots up in order keep the newest ones in the index. -/
theorem Current.step (current : history.Current) (sound : history.Sound forms)
    (hex : ∀ text, forms.isPublicKey text = true → ':' ∉ text.toList)
    (ordered : history.inOrder action = true) (taken : step forms history action = some after) :
    after.Current := by
  cases taken
  intro client token eventId newest opened
  obtain ⟨left, known, named⟩ := isOpen_iff.mp opened
  rcases perform_cases forms history.streams action.1 action.2 with
    ⟨slot, absent, valid, made⟩ | modified
  · simp only [made, absent, AList.lookup_insert, eventIdForToken] at newest known ⊢
    split at newest
    · -- The slot that was made is the newest one of its client and token.
      rename_i own
      cases newest
      rw [own.1, own.2, AList.lookup_insert]
    · rename_i other
      rcases lookup_insert_cases known with ⟨-, rfl⟩ | old
      · exact absurd ⟨named.1.symm, named.2.symm⟩ other
      · have before := isOpen_iff.mpr ⟨left, old, named⟩
        rw [AList.lookup_insert_ne]
        · exact current client token eventId newest before
        · exact fun keys => other (sound.apart hex before valid keys)
  · generalize history.streams.perform forms action.1 action.2 = streams at modified newest known ⊢
    cases modified with
    | kept =>
      refine current client token eventId ?_ (isOpen_iff.mpr ⟨left, known, named⟩)
      split at newest <;> simp_all
    | replaced found kept same =>
      simp only [found] at newest
      refine current client token eventId newest (isOpen_iff.mpr ?_)
      rcases lookup_insert_cases known with ⟨own, rfl⟩ | old
      · exact ⟨_, own ▸ found, kept ▸ named.1, same ▸ named.2⟩
      · exact ⟨left, old, named⟩
    | released found given kept same =>
      rename_i slot last
      simp only [found] at newest
      have before := isOpen_iff.mpr ⟨left, lookup_of_erase known, named⟩
      refine (AList.lookup_erase_ne ?_).trans (current client token eventId newest before)
      -- The entry is not the one that goes, since the slot that goes is not a newer one's elder.
      intro keys
      rw [kept, same] at keys
      obtain ⟨rfl, rfl⟩ := sound.apart hex before (sound.clients _ _ found) keys
      simp only [inOrder, found, Option.all_some, given, newest, Bool.not_true, Bool.false_or,
        Bool.or_eq_true, decide_eq_true_eq, Bool.not_eq_true'] at ordered
      rcases ordered with gone | closed
      · rw [gone, show (release _ action.1 last).slots.lookup action.1 = none
          from AList.lookup_erase _ _] at known
        cases known
      · grind

/--
Frames find the newest open stream of their client and token, if slots are given up in order.

Whatever the order, they never find a stream that has no slot, or one of another client.
-/
theorem newest_stream_found (forms : HexForms)
    (hex : ∀ text, forms.isPublicKey text = true → ':' ∉ text.toList) :
    (∀ history, Reaches (step forms) (fun before action => before.inOrder action = true) start
        history → ∀ client token eventId,
      history.newest client token = some eventId →
      history.streams.isOpen eventId client token = true →
      history.streams.eventIdForToken client token = some eventId) ∧
    ∀ history, Reaches (step forms) Unrestricted start history → ∀ client token eventId,
      forms.isPublicKey client = true →
      history.streams.eventIdForToken client token = some eventId →
      history.streams.isOpen eventId client token = true := by
  have sound {permitted} {history : SlotHistory}
      (reached : Reaches (step forms) permitted start history) : history.Sound forms := by
    refine reached.invariant ⟨?_, ?_⟩ fun _ _ _ _ sound _ taken => sound.step taken
    · intro key eventId entry
      cases entry
    · intro eventId slot found
      cases found
  refine ⟨fun history reached => ?_, fun history reached client token eventId valid entry => ?_⟩
  · change history.Current
    refine reached.invariant ?_ ?_
    · intro client token eventId newest
      cases newest
    · intro before action after earlier current allowed taken
      exact current.step (sound earlier) hex allowed taken
  · obtain ⟨slot, found, named⟩ := (sound reached).indexed _ _ entry
    obtain ⟨rfl, rfl⟩ := clientTokenKey_inj (hex _ valid)
      (hex _ ((sound reached).clients _ _ found)) named
    exact isOpen_iff.mpr ⟨slot, found, rfl, rfl⟩

/-- Keys and event ids are written as 64 hex digits. -/
def sampleForms : HexForms := ⟨isHex64, isHex64⟩

/-- A call under the token of every client's first one. -/
def sampleCreation : SlotOperation := .create "0" ⟨aliceKey, .ofU64 1, false, none⟩

/-- What the tool of the first event answers. -/
def sampleResponse : JsonRpcMessage := .response ⟨"2.0", .string firstEvent, .object []⟩

/-- A stream is found that was opened after the earlier one under its token was answered. -/
theorem newest_stream_found_later : ∃ history : SlotHistory,
    Reaches (step sampleForms) (fun before action => before.inOrder action = true) start history ∧
      (history.newest aliceKey "0" = some secondEvent ∧
        history.streams.isOpen secondEvent aliceKey "0" = true) ∧
      history.streams.eventIdForToken aliceKey "0" = some secondEvent := by
  obtain ⟨history, reached, newest, opened⟩ := Reaches.of_any (fun _ _ passed => passed)
    [(firstEvent, sampleCreation), (firstEvent, .respond sampleResponse),
      (secondEvent, sampleCreation)]
    (fun history => history.newest aliceKey "0" = some secondEvent ∧
      history.streams.isOpen secondEvent aliceKey "0" = true)
    (by decide +kernel : ((execute (guarded inOrder (step sampleForms)) start _).any _ = true))
  have found := (newest_stream_found sampleForms fun _ => separator_of_isHex64).1 history reached
  exact ⟨history, reached, ⟨newest, opened⟩, found _ _ _ newest opened⟩

/-- A stream is not found any more once the earlier one under its token is answered. -/
theorem newest_stream_lost : ¬ ∀ history,
    Reaches (step sampleForms) Unrestricted start history → ∀ client token eventId,
      history.newest client token = some eventId →
      history.streams.isOpen eventId client token = true →
      history.streams.eventIdForToken client token = some eventId := by
  intro all
  obtain ⟨history, reached, newest, opened, lost⟩ := Reaches.of_run
    [(firstEvent, sampleCreation), (secondEvent, sampleCreation),
      (firstEvent, .respond sampleResponse)]
    (fun history => history.newest aliceKey "0" = some secondEvent ∧
      history.streams.isOpen secondEvent aliceKey "0" = true ∧
      history.streams.eventIdForToken aliceKey "0" = none)
    (by decide +kernel : ((execute (step sampleForms) start _).any _ = true))
  have found := all history reached _ _ _ newest opened
  simp [lost] at found

end SlotHistory

end ContextVm
