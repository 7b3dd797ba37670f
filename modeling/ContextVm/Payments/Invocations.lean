import Mathlib.Data.Set.Function
import ContextVm.Payments.Canonical

/-! Which invocations share an identity. -/

namespace ContextVm

/-- The value of a number, however it is held. -/
def JsonNumber.value : JsonNumber → ℚ
  | .posInt value => value.toNat
  | .negInt value => value
  | .float value => value

/--
An integer outside the range every peer reads exactly.

A number that is held as a float is no integer here, whatever its value.
-/
def JsonNumber.Unsafe : JsonNumber → Prop
  | .posInt value => maxSafeInteger < value.toNat
  | .negInt value => value < -(maxSafeInteger : Int)
  | .float _ => False

namespace Json

/-- Values that are the same, whatever the order of their fields and however numbers are held. -/
inductive Same : Json → Json → Prop
  | null : Same .null .null
  | bool (value : Bool) : Same (.bool value) (.bool value)
  | number {one other : JsonNumber} (equal : one.value = other.value) :
      Same (.number one) (.number other)
  | string (value : String) : Same (.string value) (.string value)
  | array {items others : List Json} (each : List.Forall₂ Same items others) :
      Same (.array items) (.array others)
  | object {fields others : List (String × Json)}
      (each : ∀ key, Option.Rel Same (fields.lookup key) (others.lookup key)) :
      Same (.object fields) (.object others)

/-- A number occurs somewhere in a value. -/
inductive Holds (number : JsonNumber) : Json → Prop
  | here : Holds number (.number number)
  | item {items : List Json} {item : Json} (member : item ∈ items) (inside : Holds number item) :
      Holds number (.array items)
  | field {fields : List (String × Json)} {field : String × Json} (member : field ∈ fields)
      (inside : Holds number field.2) : Holds number (.object fields)

end Json

mutual

/-- The search finds an unsafe integer exactly if one occurs. -/
theorem containsUnsafeJsonInteger_iff (value : Json) : containsUnsafeJsonInteger value = true ↔
    ∃ number, Json.Holds number value ∧ number.Unsafe := by
  cases value with
  | null | bool | string =>
    refine iff_of_false Bool.false_ne_true ?_
    rintro ⟨number, inside, -⟩
    cases inside
  | number number =>
    have found : containsUnsafeJsonInteger (.number number) = true ↔ number.Unsafe := by
      cases number with
      | posInt | negInt => exact decide_eq_true_iff
      | float => exact iff_of_false Bool.false_ne_true not_false
    rw [found]
    constructor
    · intro large
      exact ⟨number, .here, large⟩
    · rintro ⟨other, inside, large⟩
      cases inside
      exact large
  | array items =>
    rw [containsUnsafeJsonInteger, containsUnsafeItem_iff items]
    constructor
    · rintro ⟨item, member, number, inside, large⟩
      exact ⟨number, .item member inside, large⟩
    · rintro ⟨number, inside, large⟩
      cases inside with
      | item member inside => exact ⟨_, member, number, inside, large⟩
  | object fields =>
    rw [containsUnsafeJsonInteger, containsUnsafeField_iff fields]
    constructor
    · rintro ⟨field, member, number, inside, large⟩
      exact ⟨number, .field member inside, large⟩
    · rintro ⟨number, inside, large⟩
      cases inside with
      | field member inside => exact ⟨_, member, number, inside, large⟩

theorem containsUnsafeItem_iff (items : List Json) : containsUnsafeItem items = true ↔
    ∃ item ∈ items, ∃ number, Json.Holds number item ∧ number.Unsafe := by
  cases items with
  | nil => simp [containsUnsafeItem]
  | cons item rest =>
    rw [containsUnsafeItem, Bool.or_eq_true, containsUnsafeJsonInteger_iff item,
      containsUnsafeItem_iff rest]
    simp

theorem containsUnsafeField_iff (fields : List (String × Json)) :
    containsUnsafeField fields = true ↔
      ∃ field ∈ fields, ∃ number, Json.Holds number field.2 ∧ number.Unsafe := by
  cases fields with
  | nil => simp [containsUnsafeField]
  | cons field rest =>
    rw [containsUnsafeField, Bool.or_eq_true, containsUnsafeJsonInteger_iff field.2,
      containsUnsafeField_iff rest]
    simp

end

/-- What is canonicalized for an invocation. -/
def invocationPayload (method : String) (params : Option Json) : Json :=
  .object (Fields.present
    [("method", some (.string method)), ("params", params.map semanticParams)])

theorem lookup_invocationPayload (method : String) (params : Option Json) (key : String) :
    (invocationPayload method params).get key =
      if key = "params" then params.map semanticParams
      else if key = "method" then some (.string method) else none := by
  cases params with
  | none =>
    simp only [invocationPayload, Json.get, Fields.present, List.foldl, Option.map_none,
      Fields.lookup_insert]
    split <;> simp_all
  | some value =>
    simp only [invocationPayload, Json.get, Fields.present, List.foldl, Option.map_some,
      Fields.lookup_insert, List.lookup_nil]

/-- Payloads are the same exactly if their methods are, and what counts of the parameters. -/
theorem same_invocationPayload {method second : String} {params others : Option Json} :
    (invocationPayload method params).Same (invocationPayload second others) ↔
      method = second ∧
        Option.Rel Json.Same (params.map semanticParams) (others.map semanticParams) := by
  have reads : (invocationPayload method params).Same (invocationPayload second others) ↔
      ∀ key, Option.Rel Json.Same ((invocationPayload method params).get key)
        ((invocationPayload second others).get key) := by
    constructor
    · intro same
      cases same with
      | object each => exact each
    · exact .object
  rw [reads]
  constructor
  · intro each
    have methods := each "method"
    have parameters := each "params"
    simp only [lookup_invocationPayload, String.reduceEq, if_false, if_true] at methods parameters
    refine ⟨?_, parameters⟩
    cases methods with
    | some same =>
      cases same
      rfl
  · rintro ⟨rfl, parameters⟩ key
    rw [lookup_invocationPayload, lookup_invocationPayload]
    split
    · exact parameters
    · split
      · exact .some (.string method)
      · exact .none

theorem containsUnsafe_invocationPayload (method : String) (params : Option Json) :
    containsUnsafeJsonInteger (invocationPayload method params) = false ↔
      ∀ value ∈ params, ∀ number, Json.Holds number (semanticParams value) → ¬ number.Unsafe := by
  cases params with
  | none => simp [invocationPayload, Fields.present, Fields.insert, containsUnsafeJsonInteger,
      containsUnsafeField]
  | some value =>
    -- Only the parameters can hold a number.
    have payload : containsUnsafeJsonInteger (invocationPayload method (some value)) =
        (false || (containsUnsafeJsonInteger (semanticParams value) || false)) := by
      have built : invocationPayload method (some value) =
          .object [("method", .string method), ("params", semanticParams value)] := by
        have later : keyBefore "params" "method" = false := by decide
        simp [invocationPayload, Fields.present, Fields.insert, later]
      rw [built]
      rfl
    rw [payload, Bool.false_or, Bool.or_false, ← Bool.not_eq_true,
      containsUnsafeJsonInteger_iff (semanticParams value)]
    simp

/-- Bytes can be read back from their digits. -/
theorem hexEncode_injective : Function.Injective hexEncode := by
  intro bytes others same
  have digits : ∀ high low : Fin 16, lowerHexDigits.getD high '0' = lowerHexDigits.getD low '0' →
      high = low := by decide
  have octets (byte other : UInt8) (equal : hexOctet byte = hexOctet other) : byte = other := by
    simp only [hexOctet, List.cons.injEq, and_true] at equal
    have bound := byte.toNat_lt
    have otherBound := other.toNat_lt
    have high := digits ⟨byte.toNat / 16, by omega⟩ ⟨other.toNat / 16, by omega⟩ equal.1
    have low := digits ⟨byte.toNat % 16, by omega⟩ ⟨other.toNat % 16, by omega⟩ equal.2
    rw [Fin.mk.injEq] at high low
    exact UInt8.toNat_inj.mp (by omega)
  have texts := String.ofList_injective same
  -- Byte by byte, each of which takes two digits.
  induction bytes generalizing others with
  | nil =>
    cases others with
    | nil => rfl
    | cons other rest => simp [hexOctet] at texts
  | cons byte bytes ih =>
    cases others with
    | nil => simp [hexOctet] at texts
    | cons other rest =>
      obtain ⟨first, later⟩ := List.append_inj texts rfl
      rw [octets byte other first, ih (congrArg String.ofList later) later]

/-- What is taken as given of the digests, for the values they are used on and their texts. -/
structure Digests.Faithful (digests : Digests) (values : Set Json) : Prop where
  sha256 : Set.InjOn digests.sha256 {text | ∃ value ∈ values, digests.jcs value = some text}
  total : ∀ value ∈ values, (digests.jcs value).isSome = true
  jcs : ∀ value ∈ values, ∀ other ∈ values, digests.jcs value = digests.jcs other ↔ value.Same other

/-- A payload has a hash if no unsafe integer is in it, and that is the digest of its text. -/
theorem Digests.Faithful.hash_eq_ok {digests : Digests} {values : Set Json}
    (faithful : digests.Faithful values) {method : String} {params : Option Json}
    (member : containsUnsafeJsonInteger (invocationPayload method params) = false →
      invocationPayload method params ∈ values) (hash : String) :
    computeCanonicalInvocationHash digests method params = .ok hash ↔
      containsUnsafeJsonInteger (invocationPayload method params) = false ∧
        ∃ text, digests.jcs (invocationPayload method params) = some text ∧
          hash = hexEncode (digests.sha256 text) := by
  unfold computeCanonicalInvocationHash canonicalPayloadString
  cases found : containsUnsafeJsonInteger (invocationPayload method params) with
  | true => grind [invocationPayload, Except.map]
  | false =>
    -- The engine refuses nothing that has passed the check.
    obtain ⟨text, read⟩ := Option.isSome_iff_exists.mp (faithful.total _ (member found))
    simp only [invocationPayload] at found read ⊢
    simp [found, read, Except.map, eq_comm]

/--
Identities tell invocations apart, and only those.

There is one exactly if no unsafe integer occurs in the parameters outside their `_meta`. Two are
equal exactly if the clients are, the methods are, and the parameters without their `_meta` are the
same.
-/
theorem identity_of_invocation {digests : Digests} {values : Set Json}
    (faithful : digests.Faithful values) (client other method second : String)
    (params others : Option Json)
    (covers : ∀ payload ∈ [invocationPayload method params, invocationPayload second others],
      containsUnsafeJsonInteger payload = false → payload ∈ values) :
    ((∃ identity, computeCanonicalInvocationIdentity digests client method params = .ok identity) ↔
      ∀ value ∈ params, ∀ number, Json.Holds number (semanticParams value) → ¬ number.Unsafe) ∧
    ∀ identity twin,
      computeCanonicalInvocationIdentity digests client method params = .ok identity →
      computeCanonicalInvocationIdentity digests other second others = .ok twin →
      (identity = twin ↔ client = other ∧ method = second ∧
        Option.Rel Json.Same (params.map semanticParams) (others.map semanticParams)) := by
  have here := faithful.hash_eq_ok (covers (invocationPayload method params) (by simp))
  have there := faithful.hash_eq_ok (covers (invocationPayload second others) (by simp))
  refine ⟨?_, ?_⟩
  · rw [← containsUnsafe_invocationPayload method params]
    simp only [computeCanonicalInvocationIdentity_eq_ok]
    constructor
    · rintro ⟨identity, -, hashed⟩
      exact ((here _).mp hashed).1
    · intro safe
      obtain ⟨text, read⟩ := Option.isSome_iff_exists.mp
        (faithful.total _ (covers _ (by simp) safe))
      exact ⟨⟨client, _, hexEncode_lowerHex _⟩, rfl, (here _).mpr ⟨safe, text, read, rfl⟩⟩
  · intro identity twin ok twinOk
    obtain ⟨rfl, hashed⟩ := computeCanonicalInvocationIdentity_eq_ok.mp ok
    obtain ⟨rfl, twinHashed⟩ := computeCanonicalInvocationIdentity_eq_ok.mp twinOk
    obtain ⟨safe, text, read, hash⟩ := (here _).mp hashed
    obtain ⟨twinSafe, twinText, twinRead, twinHash⟩ := (there _).mp twinHashed
    have inside := covers (invocationPayload method params) (by simp) safe
    have twinInside := covers (invocationPayload second others) (by simp) twinSafe
    -- The texts are equal exactly if the payloads are the same, and the digests if the texts are.
    have hashes : identity.invocationHash = twin.invocationHash ↔ text = twinText := by
      rw [hash, twinHash, hexEncode_injective.eq_iff]
      exact faithful.sha256.eq_iff ⟨_, inside, read⟩ ⟨_, twinInside, twinRead⟩
    have texts := faithful.jcs _ inside _ twinInside
    rw [read, twinRead, Option.some.injEq, same_invocationPayload] at texts
    rw [← texts, ← hashes]
    cases identity
    cases twin
    simp

/-- Parameters that are nothing but a `_meta`. -/
def onlyMeta : Option Json := some (.object [("_meta", .object [("progressToken", .string "1")])])

/-- The canonical texts of a `ping` without parameters and with empty ones, and their digests. -/
def pingDigests : Digests where
  jcs := fun value =>
    if value = invocationPayload "ping" none then some "\x7b\"method\":\"ping\"\x7d"
    else if value = invocationPayload "ping" onlyMeta then
      some "\x7b\"method\":\"ping\",\"params\":\x7b\x7d\x7d"
    else none
  sha256 := fun text =>
    if text = "\x7b\"method\":\"ping\"\x7d" then
      [46, 177, 110, 49, 192, 24, 42, 91, 223, 40, 0, 180, 190, 255, 178, 172, 245, 9, 189, 225,
        22, 4, 189, 8, 123, 179, 19, 112, 46, 205, 220, 201]
    else if text = "\x7b\"method\":\"ping\",\"params\":\x7b\x7d\x7d" then
      [135, 67, 144, 21, 204, 184, 85, 148, 110, 67, 106, 123, 243, 38, 72, 24, 212, 123, 45, 19,
        83, 179, 11, 55, 126, 233, 95, 213, 221, 235, 173, 237]
    else []

/-- Missing parameters are not those of an object that has nothing but a `_meta`. -/
theorem identity_of_invocation_missing : ∃ identity twin,
    pingDigests.Faithful {invocationPayload "ping" none, invocationPayload "ping" onlyMeta} ∧
      computeCanonicalInvocationIdentity pingDigests aliceKey "ping" none = .ok identity ∧
      identity.invocationHash = "2eb16e31c0182a5bdf2800b4beffb2acf509bde11604bd087bb313702ecddcc9" ∧
      computeCanonicalInvocationIdentity pingDigests aliceKey "ping" onlyMeta = .ok twin ∧
      twin.invocationHash = "87439015ccb855946e436a7bf3264818d47b2d1353b30b377ee95fd5ddebaded" ∧
      identity ≠ twin := by
  have apart (params others : Option Json) (differ : params.isSome ≠ others.isSome) :
      ¬ (invocationPayload "ping" params).Same (invocationPayload "ping" others) := by
    rw [same_invocationPayload]
    rintro ⟨-, same⟩
    cases params <;> cases others <;> cases same <;> simp at differ
  have same : (invocationPayload "ping" none).Same (invocationPayload "ping" none) :=
    same_invocationPayload.mpr ⟨rfl, .none⟩
  have same' : (invocationPayload "ping" onlyMeta).Same (invocationPayload "ping" onlyMeta) :=
    same_invocationPayload.mpr ⟨rfl, .some (.object fun _ => .none)⟩
  have differ : invocationPayload "ping" onlyMeta ≠ invocationPayload "ping" none := by decide
  have faithful : pingDigests.Faithful
      {invocationPayload "ping" none, invocationPayload "ping" onlyMeta} := by
    refine ⟨?_, ?_, ?_⟩
    · rintro _ ⟨_, rfl | rfl, read⟩ _ ⟨_, rfl | rfl, again⟩ equal <;>
        simp only [pingDigests, differ, if_true, if_false, Option.some.injEq] at read again <;>
        subst read again <;> first | rfl | simp [pingDigests] at equal
    · rintro _ (rfl | rfl) <;> simp [pingDigests, differ]
    · rintro _ (rfl | rfl) _ (rfl | rfl)
      · simp [same]
      · simp [pingDigests, differ, apart none onlyMeta (by decide)]
      · simp [pingDigests, differ, apart onlyMeta none (by decide)]
      · simp [same']
  obtain ⟨-, separate⟩ := identity_of_invocation faithful aliceKey aliceKey "ping" "ping" none
    onlyMeta fun payload member _ => List.mem_pair.mp member
  refine ⟨_, _, faithful, rfl, by decide, rfl, by decide, fun equal => ?_⟩
  obtain ⟨-, -, rel⟩ := (separate _ _ rfl rfl).mp equal
  cases rel

end ContextVm
