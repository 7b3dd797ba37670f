import ContextVm.Core.Hex
import ContextVm.Payments.Types

/-! The canonical identity of an invocation, and the store key derived from it. -/

namespace ContextVm

/-- The functions the identity rests on that live outside the repository. -/
structure Digests where
  /-- The SHA-256 digest of the text's UTF-8 bytes. -/
  sha256 : String → List UInt8
  /-- The RFC 8785 serialization, absent when the engine refuses the value. -/
  jcs : Json → Option String

/-- The largest integer every JSON peer reads exactly. -/
def maxSafeInteger : Nat := 9007199254740991

mutual

/-- Whether a value holds an integer outside the range every peer reads exactly. -/
def containsUnsafeJsonInteger : Json → Bool
  | .number (.posInt value) => maxSafeInteger < value.toNat
  | .number (.negInt value) => value < -(maxSafeInteger : Int)
  -- Floats serialize alike on every peer, whatever their size.
  | .number (.float _) => false
  | .array items => containsUnsafeItem items
  | .object fields => containsUnsafeField fields
  | .null | .bool _ | .string _ => false

/-- The same search over the items of an array. -/
def containsUnsafeItem : List Json → Bool
  | [] => false
  | item :: rest => containsUnsafeJsonInteger item || containsUnsafeItem rest

/-- The same search over the values of an object. -/
def containsUnsafeField : List (String × Json) → Bool
  | [] => false
  | field :: rest => containsUnsafeJsonInteger field.2 || containsUnsafeField rest

end

/-- The parameters that count towards an identity: all of them but a top-level `_meta`. -/
def semanticParams : Json → Json
  -- The key is removed at the top level only, so a nested one keeps its meaning.
  | .object fields => .object (fields.filter fun field => field.1 ≠ "_meta")
  | other => other

/-- The canonical text of an invocation. -/
def canonicalPayloadString (digests : Digests) (method : String) (params : Option Json) :
    Except PaymentError String :=
  let payload : Json := .object (Fields.present
    [("method", some (.string method)), ("params", params.map semanticParams)])
  -- The range is checked before the engine runs, whose own check can overflow.
  if containsUnsafeJsonInteger payload then .error (.canonicalize method)
  else match digests.jcs payload with
    | some text => .ok text
    | none => .error (.canonicalize method)

/-- The invocation hash, in lowercase hexadecimal. -/
def computeCanonicalInvocationHash (digests : Digests) (method : String) (params : Option Json) :
    Except PaymentError String :=
  (canonicalPayloadString digests method params).map fun text => hexEncode (digests.sha256 text)

/-- An invocation hash is an encoded digest. -/
theorem lowerHex_of_computed {digests : Digests} {method hash : String} {params : Option Json}
    (computed : computeCanonicalInvocationHash digests method params = .ok hash) :
    LowerHex hash := by
  unfold computeCanonicalInvocationHash at computed
  cases payload : canonicalPayloadString digests method params with
  | error fault => simp [payload, Except.map] at computed
  | ok text =>
    rw [payload] at computed
    cases computed
    exact hexEncode_lowerHex _

/-- The client and the invocation an authorization belongs to. -/
structure CanonicalInvocationIdentity where
  clientPubkey : String
  invocationHash : String
  /-- The hash is the encoded digest and nothing else. -/
  hex : LowerHex invocationHash
  deriving DecidableEq

/-- The identity of one invocation, computed hash first. -/
def computeCanonicalInvocationIdentity (digests : Digests) (clientPubkey method : String)
    (params : Option Json) : Except PaymentError CanonicalInvocationIdentity :=
  match computed : computeCanonicalInvocationHash digests method params with
  | .error fault => .error fault
  | .ok invocationHash => .ok { clientPubkey, invocationHash, hex := lowerHex_of_computed computed }

/-- An identity is computed exactly if it is that of the client with the computed hash. -/
theorem computeCanonicalInvocationIdentity_eq_ok {digests : Digests} {clientPubkey method : String}
    {params : Option Json} {identity : CanonicalInvocationIdentity} :
    computeCanonicalInvocationIdentity digests clientPubkey method params = .ok identity ↔
      clientPubkey = identity.clientPubkey ∧
        computeCanonicalInvocationHash digests method params = .ok identity.invocationHash := by
  cases identity with
  | mk client hash hex =>
    unfold computeCanonicalInvocationIdentity
    split <;> simp_all

namespace CanonicalInvocationIdentity

/-- The composite key an authorization is stored under. -/
def key (identity : CanonicalInvocationIdentity) : String :=
  identity.clientPubkey ++ ":" ++ identity.invocationHash

/-- A text is split at its last separator in one way. -/
theorem append_separator_inj {left right otherLeft otherRight : List Char} {separator : Char}
    (free : separator ∉ right) (otherFree : separator ∉ otherRight)
    (same : left ++ separator :: right = otherLeft ++ separator :: otherRight) :
    left = otherLeft ∧ right = otherRight := by
  -- Cut both texts behind the last separator, which is where the right halves begin.
  rcases List.append_eq_append_iff.mp same with ⟨gap, grown, rest⟩ | ⟨gap, grown, rest⟩
  · cases gap with
    | nil => simp_all
    | cons first gap => grind
  · cases gap with
    | nil => simp_all
    | cons first gap => grind

/-- The key of an identity tells it apart. -/
theorem key_injective {identity other : CanonicalInvocationIdentity}
    (same : identity.key = other.key) : identity = other := by
  -- The separator is no hexadecimal digit, so the hash is what follows the last one.
  have free (one : CanonicalInvocationIdentity) : ':' ∉ one.invocationHash.toList := by
    intro member
    have := one.hex _ member
    simp [lowerHexDigits] at this
  have texts : identity.clientPubkey.toList ++ ':' :: identity.invocationHash.toList =
      other.clientPubkey.toList ++ ':' :: other.invocationHash.toList := by
    simpa [key] using congrArg String.toList same
  -- So both halves agree, and they are all an identity has.
  obtain ⟨pubkeys, hashes⟩ := append_separator_inj (free identity) (free other) texts
  cases identity
  cases other
  simp only [String.toList_inj] at pubkeys hashes
  simp [pubkeys, hashes]

end CanonicalInvocationIdentity

end ContextVm
