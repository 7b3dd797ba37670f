import Mathlib.Data.Rat.Defs

/-! JSON values as the transport holds them, and the JSON-RPC messages built from them. -/

namespace ContextVm

/-- The three ways a JSON number is held once parsed. -/
inductive JsonNumber where
  /-- An integer that fits an unsigned 64-bit word. -/
  | posInt (value : UInt64)
  /-- A negative integer that fits a signed 64-bit word. -/
  | negInt (value : Int)
  /-- Every other finite number, by the exact value of the float it was read as. -/
  | float (value : ℚ)
  deriving DecidableEq

/-- A JSON value, whose objects keep their fields as a list, the first one of a key in force. -/
inductive Json where
  | null
  | bool (value : Bool)
  | number (value : JsonNumber)
  | string (value : String)
  | array (items : List Json)
  | object (fields : List (String × Json))

mutual

/-- Equality of two JSON values can be decided. -/
def Json.decEq : (first second : Json) → Decidable (first = second)
  | .null, .null => isTrue rfl
  | .bool value, .bool other => decidable_of_iff (value = other) (by simp)
  | .number value, .number other => decidable_of_iff (value = other) (by simp)
  | .string value, .string other => decidable_of_iff (value = other) (by simp)
  | .array items, .array others =>
    have := Json.decEqItems items others
    decidable_of_iff (items = others) (by simp)
  | .object fields, .object others =>
    have := Json.decEqFields fields others
    decidable_of_iff (fields = others) (by simp)
  | .null, .bool _ | .null, .number _ | .null, .string _ | .null, .array _ | .null, .object _
  | .bool _, .null | .bool _, .number _ | .bool _, .string _ | .bool _, .array _
  | .bool _, .object _ | .number _, .null | .number _, .bool _ | .number _, .string _
  | .number _, .array _ | .number _, .object _ | .string _, .null | .string _, .bool _
  | .string _, .number _ | .string _, .array _ | .string _, .object _ | .array _, .null
  | .array _, .bool _ | .array _, .number _ | .array _, .string _ | .array _, .object _
  | .object _, .null | .object _, .bool _ | .object _, .number _ | .object _, .string _
  | .object _, .array _ => isFalse (by simp)

/-- The same for the items of two arrays. -/
def Json.decEqItems : (items others : List Json) → Decidable (items = others)
  | [], [] => isTrue rfl
  | [], _ :: _ | _ :: _, [] => isFalse (by simp)
  | item :: items, other :: others =>
    have := Json.decEq item other
    have := Json.decEqItems items others
    decidable_of_iff (item = other ∧ items = others) (by simp)

/-- The same for the fields of two objects. -/
def Json.decEqFields : (fields others : List (String × Json)) → Decidable (fields = others)
  | [], [] => isTrue rfl
  | [], _ :: _ | _ :: _, [] => isFalse (by simp)
  | (key, value) :: fields, (name, other) :: others =>
    have := Json.decEq value other
    have := Json.decEqFields fields others
    decidable_of_iff ((key = name ∧ value = other) ∧ fields = others) (by simp)

end

instance : DecidableEq Json := Json.decEq

namespace Json

/-- The field of an object, where a value that is no object has none. -/
def get (value : Json) (key : String) : Option Json :=
  match value with
  | .object fields => fields.lookup key
  | _ => none

/-- The text of a string value. -/
def asStr : Json → Option String
  | .string value => some value
  | _ => none

/-- An unsigned number as a JSON value. -/
def ofU64 (value : UInt64) : Json := .number (.posInt value)

/-- A signed number as a JSON value, kept as an unsigned one when it is not negative. -/
def ofI64 (value : Int) : Json :=
  .number (if 0 ≤ value then .posInt (UInt64.ofNat value.toNat) else .negInt value)

end Json

/-- What is taken as given from the JSON library. -/
structure SerdeJson where
  -- The value a text denotes, if it is well formed.
  fromStr : String → Option Json
  -- The text of a number that is held as a float.
  floatText : ℚ → String
  -- No value is denoted by the empty text.
  fromStr_empty : fromStr "" = none

/-- A library that reads nothing, for runs without any text to read. -/
def SerdeJson.silent : SerdeJson := ⟨fun _ => none, fun _ => "", rfl⟩

/-- The text of a number. -/
def JsonNumber.text (serde : SerdeJson) : JsonNumber → String
  | .posInt value => toString value.toNat
  | .negInt value => toString value
  | .float value => serde.floatText value

/-- A progress token as the text it is kept under, where it is a string or a number. -/
def progressTokenString (serde : SerdeJson) : Json → Option String
  | .string value => some value
  | .number value => some (value.text serde)
  | _ => none

/-- The fields of a JSON object, in the order of their keys. -/
abbrev Fields := List (String × Json)

/-- Whether a key comes before another, by their code points. -/
def keyBefore (key name : String) : Bool :=
  (key.toList.map Char.toNat).lex (name.toList.map Char.toNat) fun first second =>
    decide (first < second)

/-- Write one field, over the old value when the key is already there. -/
def Fields.insert (fields : Fields) (key : String) (value : Json) : Fields :=
  match fields with
  | [] => [(key, value)]
  | (name, old) :: rest =>
    if name = key then (key, value) :: rest
    -- The first larger key marks the place of a new one.
    else if keyBefore key name then (key, value) :: (name, old) :: rest
    else (name, old) :: Fields.insert rest key value

/-- The object of the fields with a value, as a serializer that skips absent ones builds it. -/
def Fields.present (fields : List (String × Option Json)) : Fields :=
  fields.foldl (fun built field => match field.2 with
    | some value => built.insert field.1 value
    | none => built) []

/-- The first field of a key is the one in force. -/
theorem Fields.lookup_cons (rest : Fields) (key : String) (value : Json) (other : String) :
    List.lookup other ((key, value) :: rest) =
      if other = key then some value else rest.lookup other := by
  -- The key is compared first.
  by_cases same : other = key
  · simp [same]
  · grind

/-- A field that was written is found, and the others are as before. -/
theorem Fields.lookup_insert (fields : Fields) (key : String) (value : Json) (other : String) :
    (fields.insert key value).lookup other =
      if other = key then some value else fields.lookup other := by
  -- Wherever the field is written, it stands before any field of the same key.
  induction fields with
  | nil => exact Fields.lookup_cons [] key value other
  | cons field rest ih =>
    obtain ⟨name, old⟩ := field
    unfold Fields.insert
    by_cases found : name = key
    · grind
    · rw [if_neg found]
      by_cases before : keyBefore key name = true
      · rw [if_pos before, Fields.lookup_cons]
      · rw [if_neg before, Fields.lookup_cons, Fields.lookup_cons, ih]
        -- The field goes further back, past one of another key.
        by_cases here : other = name
        · grind
        · rw [if_neg here, if_neg here]

/-- A request that expects a response. -/
structure JsonRpcRequest where
  jsonrpc : String
  id : Json
  method : String
  params : Option Json
  deriving DecidableEq

/-- A successful response. -/
structure JsonRpcResponse where
  jsonrpc : String
  id : Json
  result : Json
  deriving DecidableEq

/-- The error object of an error response. -/
structure JsonRpcError where
  code : Int
  message : String
  data : Option Json
  deriving DecidableEq

/-- A response that reports an error. -/
structure JsonRpcErrorResponse where
  jsonrpc : String
  id : Json
  error : JsonRpcError
  deriving DecidableEq

/-- A message that expects no response. -/
structure JsonRpcNotification where
  jsonrpc : String
  method : String
  params : Option Json
  deriving DecidableEq

/-- The four message shapes of JSON-RPC 2.0. -/
inductive JsonRpcMessage where
  | request (body : JsonRpcRequest)
  | response (body : JsonRpcResponse)
  | errorResponse (body : JsonRpcErrorResponse)
  | notification (body : JsonRpcNotification)
  deriving DecidableEq

namespace JsonRpcMessage

/-- Whether a message expects a response. -/
def isRequest : JsonRpcMessage → Bool
  | .request _ => true
  | _ => false

/-- The method of a request or a notification. -/
def method : JsonRpcMessage → Option String
  | .request body => some body.method
  | .notification body => some body.method
  | _ => none

/-- The id of everything but a notification. -/
def id : JsonRpcMessage → Option Json
  | .request body => some body.id
  | .response body => some body.id
  | .errorResponse body => some body.id
  | .notification _ => none

end JsonRpcMessage

end ContextVm
