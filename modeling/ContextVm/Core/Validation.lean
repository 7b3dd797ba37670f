import Mathlib.Algebra.Ring.Nat
import ContextVm.Core.Json

/-! From the text of an event to a JSON-RPC 2.0 message. -/

namespace ContextVm

namespace Json

/-- A number that is held as an integer and fits a signed 64-bit word. -/
def asI64 : Json → Option Int
  | .number (.posInt value) => if value.toNat < 2 ^ 63 then some value.toNat else none
  | .number (.negInt value) => some value
  | _ => none

/-- A field that may be left out, where an explicit null counts as left out. -/
def optional (value : Json) (key : String) : Option Json :=
  match value.get key with
  | none | some .null => none
  | some field => some field

end Json

/-- Read a request: an id and a method. -/
def parseRequest (value : Json) : Option JsonRpcRequest := do
  let jsonrpc ← (value.get "jsonrpc").bind Json.asStr
  -- An explicit null is an id like any other.
  let id ← value.get "id"
  let method ← (value.get "method").bind Json.asStr
  return ⟨jsonrpc, id, method, value.optional "params"⟩

/-- Read a successful response: an id and a result. -/
def parseResponse (value : Json) : Option JsonRpcResponse := do
  let jsonrpc ← (value.get "jsonrpc").bind Json.asStr
  let id ← value.get "id"
  let result ← value.get "result"
  return ⟨jsonrpc, id, result⟩

/-- Read the error object, which may also come as the list of its fields. -/
def parseError : Json → Option JsonRpcError
  | .object fields => do
    let code ← ((Json.object fields).get "code").bind Json.asI64
    let message ← ((Json.object fields).get "message").bind Json.asStr
    return ⟨code, message, (Json.object fields).optional "data"⟩
  | .array [code, message] => do return ⟨← code.asI64, ← message.asStr, none⟩
  | .array [code, message, data] => do
    return ⟨← code.asI64, ← message.asStr, if data = .null then none else some data⟩
  | _ => none

/-- Read an error response: an id and an error. -/
def parseErrorResponse (value : Json) : Option JsonRpcErrorResponse := do
  let jsonrpc ← (value.get "jsonrpc").bind Json.asStr
  let id ← value.get "id"
  let error ← (value.get "error").bind parseError
  return ⟨jsonrpc, id, error⟩

/-- Read a notification: a method. -/
def parseNotification (value : Json) : Option JsonRpcNotification := do
  let jsonrpc ← (value.get "jsonrpc").bind Json.asStr
  let method ← (value.get "method").bind Json.asStr
  return ⟨jsonrpc, method, value.optional "params"⟩

/-- Read a message of any shape, the first that fits in this order. -/
def parseMessage (value : Json) : Option JsonRpcMessage :=
  (parseRequest value).map .request <|> (parseResponse value).map .response <|>
    (parseErrorResponse value).map .errorResponse <|>
    (parseNotification value).map .notification

/-- A well-formed message of version 2.0. -/
def validateMessage (value : Json) : Option JsonRpcMessage :=
  -- The version is looked at before the shape.
  if (value.get "jsonrpc").bind Json.asStr = some "2.0" then parseMessage value else none

/-- Check the size of a text against a bound, and read the message it holds. -/
def validateAndParseOversized (serde : SerdeJson) (content : String) (maxBytes : Nat) :
    Option JsonRpcMessage :=
  if maxBytes < content.utf8ByteSize then none
  else (serde.fromStr content).bind validateMessage

end ContextVm
