import ContextVm.Core.Json
import ContextVm.Core.Time

/-! The payment data of both server lifecycles: for processors, clients and the pricing callback. -/

namespace ContextVm

/-- Why pricing, issuing, verifying, or paying an invocation failed. -/
inductive PaymentError where
  | processor (detail : String)
  | handler (detail : String)
  | canonicalize (method : String)
  | serialization (detail : String)

/-- Transparency metadata, an object of arbitrary keys. -/
abbrev Meta := Fields

/-- The two payment lifecycles a session can be in. -/
inductive PaymentInteractionMode where
  | transparent
  | explicitGating
  deriving DecidableEq

/-- Which lifecycles a server accepts. -/
inductive PaymentInteractionPolicy where
  | optional
  | transparent
  deriving DecidableEq

/-- What one inbound event tells the middlewares besides its message. -/
structure InboundContext where
  clientPubkey : String
  requestEventId : String
  mirroredWrapKind : Option Nat
  -- The payment methods advertised on this event, in order of preference.
  clientPmis : Option (List String)
  -- The lifecycle of the session, which the event loop always resolves.
  paymentInteraction : Option PaymentInteractionMode
  deriving DecidableEq

/-- One priced capability pattern of the server's configuration. -/
structure PricedCapability where
  method : String
  name : Option String
  amount : Int
  description : Option String

/-- What the dynamic pricing callback decides about one invocation. -/
inductive ResolvePriceResult where
  | quote (amount : Int) (description : Option String) (quoteMeta : Option Meta)
  | reject (message : Option String)
  | waive (waiveMeta : Option Meta)

/-- A payment request as a processor issues it. -/
structure PaymentRequiredParams where
  amount : Int
  payReq : String
  pmi : String
  description : Option String
  ttl : Option UInt64
  requestMeta : Option Meta

/-- What a processor reports about a settled payment. -/
structure VerifyOutcome where
  settlementMeta : Option Meta

/-- A payment processor, known to the server by its payment method identifier. -/
structure PaymentProcessor where
  pmi : String

/-- How a call into code outside the server ends: with a value, an error, or a panic. -/
inductive Answer (ε α : Type) where
  | ok (value : α)
  | err (error : ε)
  | panicked

/-- The configuration both server middlewares share. -/
structure ServerPaymentsOptions where
  processors : List PaymentProcessor
  pricedCapabilities : List PricedCapability
  resolvePrice : Bool
  paymentTtl : Nat
  maxPendingPayments : Nat
  paymentInteraction : PaymentInteractionPolicy

end ContextVm
