import UsbHost.Record

/-!
# Requests and their outcomes

A platform is asked for transfers by a `ControlRequest` or a `DataRequest` and answers any call with
an `Outcome`. An outcome that succeeded says only that the platform did what it was asked; whether
the transfer itself went well stands in the code of its `Response`.
-/

namespace UsbHost

/-- Whom a control request addresses. -/
inductive Recipient where
  | device
  | interface
  | endpoint
  | other
deriving DecidableEq, Repr

/-- Who defines the meaning of a control request. -/
inductive RequestKind where
  | standard
  | classSpecific
  | vendorSpecific
  | reserved
deriving DecidableEq, Repr

/-- A control transfer. Input requests have a `length`, output requests have `data`. -/
structure ControlRequest where
  direction : Direction
  recipient : Recipient
  kind : RequestKind
  request : UInt8
  value : UInt16
  index : UInt16
  length : Option UInt16
  data : Option (List UInt8)
  /-- In milliseconds; 0 waits for ever. -/
  timeout : UInt32
deriving DecidableEq, Repr

/-- A bulk or interrupt transfer. Input requests have a `length`, output requests have `data`. -/
structure DataRequest where
  direction : Direction
  endpoint : UInt8
  length : Option UInt32
  data : Option (List UInt8)
  /-- In milliseconds; 0 waits for ever. -/
  timeout : UInt32
deriving DecidableEq, Repr

/-- A request for a transfer. -/
inductive TransferRequest where
  | control (r : ControlRequest)
  | bulk (r : DataRequest)
  | interrupt (r : DataRequest)
deriving DecidableEq, Repr

/-- How a transfer ended on the platform. -/
structure Response where
  /-- The platform's result code, if it gave one. -/
  code : Option Int32
  /-- The bytes that came in. -/
  data : Option (List UInt8)
deriving DecidableEq, Repr

namespace Response

/-- The code of a transfer that went well. -/
def successCode : Int32 := 0

/-- The response to a transfer that went well. -/
def success (data : Option (List UInt8)) : Response := ⟨some successCode, data⟩

/-- The response to a transfer that failed with a code. -/
def failure (code : Int32) : Response := ⟨some code, none⟩

/-- Whether a transfer went well; a response without a code does not say so. -/
def isSuccess (r : Response) : Bool := r.code == some successCode

end Response

/-- What became of a call to the platform. -/
inductive Outcome (α : Type) where
  | succeeded (payload : α)
  | failed (message : String)
  | canceled
deriving DecidableEq, Repr

namespace Outcome

/-- Whether the platform did what it was asked to. -/
def isSuccessful : Outcome α → Bool
  | succeeded _ => true
  | _ => false

/-- Why the call did not succeed; nothing when it did. -/
def message : Outcome α → String
  | succeeded _ => ""
  | failed message => message
  | canceled => "request canceled"

/-- The payload, or why there is none. -/
def toExcept : Outcome α → Except String α
  | succeeded a => .ok a
  | o => .error o.message

/-- The same outcome of another payload. -/
def map (f : α → β) : Outcome α → Outcome β
  | succeeded a => .succeeded (f a)
  | failed message => .failed message
  | canceled => .canceled

end Outcome

end UsbHost
