import UsbHost.Fault
import UsbHost.Request

/-!
# Setup blocks and the requests of transfers

A control transfer starts with eight bytes that say what is asked: the setup block. This module
reads and writes setup blocks, and turns setup blocks, endpoints and data into requests for the
platform. Numbers of 16 bits are sent low byte first.
-/

namespace UsbHost

/-! ## Bytes -/

/-- The two bytes of a word, low byte first. -/
def littleEndian (w : UInt16) : List UInt8 :=
  [w.toUInt8, (w >>> 8).toUInt8]

/-- The word of a low and a high byte. -/
def ofLittleEndian (low high : UInt8) : UInt16 :=
  low.toUInt16 ||| (high.toUInt16 <<< 8)

/-- The first bytes of `dest` replaced by `source`, as far as there are any. -/
def overwrite (source dest : List UInt8) : List UInt8 :=
  source.take dest.length ++ dest.drop source.length

section Range
variable {α : Type}

/-- The part of a list from `start` up to `stop`. -/
def range? (l : List α) (start stop : Nat) : Option (List α) :=
  if start ≤ stop ∧ stop ≤ l.length then some ((l.take stop).drop start) else none

/-- The same part for a caller to whom it is a fault that there is none. -/
def slice (l : List α) (start stop : Nat) : Except Fault (List α) :=
  (range? l start stop).elim (.error (.outOfRange start stop l.length)) .ok

end Range

/-! ## Setup blocks -/

/-- The bit of a request type or endpoint address that holds the direction. -/
def directionMask : UInt8 := 0x80

/-- The direction of a request type or endpoint address. -/
def Direction.ofByte (b : UInt8) : Direction :=
  if b &&& directionMask = 0 then .output else .input

/-- The setup block of a control transfer. -/
structure Setup where
  requestType : UInt8
  request : UInt8
  value : UInt16
  index : UInt16
  length : UInt16
deriving DecidableEq, Repr

namespace Setup

/-- The number of bytes of a setup block. -/
def size : Nat := 8

/-- Which way the data stage goes, by the high bit of the request type. -/
def direction (s : Setup) : Direction := .ofByte s.requestType

/-- Whom the request is for, by its low two bits. -/
def recipient (s : Setup) : Recipient :=
  match s.requestType &&& 0x03 with
  | 0 => .device
  | 1 => .interface
  | 2 => .endpoint
  | _ => .other

/-- Who defines the request, by bits 5 and 6. -/
def kind (s : Setup) : RequestKind :=
  match s.requestType &&& 0x60 with
  | 0x00 => .standard
  | 0x20 => .classSpecific
  | 0x40 => .vendorSpecific
  | _ => .reserved

/-- The eight bytes of a setup block, words with the low byte first. -/
def toBytes (s : Setup) : List UInt8 :=
  [s.requestType, s.request] ++ littleEndian s.value ++ littleEndian s.index
    ++ littleEndian s.length

/-- The setup block at the start of a buffer. -/
def parse : List UInt8 → Option Setup
  | t :: r :: v₀ :: v₁ :: i₀ :: i₁ :: l₀ :: l₁ :: _ =>
    some ⟨t, r, ofLittleEndian v₀ v₁, ofLittleEndian i₀ i₁, ofLittleEndian l₀ l₁⟩
  | _ => none

/-- The buffer with the setup block in its first eight bytes. -/
def write (s : Setup) (buffer : List UInt8) : Except Fault (List UInt8) :=
  if buffer.length < size then .error .shortBuffer else .ok (overwrite s.toBytes buffer)

/-- The buffer with the setup block of these fields in its first eight bytes. -/
def fill (buffer : List UInt8) (requestType request : UInt8) (value index length : UInt16) :
    Except Fault (List UInt8) :=
  write ⟨requestType, request, value, index, length⟩ buffer

/-- The request of a setup block and its data stage. -/
def toRequest (s : Setup) (data : List UInt8) (timeout : UInt32) : ControlRequest where
  direction := s.direction
  recipient := s.recipient
  kind := s.kind
  request := s.request
  value := s.value
  index := s.index
  length := match s.direction with
    | .input => some s.length
    | .output => none
  data := match s.direction with
    | .input => none
    | .output => some data
  timeout

end Setup

/-! ## Requests -/

/-- The request type of a control request: bits 2 to 4 are never set. -/
def ControlRequest.requestType (r : ControlRequest) : UInt8 :=
  let direction : UInt8 := match r.direction with
    | .output => 0x00
    | .input => 0x80
  let kind : UInt8 := match r.kind with
    | .standard => 0x00
    | .classSpecific => 0x20
    | .vendorSpecific => 0x40
    | .reserved => 0x60
  let recipient : UInt8 := match r.recipient with
    | .device => 0
    | .interface => 1
    | .endpoint => 2
    | .other => 3
  direction ||| kind ||| recipient

/-- The request for a bulk or interrupt transfer over `data`. An input request holds the length in
32 bits. -/
def DataRequest.over (endpoint : UInt8) (data : List UInt8) (timeout : UInt32) : DataRequest where
  direction := .ofByte endpoint
  endpoint
  length := match Direction.ofByte endpoint with
    | .input => some data.length.toUInt32
    | .output => none
  data := match Direction.ofByte endpoint with
    | .input => none
    | .output => some data
  timeout

/-- The request over a buffer of `size` bytes that is read only for output. -/
def DataRequest.overSized (endpoint : UInt8) (size : Nat) (read : Unit → List UInt8)
    (timeout : UInt32) : DataRequest :=
  match Direction.ofByte endpoint with
  | .input =>
    { direction := .input, endpoint, length := some size.toUInt32, data := none, timeout }
  | .output => .over endpoint (read ()) timeout

/-- Reading the buffer only for output makes no difference. -/
theorem DataRequest.overSized_eq_over (endpoint : UInt8) (data : List UInt8) (timeout : UInt32) :
    overSized endpoint data.length (fun _ => data) timeout = .over endpoint data timeout := by
  rw [overSized, DataRequest.over]
  cases Direction.ofByte endpoint <;> rfl

end UsbHost
