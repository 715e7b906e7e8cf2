import UsbHost.Descriptor
import UsbHost.Setup
import UsbHost.Text.Number
import UsbHost.UsbError

/-!
# Transfers

A transfer is filled by the caller, submitted, answered by the platform and finished: the response
is written into its buffer and its callback is called. This module holds what does not depend on who
else is there: which request a transfer makes, if it makes one, and what an answer does to it.

The bytes of a response go into a window of the buffer (`Transfer.window`). For control transfers it
starts after the setup block.
-/

namespace UsbHost

/-- What a caller may ask of a transfer, a bit each. -/
structure TransferFlags where
  bits : UInt8
deriving DecidableEq, Repr

namespace TransferFlags

/-- Fewer bytes than asked for are an error. -/
def shortNotOk : TransferFlags := ⟨1⟩
/-- The buffer is dropped together with the transfer. -/
def freeBuffer : TransferFlags := ⟨2⟩
/-- The transfer is freed when its callback returns. -/
def freeTransfer : TransferFlags := ⟨4⟩
/-- Output ends with an empty packet; no platform can do this. -/
def addZeroPacket : TransferFlags := ⟨8⟩

/-- No flags. -/
def empty : TransferFlags := ⟨0⟩

/-- Whether all flags of `b` are among `a`. -/
def contains (a b : TransferFlags) : Bool := a.bits &&& b.bits == b.bits

/-- The flags that are in either set. -/
def union (a b : TransferFlags) : TransferFlags := ⟨a.bits ||| b.bits⟩

end TransferFlags

/-- How a transfer ended. -/
inductive TransferStatus where
  | completed
  | error
  | timedOut
  | cancelled
  | stall
  | noDevice
  | overflow
deriving DecidableEq, Repr

namespace TransferStatus

/-- All statuses, in the order of their codes. -/
def all : List TransferStatus := [completed, error, timedOut, cancelled, stall, noDevice, overflow]

/-- The code by which callers see a status. -/
def code : TransferStatus → UInt8
  | completed => 0
  | error => 1
  | timedOut => 2
  | cancelled => 3
  | stall => 4
  | noDevice => 5
  | overflow => 6

/-- The name in texts. -/
def name : TransferStatus → String
  | completed => "Completed"
  | error => "Error"
  | timedOut => "TimedOut"
  | cancelled => "Cancelled"
  | stall => "Stall"
  | noDevice => "NoDevice"
  | overflow => "Overflow"

end TransferStatus

/-- The name in texts. -/
def TransferKind.name : TransferKind → String
  | control => "Control"
  | isochronous => "Isochronous"
  | bulk => "Bulk"
  | interrupt => "Interrupt"

/-- What is called when a transfer is finished: its `n`th call performs the actions `script[n]`, and
none beyond the script's end. -/
structure Callback (κ : Type) where
  script : List (List κ) := []
  calls : Nat := 0

/-- The actions of the next call. -/
def Callback.actions (c : Callback κ) : List κ := c.script[c.calls]?.getD []

/-- The callback after one more call. -/
def Callback.called (c : Callback κ) : Callback κ := { c with calls := c.calls + 1 }

/-- Names an open handle of a session. -/
structure HandleKey where
  index : Nat
deriving DecidableEq, Repr

/-- One control, bulk or interrupt operation; `κ` are the actions of its callback. -/
structure Transfer (κ : Type) where
  handle : Option HandleKey := none
  flags : TransferFlags := .empty
  endpoint : UInt8 := 0
  kind : TransferKind := .control
  /-- In milliseconds; 0 waits for ever. -/
  timeout : UInt32 := 0
  /-- The bytes of the buffer that take part, the setup block included. -/
  length : Nat := 0
  buffer : Option (List UInt8) := none
  status : TransferStatus := .completed
  /-- The bytes that were transferred. -/
  count : Nat := 0
  callback : Option (Callback κ) := none

namespace Transfer

variable {κ : Type}

/-- A transfer in one line. -/
def text (t : Transfer κ) : String :=
  "TransferFields \x7b flags: TransferFlags(" ++ toString t.flags.bits.toNat
    ++ "), endpoint: " ++ Text.hexLiteral 2 t.endpoint.toNat
    ++ ", transfer_type: " ++ t.kind.name
    ++ ", timeout: " ++ toString t.timeout.toNat
    ++ ", length: " ++ toString t.length
    ++ ", status: " ++ t.status.name
    ++ ", actual_length: " ++ toString t.count
    ++ ", has_callback: " ++ toString t.callback.isSome ++ " \x7d"

/-! ## Filling -/

/-- Prepares a control transfer. Its length is what the setup block at the start of the buffer asks
for. -/
def fillControl (t : Transfer κ) (handle : HandleKey) (buffer : List UInt8) (callback : Callback κ)
    (timeout : UInt32) : Transfer κ :=
  { t with
    handle := some handle
    kind := .control
    endpoint := 0
    buffer := some buffer
    length := match Setup.parse buffer with
      | some setup => Setup.size + setup.length.toNat
      | none => buffer.length
    callback := some callback
    timeout }

/-- Prepares a transfer of another kind over the whole buffer. -/
def fillData (t : Transfer κ) (kind : TransferKind) (handle : HandleKey) (endpoint : UInt8)
    (buffer : List UInt8) (callback : Callback κ) (timeout : UInt32) : Transfer κ :=
  { t with
    handle := some handle
    kind, endpoint
    buffer := some buffer
    length := buffer.length
    callback := some callback
    timeout }

/-! ## The request of a transfer -/

/-- Why a transfer is not submitted. -/
inductive Refusal where
  | zeroPacket
  | isochronous
  | shorterThanSetup (length : Nat)
  | controlBufferShort (size length : Nat)
  | lengthMismatch (stated : UInt16) (length : Nat)
  | bufferShort (size length : Nat)
deriving DecidableEq, Repr

/-- The error with which a refused submission answers. -/
def Refusal.error : Refusal → UsbError
  | zeroPacket | isochronous => .notSupported
  | _ => .invalidParam

/-- The control request of a transfer. The length must be that of the setup block and the data it
announces, and the buffer must hold as much. -/
def controlRequest (t : Transfer κ) : Except Refusal ControlRequest :=
  let buffer := t.buffer.getD []
  if t.length < Setup.size then .error (.shorterThanSetup t.length)
  else if buffer.length < t.length then .error (.controlBufferShort buffer.length t.length)
  else match Setup.parse buffer with
    | none => .error (.shorterThanSetup t.length)
    | some setup =>
      if setup.length.toNat ≠ t.length - Setup.size then
        .error (.lengthMismatch setup.length t.length)
      else .ok (setup.toRequest ((buffer.take t.length).drop Setup.size) t.timeout)

/-- The bulk or interrupt request of a transfer. -/
def dataRequest (t : Transfer κ) : Except Refusal DataRequest :=
  let buffer := t.buffer.getD []
  if buffer.length < t.length then .error (.bufferShort buffer.length t.length)
  else .ok (.over t.endpoint (buffer.take t.length) t.timeout)

/-- The request of a transfer. -/
def request (t : Transfer κ) : Except Refusal TransferRequest :=
  if t.flags.contains .addZeroPacket then .error .zeroPacket
  else match t.kind with
    | .control => .control <$> t.controlRequest
    | .bulk => .bulk <$> t.dataRequest
    | .interrupt => .interrupt <$> t.dataRequest
    | .isochronous => .error .isochronous

end Transfer

/-! ## The answer to a transfer -/

/-- What a response makes of a destination. -/
structure Applied where
  status : TransferStatus
  count : Nat
  dest : List UInt8
deriving DecidableEq, Repr

/-- Writes a response to `requested` bytes into `dest`. Without a success code nothing is written. A
response without bytes counts as all that was requested, as for output. -/
def Response.apply (r : Response) (shortNotOk : Bool) (requested : Nat) (dest : List UInt8) :
    Applied :=
  if r.isSuccess then
    match r.data with
    | none => ⟨.completed, requested, dest⟩
    | some data =>
      let count := min data.length requested
      ⟨if shortNotOk ∧ count < requested then .error else .completed, count,
        overwrite (data.take count) dest⟩
  else ⟨.error, 0, dest⟩

/-- The result of a synchronous transfer. -/
def Applied.result (a : Applied) : Except UsbError Nat :=
  match a.status with
  | .completed => .ok a.count
  | .timedOut => .error .timeout
  | _ => .error .other

namespace Transfer

variable {κ : Type}

/-- Where the data of a transfer start in its buffer. -/
def dataStart (t : Transfer κ) : Nat :=
  match t.kind with
  | .control => Setup.size
  | _ => 0

/-- The part of a buffer of `size` bytes that a response is written to, from the first number up to
the second. -/
def window (t : Transfer κ) (size : Nat) : Nat × Nat :=
  let stop := min t.length size
  (min t.dataStart stop, stop)

/-- The transfer with the platform's answer. -/
def conclude (t : Transfer κ) : Outcome Response → Transfer κ
  | .succeeded response =>
    let buffer := t.buffer.getD []
    let (start, stop) := t.window buffer.length
    let applied := response.apply (t.flags.contains .shortNotOk) (t.length - t.dataStart)
      ((buffer.take stop).drop start)
    { t with
      buffer := some (buffer.take start ++ applied.dest ++ buffer.drop stop)
      status := applied.status
      count := applied.count }
  | .canceled => { t with status := .cancelled }
  | .failed _ => { t with status := .error }

/-- The transfer without what it holds, and the buffer that goes back to the caller. -/
def release (t : Transfer κ) : Option (List UInt8) × Transfer κ :=
  (if t.flags.contains .freeBuffer then none else t.buffer,
    { t with callback := none, handle := none, buffer := none })

end Transfer

end UsbHost
