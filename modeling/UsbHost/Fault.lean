import UsbHost.Record

/-!
# Broken contracts

What a caller, or a platform whose records do not make sense, may do that no call can answer. A
fault ends the call that meets it.
-/

namespace UsbHost

/-- Names a transfer for the life of the program. -/
structure TransferId where
  number : Nat
deriving DecidableEq, Repr, Inhabited

/-- A transfer as it is named in texts. -/
def TransferId.text (id : TransferId) : String := s!"transfer#{id.number}"

/-- A device as it is named in texts. -/
def DeviceId.text (d : DeviceId) : String := s!"DeviceId({d.value.toNat})"

/-- A connection as it is named in texts. -/
def ConnectionId.text (c : ConnectionId) : String := s!"ConnectionHandle({c.value.toNat})"

/-- The things whose number a descriptor holds in one byte. -/
inductive Counted where
  | endpoints
  | interfaces
deriving DecidableEq, Repr

/-- The counted things in the plural. -/
def Counted.name : Counted → String
  | endpoints => "endpoints"
  | interfaces => "interfaces"

/-- How a contract was broken. -/
inductive Fault where
  /-- An isochronous endpoint has no synchronization type. -/
  | noSynchronization
  /-- An isochronous endpoint has no usage type. -/
  | noUsage
  /-- More than 255 of something. -/
  | tooMany (count : Nat) (what : Counted)
  /-- A setup block is written into a buffer of fewer bytes. -/
  | shortBuffer
  /-- The platform's number of a device is no device address. -/
  | noAddress (device : DeviceId)
  /-- A reference is dropped that nobody holds. -/
  | noReferences (device : DeviceId)
  | closedTwice (connection : ConnectionId)
  /-- A transfer is submitted while it is in flight. -/
  | registeredTwice (transfer : TransferId)
  | submitWithoutHandle
  | cancelWithoutHandle
  /-- A part is taken of a list of so many items that does not lie in it. -/
  | outOfRange (start stop size : Nat)
deriving DecidableEq, Repr

/-- What the program says when it ends for this. -/
def Fault.message : Fault → String
  | noSynchronization => "isochronous endpoint without synchronization type"
  | noUsage => "isochronous endpoint without usage type"
  | tooMany count what => s!"{count} {what.name} do not fit a descriptor count"
  | shortBuffer => "setup block does not fit the buffer"
  | noAddress device => s!"device id {device.value.toNat} does not fit a device address"
  | noReferences device => s!"unref of device {device.text} with zero references"
  | closedTwice connection => s!"device handle {connection.text} closed twice"
  | registeredTwice transfer => s!"{transfer.text} registered twice in the transfer tracker"
  | submitWithoutHandle => "submit_transfer on a transfer without device handle"
  | cancelWithoutHandle => "cancel_transfer on a transfer without device handle"
  | outOfRange start stop size =>
    if stop < start then s!"slice index starts at {start} but ends at {stop}"
    else s!"range end index {stop} out of range for slice of length {size}"

end UsbHost
