import UsbHost.Descriptor
import UsbHost.Tracker
import UsbHost.Transfer

/-!
# Notices

What a session tells about its work while it runs. A notice says what happened; `Notice.severity`
and `Notice.text` say how it is shown.
-/

namespace UsbHost

/-- How much a notice matters, the most severe first. -/
inductive Severity where
  | error
  | warn
  | info
  | debug
  | trace
deriving DecidableEq, Repr

namespace Severity

/-- All severities, the most severe first. -/
def all : List Severity := [error, warn, info, debug, trace]

/-- The severity as filters spell it. -/
def name : Severity → String
  | error => "error"
  | warn => "warn"
  | info => "info"
  | debug => "debug"
  | trace => "trace"

/-- How many severities matter more. -/
def rank : Severity → Nat
  | error => 0
  | warn => 1
  | info => 2
  | debug => 3
  | trace => 4

end Severity

/-- The calls that ask the platform for something. -/
inductive Operation where
  | listDevices
  | activeConfig
  | openDevice
  | claimInterface
  | releaseInterface
  | resetDevice
  | controlTransfer
  | bulkTransfer
  | interruptTransfer
deriving DecidableEq, Repr

/-- The function of the host API that makes the call. -/
def Operation.name : Operation → String
  | listDevices => "get_device_list"
  | activeConfig => "get_active_config_descriptor"
  | openDevice => "open"
  | claimInterface => "claim_interface"
  | releaseInterface => "release_interface"
  | resetDevice => "reset_device"
  | controlTransfer => "control_transfer"
  | bulkTransfer => "bulk_transfer"
  | interruptTransfer => "interrupt_transfer"

/-- Something that happened in a session. -/
inductive Notice where
  | defaultContextCreated
  | requestFailed (operation : Operation) (reason : String)
  | devicesListed (count : Nat)
  | noActiveConfig (device : DeviceId) (error : ActiveConfigError)
  | deviceOpened (device : DeviceId) (connection : ConnectionId)
  | closeFailed (connection : ConnectionId) (reason : String)
  | isochronousRefused (packets : Nat)
  | submitRefused (refusal : Transfer.Refusal)
  | submitting (submission : Submission) (connection : ConnectionId)
  | cancelDone (transfer : TransferId)
  | controlStarted (setup : Setup)
  | bulkStarted (endpoint : UInt8) (length : Nat)
  | interruptStarted (endpoint : UInt8) (length : Nat)
  | transferFailed (transfer : TransferId) (reason : String)
  | transferFinished (transfer : TransferId) (status : TransferStatus) (count : Nat)
  | noCallback (transfer : TransferId)
  | tracked (reply : Tracker.Reply)
deriving DecidableEq, Repr

/-- Whether a submission that is refused for this is worth a notice. -/
def Transfer.Refusal.text? : Transfer.Refusal → Option String
  | zeroPacket | isochronous => none
  | shorterThanSetup length => some s!"Control transfer length {length} shorter than setup block"
  | controlBufferShort size length =>
    some s!"Control transfer buffer of {size} bytes shorter than length {length}"
  | lengthMismatch stated length =>
    some s!"Control transfer wLength {stated.toNat} does not match length {length}"
  | bufferShort size length => some s!"Transfer buffer of {size} bytes shorter than length {length}"

/-- The notice of an operation on a tracker, if there is one. -/
def Tracker.Reply.shown? : Tracker.Reply → Option (Severity × String)
  | registered s => some (.trace, s!"{s.text} pending")
  | delivered s .accepted => some (.trace, s!"{s.text} completed")
  | delivered s .late => some (.debug, s!"Dropping late result for {s.text}")
  | delivered s .untracked => some (.debug, s!"Dropping result for untracked {s.text}")
  | cancelled id true => some (.trace, s!"{id.text} cancelled")
  | removed id true => some (.trace, s!"{id.text} removed")
  | extracted (some (id, _)) => some (.trace, s!"{id.text} extracted")
  | cancelled _ false | removed _ false | extracted none => none

/-- How a notice is shown; some are not. -/
def Notice.shown? : Notice → Option (Severity × String)
  | defaultContextCreated => some (.debug, "Creating default libusb context")
  | requestFailed operation reason => some (.warn, s!"{operation.name} request failed: {reason}")
  | devicesListed count => some (.debug, s!"Enumerated {count} devices")
  | noActiveConfig device error =>
    some (.warn, s!"{Operation.activeConfig.name} request failed for device {device.text}: "
      ++ error.message)
  | deviceOpened device connection =>
    some (.debug, s!"Opened device {device.text} as connection {connection.text}")
  | closeFailed connection reason =>
    some (.error, s!"Failed to close USB device connection {connection.text}: {reason}")
  | isochronousRefused packets =>
    some (.debug, s!"Refusing transfer with {packets} isochronous packets")
  | submitRefused refusal => refusal.text?.map fun text => (.debug, text)
  | submitting submission connection =>
    some (.debug, s!"Submitting {submission.text} on connection {connection.text}")
  | cancelDone transfer => some (.debug, s!"Cancelled {transfer.text}")
  | controlStarted s =>
    some (.debug, "Control transfer: request_type=" ++ Text.hexLiteral 0 s.requestType.toNat
      ++ ", request=" ++ Text.hexLiteral 0 s.request.toNat
      ++ ", value=" ++ Text.hexLiteral 0 s.value.toNat
      ++ ", index=" ++ Text.hexLiteral 0 s.index.toNat
      ++ ", length=" ++ toString s.length.toNat)
  | bulkStarted endpoint length =>
    some (.debug, s!"Bulk transfer: endpoint={Text.hexLiteral 0 endpoint.toNat}, length={length}")
  | interruptStarted endpoint length =>
    some (.debug, s!"Interrupt transfer: endpoint={Text.hexLiteral 0 endpoint.toNat}, "
      ++ s!"length={length}")
  | transferFailed transfer reason => some (.warn, s!"{transfer.text} failed: {reason}")
  | transferFinished transfer status count =>
    some (.debug, s!"{transfer.text} finished with status {status.name}, {count} bytes")
  | noCallback transfer => some (.debug, s!"{transfer.text} has no callback")
  | tracked reply => reply.shown?

/-- The notices at least as severe as `least`, as they are shown. -/
def Notice.shownAt (least : Severity) (notices : List Notice) : List (Severity × String) :=
  (notices.filterMap Notice.shown?).filter (·.1.rank ≤ least.rank)

end UsbHost
