import UsbHost.Request
import UsbHost.Tracker

/-!
# Platforms

A platform gives access to devices. A session does its work through this interface only.
-/

namespace UsbHost

/-- A context of a session, with a tracker of its own. -/
inductive ContextId where
  | default
  | explicit (index : Nat)
deriving DecidableEq, Repr

/-- Says where the answer to an asynchronous transfer belongs. -/
structure Ticket where
  context : ContextId
  submission : Submission
deriving DecidableEq, Repr

/-- A platform whose state is a `σ`. -/
class Platform (σ : Type) where
  getDevices : StateM σ (Outcome (List DeviceRecord))
  getConfigurations (device : DeviceRecord) : StateM σ (Outcome (List ConfigRecord))
  openDevice (device : DeviceRecord) : StateM σ (Outcome ConnectionId)
  closeDevice (connection : ConnectionId) : StateM σ (Outcome Unit)
  claimInterface (connection : ConnectionId) (number : UInt8) : StateM σ (Outcome Unit)
  releaseInterface (connection : ConnectionId) (number : UInt8) : StateM σ (Outcome Unit)
  resetDevice (connection : ConnectionId) : StateM σ (Outcome Unit)
  /-- Runs a transfer and waits for its end. -/
  transfer (connection : ConnectionId) (request : TransferRequest) : StateM σ TransferOutcome
  /-- Starts a transfer. It may end at once, or later under the ticket. -/
  startTransfer (connection : ConnectionId) (request : TransferRequest) (ticket : Ticket) :
    StateM σ (Option TransferOutcome)

end UsbHost
