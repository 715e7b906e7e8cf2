import UsbHost.Platform

/-!
# A scripted platform

A platform that answers as it was told to, for rehearsing sessions without devices. It records what
it was asked. Asynchronous transfers are parked until one is completed, oldest first, or all end at
once with one prepared answer.
-/

namespace UsbHost

/-- A request that a scripted platform has seen. -/
inductive RecordedRequest where
  | openDevice (device : DeviceId)
  | close (connection : ConnectionId)
  | claim (connection : ConnectionId) (number : UInt8)
  | release (connection : ConnectionId) (number : UInt8)
  | reset (connection : ConnectionId)
  | transfer (connection : ConnectionId) (request : TransferRequest) (asynchronous : Bool)
deriving DecidableEq, Repr

/-- What the platform will answer, and what it was asked so far. -/
structure ScriptedPlatform where
  devices : Outcome (List DeviceRecord) := .succeeded []
  configurations : Table DeviceId (Outcome (List ConfigRecord)) := .empty
  /-- The answer to opening a device; without one, a connection is made of the device's number. -/
  openOutcome : Option (Outcome ConnectionId) := none
  closeOutcome : Outcome Unit := .succeeded ()
  /-- The answer to claiming and releasing. -/
  interfaceOutcome : Outcome Unit := .succeeded ()
  resetOutcome : Outcome Unit := .succeeded ()
  /-- The answers to the next synchronous transfers. -/
  answers : List TransferOutcome := []
  /-- The answer to every asynchronous transfer, instead of parking it. -/
  immediate : Option TransferOutcome := none
  /-- The requests so far, latest first. -/
  requests : List RecordedRequest := []
  /-- The transfers that are parked, oldest first. -/
  parked : List Ticket := []

namespace ScriptedPlatform

/-- What is added to a device's number to make a connection. -/
def connectionOffset : UInt32 := 100

/-- Writes a request down. -/
def record (r : RecordedRequest) : StateM ScriptedPlatform Unit :=
  modify fun p => { p with requests := r :: p.requests }

/-- Takes the oldest parked transfer. -/
def unpark : StateM ScriptedPlatform (Option Ticket) :=
  modifyGet fun p => match p.parked with
    | [] => (none, p)
    | ticket :: parked => (some ticket, { p with parked })

instance : Platform ScriptedPlatform where
  getDevices := do return (← get).devices
  getConfigurations device := do
    return ((← get).configurations.get? device.device).getD (.failed "unknown device")
  openDevice device := do
    record (.openDevice device.device)
    return (← get).openOutcome.getD (.succeeded ⟨device.device.value + connectionOffset⟩)
  closeDevice connection := do
    record (.close connection)
    return (← get).closeOutcome
  claimInterface connection number := do
    record (.claim connection number)
    return (← get).interfaceOutcome
  releaseInterface connection number := do
    record (.release connection number)
    return (← get).interfaceOutcome
  resetDevice connection := do
    record (.reset connection)
    return (← get).resetOutcome
  transfer connection request := do
    record (.transfer connection request false)
    modifyGet fun p => match p.answers with
      | [] => (.failed "no scripted transfer result", p)
      | answer :: answers => (answer, { p with answers })
  startTransfer connection request ticket := do
    record (.transfer connection request true)
    modifyGet fun p => match p.immediate with
      | some outcome => (some outcome, p)
      | none => (none, { p with parked := p.parked ++ [ticket] })

end ScriptedPlatform

end UsbHost
