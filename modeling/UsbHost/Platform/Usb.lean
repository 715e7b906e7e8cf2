import UsbHost.Bridge
import UsbHost.Platform

/-!
# The platform of a worker

A platform that passes every call on to the USB worker. When the host could not be started there is
no worker, and every call fails.
-/

namespace UsbHost

/-- The platform of a worker, or of none. -/
structure UsbPlatform (η δ : Type) where
  worker : Option (Worker η δ)

namespace UsbPlatform

variable {η δ : Type} [Host η δ]

/-- The platform over a host, or over none when the host does not start. -/
def start (host : η) (startCode : Int) (filters : List String) : UsbPlatform η δ where
  worker := if startCode = 0 then some { host, filters } else none

/-- Lets the worker do something, if there is one. -/
def withWorker (action : WorkerM η δ α) : StateM (UsbPlatform η δ) (Option α) :=
  modifyGet fun p => match p.worker with
    | none => (none, p)
    | some w =>
      let (a, w) := action.run w
      (some a, { worker := some w })

/-- Passes a call on to the worker. -/
def request (action : WorkerM η δ (Outcome α)) : StateM (UsbPlatform η δ) (Outcome α) := do
  return (← withWorker action).getD (.failed Bridge.noWorker)

/-- Passes a command on to the worker. -/
def perform (command : WorkerCommand) : StateM (UsbPlatform η δ) WorkerAnswer := do
  return (← withWorker (Worker.perform command)).getD (command.failure Bridge.noWorker)

/-- Ends the worker. -/
def stop : StateM (UsbPlatform η δ) Unit := discard <| withWorker Worker.stop

/-- The calls of the host so far. -/
def journal (p : UsbPlatform η δ) : List HostEntry :=
  (p.worker.elim [] (·.journal)).reverse

instance : Platform (UsbPlatform η δ) where
  getDevices := request Worker.getDevices
  getConfigurations device := request (Worker.getConfigurations device.device)
  openDevice device := request (Worker.openDevice device.device)
  closeDevice connection := request (Worker.closeDevice connection)
  claimInterface connection number := request (Worker.claimInterface connection number)
  releaseInterface connection number := request (Worker.releaseInterface connection number)
  resetDevice connection := request (Worker.resetDevice connection)
  transfer connection r := request (Worker.transfer connection r)
  startTransfer connection r _ := some <$> request (Worker.transfer connection r)

end UsbPlatform

end UsbHost
