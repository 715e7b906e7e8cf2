import UsbHost.Notice
import UsbHost.Platform

/-!
# Sessions

The state behind the host API: the platform, the contexts with their trackers, and the devices,
handles and transfers that were handed out. Nothing that was handed out is ever removed, so a key
stays good; a handle that was closed and a transfer that was freed say so themselves.

A call may fail with a `UsbError`, which goes to its caller, or meet a `Fault`, which ends the
program that made it.
-/

namespace UsbHost

/-- Names a device of a session. -/
structure DeviceKey where
  index : Nat
deriving DecidableEq, Repr

/-- A device that was listed. -/
structure Device where
  /-- The context in which it was listed. -/
  context : ContextId
  record : DeviceRecord
  references : Nat := 1
deriving DecidableEq, Repr

/-- An open connection to a device. -/
structure Handle where
  device : DeviceKey
  /-- The context of the device. -/
  context : ContextId
  connection : ConnectionId
  closed : Bool := false
deriving DecidableEq, Repr

/-- The state of a session on a platform `σ`, with callbacks that perform actions of type `κ`. -/
structure Session (σ κ : Type) where
  platform : σ
  /-- The tracker of the default context, once that is used. -/
  defaultTracker : Option Tracker := none
  /-- The trackers of the explicit contexts. -/
  trackers : List Tracker := []
  devices : List Device := []
  handles : List Handle := []
  /-- The transfers; the first has the id 1. -/
  transfers : List (Transfer κ) := []
  /-- What has been noticed, latest first. -/
  notices : List Notice := []

/-- Why a call did not come to its result. -/
inductive Failure where
  /-- The call answers with an error. -/
  | error (e : UsbError)
  /-- The program ends here. -/
  | fault (f : Fault)
deriving DecidableEq, Repr

/-- What a session does. Changes stay when it fails. -/
abbrev SessionM (σ κ : Type) := ExceptT Failure (StateM (Session σ κ))

namespace Session

variable {σ κ : Type}

/-- Tells a notice. -/
def note (n : Notice) : SessionM σ κ Unit :=
  modify fun s => { s with notices := n :: s.notices }

/-- Does something with the platform. -/
def onPlatform (action : StateM σ α) : SessionM σ κ α :=
  modifyGet fun s =>
    let (a, platform) := action.run s.platform
    (a, { s with platform })

/-- The payload of an outcome. One that did not succeed is noticed. -/
def check (operation : Operation) (outcome : Outcome α) : SessionM σ κ α :=
  match outcome with
  | .succeeded payload => pure payload
  | other => do
    note (.requestFailed operation other.message)
    throw (.error .other)

/-! ## Contexts -/

/-- The tracker of a context. -/
def tracker (s : Session σ κ) : ContextId → Tracker
  | .default => s.defaultTracker.getD {}
  | .explicit index => s.trackers.getD index {}

/-- The session with another tracker for a context. -/
def setTracker (c : ContextId) (t : Tracker) (s : Session σ κ) : Session σ κ :=
  match c with
  | .default => { s with defaultTracker := some t }
  | .explicit index => { s with trackers := s.trackers.set index t }

/-- Makes sure that a context is there: the default one is created when it is first used. -/
def reach (c : ContextId) : SessionM σ κ Unit := do
  match c, (← get).defaultTracker with
  | .default, none =>
    note .defaultContextCreated
    modify fun s => { s with defaultTracker := some {} }
  | _, _ => pure ()

/-- Does an operation on the tracker of a context. -/
def track (c : ContextId) (op : Tracker.Op) : SessionM σ κ Tracker.Reply := do
  match ((← get).tracker c).step op with
  | .error fault => throw (.fault fault)
  | .ok (reply, t) =>
    modify (setTracker c t)
    note (.tracked reply)
    return reply

/-- A new explicit context. -/
def newContext : SessionM σ κ ContextId :=
  modifyGet fun s => (.explicit s.trackers.length, { s with trackers := s.trackers ++ [{}] })

/-! ## What was handed out -/

/-- The device of a key. -/
def device? (s : Session σ κ) (d : DeviceKey) : Option Device := s.devices[d.index]?

/-- The handle of a key, open or closed. -/
def handle? (s : Session σ κ) (h : HandleKey) : Option Handle := s.handles[h.index]?

/-- The transfer of an id; number 0 is never given out. -/
def transfer? (s : Session σ κ) (id : TransferId) : Option (Transfer κ) :=
  match id.number with
  | 0 => none
  | index + 1 => s.transfers[index]?

/-- The transfer of an id; one that was never allocated is idle. -/
def transfer (s : Session σ κ) (id : TransferId) : Transfer κ := (s.transfer? id).getD {}

/-- Changes a transfer; what was never allocated stays so. -/
def alter (id : TransferId) (f : Transfer κ → Transfer κ) (s : Session σ κ) : Session σ κ :=
  match id.number with
  | 0 => s
  | index + 1 => { s with transfers := s.transfers.modify index f }

/-- The context in which a transfer is tracked: that of its handle's device. -/
def contextOf? (s : Session σ κ) (t : Transfer κ) : Option ContextId :=
  (t.handle.bind s.handle?).map (·.context)

end Session

end UsbHost
