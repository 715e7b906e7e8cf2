import UsbHost.Command
import UsbHost.Platform.Scripted

/-!
# Rehearsals

A rehearsal runs a list of actions, written as data, on a session over a scripted platform. Actions
name devices, handles, contexts and transfers by the order in which they were made, and a callback
is a list of actions for each of its calls. `Rehearsal.run` gives for each action its answer and all
that happened on the way: callbacks, requests to the platform, notices.

Callbacks may handle events and so call further callbacks. The depth of that is bounded: every
action of a program is performed at most once, since a callback counts its calls, so the number of
actions (`Action.weight`) is a bound.
-/

namespace UsbHost

/-- A change to a field of a transfer. -/
inductive TransferChange where
  | flags (flags : TransferFlags)
  | length (length : Nat)
  | endpoint (endpoint : UInt8)
  | kind (kind : TransferKind)
  | timeout (timeout : UInt32)
  | buffer (buffer : Option (List UInt8))
  | count (count : Nat)
  | status (status : TransferStatus)
  | noCallback
  | handle (name : Option Nat)
deriving DecidableEq, Repr

/-- One step of a rehearsal. Numbers are names, in the order of making; a context that is not named
is the default one. -/
inductive Action where
  /- Telling the platform what to do. -/
  | setDevices (outcome : Outcome (List DeviceRecord))
  | setConfigurations (device : DeviceId) (outcome : Outcome (List ConfigRecord))
  | setOpen (outcome : Outcome ConnectionId)
  | setClose (outcome : Outcome Unit)
  | setInterface (outcome : Outcome Unit)
  | setReset (outcome : Outcome Unit)
  | push (outcome : TransferOutcome)
  | setImmediate (outcome : Option TransferOutcome)
  /-- Ends the oldest parked transfer, perhaps from another thread. -/
  | complete (elsewhere : Bool) (outcome : TransferOutcome)
  | countParked
  | lastRequest
  /- Contexts and devices. -/
  | newContext
  | exitContext (context : Option Nat)
  | listDevices (context : Option Nat)
  | refDevice (device : Nat)
  | unrefDevice (device : Nat)
  | references (device : Nat)
  | freeDevices (devices : List Nat) (unref : Bool)
  | deviceDescriptor (device : Nat)
  | activeConfig (device : Nat)
  | busNumber (device : Nat)
  | deviceAddress (device : Nat)
  /- Handles. -/
  | openDevice (device : Nat)
  | closeDevice (handle : Nat)
  | showHandle (handle : Nat)
  | claim (handle : Nat) (number : UInt8)
  | release (handle : Nat) (number : UInt8)
  | reset (handle : Nat)
  | controlTransfer (handle : Nat) (requestType request : UInt8) (value index : UInt16)
    (data : List UInt8) (timeout : UInt32)
  | bulkTransfer (handle : Nat) (endpoint : UInt8) (data : List UInt8) (timeout : UInt32)
  | interruptTransfer (handle : Nat) (endpoint : UInt8) (data : List UInt8) (timeout : UInt32)
  /- Transfers. -/
  | allocate (isochronousPackets : Nat)
  | fillControl (transfer handle : Nat) (buffer : List UInt8) (timeout : UInt32)
    (script : List (List Action))
  | fillData (kind : TransferKind) (transfer handle : Nat) (endpoint : UInt8) (buffer : List UInt8)
    (timeout : UInt32) (script : List (List Action))
  | change (transfer : Nat) (changes : List TransferChange)
  | submit (transfer : Nat)
  | cancel (transfer : Nat)
  | free (transfer : Nat)
  | showTransfer (transfer : Nat)
  | printTransfer (transfer : Nat)
  /- Events. -/
  | handleEvents (context : Option Nat)
  /-- The same with a waiting time of its own. -/
  | handleEventsFor (context : Option Nat)
  /-- Waits for events while another thread ends the oldest parked transfer a little later. -/
  | awaitEvents (context : Option Nat) (outcome : TransferOutcome)
  | showTracker (context : Option Nat)
  | command (command : Command)

/-- The name of an action in a transcript. -/
def Action.name : Action → String
  | .setDevices _ => "set_devices"
  | .setConfigurations .. => "set_configs"
  | .setOpen _ => "set_open"
  | .setClose _ => "set_close"
  | .setInterface _ => "set_interface"
  | .setReset _ => "set_reset"
  | .push _ => "push"
  | .setImmediate _ => "auto"
  | .complete false _ => "complete"
  | .complete true _ => "complete_thread"
  | .countParked => "parked"
  | .lastRequest => "last_request"
  | .newContext => "init"
  | .exitContext _ => "exit"
  | .listDevices _ => "list"
  | .refDevice _ => "ref"
  | .unrefDevice _ => "unref"
  | .references _ => "refs"
  | .freeDevices .. => "free_list"
  | .deviceDescriptor _ => "device_descriptor"
  | .activeConfig _ => "active_config"
  | .busNumber _ => "bus"
  | .deviceAddress _ => "address"
  | .openDevice _ => "open"
  | .closeDevice _ => "close"
  | .showHandle _ => "handle"
  | .claim .. => "claim"
  | .release .. => "release"
  | .reset _ => "reset"
  | .controlTransfer .. => "control"
  | .bulkTransfer .. => "bulk"
  | .interruptTransfer .. => "interrupt"
  | .allocate _ => "alloc"
  | .fillControl .. => "fill_control"
  | .fillData .interrupt .. => "fill_interrupt"
  | .fillData .. => "fill_bulk"
  | .change .. => "set"
  | .submit _ => "submit"
  | .cancel _ => "cancel"
  | .free _ => "free"
  | .showTransfer _ => "info"
  | .printTransfer _ => "debug"
  | .handleEvents _ => "events"
  | .handleEventsFor _ => "events_timeout"
  | .awaitEvents .. => "events_wait"
  | .showTracker _ => "tracker"
  | .command _ => "cli"

mutual
/-- The number of actions in an action, those of its callback included. -/
def Action.weight : Action → Nat
  | .fillControl _ _ _ _ script => 1 + Action.weights script
  | .fillData _ _ _ _ _ _ script => 1 + Action.weights script
  | _ => 1

/-- The number of actions in a callback. -/
def Action.weights : List (List Action) → Nat
  | [] => 0
  | actions :: script => Action.total actions + Action.weights script

/-- The number of actions in a list of actions. -/
def Action.total : List Action → Nat
  | [] => 0
  | action :: actions => action.weight + Action.total actions
end

/-- A tracker, with the transfers by their names. -/
structure TrackerView where
  pending : Nat
  completed : Nat
  tracked : List Nat
  inFlight : List Nat
deriving DecidableEq, Repr

/-- A device that was listed, with its name. -/
structure DeviceView where
  name : Nat
  device : Device
  /-- Whether it belongs to the context in which it was asked for. -/
  ownContext : Bool
deriving DecidableEq, Repr

/-- What an action answers. -/
inductive Answer where
  | done
  | flag (b : Bool)
  | number (n : Nat)
  | numbers (ns : List Nat)
  | devices (ds : List DeviceView)
  | deviceDescriptor (d : DeviceDescriptor)
  | configDescriptor (c : ConfigDescriptor)
  | opened (name : Nat) (connection : ConnectionId)
  | handle (h : Handle) (device : DeviceId)
  | transferred (result : Except UsbError Nat) (data : List UInt8)
  | buffer (buffer : Option (List UInt8))
  | transfer (t : Transfer Action)
  | text (text : String)
  | request (request : Option RecordedRequest)
  | tracker (view : TrackerView)
  | awaited (completed : Bool)
  | printed (result : Command.Result)

/-- How an action ended. -/
abbrev Reaction := Except Failure Answer

/-- Whether a fault during an action leaves the session unusable. -/
def Action.endsWith (action : Action) (reaction : Reaction) : Bool :=
  match reaction with
  | .error (.fault _) =>
    match action with
    | .submit _ | .handleEvents _ | .handleEventsFor _ | .awaitEvents .. | .command _ => true
    | _ => false
  | _ => false

/-- What is seen of callbacks. -/
inductive Rehearsal.Event where
  /-- The callback of a transfer is called, with the state of the transfer. -/
  | called (transfer : Nat) (call : Nat) (status : TransferStatus) (count : Nat)
    (buffer : Option (List UInt8))
  /-- A callback has performed an action. -/
  | performed (action : Action) (reaction : Reaction)

/-- The state of a rehearsal. -/
structure Rehearsal where
  session : Session ScriptedPlatform Action
  /-- The named things, in the order of making. -/
  contexts : List ContextId := []
  devices : List DeviceKey := []
  handles : List HandleKey := []
  transfers : List TransferId := []
  /-- What has been seen of callbacks, latest first. -/
  events : List Rehearsal.Event := []
  /-- What the command that runs has printed. -/
  printed : String := ""

/-- What an action does. Changes stay when it fails. -/
abbrev RehearsalM := ExceptT Failure (StateM Rehearsal)

namespace Rehearsal

/-- A step of the session as a step of the rehearsal. -/
def lift (step : SessionM ScriptedPlatform Action α) : RehearsalM α :=
  ExceptT.mk fun r =>
    let (result, session) := step.run.run r.session
    (result, { r with session })

instance (priority := low) : MonadLift (SessionM ScriptedPlatform Action) RehearsalM := ⟨lift⟩

instance : Terminal RehearsalM where
  print text := modify fun r => { r with printed := r.printed ++ text }

/-- The thing of a name. Naming nothing is an invalid parameter. -/
def named (things : Rehearsal → List α) (name : Nat) : RehearsalM α := do
  match (things (← get))[name]? with
  | some a => pure a
  | none => throw (.error .invalidParam)

/-- The context of a name; no name stands for the default one. -/
def context (name : Option Nat) : RehearsalM ContextId :=
  match name with
  | none => pure .default
  | some name => named Rehearsal.contexts name

/-- The state of something that has a key. -/
def found (a : Option α) : RehearsalM α :=
  match a with
  | some a => pure a
  | none => throw (.error .invalidParam)

/-- The device of a name, with its key. -/
def device (name : Nat) : RehearsalM (DeviceKey × Device) := do
  let key ← named Rehearsal.devices name
  return (key, ← found ((← get).session.device? key))

/-- The handle of a name, with its key. -/
def handle (name : Nat) : RehearsalM (HandleKey × Handle) := do
  let key ← named Rehearsal.handles name
  return (key, ← found ((← get).session.handle? key))

/-- The transfer of a name. -/
def transfer (name : Nat) : RehearsalM TransferId := named Rehearsal.transfers name

/-- Changes what the platform will answer. -/
def platform (change : ScriptedPlatform → ScriptedPlatform) : RehearsalM Answer := do
  modify fun r => { r with session.platform := change r.session.platform }
  return .done

/-- Ends the oldest parked transfer, and says whether there was one. -/
def complete (outcome : TransferOutcome) : RehearsalM Bool := do
  match ← lift (Session.onPlatform ScriptedPlatform.unpark) with
  | some ticket =>
    lift (Session.deliver ticket outcome)
    return true
  | none => return false

/-- The first name of a transfer. -/
def nameOf? (r : Rehearsal) (id : TransferId) : Option Nat := r.transfers.findIdx? (· == id)

/-- Changes the fields of a transfer. -/
def applyChange (id : TransferId) (c : TransferChange) : RehearsalM Unit := do
  let alter (f : Transfer Action → Transfer Action) : RehearsalM Unit :=
    lift (modify (Session.alter id f))
  match c with
  | .flags flags => alter fun t => { t with flags }
  | .length length => alter fun t => { t with length }
  | .endpoint endpoint => alter fun t => { t with endpoint }
  | .kind kind => alter fun t => { t with kind }
  | .timeout timeout => alter fun t => { t with timeout }
  | .buffer buffer => alter fun t => { t with buffer }
  | .count count => alter fun t => { t with count }
  | .status status => alter fun t => { t with status }
  | .noCallback => alter fun t => { t with callback := none }
  | .handle none => alter fun t => { t with handle := none }
  | .handle (some name) =>
    let key ← named Rehearsal.handles name
    alter fun t => { t with handle := some key }

/-- Fills a transfer, and gives its length. -/
def fill (name : Nat) (f : Transfer Action → Transfer Action) : RehearsalM Answer := do
  let id ← transfer name
  lift (modify (Session.alter id f))
  return .number ((← get).session.transfer id).length

/-- Shows the tracker of a context. -/
def showTracker (c : ContextId) : RehearsalM Answer := do
  lift (Session.reach c)
  let r ← get
  let t := r.session.tracker c
  let namesOf (p : TransferId → Bool) :=
    (List.range r.transfers.length).filter fun name => (r.transfers[name]?).any p
  return .tracker
    { pending := t.pendingCount
      completed := t.completedCount
      tracked := namesOf t.isTracked
      inFlight := namesOf t.isPending }

/-- Runs a command, and gives what it printed and the error it ended with. -/
def command (action : RehearsalM (Except Command.Error Unit)) : RehearsalM Answer := do
  let before := (← get).printed
  modify fun r => { r with printed := "" }
  let ended ← action
  let out := (← get).printed
  modify fun r => { r with printed := before }
  match ended with
  | .ok () => return .printed { out }
  | .error e => return .printed { out, error := some e }

/-- Performs an action; `run` calls a callback, and `patience` is that of commands. -/
def perform (patience : Nat) (run : TransferId → Callback Action → RehearsalM Unit) :
    Action → RehearsalM Answer
  | .setDevices outcome => platform fun p => { p with devices := outcome }
  | .setConfigurations device outcome =>
    platform fun p => { p with configurations := p.configurations.put device outcome }
  | .setOpen outcome => platform fun p => { p with openOutcome := some outcome }
  | .setClose outcome => platform fun p => { p with closeOutcome := outcome }
  | .setInterface outcome => platform fun p => { p with interfaceOutcome := outcome }
  | .setReset outcome => platform fun p => { p with resetOutcome := outcome }
  | .push outcome => platform fun p => { p with answers := p.answers ++ [outcome] }
  | .setImmediate outcome => platform fun p => { p with immediate := outcome }
  | .complete _ outcome => .flag <$> complete outcome
  | .countParked => return .number (← get).session.platform.parked.length
  | .lastRequest => return .request (← get).session.platform.requests.head?
  | .newContext => do
    let context ← lift Session.newContext
    modify fun r => { r with contexts := r.contexts ++ [context] }
    return .number ((← get).contexts.length - 1)
  | .exitContext name => do
    discard <| context name
    lift (Session.reach .default)
    return .flag true
  | .listDevices name => do
    let c ← context name
    let keys ← lift (Session.listDevices c)
    let r ← get
    set { r with devices := r.devices ++ keys }
    return .devices <| (keys.filterMap r.session.device?).mapIdx fun i device =>
      { name := r.devices.length + i, device, ownContext := device.context == c }
  | .refDevice name => do
    let (key, _) ← device name
    lift (Session.refDevice key)
    return .number (← device name).2.references
  | .unrefDevice name => do
    let (key, _) ← device name
    lift (Session.unrefDevice key)
    return .number (← device name).2.references
  | .references name => return .number (← device name).2.references
  | .freeDevices names unref => do
    let keys ← names.mapM (named Rehearsal.devices)
    lift (Session.freeDeviceList keys unref)
    return .numbers (← names.mapM fun name => do return (← device name).2.references)
  | .deviceDescriptor name => do
    return .deviceDescriptor (Session.deviceDescriptor (← device name).2)
  | .activeConfig name => do
    return .configDescriptor (← lift (Session.activeConfig (← device name).2))
  | .busNumber name => do
    discard <| device name
    return .number Session.busNumber.toNat
  | .deviceAddress name => do
    match Session.deviceAddress (← device name).2 with
    | .ok address => return .number address.toNat
    | .error fault => throw (.fault fault)
  | .openDevice name => do
    let (key, d) ← device name
    let h ← lift (Session.openDevice key d)
    modify fun r => { r with handles := r.handles ++ [h] }
    let newName := (← get).handles.length - 1
    return .opened newName (← handle newName).2.connection
  | .closeDevice name => do
    let (key, h) ← handle name
    lift (Session.closeDevice key h)
    return .flag (← handle name).2.closed
  | .showHandle name => do
    let (_, h) ← handle name
    let d ← found ((← get).session.device? h.device)
    return .handle h d.record.device
  | .claim name number => do
    lift (Session.claimInterface (← handle name).2 number)
    return .done
  | .release name number => do
    lift (Session.releaseInterface (← handle name).2 number)
    return .done
  | .reset name => do
    lift (Session.resetDevice (← handle name).2)
    return .done
  | .controlTransfer name requestType request value index data timeout => do
    let (_, h) ← handle name
    let (result, data) ←
      lift (Session.controlTransfer h requestType request value index data timeout)
    return .transferred result data
  | .bulkTransfer name endpoint data timeout => do
    let (result, data) ← lift (Session.bulkTransfer (← handle name).2 endpoint data timeout)
    return .transferred result data
  | .interruptTransfer name endpoint data timeout => do
    let (result, data) ← lift (Session.interruptTransfer (← handle name).2 endpoint data timeout)
    return .transferred result data
  | .allocate packets => do
    let id ← lift (Session.allocTransfer packets)
    modify fun r => { r with transfers := r.transfers ++ [id] }
    return .number ((← get).transfers.length - 1)
  | .fillControl name h buffer timeout script => do
    let (key, _) ← handle h
    fill name fun t => t.fillControl key buffer { script } timeout
  | .fillData kind name h endpoint buffer timeout script => do
    let (key, _) ← handle h
    fill name fun t => t.fillData kind key endpoint buffer { script } timeout
  | .change name changes => do
    let id ← transfer name
    changes.forM (applyChange id)
    return .done
  | .submit name => do
    lift (Session.submit (← transfer name))
    return .done
  | .cancel name => do
    lift (Session.cancel (← transfer name))
    return .done
  | .free name => return .buffer (← lift (Session.free (← transfer name)))
  | .showTransfer name => do
    let id ← transfer name
    return .transfer ((← get).session.transfer id)
  | .printTransfer name => do
    let id ← transfer name
    return .text ((← get).session.transfer id).text
  | .handleEvents name | .handleEventsFor name => do
    Session.handleEvents (σ := ScriptedPlatform) run (← context name)
    return .done
  | .awaitEvents name outcome => do
    let c ← context name
    lift (Session.reach c)
    if ((← get).session.tracker c).completed.isEmpty then
      let completed ← complete outcome
      Session.handleEvents (σ := ScriptedPlatform) run c
      return .awaited completed
    else
      Session.handleEvents (σ := ScriptedPlatform) run c
      return .awaited (← complete outcome)
  | .showTracker name => do showTracker (← context name)
  | .command asked =>
    let handleEvents := Session.handleEvents (σ := ScriptedPlatform) run .default
    command (asked.run (σ := ScriptedPlatform) (κ := Action) handleEvents patience)

/-- Calls a callback, at most `depth` callbacks deep. An action that fails with an error does not
stop those after it; a fault does. -/
def call (patience : Nat) : (depth : Nat) → TransferId → Callback Action → RehearsalM Unit
  | 0, _, _ => pure ()
  | depth + 1, id, callback => do
    let r ← get
    let t := r.session.transfer id
    match r.nameOf? id with
    | some name =>
      set { r with events := .called name callback.calls t.status t.count t.buffer :: r.events }
    | none => pure ()
    callback.actions.forM fun action => do
      let reaction : Reaction ←
        try
          pure (.ok (← perform patience (call patience depth) action))
        catch
          | .error e => pure (.error (.error e))
          | .fault f => throw (.fault f)
      modify fun r => { r with events := .performed action reaction :: r.events }

/-- What one action of a program did. -/
structure Report where
  reaction : Reaction
  events : List Event
  requests : List RecordedRequest
  notices : List Notice

/-- Performs one action of a program of a total weight. -/
def step (weight : Nat) (action : Action) (r : Rehearsal) : Report × Rehearsal :=
  let seen := r.session.platform.requests.length
  let r := { r with session.notices := [], events := [] }
  let (reaction, r) := (perform weight (call weight weight) action).run.run r
  let requests := r.session.platform.requests
  ({ reaction
     events := r.events.reverse
     requests := (requests.take (requests.length - seen)).reverse
     notices := r.session.notices.reverse }, r)

/-- The reports of a list of actions. -/
def steps (weight : Nat) (r : Rehearsal) : List Action → List Report
  | [] => []
  | action :: actions =>
    let (report, r) := r.step weight action
    if action.endsWith report.reaction then [report] else report :: steps weight r actions

/-- Runs a program on a new session. -/
def run (actions : List Action) : List Report :=
  steps (Action.total actions + 1) { session := { platform := {} } } actions

end Rehearsal

end UsbHost
