import UsbHost.Fault
import UsbHost.Filter
import UsbHost.Host
import UsbHost.Table

/-!
# The USB worker

The worker owns everything that belongs to the host: the registry of known devices, the connections
and the open handles. It takes one command at a time. Every call of the host goes through the
journal.

A handle remembers the interfaces that were claimed through it and not released, and gives them up
when it is closed. It is closed when neither a connection nor a running transfer uses it any more. A
connection keeps a list of its own, of the interfaces it has claimed, and hands these back to the
kernel before it lets the handle go.
-/

namespace UsbHost

/-- An open handle. -/
structure Worker.OpenHandle (δ : Type) where
  device : δ
  /-- The interfaces that are claimed through the handle. -/
  remembered : List UInt8 := []

/-- A device that the worker knows. -/
structure Worker.KnownDevice (δ : Type) where
  device : δ
  location : Location
  descriptor : HostDescriptor

/-- An open connection to a device. -/
structure Worker.Connection where
  device : DeviceId
  handle : HostHandle
  /-- The interfaces that this connection has claimed, in order. -/
  claimed : List UInt8 := []
deriving DecidableEq, Repr

/-- A transfer that is still running. -/
structure Worker.Job where
  handle : HostHandle
  response : Response
deriving DecidableEq, Repr

/-- The worker over a host `η` with devices `δ`. -/
structure Worker (η δ : Type) where
  host : η
  filters : List String := []
  devices : Table DeviceId (Worker.KnownDevice δ) := .empty
  /-- Where the known devices are. -/
  locations : Table Location DeviceId := .empty
  connections : Table ConnectionId Worker.Connection := .empty
  handles : Table HostHandle (Worker.OpenHandle δ) := .empty
  nextDevice : UInt32 := 1
  nextConnection : UInt32 := 1
  nextHandle : Nat := 0
  jobs : List Worker.Job := []
  /-- The calls of the host so far, latest first. -/
  journal : List HostEntry := []

/-- What the worker does. -/
abbrev WorkerM (η δ : Type) := StateM (Worker η δ)

namespace Worker

variable {η δ : Type} [Host η δ]

/-! ## Calls of the host -/

/-- Does something with the host. -/
def onHost (action : StateM η α) : WorkerM η δ α :=
  modifyGet fun w =>
    let (a, host) := action.run w.host
    (a, { w with host })

/-- Writes a call of the host into the journal. -/
def record (handle : HostHandle) (device : δ) (call : HostCall) : WorkerM η δ Unit :=
  modify fun w =>
    { w with journal := ⟨handle, Host.location η device, call⟩ :: w.journal }

/-- Opens a device under a new handle. -/
def openHandle (device : δ) : WorkerM η δ (Except HostError HostHandle) := do
  let handle : HostHandle := ⟨(← get).nextHandle⟩
  let code ← onHost (Host.openDevice handle device)
  record handle device (.openDevice code)
  match Host.checkCode code with
  | .ok () =>
    modify fun w =>
      { w with handles := w.handles.put handle { device }, nextHandle := w.nextHandle + 1 }
    return .ok handle
  | .error e => return .error e

/-- What a handle remembers after a call on one of its interfaces, in increasing order. -/
def remembering (op : InterfaceOp) (number : UInt8) (code : Int) (remembered : List UInt8) :
    List UInt8 :=
  match op, Host.checkCode code with
  | .claim, .ok () =>
    (remembered.filter (· < number)) ++ [number] ++ (remembered.filter (· > number))
  | .release, .ok () => remembered.filter (· ≠ number)
  | _, _ => remembered

/-- Calls the host on an interface. The handle remembers a claim until its release. -/
def onInterface (op : InterfaceOp) (handle : HostHandle) (number : UInt8) : WorkerM η δ Int := do
  match (← get).handles.get? handle with
  | none => return 0
  | some h =>
    let code ← onHost (Host.onInterface op handle h.device number)
    record handle h.device (.onInterface op number code)
    let remembered := remembering op number code h.remembered
    modify fun w => { w with handles := w.handles.put handle { h with remembered } }
    return code

/-- Closes a handle that nobody uses: what it still remembers is released first. -/
def closeHandle (handle : HostHandle) : WorkerM η δ Unit := do
  match (← get).handles.get? handle with
  | none => pure ()
  | some h =>
    h.remembered.forM fun number => do
      let code ← onHost (Host.onInterface .release handle h.device number)
      record handle h.device (.onInterface .release number code)
    onHost (Host.close handle h.device)
    record handle h.device .close
    modify fun w => { w with handles := w.handles.erase handle }

/-- Whether a connection or a running transfer uses a handle. -/
def isUsed (w : Worker η δ) (handle : HostHandle) : Bool :=
  w.connections.values.any (·.handle = handle) || w.jobs.any (·.handle = handle)

/-- Closes a handle unless it is used. -/
def dropHandle (handle : HostHandle) : WorkerM η δ Unit := do
  unless (← get).isUsed handle do closeHandle handle

/-! ## Devices -/

/-- Reads a string of a device, if it is text. -/
def readText (handle : HostHandle) (device : δ) (index : Option UInt8) :
    WorkerM η δ (Option String) := do
  match index with
  | none => return none
  | some index =>
    let bytes ← onHost (Host.readString handle device index)
    record handle device (.readString index)
    match bytes with
    | .ok bytes => return String.fromUTF8? (ByteArray.mk bytes.toArray)
    | .error _ => return none

/-- The record of a known device. Its strings are read through a handle of their own, and stay
unknown when the device cannot be opened. -/
def recordOf (id : DeviceId) (known : KnownDevice δ) : WorkerM η δ DeviceRecord := do
  let d := known.descriptor
  let (manufacturerName, productName, serialNumber) ←
    match ← openHandle known.device with
    | .error _ => pure (none, none, none)
    | .ok handle =>
      let manufacturer ← readText handle known.device d.manufacturer
      let product ← readText handle known.device d.productName
      let serial ← readText handle known.device d.serialNumber
      closeHandle handle
      pure (manufacturer, product, serial)
  return {
    device := id
    vendor := d.vendor
    product := d.product
    version := some (Version.ofBcd d.release).toWord
    productName, manufacturerName, serialNumber }

/-- Finds a device of the host in the registry, or enters it. A device whose descriptor cannot be
read, or which the filters hold back, is passed over. -/
def identify (device : δ) : WorkerM η δ (Option DeviceId) := do
  let w ← get
  let location := Host.location η device
  match w.locations.get? location with
  | some id => return some id
  | none =>
    match Host.descriptor η device with
    | .error _ => return none
    | .ok descriptor =>
      if Filter.allow w.filters descriptor.vendor descriptor.product then
        let id : DeviceId := ⟨w.nextDevice⟩
        set { w with
          nextDevice := w.nextDevice + 1
          locations := w.locations.put location id
          devices := w.devices.put id { device, location, descriptor } }
        return some id
      else return none

/-- Forgets the devices that are not among `present`. -/
def retain (present : List DeviceId) (w : Worker η δ) : Worker η δ :=
  { w with
    devices := w.devices.filter fun id _ => id ∈ present
    locations := w.locations.filter fun _ id => id ∈ present }

/-- Lists the devices. One that is where a known device was keeps its id. -/
def getDevices : WorkerM η δ (Outcome (List DeviceRecord)) := do
  match ← onHost Host.list with
  | .error e => return .failed s!"enumeration failed: {e.message}"
  | .ok list =>
    let present := (← list.mapM identify).filterMap id
    modify (retain present)
    let devices := (← get).devices
    let known := present.filterMap fun id => (devices.get? id).map (id, ·)
    return .succeeded (← known.mapM fun (id, known) => recordOf id known)

/-- The outcome of asking for a device that is not known. -/
def unknownDevice (id : DeviceId) : Outcome α := .failed s!"unknown device {id.text}"

/-- The outcome of asking for a connection that is not open. -/
def unknownConnection (c : ConnectionId) : Outcome α := .failed s!"unknown connection {c.text}"

/-- The outcome of something that may fail on the host. -/
def outcomeOf : Except HostError α → Outcome α
  | .ok a => .succeeded a
  | .error e => .failed e.message

/-- The configurations of a device. The one with the number of the active one is the active one. -/
def getConfigurations (id : DeviceId) : WorkerM η δ (Outcome (List ConfigRecord)) := do
  match (← get).devices.get? id with
  | none => return unknownDevice id
  | some known =>
    let active := (← onHost (Host.activeConfig known.device)).toOption.map (·.value)
    let configs ← onHost <| ExceptT.run <|
      (List.range known.descriptor.configurations.toNat).mapM fun index =>
        ExceptT.mk (Host.config known.device index.toUInt8)
    return outcomeOf <| configs.map (·.map fun c => c.toRecord (active == some c.value))

/-! ## Connections -/

/-- Opens a known device, under a new connection. -/
def openDevice (id : DeviceId) : WorkerM η δ (Outcome ConnectionId) := do
  match (← get).devices.get? id with
  | none => return unknownDevice id
  | some known =>
    match ← openHandle known.device with
    | .error e => return .failed e.message
    | .ok handle =>
      let w ← get
      let connection : ConnectionId := ⟨w.nextConnection⟩
      set { w with
        nextConnection := w.nextConnection + 1
        connections := w.connections.put connection { device := id, handle } }
      return .succeeded connection

/-- Hands the claimed interfaces of a connection back to the kernel, whether or not the host can. -/
def releaseClaimed (c : Connection) : WorkerM η δ Unit :=
  c.claimed.forM fun number => do
    discard <| onInterface .release c.handle number
    discard <| onInterface .attach c.handle number

/-- Ends a connection. Its handle stays open until its last transfer is over. -/
def endConnection (id : ConnectionId) (c : Connection) : WorkerM η δ Unit := do
  modify fun w => { w with connections := w.connections.erase id }
  releaseClaimed c
  dropHandle c.handle

/-- Does something with a connection. -/
def withConnection (id : ConnectionId) (action : Connection → WorkerM η δ (Outcome α)) :
    WorkerM η δ (Outcome α) := do
  match (← get).connections.get? id with
  | some c => action c
  | none => return unknownConnection id

/-- Ends a connection that is open. -/
def closeDevice (id : ConnectionId) : WorkerM η δ (Outcome Unit) :=
  withConnection id fun c => do
    endConnection id c
    return .succeeded ()

/-- Gives a connection another list of claimed interfaces. -/
def setClaimed (id : ConnectionId) (c : Connection) (claimed : List UInt8) : WorkerM η δ Unit :=
  modify fun w => { w with connections := w.connections.put id { c with claimed } }

/-- Detaches a kernel driver that is in the way. That this fails does not matter. -/
def detachDriver (handle : HostHandle) (number : UInt8) : WorkerM η δ Unit := do
  if (← onInterface .kernelActive handle number) = 1 then
    discard <| onInterface .detach handle number

/-- Claims an interface, after a kernel driver was detached from it. -/
def claimInterface (id : ConnectionId) (number : UInt8) : WorkerM η δ (Outcome Unit) :=
  withConnection id fun c => do
    detachDriver c.handle number
    let result := Host.checkCode (← onInterface .claim c.handle number)
    if result.isOk && number ∉ c.claimed then
      setClaimed id c (c.claimed ++ [number])
    return outcomeOf result

/-- Releases an interface. Once that succeeds the connection forgets that it has claimed it. -/
def releaseInterface (id : ConnectionId) (number : UInt8) : WorkerM η δ (Outcome Unit) :=
  withConnection id fun c => do
    let result := Host.checkCode (← onInterface .release c.handle number)
    if result.isOk then
      setClaimed id c (c.claimed.filter (· ≠ number))
    return outcomeOf result

/-- Resets the device of a connection. -/
def resetDevice (id : ConnectionId) : WorkerM η δ (Outcome Unit) :=
  withConnection id fun c => do
    match (← get).handles.get? c.handle with
    | none => return .succeeded ()
    | some h =>
      let code ← onHost (Host.reset c.handle h.device)
      record c.handle h.device (.reset code)
      return outcomeOf (Host.checkCode code)

/-! ## Transfers -/

/-- Runs a request on a handle. What the host refuses or fails to do is a response too. The flag
says whether the transfer takes a while. -/
def runRequest (handle : HostHandle) (request : TransferRequest) :
    WorkerM η δ (Response × Bool) := do
  match HostTransfer.ofRequest request, (← get).handles.get? handle with
  | .error e, _ => return (.failure e.resultCode, false)
  | .ok _, none => return (.failure HostError.other.resultCode, false)
  | .ok transfer, some h =>
    let reply ← onHost (Host.transfer handle h.device transfer)
    record handle h.device (.transfer transfer)
    return (transfer.response reply, reply.held)

/-- Runs a transfer to its end. -/
def transfer (id : ConnectionId) (request : TransferRequest) : WorkerM η δ (Outcome Response) :=
  withConnection id fun c => do return .succeeded (← runRequest c.handle request).1

/-- Begins a transfer. While it is running its handle stays open. -/
def beginTransfer (id : ConnectionId) (request : TransferRequest) : WorkerM η δ (Outcome Unit) :=
  withConnection id fun c => do
    let (response, _) ← runRequest c.handle request
    modify fun w => { w with jobs := w.jobs ++ [⟨c.handle, response⟩] }
    return .succeeded ()

/-- Lets a transfer that was begun come to its end, and gives its outcome. -/
def finishTransfer (job : Job) : WorkerM η δ (Outcome Response) := do
  modify fun w => { w with jobs := w.jobs.erase job }
  dropHandle job.handle
  return .succeeded job.response

/-- Lets all of them come to their end, in the order in which they were begun. -/
def finishTransfers : WorkerM η δ (List (Outcome Response)) := do
  (← get).jobs.mapM finishTransfer

/-- Ends connections one after another. -/
def endConnections (ps : List (ConnectionId × Connection)) : WorkerM η δ Unit :=
  ps.forM fun (id, c) => endConnection id c

/-- Stops the worker: the connections that are left are ended. -/
def stop : WorkerM η δ Unit := do
  endConnections (← get).connections.entries

end Worker

/-! ## Commands -/

/-- A command to the worker. -/
inductive WorkerCommand where
  | getDevices
  | getConfigurations (device : DeviceId)
  | openDevice (device : DeviceId)
  | closeDevice (connection : ConnectionId)
  | claimInterface (connection : ConnectionId) (number : UInt8)
  | releaseInterface (connection : ConnectionId) (number : UInt8)
  | resetDevice (connection : ConnectionId)
  | transfer (connection : ConnectionId) (request : TransferRequest)
deriving DecidableEq, Repr

/-- The answer to a command. -/
inductive WorkerAnswer where
  | devices (outcome : Outcome (List DeviceRecord))
  | configurations (outcome : Outcome (List ConfigRecord))
  | connection (outcome : Outcome ConnectionId)
  | done (outcome : Outcome Unit)
  | transferred (outcome : Outcome Response)
deriving DecidableEq, Repr

/-- The answer to a command that fails. -/
def WorkerCommand.failure (reason : String) : WorkerCommand → WorkerAnswer
  | getDevices => .devices (.failed reason)
  | getConfigurations _ => .configurations (.failed reason)
  | openDevice _ => .connection (.failed reason)
  | closeDevice _ | claimInterface .. | releaseInterface .. | resetDevice _ =>
    .done (.failed reason)
  | transfer .. => .transferred (.failed reason)

/-- Performs one command. -/
def Worker.perform {η δ : Type} [Host η δ] : WorkerCommand → WorkerM η δ WorkerAnswer
  | .getDevices => .devices <$> getDevices
  | .getConfigurations device => .configurations <$> getConfigurations device
  | .openDevice device => .connection <$> openDevice device
  | .closeDevice connection => .done <$> closeDevice connection
  | .claimInterface connection number => .done <$> claimInterface connection number
  | .releaseInterface connection number => .done <$> releaseInterface connection number
  | .resetDevice connection => .done <$> resetDevice connection
  | .transfer connection request => .transferred <$> transfer connection request

end UsbHost
