import UsbHost.Session

/-!
# Devices and handles

Listing devices and counting references to them, their descriptors, and opening, claiming, resetting
and closing.
-/

namespace UsbHost.Session

variable {σ κ : Type} [Platform σ]

/-- The bus on which every device is said to be. -/
def busNumber : UInt8 := 42

/-- Lists the devices. Each starts with one reference. -/
def listDevices (c : ContextId) : SessionM σ κ (List DeviceKey) := do
  let records ← check .listDevices (← onPlatform Platform.getDevices)
  note (.devicesListed records.length)
  modifyGet fun s =>
    ((List.range' s.devices.length records.length).map DeviceKey.mk,
      { s with devices := s.devices ++ records.map fun record => { context := c, record } })

/-- Changes the number of references of a device. -/
def setReferences (d : DeviceKey) (n : Nat) (s : Session σ κ) : Session σ κ :=
  { s with devices := s.devices.modify d.index fun device => { device with references := n } }

/-- Takes another reference to a device. -/
def refDevice (d : DeviceKey) : SessionM σ κ Unit :=
  modify fun s => match s.device? d with
    | some device => s.setReferences d (device.references + 1)
    | none => s

/-- Drops a reference to a device. -/
def unrefDevice (d : DeviceKey) : SessionM σ κ Unit := do
  match (← get).device? d with
  | none => pure ()
  | some device =>
    match device.references with
    | 0 => throw (.fault (.noReferences device.record.device))
    | n + 1 => modify (setReferences d n)

/-- Frees a list of devices, and drops a reference to each when asked to. -/
def freeDeviceList (ds : List DeviceKey) (unref : Bool) : SessionM σ κ Unit :=
  if unref then ds.forM unrefDevice else pure ()

/-- The device descriptor, made from the device's record. -/
def deviceDescriptor (device : Device) : DeviceDescriptor := Descriptor.ofDevice device.record

/-- The descriptor of the device's active configuration. -/
def activeConfig (device : Device) : SessionM σ κ ConfigDescriptor := do
  let records ← check .activeConfig (← onPlatform (Platform.getConfigurations device.record))
  match Descriptor.ofActive records with
  | .error fault => throw (.fault fault)
  | .ok (.ok config) => return config
  | .ok (.error e) =>
    note (.noActiveConfig device.record.device e)
    throw (.error .other)

/-- The address of a device is the platform's number of it; 255 is no address. -/
def deviceAddress (device : Device) : Except Fault UInt8 :=
  let id := device.record.device
  if id.value < 255 then .ok id.value.toUInt8 else .error (.noAddress id)

/-- Opens a device. -/
def openDevice (d : DeviceKey) (device : Device) : SessionM σ κ HandleKey := do
  let connection ← check .openDevice (← onPlatform (Platform.openDevice device.record))
  note (.deviceOpened device.record.device connection)
  modifyGet fun s =>
    (⟨s.handles.length⟩,
      { s with handles := s.handles ++ [{ device := d, context := device.context, connection }] })

/-- Closes a handle. That the platform fails to close it is only noticed. -/
def closeDevice (h : HandleKey) (handle : Handle) : SessionM σ κ Unit := do
  if handle.closed then throw (.fault (.closedTwice handle.connection))
  modify fun s =>
    { s with handles := s.handles.modify h.index fun handle => { handle with closed := true } }
  let outcome ← onPlatform (Platform.closeDevice handle.connection)
  unless outcome.isSuccessful do
    note (.closeFailed handle.connection outcome.message)

/-- Claims an interface of an open device. -/
def claimInterface (handle : Handle) (number : UInt8) : SessionM σ κ Unit := do
  check .claimInterface (← onPlatform (Platform.claimInterface handle.connection number))

/-- Releases an interface of an open device. -/
def releaseInterface (handle : Handle) (number : UInt8) : SessionM σ κ Unit := do
  check .releaseInterface (← onPlatform (Platform.releaseInterface handle.connection number))

/-- Resets an open device. -/
def resetDevice (handle : Handle) : SessionM σ κ Unit := do
  check .resetDevice (← onPlatform (Platform.resetDevice handle.connection))

end UsbHost.Session
