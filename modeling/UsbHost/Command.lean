import UsbHost.Descriptor.Fields
import UsbHost.Descriptor.Wire
import UsbHost.Document
import UsbHost.Session.Devices
import UsbHost.Session.Events

/-!
# Commands

What the command line does with a session: list the devices, print their records as JSON, describe
the active configuration of one, and read the descriptor of one through an asynchronous control
transfer. A command prints as it goes, and what it has printed stays when a fault ends it. Otherwise
it cleans up on every way out: devices are released, handles are closed, and its transfer is not
tracked any more.
-/

namespace UsbHost

/-- What the command line may be asked to do. -/
inductive Command where
  | list
  | json
  | describe (index : Nat)
  | readDescriptor (index : Nat)
deriving DecidableEq, Repr

/-- Printing texts, one after the other. -/
class Terminal (m : Type → Type) where
  print (text : String) : m Unit

namespace Command

/-- Why a command did not do what it was asked to. -/
inductive Error where
  | listing (e : UsbError)
  | noDevice (index count : Nat)
  | activeConfig (e : UsbError)
  | opening (e : UsbError)
  | allocating (e : UsbError)
  | submitting (e : UsbError)
  | unfinished
  | finished (status : TransferStatus)
  | shortDescriptor (count : Nat)
deriving DecidableEq, Repr

/-- The texts of an error, the outermost first. -/
def Error.texts : Error → List String
  | listing e => ["Failed to enumerate USB devices", e.message]
  | noDevice index count => [s!"No device at index {index} ({count} devices found)"]
  | activeConfig e => ["Failed to get active configuration", e.message]
  | opening e => ["Failed to open device", e.message]
  | allocating e => ["Failed to allocate transfer", e.message]
  | submitting e => ["Failed to submit control transfer", e.message]
  | unfinished => ["Control transfer did not complete in time"]
  | finished status => [s!"Control transfer finished with status {status.name}"]
  | shortDescriptor count => [s!"Short device descriptor ({count} bytes)"]

/-- What a command printed, and the error it ended with. -/
structure Result where
  out : String
  error : Option Error := none
deriving DecidableEq, Repr

/-- A session and what was printed on the way. -/
structure State (σ κ : Type) where
  session : Session σ κ
  printed : String := ""

end Command

/-- What a command does. Changes and what was printed stay when it fails. -/
abbrev CommandM (σ κ : Type) := ExceptT Failure (StateM (Command.State σ κ))

namespace Command

/-- A step of the session as a step of a command. -/
def lift {σ κ : Type} (step : SessionM σ κ α) : CommandM σ κ α :=
  ExceptT.mk fun s =>
    let (result, session) := step.run.run s.session
    (result, { s with session })

instance (priority := low) {σ κ : Type} : MonadLift (SessionM σ κ) (CommandM σ κ) := ⟨lift⟩

instance {σ κ : Type} : Terminal (CommandM σ κ) where
  print text := modify fun s => { s with printed := s.printed ++ text }

/-! ## Texts -/

/-- The line with the names of a device in a list. -/
def nameText (index : Nat) (r : DeviceRecord) : String :=
  s!"  [{index}] {Text.hex 4 r.vendor.toNat}:{Text.hex 4 r.product.toNat} - "
    ++ r.manufacturerName.getD "Unknown Manufacturer" ++ " "
    ++ r.productName.getD "Unknown Product" ++ "\n"

/-- The line with the place of a device. -/
def placeText (address : UInt8) : String :=
  s!"      Bus {Text.decimal 3 Session.busNumber.toNat} "
    ++ s!"Device {Text.decimal 3 address.toNat}\n"

/-- The line with the serial number of a device, if it has one, and an empty line. -/
def serialText (r : DeviceRecord) : String :=
  (match r.serialNumber with
    | some serial => s!"      Serial: {serial}\n"
    | none => "")
    ++ "\n"

/-- The first line about a device that is described. -/
def headingText (d : DeviceDescriptor) : String :=
  s!"Device {Text.hex 4 d.vendor.toNat}:{Text.hex 4 d.product.toNat} "
    ++ s!"(bcdDevice {Text.hex 4 d.deviceVersion.toNat})\n"

/-- The line of an endpoint. -/
def endpointText (e : EndpointDescriptor) : String :=
  "      Endpoint " ++ Text.hexLiteral 2 e.address.toNat
    ++ ": bmAttributes " ++ Text.hexLiteral 2 e.attributes.toNat
    ++ s!", wMaxPacketSize {e.maxPacketSize.toNat}, bInterval {e.interval.toNat}\n"

/-- The lines of an alternate setting. -/
def settingText (i : InterfaceDescriptor) : String :=
  s!"    Interface {i.number.toNat} alt {i.alternate.toNat}: "
    ++ "class " ++ Text.hexLiteral 2 i.classCode.toNat
    ++ " subclass " ++ Text.hexLiteral 2 i.subclassCode.toNat
    ++ " protocol " ++ Text.hexLiteral 2 i.protocolCode.toNat ++ "\n"
    ++ String.join (i.endpoints.map endpointText)

/-- The lines of a configuration. -/
def configText (c : ConfigDescriptor) : String :=
  s!"  Configuration {c.value.toNat}: {c.interfaceCount.toNat} interface(s), "
    ++ "bmAttributes " ++ Text.hexLiteral 2 c.attributes.toNat
    ++ s!", MaxPower {c.maxPower.toNat}\n"
    ++ String.join (c.interfaces.flatMap fun i => i.settings.map settingText)

/-- The line of a field with its value. -/
def fieldText (field : String × Nat) : String := s!"    {field.1}: {field.2},\n"

/-- A device descriptor, a field a line. -/
def descriptorText (d : DeviceDescriptor) : String :=
  "DeviceDescriptor \x7b\n" ++ String.join (d.fields.map fieldText) ++ "\x7d\n"

/-! ## The steps of commands -/

section Steps
variable {σ κ : Type} [Platform σ]

/-- Does something that may fail with an error. -/
def attempt (action : SessionM σ κ α) : SessionM σ κ (Except UsbError α) := do
  try
    return .ok (← action)
  catch
    | .error e => return .error e
    | .fault f => throw (.fault f)

/-- A value, or the fault met on the way to it. -/
def orFault (value : Except Fault α) : SessionM σ κ α :=
  match value with
  | .ok a => pure a
  | .error fault => throw (.fault fault)

/-- The devices of a list. -/
def devicesOf (keys : List DeviceKey) : SessionM σ κ (List Device) := do
  let s ← get
  return keys.filterMap s.device?

/-- The buffer of a request for the device descriptor. -/
def descriptorRequest : Except Fault (List UInt8) :=
  let size := Descriptor.deviceSize
  let buffer := List.replicate (Setup.size + size.toNat) 0
  Setup.fill buffer 0x80 0x06 (Descriptor.deviceType.toUInt16 <<< 8) 0 size.toUInt16

/-- In milliseconds. -/
def descriptorTimeout : UInt32 := 1000

/-- The device descriptor in the buffer of a transfer that ended with a status and a count. The
buffer is cut behind the setup block, and it is a fault if there is not even room for that. -/
def descriptorOf (status : TransferStatus) (count : Nat) (buffer : List UInt8) :
    Except Fault (Except Error DeviceDescriptor) :=
  if status ≠ .completed then .ok (.error (.finished status))
  else do
    let bytes ← slice buffer Setup.size (min (Setup.size + count) buffer.length)
    return (DeviceDescriptor.parse bytes).elim (.error (.shortDescriptor count)) .ok

/-- Fills and submits a request for the device descriptor. -/
def startReading (h : HandleKey) : SessionM σ κ (Except Error TransferId) := do
  let buffer ← orFault descriptorRequest
  match ← attempt (Session.allocTransfer 0) with
  | .error e => return .error (.allocating e)
  | .ok id =>
    modify (Session.alter id fun t => t.fillControl h buffer {} descriptorTimeout)
    match ← attempt (Session.submit id) with
    | .error e => return .error (.submitting e)
    | .ok () => return .ok id

/-- Whether the callback of a transfer has been called. -/
def wasCalled (id : TransferId) : SessionM σ κ Bool := do
  return ((← get).transfer id).callback.any (·.calls > 0)

/-- Frees a transfer that was finished, and reads the descriptor in it. -/
def finishReading (id : TransferId) : SessionM σ κ (Except Error DeviceDescriptor) := do
  let t := (← get).transfer id
  let buffer ← Session.free id
  orFault (descriptorOf t.status t.count (buffer.getD []))

/-- Closes a handle. -/
def closeHandle (h : HandleKey) : SessionM σ κ Unit := do
  match (← get).handle? h with
  | some handle => Session.closeDevice h handle
  | none => pure ()

end Steps

/-! ## Commands -/

section Commands

variable {σ κ : Type} [Platform σ]
variable {m : Type → Type} [Monad m] [MonadLiftT (SessionM σ κ) m]

/-- Handles events until the callback of a transfer has been called, at most `patience` times. -/
def waitFor (handleEvents : m Unit) (id : TransferId) : (patience : Nat) → m Bool
  | 0 => pure false
  | patience + 1 => do
    handleEvents
    if ← liftM (wasCalled id : SessionM σ κ Bool) then pure true
    else waitFor handleEvents id patience

/-- Reads the device descriptor over an open handle. -/
def readOver (handleEvents : m Unit) (patience : Nat) (h : HandleKey) :
    m (Except Error DeviceDescriptor) := do
  match ← liftM (startReading h : SessionM σ κ _) with
  | .error e => return .error e
  | .ok id =>
    if ← waitFor (σ := σ) (κ := κ) handleEvents id patience then
      liftM (finishReading id : SessionM σ κ _)
    else
      discard <| liftM (attempt (Session.cancel id) : SessionM σ κ _)
      handleEvents
      discard <| liftM (Session.free id : SessionM σ κ _)
      return .error .unfinished

variable [Terminal m]

/-- Prints the lines of one device in a list. -/
def printDevice (index : Nat) (device : Device) : m Unit := do
  Terminal.print (nameText index device.record)
  let address ← liftM (orFault (Session.deviceAddress device) : SessionM σ κ _)
  Terminal.print (placeText address ++ serialText device.record)

/-- Lists the devices. -/
def printList : m (Except Error Unit) := do
  match ← liftM (attempt (Session.listDevices .default) : SessionM σ κ _) with
  | .error e => return .error (.listing e)
  | .ok keys =>
    let devices ← liftM (devicesOf keys : SessionM σ κ _)
    if devices.isEmpty then Terminal.print "No USB devices found.\n"
    else
      Terminal.print s!"Found {devices.length} USB device(s):\n\n"
      devices.zipIdx.forM fun (device, index) =>
        printDevice (σ := σ) (κ := κ) index device
    liftM (Session.freeDeviceList keys true : SessionM σ κ _)
    return .ok ()

/-- Prints the records of the devices. -/
def printRecords : m (Except Error Unit) := do
  match ← liftM (attempt (Session.listDevices .default) : SessionM σ κ _) with
  | .error e => return .error (.listing e)
  | .ok keys =>
    let devices ← liftM (devicesOf keys : SessionM σ κ _)
    liftM (Session.freeDeviceList keys true : SessionM σ κ _)
    Terminal.print (Document.encodePretty (devices.map (·.record)) ++ "\n")
    return .ok ()

/-- Describes a device and its active configuration. -/
def describeDevice (device : Device) : m (Except Error Unit) := do
  Terminal.print (headingText (Session.deviceDescriptor device))
  match ← liftM (attempt (Session.activeConfig device) : SessionM σ κ _) with
  | .error e => return .error (.activeConfig e)
  | .ok config =>
    Terminal.print (configText config)
    return .ok ()

/-- Opens a device and reads its descriptor. -/
def readDevice (handleEvents : m Unit) (patience : Nat) (d : DeviceKey) (device : Device) :
    m (Except Error Unit) := do
  match ← liftM (attempt (Session.openDevice d device) : SessionM σ κ _) with
  | .error e => return .error (.opening e)
  | .ok h =>
    let result ← readOver (σ := σ) (κ := κ) handleEvents patience h
    liftM (closeHandle h : SessionM σ κ _)
    match result with
    | .error e => return .error e
    | .ok descriptor =>
      Terminal.print (descriptorText descriptor)
      return .ok ()

/-- Does something with the device at an index of the list, which is freed afterwards. -/
def withDevice (index : Nat) (action : DeviceKey → Device → m (Except Error Unit)) :
    m (Except Error Unit) := do
  match ← liftM (attempt (Session.listDevices .default) : SessionM σ κ _) with
  | .error e => return .error (.listing e)
  | .ok keys =>
    let s ← liftM (get : SessionM σ κ _)
    let found := keys[index]?.bind fun key => (s.device? key).map (key, ·)
    let result ← match found with
      | some (key, device) => action key device
      | none => pure (.error (.noDevice index keys.length))
    liftM (Session.freeDeviceList keys true : SessionM σ κ _)
    return result

/-- Runs a command, to the error it ends with. `handleEvents` finishes one transfer of the default
context; after `patience` calls of it a transfer counts as lost. -/
def run (handleEvents : m Unit) (patience : Nat) : Command → m (Except Error Unit)
  | .list => printList (σ := σ) (κ := κ)
  | .json => printRecords (σ := σ) (κ := κ)
  | .describe index =>
    withDevice (σ := σ) (κ := κ) index fun _ => describeDevice (σ := σ) (κ := κ)
  | .readDescriptor index =>
    withDevice (σ := σ) (κ := κ) index (readDevice (σ := σ) (κ := κ) handleEvents patience)

end Commands

end Command

end UsbHost
