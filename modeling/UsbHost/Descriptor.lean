import UsbHost.Fault

/-!
# Descriptors

The fixed layouts in which the host API describes devices, and how records are turned into them.
A configuration is a tree: its interfaces, their alternate settings, their endpoints. Length fields
hold the size of the fixed part, and string indexes are zero because records hold the strings
themselves.
-/

namespace UsbHost

namespace Descriptor

/-- The type of a device descriptor. -/
def deviceType : UInt8 := 0x01
/-- The type of a configuration descriptor. -/
def configType : UInt8 := 0x02
/-- The type of an interface descriptor. -/
def interfaceType : UInt8 := 0x04
/-- The type of an endpoint descriptor. -/
def endpointType : UInt8 := 0x05

/-- The bytes of a device descriptor. -/
def deviceSize : UInt8 := 18
/-- The bytes of a configuration without its interfaces and extra bytes. -/
def configSize : UInt8 := 9
/-- The bytes of an alternate setting without its endpoints and extra bytes. -/
def interfaceSize : UInt8 := 9
/-- The bytes of an endpoint without extra bytes. -/
def endpointSize : UInt8 := 7

/-- The attribute bit of a configuration that supports remote wakeup. -/
def remoteWakeupBit : UInt8 := 0x20
/-- The attribute bit of a configuration that powers itself. -/
def selfPoweredBit : UInt8 := 0x40

end Descriptor

/-- What a device says about itself in general. -/
structure DeviceDescriptor where
  length : UInt8
  type : UInt8
  usbVersion : UInt16
  deviceClass : UInt8
  deviceSubclass : UInt8
  deviceProtocol : UInt8
  maxPacketSize : UInt8
  vendor : UInt16
  product : UInt16
  deviceVersion : UInt16
  manufacturerIndex : UInt8
  productIndex : UInt8
  serialNumberIndex : UInt8
  configurations : UInt8
deriving DecidableEq, Repr

/-- An endpoint of an alternate setting. -/
structure EndpointDescriptor where
  length : UInt8
  type : UInt8
  address : UInt8
  attributes : UInt8
  maxPacketSize : UInt16
  interval : UInt8
  refresh : UInt8
  synchAddress : UInt8
  extra : List UInt8
deriving DecidableEq, Repr

/-- An alternate setting of an interface, with its endpoints. -/
structure InterfaceDescriptor where
  length : UInt8
  type : UInt8
  number : UInt8
  alternate : UInt8
  endpointCount : UInt8
  classCode : UInt8
  subclassCode : UInt8
  protocolCode : UInt8
  nameIndex : UInt8
  endpoints : List EndpointDescriptor
  extra : List UInt8
deriving DecidableEq, Repr

/-- An interface with its alternate settings. -/
structure Interface where
  settings : List InterfaceDescriptor
deriving DecidableEq, Repr

/-- A configuration of a device, with its interfaces. -/
structure ConfigDescriptor where
  length : UInt8
  type : UInt8
  totalLength : UInt16
  interfaceCount : UInt8
  value : UInt8
  nameIndex : UInt8
  attributes : UInt8
  maxPower : UInt8
  interfaces : List Interface
  extra : List UInt8
deriving DecidableEq, Repr

/-! ## Endpoint attributes -/

/-- What the attribute byte of an endpoint says. -/
structure EndpointAttributes where
  kind : TransferKind
  /-- Of isochronous endpoints. -/
  synchronization : Option Synchronization
  /-- Of isochronous endpoints. -/
  usage : Option Usage
deriving DecidableEq, Repr

/-- The two low bits of an attribute byte. -/
def TransferKind.code : TransferKind → UInt8
  | control => 0
  | isochronous => 1
  | bulk => 2
  | interrupt => 3

/-- The kind of two bits. -/
def TransferKind.ofCode (bits : UInt8) : TransferKind :=
  match bits with
  | 0 => control
  | 1 => isochronous
  | 2 => bulk
  | _ => interrupt

/-- Two bits of an attribute byte; 0 stands for no synchronization. -/
def Synchronization.code : Synchronization → UInt8
  | asynchronous => 1
  | adaptive => 2
  | synchronous => 3

/-- The synchronization of two bits, if they stand for one. -/
def Synchronization.ofCode? (bits : UInt8) : Option Synchronization :=
  match bits with
  | 1 => some asynchronous
  | 2 => some adaptive
  | 3 => some synchronous
  | _ => none

/-- Two bits of an attribute byte; 3 is reserved. -/
def Usage.code : Usage → UInt8
  | data => 0
  | feedback => 1
  | explicitFeedback => 2

/-- The usage of two bits, if they stand for one. -/
def Usage.ofCode? (bits : UInt8) : Option Usage :=
  match bits with
  | 0 => some data
  | 1 => some feedback
  | 2 => some explicitFeedback
  | _ => none

namespace EndpointAttributes

/-- The attribute byte. Synchronization and usage count for isochronous endpoints only, which must
have both. -/
def pack (a : EndpointAttributes) : Except Fault UInt8 :=
  match a.kind, a.synchronization, a.usage with
  | .isochronous, none, _ => .error .noSynchronization
  | .isochronous, some _, none => .error .noUsage
  | .isochronous, some s, some u => .ok (a.kind.code ||| (s.code <<< 2) ||| (u.code <<< 4))
  | _, _, _ => .ok a.kind.code

/-- What an attribute byte says. Codes that stand for no synchronization or usage give none. -/
def unpack (b : UInt8) : EndpointAttributes :=
  match TransferKind.ofCode (b &&& 0x03) with
  | .isochronous =>
    { kind := .isochronous
      synchronization := Synchronization.ofCode? ((b &&& 0x0c) >>> 2)
      usage := Usage.ofCode? ((b &&& 0x30) >>> 4) }
  | kind => { kind, synchronization := none, usage := none }

end EndpointAttributes

/-! ## Descriptors of records -/

namespace Descriptor

/-- A count in one byte. -/
def count (n : Nat) (what : Counted) : Except Fault UInt8 :=
  if n < 256 then .ok n.toUInt8 else .error (.tooMany n what)

/-- An endpoint; without a polling interval the field is zero. -/
def ofEndpoint (r : EndpointRecord) : Except Fault EndpointDescriptor := do
  let attributes ← EndpointAttributes.pack ⟨r.kind, r.synchronization, r.usage⟩
  return {
    length := endpointSize
    type := endpointType
    address := r.address
    attributes
    maxPacketSize := r.maxPacketSize
    interval := r.pollingInterval.getD 0
    refresh := 0
    synchAddress := 0
    extra := r.extra }

/-- An alternate setting, with the descriptors of its endpoints in their order. -/
def ofSetting (r : InterfaceRecord) : Except Fault InterfaceDescriptor := do
  let endpointCount ← count r.endpoints.length .endpoints
  let endpoints ← r.endpoints.mapM ofEndpoint
  return {
    length := interfaceSize
    type := interfaceType
    number := r.number
    alternate := r.alternate
    endpointCount
    classCode := r.classCode
    subclassCode := r.subclassCode
    protocolCode := r.protocolCode
    nameIndex := 0
    endpoints
    extra := r.extra }

/-- An interface; a record stands for one alternate setting, so there is one. -/
def ofInterface (r : InterfaceRecord) : Except Fault Interface := do
  return ⟨[← ofSetting r]⟩

/-- A configuration, with an interface for each interface record. The total length counts the
configuration alone. -/
def ofConfig (r : ConfigRecord) : Except Fault ConfigDescriptor := do
  let interfaceCount ← count r.interfaces.length .interfaces
  let interfaces ← r.interfaces.mapM ofInterface
  return {
    length := configSize
    type := configType
    totalLength := configSize.toUInt16
    interfaceCount
    value := r.value
    nameIndex := 0
    attributes := (if r.remoteWakeup then remoteWakeupBit else 0)
      ||| (if r.selfPowered then selfPoweredBit else 0)
    maxPower := r.maxPower
    interfaces
    extra := r.extra }

/-- A device; only the ids and the release number are known, and all else is zero. -/
def ofDevice (r : DeviceRecord) : DeviceDescriptor where
  length := deviceSize
  type := deviceType
  usbVersion := 0
  deviceClass := 0
  deviceSubclass := 0
  deviceProtocol := 0
  maxPacketSize := 0
  vendor := r.vendor
  product := r.product
  deviceVersion := r.version.getD 0
  manufacturerIndex := 0
  productIndex := 0
  serialNumberIndex := 0
  configurations := 0

end Descriptor

/-- Why no configuration is the active one. -/
inductive ActiveConfigError where
  | noneActive
  | severalActive (count : Nat)
deriving DecidableEq, Repr

/-- The text of the error. -/
def ActiveConfigError.message : ActiveConfigError → String
  | noneActive => "no active configuration reported"
  | severalActive count => s!"{count} configurations reported as active"

/-- The descriptor of the one active configuration. The others are not looked at further. -/
def Descriptor.ofActive (records : List ConfigRecord) :
    Except Fault (Except ActiveConfigError ConfigDescriptor) :=
  match records.filter (·.active) with
  | [] => .ok (.error .noneActive)
  | [r] => do return .ok (← ofConfig r)
  | active => .ok (.error (.severalActive active.length))

end UsbHost
