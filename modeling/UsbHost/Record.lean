/-!
# Records of devices

What a platform tells about the devices attached to it and about their configurations. Records are
snapshots: nothing in them changes after they were taken.
-/

namespace UsbHost

/-- The platform's name for a device, the same as long as the device stays attached. -/
structure DeviceId where
  value : UInt32
deriving DecidableEq, Repr, Inhabited

/-- The platform's name for an open connection to a device. -/
structure ConnectionId where
  value : UInt32
deriving DecidableEq, Repr, Inhabited

/-- The direction of a transfer, seen from the host. -/
inductive Direction where
  | input
  | output
deriving DecidableEq, Repr

/-- The four ways in which USB moves data. -/
inductive TransferKind where
  | control
  | isochronous
  | bulk
  | interrupt
deriving DecidableEq, Repr, Inhabited

/-- How an isochronous endpoint keeps its clock. -/
inductive Synchronization where
  | asynchronous
  | adaptive
  | synchronous
deriving DecidableEq, Repr

/-- What an isochronous endpoint is for. -/
inductive Usage where
  | data
  | feedback
  | explicitFeedback
deriving DecidableEq, Repr

/-- A device as it was found. -/
structure DeviceRecord where
  device : DeviceId
  vendor : UInt16
  product : UInt16
  /-- The release number, in binary coded decimal. -/
  version : Option UInt16
  productName : Option String
  manufacturerName : Option String
  serialNumber : Option String
deriving DecidableEq, Repr

/-- An endpoint of an interface. -/
structure EndpointRecord where
  /-- The endpoint's number, with the direction in bit 7. -/
  address : UInt8
  kind : TransferKind
  direction : Direction
  maxPacketSize : UInt16
  /-- Of isochronous endpoints. -/
  synchronization : Option Synchronization
  /-- Of isochronous endpoints. -/
  usage : Option Usage
  pollingInterval : Option UInt8
  /-- Bytes of further descriptors, unread. -/
  extra : List UInt8
deriving DecidableEq, Repr

/-- One alternate setting of an interface. -/
structure InterfaceRecord where
  number : UInt8
  alternate : UInt8
  classCode : UInt8
  subclassCode : UInt8
  protocolCode : UInt8
  endpoints : List EndpointRecord
  extra : List UInt8
deriving DecidableEq, Repr

/-- A configuration of a device. -/
structure ConfigRecord where
  active : Bool
  value : UInt8
  remoteWakeup : Bool
  selfPowered : Bool
  /-- In units of 2 mA. -/
  maxPower : UInt8
  interfaces : List InterfaceRecord
  extra : List UInt8
deriving DecidableEq, Repr

/-- The number of endpoints of all interfaces. -/
def ConfigRecord.endpointCount (c : ConfigRecord) : Nat :=
  c.interfaces.foldr (·.endpoints.length + ·) 0

end UsbHost
