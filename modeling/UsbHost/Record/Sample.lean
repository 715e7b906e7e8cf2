import UsbHost.Setup
import UsbHost.Text.Number

/-!
# Sample records

Records, bytes and setup blocks made from a few arguments, for rehearsing sessions.
-/

namespace UsbHost.Sample

/-- A device with strings that tell its number. -/
def device (id : UInt32) (vendor product : UInt16) : DeviceRecord where
  device := ⟨id⟩
  vendor
  product
  version := some 0x0100
  productName := some s!"Test Product {id.toNat}"
  manufacturerName := some s!"Test Manufacturer {id.toNat}"
  serialNumber := some s!"SN{Text.decimal 6 id.toNat}"

/-- Devices with the ids from 1 to `count`. -/
def devices (count : UInt32) : List DeviceRecord :=
  (List.range' 1 count.toNat).map fun i =>
    device i.toUInt32 (0x1000 + i.toUInt16) (0x2000 + i.toUInt16)

/-- A bulk endpoint, with the direction of its address. -/
def bulkEndpoint (address : UInt8) (maxPacketSize : UInt16) : EndpointRecord where
  address
  kind := .bulk
  direction := .ofByte address
  maxPacketSize
  synchronization := none
  usage := none
  pollingInterval := none
  extra := []

/-- An interrupt endpoint for packets of eight bytes. -/
def interruptEndpoint (address pollingInterval : UInt8) : EndpointRecord :=
  { bulkEndpoint address 8 with
    kind := .interrupt
    pollingInterval := some pollingInterval }

/-- An isochronous endpoint that is polled in every frame. -/
def isochronousEndpoint (address : UInt8) (synchronization : Synchronization) (usage : Usage) :
    EndpointRecord :=
  { bulkEndpoint address 1023 with
    kind := .isochronous
    synchronization := some synchronization
    usage := some usage
    pollingInterval := some 1 }

/-- An interface of a vendor's own class. -/
def interface (number : UInt8) (endpoints : List EndpointRecord) : InterfaceRecord where
  number
  alternate := 0
  classCode := 0xFF
  subclassCode := 0
  protocolCode := 0
  endpoints
  extra := []

/-- A configuration that draws 100 mA from the bus. -/
def config (value : UInt8) (active : Bool) (interfaces : List InterfaceRecord) : ConfigRecord where
  active
  value
  remoteWakeup := false
  selfPowered := false
  maxPower := 50
  interfaces
  extra := []

/-- An active configuration with a bulk endpoint in each direction. -/
def bulkConfig : ConfigRecord :=
  config 1 true [interface 0 [bulkEndpoint 0x81 512, bulkEndpoint 0x02 512]]

/-- The bytes of a device descriptor. -/
def deviceDescriptor : List UInt8 :=
  [0x12, 0x01, 0x00, 0x02, 0x00, 0x00, 0x00, 0x40, 0x34, 0x12, 0x78, 0x56, 0x00, 0x01, 0x01, 0x02,
    0x03, 0x01]

/-- Bytes that count up from 0, over and over. -/
def bulkData (size : Nat) : List UInt8 := (List.range size).map (·.toUInt8)

/-- The bytes of a setup block. -/
def setup (requestType request : UInt8) (value index length : UInt16) : List UInt8 :=
  Setup.toBytes ⟨requestType, request, value, index, length⟩

end UsbHost.Sample
