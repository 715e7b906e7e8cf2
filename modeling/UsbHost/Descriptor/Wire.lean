import UsbHost.Descriptor
import UsbHost.Setup

/-!
# Device descriptors in bytes

The 18 bytes in which a device sends its descriptor.
-/

namespace UsbHost.DeviceDescriptor

/-- The 18 bytes of a device descriptor, words with the low byte first. -/
def toBytes (d : DeviceDescriptor) : List UInt8 :=
  [d.length, d.type] ++ littleEndian d.usbVersion
    ++ [d.deviceClass, d.deviceSubclass, d.deviceProtocol, d.maxPacketSize]
    ++ littleEndian d.vendor ++ littleEndian d.product ++ littleEndian d.deviceVersion
    ++ [d.manufacturerIndex, d.productIndex, d.serialNumberIndex, d.configurations]

/-- The device descriptor at the start of some bytes, if they hold one. -/
def parse : List UInt8 → Option DeviceDescriptor
  | length :: type :: u₀ :: u₁ :: cls :: sub :: proto :: size :: v₀ :: v₁ :: p₀ :: p₁ :: d₀ :: d₁
      :: manufacturer :: product :: serial :: configurations :: _ =>
    if type = Descriptor.deviceType then
      some
        { length, type
          usbVersion := ofLittleEndian u₀ u₁
          deviceClass := cls
          deviceSubclass := sub
          deviceProtocol := proto
          maxPacketSize := size
          vendor := ofLittleEndian v₀ v₁
          product := ofLittleEndian p₀ p₁
          deviceVersion := ofLittleEndian d₀ d₁
          manufacturerIndex := manufacturer
          productIndex := product
          serialNumberIndex := serial
          configurations }
    else none
  | _ => none

end UsbHost.DeviceDescriptor
