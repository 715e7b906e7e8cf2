import UsbHost.Descriptor
import UsbHost.Json.Basic

/-!
# The fields of descriptors

The number fields of each descriptor with their names, in the order of the layout, and the JSON form
of descriptors: an object of these fields and of the parts.
-/

namespace UsbHost

/-- The number fields of a device, all it has. -/
def DeviceDescriptor.fields (d : DeviceDescriptor) : List (String × Nat) :=
  [("b_length", d.length.toNat), ("b_descriptor_type", d.type.toNat),
    ("bcd_usb", d.usbVersion.toNat), ("b_device_class", d.deviceClass.toNat),
    ("b_device_sub_class", d.deviceSubclass.toNat), ("b_device_protocol", d.deviceProtocol.toNat),
    ("b_max_packet_size0", d.maxPacketSize.toNat), ("id_vendor", d.vendor.toNat),
    ("id_product", d.product.toNat), ("bcd_device", d.deviceVersion.toNat),
    ("i_manufacturer", d.manufacturerIndex.toNat), ("i_product", d.productIndex.toNat),
    ("i_serial_number", d.serialNumberIndex.toNat),
    ("b_num_configurations", d.configurations.toNat)]

/-- The number fields of an endpoint. -/
def EndpointDescriptor.fields (e : EndpointDescriptor) : List (String × Nat) :=
  [("b_length", e.length.toNat), ("b_descriptor_type", e.type.toNat),
    ("b_endpoint_address", e.address.toNat), ("bm_attributes", e.attributes.toNat),
    ("w_max_packet_size", e.maxPacketSize.toNat), ("b_interval", e.interval.toNat),
    ("b_refresh", e.refresh.toNat), ("b_synch_address", e.synchAddress.toNat)]

/-- The number fields of an alternate setting. -/
def InterfaceDescriptor.fields (i : InterfaceDescriptor) : List (String × Nat) :=
  [("b_length", i.length.toNat), ("b_descriptor_type", i.type.toNat),
    ("b_interface_number", i.number.toNat), ("b_alternate_setting", i.alternate.toNat),
    ("b_num_endpoints", i.endpointCount.toNat), ("b_interface_class", i.classCode.toNat),
    ("b_interface_sub_class", i.subclassCode.toNat),
    ("b_interface_protocol", i.protocolCode.toNat), ("i_interface", i.nameIndex.toNat)]

/-- The number fields of a configuration. -/
def ConfigDescriptor.fields (c : ConfigDescriptor) : List (String × Nat) :=
  [("b_length", c.length.toNat), ("b_descriptor_type", c.type.toNat),
    ("w_total_length", c.totalLength.toNat), ("b_num_interfaces", c.interfaceCount.toNat),
    ("b_configuration_value", c.value.toNat), ("i_configuration", c.nameIndex.toNat),
    ("bm_attributes", c.attributes.toNat), ("max_power", c.maxPower.toNat)]

/-- The members of number fields. -/
def Descriptor.members (fields : List (String × Nat)) : List (String × Json) :=
  fields.map fun (name, n) => (name, .number n)

/-- The object of a device. -/
def DeviceDescriptor.toJson (d : DeviceDescriptor) : Json := .object (Descriptor.members d.fields)

/-- The object of an endpoint. -/
def EndpointDescriptor.toJson (e : EndpointDescriptor) : Json :=
  .object (Descriptor.members e.fields ++ [("extra", .ofBytes e.extra)])

/-- The object of an alternate setting, with its endpoints. -/
def InterfaceDescriptor.toJson (i : InterfaceDescriptor) : Json :=
  .object (Descriptor.members i.fields
    ++ [("endpoints", .array (i.endpoints.map EndpointDescriptor.toJson)),
      ("extra", .ofBytes i.extra)])

/-- The object of an interface: its alternate settings and nothing else. -/
def Interface.toJson (i : Interface) : Json :=
  .object [("altsettings", .array (i.settings.map InterfaceDescriptor.toJson))]

/-- The object of a configuration, with its interfaces. -/
def ConfigDescriptor.toJson (c : ConfigDescriptor) : Json :=
  .object (Descriptor.members c.fields
    ++ [("interfaces", .array (c.interfaces.map Interface.toJson)), ("extra", .ofBytes c.extra)])

end UsbHost
