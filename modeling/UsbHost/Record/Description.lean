import UsbHost.Json.Described
import UsbHost.Request

/-!
# The JSON form of records, requests and responses

One schema for each type: the names of its members, their order, and which may be missing.
-/

namespace UsbHost

open Json

instance : Described DeviceId where
  schema := .word 32
  ofCarrier v := ⟨.ofBitVec v⟩
  toCarrier d := d.value.toBitVec
  ofCarrier_toCarrier _ := rfl

instance : Described ConnectionId where
  schema := .word 32
  ofCarrier v := ⟨.ofBitVec v⟩
  toCarrier c := c.value.toBitVec
  ofCarrier_toCarrier _ := rfl

instance : Described Direction where
  schema := .choice ["in", "out"]
  ofCarrier
    | 0 => .input
    | 1 => .output
  toCarrier
    | .input => 0
    | .output => 1
  ofCarrier_toCarrier d := by cases d <;> rfl

instance : Described TransferKind where
  schema := .choice ["control", "interrupt", "isochronous", "bulk"]
  ofCarrier
    | 0 => .control
    | 1 => .interrupt
    | 2 => .isochronous
    | 3 => .bulk
  toCarrier
    | .control => 0
    | .interrupt => 1
    | .isochronous => 2
    | .bulk => 3
  ofCarrier_toCarrier k := by cases k <;> rfl

instance : Described Synchronization where
  schema := .choice ["asynchronous", "adaptive", "synchronous"]
  ofCarrier
    | 0 => .asynchronous
    | 1 => .adaptive
    | 2 => .synchronous
  toCarrier
    | .asynchronous => 0
    | .adaptive => 1
    | .synchronous => 2
  ofCarrier_toCarrier s := by cases s <;> rfl

instance : Described Usage where
  schema := .choice ["data", "feedback", "explicitFeedback"]
  ofCarrier
    | 0 => .data
    | 1 => .feedback
    | 2 => .explicitFeedback
  toCarrier
    | .data => 0
    | .feedback => 1
    | .explicitFeedback => 2
  ofCarrier_toCarrier u := by cases u <;> rfl

instance : Described Recipient where
  schema := .choice ["device", "interface", "endpoint", "other"]
  ofCarrier
    | 0 => .device
    | 1 => .interface
    | 2 => .endpoint
    | 3 => .other
  toCarrier
    | .device => 0
    | .interface => 1
    | .endpoint => 2
    | .other => 3
  ofCarrier_toCarrier r := by cases r <;> rfl

instance : Described RequestKind where
  schema := .choice ["standard", "class", "vendor", "reserved"]
  ofCarrier
    | 0 => .standard
    | 1 => .classSpecific
    | 2 => .vendorSpecific
    | 3 => .reserved
  toCarrier
    | .standard => 0
    | .classSpecific => 1
    | .vendorSpecific => 2
    | .reserved => 3
  ofCarrier_toCarrier k := by cases k <;> rfl

instance : Described DeviceRecord where
  schema := .record <|
    .cons "device" .required (.word 32) <|
    .cons "vendorId" .required (.word 16) <|
    .cons "productId" .required (.word 16) <|
    .cons "version" .defaulted (.optional (.word 16)) <|
    .cons "productName" .defaulted (.optional .text) <|
    .cons "manufacturerName" .defaulted (.optional .text) <|
    .cons "serialNumber" .defaulted (.optional .text) .nil
  ofCarrier
    | (device, vendor, product, version, productName, manufacturerName, serialNumber, ()) =>
      { device := ⟨.ofBitVec device⟩
        vendor := .ofBitVec vendor
        product := .ofBitVec product
        version := version.map .ofBitVec
        productName, manufacturerName, serialNumber }
  toCarrier r :=
    (r.device.value.toBitVec, r.vendor.toBitVec, r.product.toBitVec, r.version.map (·.toBitVec),
      r.productName, r.manufacturerName, r.serialNumber, ())
  ofCarrier_toCarrier r := by cases r; simp [Function.comp_def]

instance : Described EndpointRecord where
  schema := .record <|
    .cons "address" .required (.word 8) <|
    .cons "type" .required (Described.schema TransferKind) <|
    .cons "direction" .required (Described.schema Direction) <|
    .cons "maximumPacketSize" .required (.word 16) <|
    .cons "synchronization" .defaulted (.optional (Described.schema Synchronization)) <|
    .cons "usage" .defaulted (.optional (Described.schema Usage)) <|
    .cons "pollingInterval" .defaulted (.optional (.word 8)) <|
    .cons "extra_data" .defaulted (.bytes true) .nil
  ofCarrier
    | (address, kind, direction, size, synchronization, usage, interval, extra, ()) =>
      { address := .ofBitVec address
        kind := Described.ofCarrier kind
        direction := Described.ofCarrier direction
        maxPacketSize := .ofBitVec size
        synchronization := synchronization.map Described.ofCarrier
        usage := usage.map Described.ofCarrier
        pollingInterval := interval.map .ofBitVec
        extra }
  toCarrier e :=
    (e.address.toBitVec, Described.toCarrier e.kind, Described.toCarrier e.direction,
      e.maxPacketSize.toBitVec, e.synchronization.map Described.toCarrier,
      e.usage.map Described.toCarrier, e.pollingInterval.map (·.toBitVec), e.extra, ())
  ofCarrier_toCarrier e := by cases e; simp [Function.comp_def]

instance : Described InterfaceRecord where
  schema := .record <|
    .cons "interfaceNumber" .required (.word 8) <|
    .cons "alternateSetting" .defaulted (.word 8) <|
    .cons "interfaceClass" .required (.word 8) <|
    .cons "interfaceSubclass" .required (.word 8) <|
    .cons "interfaceProtocol" .required (.word 8) <|
    .cons "endpoints" .required (.list (Described.schema EndpointRecord)) <|
    .cons "extra_data" .defaulted (.bytes true) .nil
  ofCarrier
    | (n, alternate, classCode, subclassCode, protocolCode, endpoints, extra, ()) =>
      { number := .ofBitVec n
        alternate := .ofBitVec alternate
        classCode := .ofBitVec classCode
        subclassCode := .ofBitVec subclassCode
        protocolCode := .ofBitVec protocolCode
        endpoints := endpoints.map Described.ofCarrier
        extra }
  toCarrier i :=
    (i.number.toBitVec, i.alternate.toBitVec, i.classCode.toBitVec, i.subclassCode.toBitVec,
      i.protocolCode.toBitVec, i.endpoints.map Described.toCarrier, i.extra, ())
  ofCarrier_toCarrier i := by cases i; simp [Function.comp_def]

instance : Described ConfigRecord where
  schema := .record <|
    .cons "active" .required .flag <|
    .cons "configurationValue" .required (.word 8) <|
    .cons "remoteWakeup" .required .flag <|
    .cons "selfPowered" .required .flag <|
    .cons "maxPower" .required (.word 8) <|
    .cons "interfaces" .required (.list (Described.schema InterfaceRecord)) <|
    .cons "extra_data" .defaulted (.bytes true) .nil
  ofCarrier
    | (active, value, remoteWakeup, selfPowered, maxPower, interfaces, extra, ()) =>
      { active
        value := .ofBitVec value
        remoteWakeup, selfPowered
        maxPower := .ofBitVec maxPower
        interfaces := interfaces.map Described.ofCarrier
        extra }
  toCarrier c :=
    (c.active, c.value.toBitVec, c.remoteWakeup, c.selfPowered, c.maxPower.toBitVec,
      c.interfaces.map Described.toCarrier, c.extra, ())
  ofCarrier_toCarrier c := by cases c; simp [Function.comp_def]

instance : Described ControlRequest where
  schema := .record <|
    .cons "direction" .required (Described.schema Direction) <|
    .cons "recipient" .required (Described.schema Recipient) <|
    .cons "requestType" .required (Described.schema RequestKind) <|
    .cons "request" .required (.word 8) <|
    .cons "value" .required (.word 16) <|
    .cons "index" .required (.word 16) <|
    .cons "length" .omitted (.optional (.word 16)) <|
    .cons "data" .omitted (.optional (.bytes false)) <|
    .cons "timeout" .required (.word 32) .nil
  ofCarrier
    | (direction, recipient, kind, request, value, index, length, data, timeout, ()) =>
      { direction := Described.ofCarrier direction
        recipient := Described.ofCarrier recipient
        kind := Described.ofCarrier kind
        request := .ofBitVec request
        value := .ofBitVec value
        index := .ofBitVec index
        length := length.map .ofBitVec
        data
        timeout := .ofBitVec timeout }
  toCarrier r :=
    (Described.toCarrier r.direction, Described.toCarrier r.recipient, Described.toCarrier r.kind,
      r.request.toBitVec, r.value.toBitVec, r.index.toBitVec, r.length.map (·.toBitVec), r.data,
      r.timeout.toBitVec, ())
  ofCarrier_toCarrier r := by cases r; simp [Function.comp_def]

instance : Described DataRequest where
  schema := .record <|
    .cons "direction" .required (Described.schema Direction) <|
    .cons "endpoint" .required (.word 8) <|
    .cons "length" .omitted (.optional (.word 32)) <|
    .cons "data" .omitted (.optional (.bytes false)) <|
    .cons "timeout" .required (.word 32) .nil
  ofCarrier
    | (direction, endpoint, length, data, timeout, ()) =>
      { direction := Described.ofCarrier direction
        endpoint := .ofBitVec endpoint
        length := length.map .ofBitVec
        data
        timeout := .ofBitVec timeout }
  toCarrier r :=
    (Described.toCarrier r.direction, r.endpoint.toBitVec, r.length.map (·.toBitVec), r.data,
      r.timeout.toBitVec, ())
  ofCarrier_toCarrier r := by cases r; simp [Function.comp_def]

instance : Described Response where
  schema := .record <|
    .cons "resultCode" .defaulted (.optional .int32) <|
    .cons "data" .defaulted (.optional (.bytes false)) .nil
  ofCarrier
    | (code, data, ()) => ⟨code, data⟩
  toCarrier r := (r.code, r.data, ())
  ofCarrier_toCarrier _ := rfl

end UsbHost
