import UsbHost.Descriptor
import UsbHost.Setup

/-!
# Hosts

The USB system of a computer, as the worker sees it: calls with return codes, on devices and on open
handles. A code of 0 is success and a negative one an error. What a device tells about itself comes
in descriptors, which are turned into records here.
-/

namespace UsbHost

/-- Why a host call failed. -/
inductive HostError where
  | io
  | invalidParam
  | access
  | noDevice
  | notFound
  | busy
  | timeout
  | overflow
  | pipe
  | interrupted
  | noMemory
  | notSupported
  | badDescriptor
  | other
deriving DecidableEq, Repr

namespace HostError

/-- All errors, in the order of their codes. -/
def all : List HostError :=
  [io, invalidParam, access, noDevice, notFound, busy, timeout, overflow, pipe, interrupted,
    noMemory, notSupported, badDescriptor, other]

/-- The name in transcripts. -/
def name : HostError → String
  | io => "Io"
  | invalidParam => "InvalidParam"
  | access => "Access"
  | noDevice => "NoDevice"
  | notFound => "NotFound"
  | busy => "Busy"
  | timeout => "Timeout"
  | overflow => "Overflow"
  | pipe => "Pipe"
  | interrupted => "Interrupted"
  | noMemory => "NoMem"
  | notSupported => "NotSupported"
  | badDescriptor => "BadDescriptor"
  | other => "Other"

/-- The error of a code; one that is not known is `other`. -/
def ofCode (code : Int) : HostError :=
  match code with
  | -1 => io
  | -2 => invalidParam
  | -3 => access
  | -4 => noDevice
  | -5 => notFound
  | -6 => busy
  | -7 => timeout
  | -8 => overflow
  | -9 => pipe
  | -10 => interrupted
  | -11 => noMemory
  | -12 => notSupported
  | _ => other

/-- The text of the error. -/
def message : HostError → String
  | io => "Input/Output Error"
  | invalidParam => "Invalid parameter"
  | access => "Access denied (insufficient permissions)"
  | noDevice => "No such device (it may have been disconnected)"
  | notFound => "Entity not found"
  | busy => "Resource busy"
  | timeout => "Operation timed out"
  | overflow => "Overflow"
  | pipe => "Pipe error"
  | interrupted => "System call interrupted (perhaps due to signal)"
  | noMemory => "Insufficient memory"
  | notSupported => "Operation not supported or unimplemented on this platform"
  | badDescriptor => "Malformed descriptor"
  | other => "Other error"

/-- The result code of a transfer that failed. -/
def resultCode : HostError → Int32
  | timeout => 2
  | pipe => 4
  | noDevice => 5
  | overflow => 6
  | _ => 1

end HostError

/-- The result of a call that answers with a code. -/
def Host.checkCode (code : Int) : Except HostError Unit :=
  if code = 0 then .ok () else .error (.ofCode code)

theorem Host.isOk_checkCode (code : Int) : (Host.checkCode code).isOk = true ↔ code = 0 := by
  unfold checkCode
  split <;> simp_all [Except.isOk, Except.toBool]

/-- Where a device is plugged in. -/
structure Location where
  bus : UInt8
  address : UInt8
deriving DecidableEq, Repr

/-- A release number in its three parts. -/
structure Version where
  major : UInt8
  minor : UInt8
  sub : UInt8
deriving DecidableEq, Repr

namespace Version

/-- Reads binary coded decimal; the two high digits make the major number. -/
def ofBcd (bcd : UInt16) : Version :=
  let digit (shift : UInt16) : UInt8 := ((bcd >>> shift) &&& 0x0F).toUInt8
  { major := digit 8 + 10 * digit 12, minor := digit 4, sub := digit 0 }

/-- The major number in the high byte, and a digit for each of the others. -/
def toWord (v : Version) : UInt16 :=
  (v.major.toUInt16 <<< 8) ||| ((v.minor &&& 0x0F).toUInt16 <<< 4) ||| (v.sub &&& 0x0F).toUInt16

end Version

/-! ## What a device tells -/

/-- A device descriptor of the host. -/
structure HostDescriptor where
  vendor : UInt16
  product : UInt16
  /-- The release number in binary coded decimal. -/
  release : UInt16
  /-- Indexes of strings, where there are any. -/
  manufacturer : Option UInt8
  productName : Option UInt8
  serialNumber : Option UInt8
  configurations : UInt8
deriving DecidableEq, Repr

/-- An endpoint descriptor of the host. -/
structure HostEndpoint where
  address : UInt8
  attributes : UInt8
  maxPacketSize : UInt16
  interval : UInt8
deriving DecidableEq, Repr

/-- An alternate setting of an interface. -/
structure HostSetting where
  number : UInt8
  alternate : UInt8
  classCode : UInt8
  subclassCode : UInt8
  protocolCode : UInt8
  endpoints : List HostEndpoint
deriving DecidableEq, Repr

/-- A configuration descriptor of the host. -/
structure HostConfig where
  value : UInt8
  attributes : UInt8
  /-- In units of 2 mA. -/
  maxPower : UInt8
  /-- The alternate settings of each interface. -/
  interfaces : List (List HostSetting)
deriving DecidableEq, Repr

/-- The record of an endpoint. An isochronous endpoint always has a synchronization and a usage: the
codes that stand for none count as asynchronous and as data. -/
def HostEndpoint.toRecord (e : HostEndpoint) : EndpointRecord :=
  let attributes := EndpointAttributes.unpack e.attributes
  let isochronous := attributes.kind = .isochronous
  { address := e.address
    kind := attributes.kind
    direction := .ofByte e.address
    maxPacketSize := e.maxPacketSize
    synchronization :=
      if isochronous then some (attributes.synchronization.getD .asynchronous) else none
    usage := if isochronous then some (attributes.usage.getD .data) else none
    pollingInterval := match attributes.kind with
      | .interrupt | .isochronous => some e.interval
      | .control | .bulk => none
    extra := [] }

/-- The record of an alternate setting. -/
def HostSetting.toRecord (s : HostSetting) : InterfaceRecord where
  number := s.number
  alternate := s.alternate
  classCode := s.classCode
  subclassCode := s.subclassCode
  protocolCode := s.protocolCode
  endpoints := s.endpoints.map HostEndpoint.toRecord
  extra := []

/-- The record of a configuration, with every alternate setting as an interface. -/
def HostConfig.toRecord (c : HostConfig) (active : Bool) : ConfigRecord where
  active
  value := c.value
  remoteWakeup := c.attributes &&& Descriptor.remoteWakeupBit ≠ 0
  selfPowered := c.attributes &&& Descriptor.selfPoweredBit ≠ 0
  maxPower := c.maxPower
  interfaces := c.interfaces.flatten.map HostSetting.toRecord
  extra := []

/-! ## Transfers -/

/-- The data stage of a transfer: how many bytes may come in, or the bytes that go out. -/
inductive HostData where
  | input (length : Nat)
  | output (bytes : List UInt8)
deriving DecidableEq, Repr

/-- A transfer as the host runs it; times are in milliseconds. -/
inductive HostTransfer where
  | control (requestType request : UInt8) (value index : UInt16) (data : HostData)
    (timeout : UInt32)
  | bulk (endpoint : UInt8) (data : HostData) (timeout : UInt32)
  | interrupt (endpoint : UInt8) (data : HostData) (timeout : UInt32)
deriving DecidableEq, Repr

/-- How a transfer on the host ended. -/
structure HostReply where
  code : Int
  /-- The bytes that came in; for output, as many bytes as went out. -/
  data : List UInt8
  /-- Whether it takes a while. -/
  held : Bool := false
deriving DecidableEq, Repr

namespace HostTransfer

/-- The data stage of a transfer of any kind. -/
def data : HostTransfer → HostData
  | control _ _ _ _ data _ | bulk _ data _ | interrupt _ data _ => data

/-- The host transfer of a request. An endpoint whose direction is not that of the request is
refused. A control transfer has a length of 16 bits. -/
def ofRequest : TransferRequest → Except HostError HostTransfer
  | .control r =>
    let data := match r.direction with
      | .input => .input (r.length.getD 0).toNat
      | .output =>
        let bytes := r.data.getD []
        .output (bytes.take (bytes.length % UInt16.size))
    .ok (.control r.requestType r.request r.value r.index data r.timeout)
  | .bulk r => do return .bulk r.endpoint (← dataOf r) r.timeout
  | .interrupt r => do return .interrupt r.endpoint (← dataOf r) r.timeout
where
  dataOf (r : DataRequest) : Except HostError HostData :=
    if r.direction ≠ .ofByte r.endpoint then .error .invalidParam
    else match r.direction with
      | .input => .ok (.input (r.length.getD 0).toNat)
      | .output => .ok (.output (r.data.getD []))

/-- Whether a transfer that ended with an error counts as far as it went. -/
def keepsPart : HostTransfer → HostError → Bool
  | control .., _ => false
  | bulk .., e => e = .interrupted || e = .timeout
  | interrupt .., e => e = .interrupted

/-- The bytes of a transfer that ended with a reply, if that counts as a success. -/
def result (t : HostTransfer) (reply : HostReply) : Except HostError (List UInt8) :=
  let moved := match t.data with
    | .input length => reply.data.take length
    | .output _ => reply.data
  if 0 ≤ reply.code then .ok moved
  else
    let e := HostError.ofCode reply.code
    if t.keepsPart e && !moved.isEmpty then .ok moved else .error e

/-- The response to the request of a transfer. Only input has bytes. -/
def response (t : HostTransfer) (reply : HostReply) : Response :=
  match t.result reply with
  | .error e => .failure e.resultCode
  | .ok moved =>
    match t.data with
    | .input _ => .success (some moved)
    | .output _ => .success none

end HostTransfer

/-! ## The interface -/

/-- What can be done to an interface of an open device. -/
inductive InterfaceOp where
  | claim
  | release
  /-- Asks whether a kernel driver is attached: 1 says yes. -/
  | kernelActive
  | detach
  | attach
deriving DecidableEq, Repr

/-- Names a handle of a host; no two handles have the same. -/
structure HostHandle where
  number : Nat
deriving DecidableEq, Repr

/-- A host whose state is an `η`, with references of type `δ` to its devices. A reference stays good
when the device is gone. -/
class Host (η : Type) (δ : outParam Type) where
  /-- The devices that are plugged in. -/
  list : StateM η (Except HostError (List δ))
  location : δ → Location
  descriptor : δ → Except HostError HostDescriptor
  activeConfig (device : δ) : StateM η (Except HostError HostConfig)
  config (device : δ) (index : UInt8) : StateM η (Except HostError HostConfig)
  openDevice (handle : HostHandle) (device : δ) : StateM η Int
  close (handle : HostHandle) (device : δ) : StateM η Unit
  readString (handle : HostHandle) (device : δ) (index : UInt8) :
    StateM η (Except HostError (List UInt8))
  onInterface (op : InterfaceOp) (handle : HostHandle) (device : δ) (number : UInt8) : StateM η Int
  reset (handle : HostHandle) (device : δ) : StateM η Int
  transfer (handle : HostHandle) (device : δ) (transfer : HostTransfer) : StateM η HostReply

/-- A call of the host on a handle. -/
inductive HostCall where
  | openDevice (code : Int)
  | close
  | readString (index : UInt8)
  | onInterface (op : InterfaceOp) (number : UInt8) (code : Int)
  | reset (code : Int)
  | transfer (transfer : HostTransfer)
deriving DecidableEq, Repr

/-- An entry of the journal of host calls. -/
structure HostEntry where
  handle : HostHandle
  location : Location
  call : HostCall
deriving DecidableEq, Repr

end UsbHost
