import UsbHost.Bridge
import UsbHost.Platform.Scripted
import UsbHost.Record.Description
import UsbHost.Text.Number

/-!
# Journals

The JSON form of what passes between the layers, for logs and transcripts: the requests that a
platform sees, the messages to the worker, and the calls of the host. An entry is an array of a verb
and its operands.
-/

namespace UsbHost

open Json (Described)

namespace Journal

/-- A number as an operand. -/
def ofNat (n : Nat) : Json := .number n

/-- Bytes as an operand, in hexadecimal digits. -/
def ofHex (bytes : List UInt8) : Json := .string (Text.hexBytes bytes)

/-- What was done, and with what. -/
def entry (verb : String) (operands : List Json) : Json := .array (.string verb :: operands)

/-- The kind of a request and the request itself. -/
def transfer : TransferRequest → String × Json
  | .control r => ("control", Described.toJson r)
  | .bulk r => ("bulk", Described.toJson r)
  | .interrupt r => ("interrupt", Described.toJson r)

end Journal

open Journal

/-- The entry of a request to the platform. -/
def RecordedRequest.toJson : RecordedRequest → Json
  | openDevice d => entry "open" [Described.toJson d]
  | close c => entry "close" [Described.toJson c]
  | claim c number => entry "claim" [Described.toJson c, ofNat number.toNat]
  | release c number => entry "release" [Described.toJson c, ofNat number.toNat]
  | reset c => entry "reset" [Described.toJson c]
  | transfer c r asynchronous =>
    let (kind, request) := Journal.transfer r
    entry kind [Described.toJson c, request, .bool asynchronous]

/-- A message is shown with the way in which its answer goes back, where there are two. -/
def Message.toJson : Message → Json
  | call .getDevices => entry "get_devices" []
  | call (.getConfigurations d) => entry "get_configurations" [Described.toJson d]
  | call (.openDevice d) => entry "open" [Described.toJson d]
  | call (.closeDevice c) => entry "close" [Described.toJson c]
  | call (.claimInterface c number) => entry "claim" [Described.toJson c, ofNat number.toNat]
  | call (.releaseInterface c number) => entry "release" [Described.toJson c, ofNat number.toNat]
  | call (.resetDevice c) => entry "reset" [Described.toJson c]
  | call (.transfer c r) => transfer c r "Completion::Reply"
  | start c r => transfer c r "Completion::Callback"
  | shutdown => entry "shutdown" []
where
  transfer (c : ConnectionId) (r : TransferRequest) (completion : String) : Json :=
    let (kind, request) := Journal.transfer r
    entry "transfer" [Described.toJson c, .string kind, request, .string completion]

/-- Incoming data are shown by the length that is asked for. -/
def HostData.toJson : HostData → Json
  | input length => ofNat length
  | output bytes => ofHex bytes

/-- The verb of an operation on an interface. -/
def InterfaceOp.name : InterfaceOp → String
  | claim => "claim"
  | release => "release"
  | kernelActive => "kernel"
  | detach => "detach"
  | attach => "attach"

/-- A call is shown with the address of its device. -/
def HostEntry.toJson (e : HostEntry) : Json :=
  let address := ofNat e.location.address.toNat
  match e.call with
  | .openDevice code => entry "open" [address, .number code]
  | .close => entry "close" [address]
  | .readString index => entry "string" [address, ofNat index.toNat]
  | .onInterface op number code => entry op.name [address, ofNat number.toNat, .number code]
  | .reset code => entry "reset" [address, ofNat 0, .number code]
  | .transfer (.control requestType request value index data timeout) =>
    entry "control" [address, ofNat requestType.toNat, ofNat request.toNat, ofNat value.toNat,
      ofNat index.toNat, data.toJson, ofNat timeout.toNat]
  | .transfer (.bulk endpoint data timeout) =>
    entry "bulk" [address, ofNat endpoint.toNat, data.toJson, ofNat timeout.toNat]
  | .transfer (.interrupt endpoint data timeout) =>
    entry "interrupt" [address, ofNat endpoint.toNat, data.toJson, ofNat timeout.toNat]

end UsbHost
