import UsbHost.Host

/-!
# A scripted host

A host whose devices answer as they were told to. What is plugged in can be replaced, and the
replies to transfers are queued.
-/

namespace UsbHost

/-- The text of a string descriptor as a device sends it. -/
abbrev ScriptedString := Except Int (List UInt8)

/-- A return code for each interface number, and 0 beyond them. -/
structure ScriptedCodes where
  codes : Nat → Int := fun _ => 0

/-- How a device behaves. -/
structure ScriptedDevice where
  location : Location
  descriptor : Except Int HostDescriptor
  /-- The strings of the manufacturer, the product and the serial number. -/
  strings : List (Option ScriptedString)
  configs : List (Except Int HostConfig)
  /-- The index of the active configuration. -/
  active : Except Int Nat
  openCode : Int := 0
  claimCodes : ScriptedCodes := {}
  releaseCodes : ScriptedCodes := {}
  kernelCodes : ScriptedCodes := {}
  detachCodes : ScriptedCodes := {}
  attachCodes : ScriptedCodes := {}
  resetCode : Int := 0

/-- What is plugged in, and how transfers will be answered. -/
structure ScriptedHost where
  devices : List ScriptedDevice := []
  /-- The return code of listing the devices. -/
  listCode : Int := 0
  /-- The replies to the next transfers. -/
  replies : List HostReply := []

namespace ScriptedHost

/-- The code of a call that finds nothing. -/
def notFoundCode : Int := -5

/-- The longest string that is read, in bytes. -/
def stringLimit : Nat := 255

/-- The reply when none is queued. -/
def noReply : HostReply := { code := -99, data := [] }

/-- The configuration at an index. -/
def config (d : ScriptedDevice) (index : Nat) : Except HostError HostConfig :=
  ((d.configs[index]?).getD (.error notFoundCode)).mapError .ofCode

/-- The return codes of an operation on interfaces. -/
def codesOf (d : ScriptedDevice) : InterfaceOp → ScriptedCodes
  | .claim => d.claimCodes
  | .release => d.releaseCodes
  | .kernelActive => d.kernelCodes
  | .detach => d.detachCodes
  | .attach => d.attachCodes

instance : Host ScriptedHost ScriptedDevice where
  list := do
    let h ← get
    return if h.listCode = 0 then .ok h.devices else .error (.ofCode h.listCode)
  location d := d.location
  descriptor d := d.descriptor.mapError .ofCode
  activeConfig d := return (d.active.mapError .ofCode).bind (config d)
  config d index := return config d index.toNat
  openDevice _ d := return d.openCode
  close _ _ := return ()
  readString _ d index :=
    return match (d.strings[index.toNat - 1]?).join with
      | some (.ok bytes) => .ok (bytes.take stringLimit)
      | some (.error code) => .error (.ofCode code)
      | none => .error (.ofCode notFoundCode)
  onInterface op _ d n := return (codesOf d op).codes n.toNat
  reset _ d := return d.resetCode
  transfer _ _ _ := modifyGet fun h => match h.replies with
    | [] => (noReply, h)
    | reply :: replies => (reply, { h with replies })

end ScriptedHost

end UsbHost
