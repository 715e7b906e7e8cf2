/-!
# Errors of the host API

The negative codes by which a call of the host API reports failure.
-/

namespace UsbHost

/-- Why a call failed. -/
inductive UsbError where
  | io
  | invalidParam
  | access
  | noDevice
  | notFound
  | busy
  | timeout
  | overflow
  | pipe
  | interrupted
  | noMemory
  | notSupported
  | other
deriving DecidableEq, Repr

namespace UsbError

/-- All errors, in the order of their codes. -/
def all : List UsbError :=
  [io, invalidParam, access, noDevice, notFound, busy, timeout, overflow, pipe, interrupted,
    noMemory, notSupported, other]

/-- The code that a call returns. -/
def code : UsbError → Int
  | io => -1
  | invalidParam => -2
  | access => -3
  | noDevice => -4
  | notFound => -5
  | busy => -6
  | timeout => -7
  | overflow => -8
  | pipe => -9
  | interrupted => -10
  | noMemory => -11
  | notSupported => -12
  | other => -99

/-- The error of a code. -/
def ofCode? (code : Int) : Option UsbError :=
  all.find? (·.code = code)

/-- The name in texts. -/
def name : UsbError → String
  | io => "Io"
  | invalidParam => "InvalidParam"
  | access => "Access"
  | noDevice => "NoDevice"
  | notFound => "NotFound"
  | busy => "Busy"
  | timeout => "Timeout"
  | overflow => "Overflow"
  | pipe => "Pipe"
  | interrupted => "Interrupted"
  | noMemory => "NoMem"
  | notSupported => "NotSupported"
  | other => "Other"

/-- The text of the error. -/
def message : UsbError → String
  | io => "Input/output error"
  | invalidParam => "Invalid parameter"
  | access => "Access denied (insufficient permissions)"
  | noDevice => "No such device (it may have been disconnected)"
  | notFound => "Entity not found"
  | busy => "Resource busy"
  | timeout => "Operation timed out"
  | overflow => "Overflow"
  | pipe => "Pipe error"
  | interrupted => "System call interrupted"
  | noMemory => "Insufficient memory"
  | notSupported => "Operation not supported or unimplemented on this platform"
  | other => "Other error"

end UsbError

end UsbHost
