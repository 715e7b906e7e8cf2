import UsbHost.Filter

/-!
# Settings

What the program can be told by its configuration file.
-/

namespace UsbHost

/-- What a configuration file says, with the defaults of what it leaves out. -/
structure Settings where
  /-- How much is logged, unless the environment says otherwise. -/
  level : String := "info"
  /-- How long handling events waits for a completed transfer, in seconds. -/
  timeout : UInt64 := 60
  /-- Which devices are seen; all if there are none. -/
  filters : List String := []
  /-- How many commands may wait for the USB worker. -/
  capacity : UInt64 := 256
deriving DecidableEq, Repr, Inhabited

namespace Settings

/-- The levels that may be set. -/
def levels : List String := ["trace", "debug", "info", "warn", "error"]

/-- What is wrong with settings. -/
inductive Error where
  | level (level : String)
  | zeroTimeout
  | zeroCapacity
  | filter (e : Filter.Error)
deriving DecidableEq, Repr

/-- The text of the error. -/
def Error.message : Error → String
  | level l => s!"Invalid log level '{l}', must be one of: " ++ String.intercalate ", " levels
  | zeroTimeout => "handle_events_timeout_secs must be greater than 0"
  | zeroCapacity => "worker_queue_capacity must be greater than 0"
  | filter e => e.message

/-- Checks settings; the first thing that is wrong counts. -/
def validate (s : Settings) : Except Error Unit := do
  unless s.level ∈ levels do throw (.level s.level)
  if s.timeout = 0 then throw .zeroTimeout
  if s.capacity = 0 then throw .zeroCapacity
  s.filters.forM fun filter => (Filter.validate filter).mapError .filter

/-- The waiting time in milliseconds. -/
def timeoutMilliseconds (s : Settings) : Nat := s.timeout.toNat * 1000

end Settings

end UsbHost
