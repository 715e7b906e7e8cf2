import UsbHost.Settings
import UsbHost.Toml.Document

/-!
# Settings as TOML

Settings are written as a document of three tables and read from one. What is missing has its
default, and what is unknown is passed over. A table of settings may also be given as an array of
its values, in the order in which they are written. Integers beyond the range of TOML cannot be
written.
-/

namespace UsbHost.Settings

open Toml

/-! ## Reading -/

/-- The value of a key in a table of settings, which is the one at `index` in an array. A date is a
table without known keys. -/
def field? (key : String) (index : Nat) : Value → Option (Option Value)
  | .table members => some (members.lookup key)
  | .array items => some items[index]?
  | .date => some none
  | _ => none

/-- A value that must be a text. -/
def text? : Value → Option String
  | .text s => some s
  | _ => none

/-- A value that must be a number without a minus sign. -/
def natural? : Value → Option UInt64
  | .integer (.ofNat n) => some n.toUInt64
  | _ => none

/-- A value that must be a list of texts. -/
def texts? : Value → Option (List String)
  | .array items => items.mapM text?
  | _ => none

/-- Reads a value, or takes the default when there is none. -/
def orDefault (default : α) (read : Value → Option α) : Option Value → Option α
  | none => some default
  | some v => read v

/-- The settings of a document's table. -/
def ofTable (root : List (String × Value)) : Option Settings := do
  let d : Settings := {}
  let section_ (key : String) : Value := (root.lookup key).getD (.table [])
  let level ← orDefault d.level text? (← field? "level" 0 (section_ "logging"))
  let timeout ← orDefault d.timeout natural?
    (← field? "handle_events_timeout_secs" 0 (section_ "events"))
  let filters ← orDefault d.filters texts? (← field? "filters" 0 (section_ "usb"))
  let capacity ← orDefault d.capacity natural?
    (← field? "worker_queue_capacity" 1 (section_ "usb"))
  return { level, timeout, filters, capacity }

/-- Reads settings, without checking them. -/
def ofText? (text : String) : Option Settings := (Document.parse text).bind ofTable

/-! ## Writing -/

/-- A text between quotes, in the plainest form that can hold it. -/
def quote (s : String) : String := String.ofList (Quoted.write s.toList)

/-- A list of texts: on one line while it has at most one item, else one item a line. -/
def listText (items : List String) : String :=
  match items with
  | [] => "[]"
  | [s] => "[" ++ quote s ++ "]"
  | items => "[\n" ++ String.join (items.map fun s => "    " ++ quote s ++ ",\n") ++ "]"

/-- Whether a number is in the range of TOML. -/
def isWritable (n : UInt64) : Bool := n.toNat ≤ greatestInteger

/-- The text of settings, if their numbers can be written. -/
def toText? (s : Settings) : Option String :=
  if isWritable s.timeout && isWritable s.capacity then
    some <| "[logging]\nlevel = " ++ quote s.level
      ++ s!"\n\n[events]\nhandle_events_timeout_secs = {s.timeout.toNat}\n"
      ++ "\n[usb]\nfilters = " ++ listText s.filters
      ++ s!"\nworker_queue_capacity = {s.capacity.toNat}\n"
  else none

end UsbHost.Settings
