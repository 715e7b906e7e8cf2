import UsbHost.Json.Printer
import UsbHost.Json.Reader
import UsbHost.Record.Description

/-!
# Documents

Values as JSON text. `Document.decode` refuses a text that is too large before it looks at it, and
reads any other in one pass to its end. An outcome is tagged: the member `status` says which of the
three it is, and because that member may come last the others are kept first and read afterwards.
-/

namespace UsbHost

open Json

/-- Why a text is no document of the expected type. -/
inductive Document.Error where
  | tooLarge (size : Nat)
  | invalid (problem : Problem)
deriving DecidableEq, Repr

namespace Document

/-- The largest size of a text, in bytes. -/
def maxSize : Nat := 16 * 1024 * 1024

/-- The text of the error; it says nothing about what is wrong in the JSON. -/
def Error.message : Document.Error → String
  | .tooLarge size => s!"Document too large: {size} bytes (max: {maxSize})"
  | .invalid _ => "JSON error"

/-- A type whose values are written as documents. -/
class Format (α : Type) where
  toJson : α → Json
  read : Reader α

/-- The text of a value on one line. -/
def encode [Format α] (a : α) : String :=
  String.ofList (render (Format.toJson a))

/-- The text of a value, a member a line. -/
def encodePretty [Format α] (a : α) : String :=
  String.ofList (renderPretty 0 (Format.toJson a))

/-- Reads a value that takes up all tokens. -/
def whole (reading : Reader α) (tokens : List Token) : Except Problem α := do
  match ← reading tokens with
  | (a, []) => pure a
  | (_, _ :: _) => throw .malformed

/-- The value that a text denotes. -/
def decode [Format α] (text : String) : Except Document.Error α :=
  if text.utf8ByteSize > maxSize then .error (.tooLarge text.utf8ByteSize)
  else (whole Format.read (scan text.toList)).mapError .invalid

instance described [Described α] : Format α where
  toJson := Described.toJson
  read := Described.ofCarrier <$> (Described.schema α).read false

/-! ## Outcomes -/

/-- Which of the three an outcome is. -/
inductive Status where
  | succeeded
  | failed
  | canceled
deriving DecidableEq, Repr

/-- The name that is written for a status. -/
def Status.name : Status → String
  | succeeded => "succeeded"
  | failed => "failed"
  | canceled => "canceled"

/-- The status of a name. -/
def Status.ofName (name : String) : Except Problem Status :=
  match [succeeded, failed, canceled].find? (·.name = name) with
  | some status => .ok status
  | none => .error .mismatched

/-- An outcome whose status is read and whose other members are kept. -/
structure KeptOutcome where
  status : Option Status := none
  /-- The other members with the tokens of their values, in reverse. -/
  members : List (String × List Token) := []

/-- How deep a kept value may be nested, the outcome around it not counted. -/
def keptDepth : Nat := 126

/-- The status of an outcome. -/
def readStatus : Reader Status := do
  Status.ofName (← Reader.text)

/-- Reads one member of an outcome. -/
def KeptOutcome.member (name : String) (kept : KeptOutcome) : Reader KeptOutcome := do
  if name = "status" then
    if kept.status.isSome then throw .mismatched
    Reader.exactly .colon
    return { kept with status := some (← readStatus) }
  else
    Reader.exactly .colon
    return { kept with members := (name, ← Reader.keep keptDepth) :: kept.members }

/-- A value from its kept tokens. -/
def fromKept [Described α] (tokens : List Token) : Except Problem α :=
  match whole (Described.ofCarrier <$> (Described.schema α).read true) tokens with
  | .ok a => .ok a
  | .error _ => .error .mismatched

instance text : Described String where
  schema := .text
  ofCarrier t := t
  toCarrier t := t
  ofCarrier_toCarrier _ := rfl

/-- The only kept value under a name. -/
def KeptOutcome.only (members : List (String × List Token)) (name : String) :
    Except Problem (List Token) :=
  match members.filter (·.1 = name) with
  | [(_, tokens)] => .ok tokens
  | _ => .error .mismatched

/-- The outcome of an object's members. -/
def KeptOutcome.toOutcome [Described α] (kept : KeptOutcome) : Except Problem (Outcome α) := do
  match kept.status with
  | some .succeeded => return .succeeded (← fromKept (← only kept.members "payload"))
  | some .failed => return .failed (← fromKept (← only kept.members "message"))
  | some .canceled => return .canceled
  | none => throw .mismatched

/-- The outcome of an array's items after the status. -/
def outcomeOfItems [Described α] (status : Status) (items : List (List Token)) :
    Except Problem (Outcome α) := do
  match status, items with
  | .succeeded, [payload] => return .succeeded (← fromKept payload)
  | .failed, [message] => return .failed (← fromKept message)
  | .canceled, [] => return .canceled
  | _, _ => throw .mismatched

/-- Reads an outcome. -/
def readOutcome [Described α] : Reader (Outcome α) := do
  match ← Reader.token with
  | .openObject =>
    let kept ← Reader.members KeptOutcome.member (← Reader.enough) true {}
    kept.toOutcome
  | .openArray =>
    if ← Reader.anotherItem true then
      let status ← readStatus
      let rest ← readRest (← Reader.enough) []
      outcomeOfItems status rest
    else throw .mismatched
  | t => throw t.refusal
where
  /-- Keeps the items of an array after its first. -/
  readRest : Nat → List (List Token) → Reader (List (List Token))
    | 0, _ => throw .endOfInput
    | fuel + 1, items => do
      if ← Reader.anotherItem false then readRest fuel ((← Reader.keep keptDepth) :: items)
      else pure items.reverse

/-- The JSON form of an outcome. -/
def outcomeToJson [Described α] : Outcome α → Json
  | .succeeded payload =>
    .object [("status", .string Status.succeeded.name), ("payload", Described.toJson payload)]
  | .failed message =>
    .object [("status", .string Status.failed.name), ("message", .string message)]
  | .canceled => .object [("status", .string Status.canceled.name)]

instance outcome [Described α] : Format (Outcome α) where
  toJson := outcomeToJson
  read := readOutcome

end Document

end UsbHost
