/-!
# JSON values

The tree a document denotes. Members of an object keep the order in which they are written, and
numbers are whole: nothing in this library reads or writes a fraction.
-/

namespace UsbHost

/-- A JSON value with whole numbers and ordered members. -/
inductive Json where
  | null
  | bool (b : Bool)
  | number (n : Int)
  | string (s : String)
  | array (items : List Json)
  | object (members : List (String × Json))
deriving Inhabited

namespace Json

/-- The array of the bytes as numbers. -/
def ofBytes (bytes : List UInt8) : Json :=
  .array (bytes.map fun b => .number b.toNat)

/-- The text, or `null` when there is none. -/
def ofString? : Option String → Json
  | none => .null
  | some s => .string s

end Json

/-- Where reading a document stopped. -/
inductive Json.Problem where
  /-- The text ends where more is needed. -/
  | endOfInput
  /-- The text is not JSON, or is JSON that goes beyond a limit of the reader. -/
  | malformed
  /-- The text is JSON so far, but not a value of the expected shape. -/
  | mismatched
deriving DecidableEq, Repr

end UsbHost
