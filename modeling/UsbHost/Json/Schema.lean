import UsbHost.Json.Basic

/-!
# Shapes of JSON values

A `Schema` says what a value of some kind looks like: which members a record has, how wide its
numbers are, what may be missing. It has a type of values, its `Carrier`, and both directions
between values and JSON are read off the schema: `Schema.toJson` here and `Schema.read` in
`UsbHost.Json.Reader`. A record type of the library is described once, by its schema.
-/

namespace UsbHost.Json

/-- What happens to a member that has nothing to say. -/
inductive Presence where
  /-- Always written, and must be there when read. -/
  | required
  /-- Always written; may be missing when read, and is the shape's zero then. -/
  | defaulted
  /-- Left out when it is `null`; may be missing when read. -/
  | omitted
deriving DecidableEq, Repr

mutual
/-- The shape of a value. -/
inductive Schema where
  /-- Only `null`. -/
  | unit
  | flag
  /-- A whole number from 0 to `2 ^ width - 1`. -/
  | word (width : Nat)
  /-- A whole number from `-2 ^ 31` to `2 ^ 31 - 1`. -/
  | int32
  | text
  /-- An array of bytes; when `textual`, a string stands for its UTF-8 bytes too. -/
  | bytes (textual : Bool)
  /-- One of some names. -/
  | choice (names : List String)
  /-- A value or `null`. -/
  | optional (s : Schema)
  | list (s : Schema)
  /-- An object with the members of `fs`, or an array of their values in order. -/
  | record (fs : Fields)

/-- The members of a record, in the order in which they are written. -/
inductive Fields where
  | nil
  | cons (name : String) (presence : Presence) (s : Schema) (rest : Fields)
end

mutual
/-- The values of a shape. -/
@[reducible] def Schema.Carrier : Schema → Type
  | .unit => Unit
  | .flag => Bool
  | .word width => BitVec width
  | .int32 => Int32
  | .text => String
  | .bytes _ => List UInt8
  | .choice names => Fin names.length
  | .optional s => Option s.Carrier
  | .list s => List s.Carrier
  | .record fs => fs.Carrier

/-- The values of the members of a record. -/
@[reducible] def Fields.Carrier : Fields → Type
  | .nil => Unit
  | .cons _ _ s rest => s.Carrier × rest.Carrier
end

/-- What a missing member of this shape stands for; a choice has no such value, nor has a record. -/
def Schema.zero? : (s : Schema) → Option s.Carrier
  | .unit => some ()
  | .flag => some false
  | .word width => some (0 : BitVec width)
  | .int32 => some 0
  | .text => some ""
  | .bytes _ => some []
  | .choice _ => none
  | .optional _ => some none
  | .list _ => some []
  | .record _ => none

/-- What stands for a member that is missing, if it may be. -/
def Presence.fallback? (p : Presence) (s : Schema) : Option s.Carrier :=
  match p with
  | .required => none
  | .defaulted | .omitted => s.zero?

mutual
/-- The JSON form of a value. -/
def Schema.toJson : (s : Schema) → s.Carrier → Json
  | .unit, _ => .null
  | .flag, b => .bool b
  | .word _, n => .number n.toNat
  | .int32, n => .number n.toInt
  | .text, t => .string t
  | .bytes _, bytes => .ofBytes bytes
  | .choice names, i => .string names[i]
  | .optional _, none => .null
  | .optional s, some v => s.toJson v
  | .list s, vs => .array (vs.map s.toJson)
  | .record fs, vs => .object (fs.toMembers vs)

/-- The members of a record's JSON form. -/
def Fields.toMembers : (fs : Fields) → fs.Carrier → List (String × Json)
  | .nil, _ => []
  | .cons name presence s rest, (v, vs) =>
    match presence, s.toJson v with
    | .omitted, .null => rest.toMembers vs
    | _, written => (name, written) :: rest.toMembers vs
end

end UsbHost.Json
