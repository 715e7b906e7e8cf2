/-!
# TOML values

The values that a TOML document gives to its keys. A program that reads its settings tells numbers
with a fraction and dates from the rest, but never looks into them, so they carry nothing.
-/

namespace UsbHost.Toml

/-- A value of a key. -/
inductive Value where
  | text (s : String)
  /-- Between -2^63 and 2^63 - 1. -/
  | integer (n : Int)
  | flag (b : Bool)
  | float
  /-- A date, a time of day, or both. -/
  | date
  | array (items : List Value)
  | table (members : List (String × Value))
deriving Inhabited

/-- What a statement says about a key. -/
inductive Statement where
  /-- A header: the entries that follow belong to this table. -/
  | table (path : List String)
  /-- A header of a new element of an array of tables. -/
  | element (path : List String)
  | entry (path : List String) (value : Value)
deriving Inhabited

/-! ## Limits -/

/-- The least integer of 64 bits. -/
def leastInteger : Int := -0x8000000000000000

/-- The greatest integer of 64 bits. -/
def greatestInteger : Int := 0x7fffffffffffffff

/-- How deep arrays and inline tables may be nested, and how many parts a key may have. -/
def depthLimit : Nat := 79

end UsbHost.Toml
