import UsbHost.Text.Number

/-!
# Device filters

A filter is a text `VID:PID` in which each part is `*` or a hexadecimal number. `Filter.validate`
says which texts are filters, and why the others are not; `Filter.lets` says which devices a text
lets through. Matching takes any text, and reads numbers more freely than validation does.
-/

namespace UsbHost.Filter

/-- The two parts of a filter. -/
inductive Part where
  | vendor
  | product
deriving DecidableEq, Repr

/-- The part as texts name it. -/
def Part.name : Part → String
  | vendor => "VID"
  | product => "PID"

/-- What is wrong with a filter. -/
inductive Error where
  /-- It is not made of two parts. -/
  | parts (filter : String)
  | unmarked (part : Part) (id : String)
  | size (part : Part) (id : String)
  | digits (part : Part) (id : String)
deriving DecidableEq, Repr

/-- The text of the error, with the filter or the id that is wrong. -/
def Error.message : Error → String
  | parts filter =>
    s!"Invalid filter format '{filter}', expected VID:PID (e.g., '0x1234:0x5678' or '0x1234:*')"
  | unmarked part id => s!"Invalid {part.name} '{id}', must start with '0x' (e.g., '0x1234')"
  | size part id => s!"Invalid {part.name} '{id}', hex part must be 1-4 digits"
  | digits part id => s!"Invalid {part.name} '{id}', not a valid hex number"

/-- The texts before and after the first colon. -/
def cut? (filter : List Char) : Option (List Char × List Char) :=
  match filter.dropWhile (· ≠ ':') with
  | _ :: after => some (filter.takeWhile (· ≠ ':'), after)
  | [] => none

/-- The number of UTF-8 bytes. -/
def byteSize (cs : List Char) : Nat := cs.foldr (·.utf8Size + ·) 0

/-- Checks a part: `*`, or `0x` and a number written in one to four bytes. -/
def validatePart (part : Part) (id : List Char) : Except Error Unit :=
  if id = ['*'] then .ok ()
  else match id with
    | '0' :: 'x' :: hex | '0' :: 'X' :: hex =>
      if hex.isEmpty || byteSize hex > 4 then .error (.size part (String.ofList id))
      else if (Text.readHex hex).isNone then .error (.digits part (String.ofList id))
      else .ok ()
    | _ => .error (.unmarked part (String.ofList id))

/-- Checks that a text is a filter. -/
def validate (filter : String) : Except Error Unit :=
  match cut? filter.toList with
  | some (vendor, product) =>
    if ':' ∈ product then .error (.parts filter)
    else do
      validatePart .vendor vendor
      validatePart .product product
  | none => .error (.parts filter)

/-- The text without the marks `0` and `x` at its start, however many there are. -/
def dropMarks (x : Char) : List Char → List Char
  | '0' :: c :: rest => if c = x then dropMarks x rest else '0' :: c :: rest
  | cs => cs

/-- Whether a part of a filter lets an id through. -/
def partMatches (id : List Char) (value : UInt16) : Bool :=
  id = ['*'] || Text.readHex (dropMarks 'X' (dropMarks 'x' id)) == some value

/-- Whether a filter lets a device through. -/
def lets (filter : String) (vendor product : UInt16) : Bool :=
  match cut? filter.toList with
  | some (v, p) => partMatches v vendor && partMatches p product
  | none => false

/-- Whether some filters let a device through. Without filters, every device passes. -/
def allow (filters : List String) (vendor product : UInt16) : Bool :=
  filters.isEmpty || filters.any (lets · vendor product)

end UsbHost.Filter
