/-!
# Numbers in text

Hexadecimal and decimal digits with leading zeros, and reading numbers.
-/

namespace UsbHost.Text

/-- At least `width` digits of `n` in a base up to 16, in lower case. -/
def digits (base width n : Nat) : String :=
  let ds := Nat.toDigits base n
  String.ofList (List.replicate (width - ds.length) '0' ++ ds)

/-- At least `width` hexadecimal digits of `n`. -/
def hex (width n : Nat) : String := digits 16 width n

/-- The hexadecimal digits of `n`, at least `width`, after `0x`. -/
def hexLiteral (width n : Nat) : String := "0x" ++ hex width n

/-- At least `width` decimal digits of `n`. -/
def decimal (width n : Nat) : String := digits 10 width n

/-- Bytes in hexadecimal. -/
def hexBytes (bytes : List UInt8) : String := String.join (bytes.map fun b => hex 2 b.toNat)

/-- The value of a hexadecimal digit. -/
def hexDigit? (c : Char) : Option Nat :=
  if c.isDigit then some (c.toNat - '0'.toNat)
  else if 'a' ≤ c ∧ c ≤ 'f' then some (c.toNat - 'a'.toNat + 10)
  else if 'A' ≤ c ∧ c ≤ 'F' then some (c.toNat - 'A'.toNat + 10)
  else none

/-- The number that hexadecimal digits stand for, read after the digits that make `n`. -/
def hexValue? (n : Nat) : List Char → Option Nat
  | [] => some n
  | c :: cs => (hexDigit? c).bind fun d => hexValue? (n * 16 + d) cs

/-- The 16-bit number of some hexadecimal digits, with or without a plus sign. -/
def readHex (text : List Char) : Option UInt16 :=
  let digits := match text with
    | '+' :: digits => digits
    | digits => digits
  if digits.isEmpty then none
  else (hexValue? 0 digits).bind fun n => if n < UInt16.size then some n.toUInt16 else none

/-- The number of some decimal digits below `limit`, with or without a plus sign. -/
def readDecimal (limit : Nat) (text : List Char) : Option Nat :=
  let digits := match text with
    | '+' :: digits => digits
    | digits => digits
  if digits.isEmpty || !digits.all Char.isDigit then none
  else
    let n := digits.foldl (fun n d => n * 10 + (d.toNat - '0'.toNat)) 0
    if n < limit then some n else none

end UsbHost.Text
