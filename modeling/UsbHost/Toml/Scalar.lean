import UsbHost.Toml.Basic
import UsbHost.Toml.Reader

/-!
# Numbers and dates in TOML

Digits may be parted by single underscores. An integer has 64 bits and a sign. A positive number
with a fraction or an exponent must not round to infinity as a double. Dates and times are read for
their form, and the numbers in them for their range.
-/

namespace UsbHost.Toml.Scalar

open Reader

/-! ## Digits -/

/-- A digit after `0b`. -/
def isBinaryDigit (c : Char) : Bool := c = '0' || c = '1'

/-- A digit after `0o`. -/
def isOctalDigit (c : Char) : Bool := '0' ≤ c && c ≤ '7'

/-- A digit after `0x`, in letters of any case. -/
def isHexDigit (c : Char) : Bool := (Text.hexDigit? c).isSome

/-- The digits that continue a number; an underscore must have a digit after it. -/
def moreDigits (isDigit : Char → Bool) : List Char → Option (List Char × List Char)
  | '_' :: c :: cs =>
    if isDigit c then (moreDigits isDigit cs).map fun (ds, rest) => (c :: ds, rest) else none
  | '_' :: [] => none
  | c :: cs =>
    if isDigit c then (moreDigits isDigit cs).map fun (ds, rest) => (c :: ds, rest)
    else some ([], c :: cs)
  | [] => some ([], [])

/-- At least one digit. -/
def digits (isDigit : Char → Bool) : Reader (List Char) := do
  let d ← one isDigit
  return d :: (← moreDigits isDigit)

/-- The number of some digits in a base. -/
def valueOf (base : Nat) (ds : List Char) : Nat :=
  ds.foldl (fun n d => n * base + (Text.hexDigit? d).getD 0) 0

/-- Decimal digits without a leading zero. -/
def whole : Reader (List Char) := do
  if ← optionalChar '0' then return ['0']
  digits Char.isDigit

/-! ## Numbers -/

/-- From here on numbers round to infinity as doubles. -/
def doubleLimit : Nat := Nat.pow 2 1024 - Nat.pow 2 970

/-- Whether `significand * 10 ^ exponent` rounds to infinity. -/
def overflows (significand : Nat) (exponent : Int) : Bool :=
  if significand = 0 then false
  else match exponent with
    | .ofNat e => e > 308 || doubleLimit ≤ significand * Nat.pow 10 e
    | .negSucc e =>
      e < (Nat.toDigits 10 significand).length && doubleLimit * Nat.pow 10 (e + 1) ≤ significand

/-- A sign, if there is one; the answer says whether it is a minus. -/
def sign : Reader (Option Bool) := do
  if ← optionalChar '-' then return some true
  if ← optionalChar '+' then return some false
  return none

/-- An exponent, if there is one. -/
def exponent : Reader (Option Int) := do
  match ← peek with
  | some 'e' | some 'E' =>
    discard (one fun _ => true)
    let negative := (← sign) = some true
    let n : Int := valueOf 10 (← digits Char.isDigit)
    return some (if negative then -n else n)
  | _ => return none

/-- An integer within its limits. -/
def integer (n : Int) : Reader Value :=
  if leastInteger ≤ n ∧ n ≤ greatestInteger then pure (.integer n) else failure

/-- A decimal number after its sign. -/
def decimal (negative : Bool) : Reader Value := do
  let before ← whole
  let after ← if ← optionalChar '.' then some <$> digits Char.isDigit else pure none
  match after, ← exponent with
  | none, none =>
    let n : Int := valueOf 10 before
    integer (if negative then -n else n)
  | after, power =>
    let after := after.getD []
    let significand := valueOf 10 (before ++ after)
    if !negative && overflows significand (power.getD 0 - after.length) then failure
    else return .float

/-- An integer in another base, without a sign. -/
def based (mark : Char) (base : Nat) (isDigit : Char → Bool) : Reader Value := do
  word ['0', mark]
  integer (valueOf base (← digits isDigit))

/-- A number, after the sign that it may have. -/
def number : Reader Value := do
  let s ← sign
  match ← peek with
  | some 'i' => word ['i', 'n', 'f']; return .float
  | some 'n' => word ['n', 'a', 'n']; return .float
  | _ =>
    if s.isNone then
      based 'x' 16 isHexDigit <|> based 'o' 8 isOctalDigit <|> based 'b' 2 isBinaryDigit
        <|> decimal false
    else decimal (s = some true)

/-! ## Dates -/

/-- A number of a given count of digits, in a range. -/
def field (count least most : Nat) : Reader Nat := do
  let ds ← (List.replicate count ()).mapM fun _ => one Char.isDigit
  let n := valueOf 10 ds
  if least ≤ n ∧ n ≤ most then return n else failure

/-- Whether a year has a 29th of February. -/
def isLeap (year : Nat) : Bool := year % 4 = 0 && (year % 100 ≠ 0 || year % 400 = 0)

/-- The number of days of a month. -/
def daysIn (year month : Nat) : Nat :=
  if month = 2 then if isLeap year then 29 else 28
  else if month ∈ [4, 6, 9, 11] then 30
  else 31

/-- A date: year, month and day. -/
def day : Reader Unit := do
  let year ← field 4 0 9999
  char '-'
  let month ← field 2 1 12
  char '-'
  discard (field 2 1 (daysIn year month))

/-- A time of day; a minute may have a leap second. -/
def time : Reader Unit := do
  discard (field 2 0 23)
  char ':'
  discard (field 2 0 59)
  char ':'
  discard (field 2 0 60)
  discard <| optional do
    char '.'
    many1 Char.isDigit

/-- The difference of a time from that at Greenwich. -/
def offset : Reader Unit := do
  let c ← one fun c => c ∈ ['Z', 'z', '+', '-']
  if c ∈ ['+', '-'] then
    discard (field 2 0 23)
    char ':'
    discard (field 2 0 59)

/-- A day with the time that may follow it. -/
def dayAndTime : Reader Unit := do
  day
  discard <| optional do
    discard (one fun c => c ∈ ['T', 't', ' '])
    time
    optional offset

/-- A day, a time, or both. -/
def date : Reader Value := do
  dayAndTime <|> time
  return .date

end UsbHost.Toml.Scalar
