import UsbHost.Json.Basic
import UsbHost.Text.Number

/-!
# Tokens of JSON text

A finite-state machine turns the characters of a text into tokens, one character at a time. A token
keeps what its readers disagree about: a string literal keeps raw control characters and surrogate
halves apart from its other characters, and a number keeps whether it fits a double, because a
member that is only skipped is not held to either rule.
-/

namespace UsbHost.Json

/-- One character of a string literal. -/
inductive Piece where
  /-- A character, or the escape of one. -/
  | char (c : Char)
  /-- A control character that is not escaped. -/
  | control (c : Char)
  /-- An escaped surrogate half without the other half. -/
  | surrogate (code : Nat)
deriving DecidableEq, Repr

/-- How a string literal ends. -/
inductive Ending where
  /-- At its closing quote. -/
  | closed
  /-- At the end of the text. -/
  | cut
  /-- At an escape that does not exist. -/
  | broken
deriving DecidableEq, Repr

/-- A number as its readers tell numbers apart. -/
inductive Numeral where
  /-- Between -2^63 and 2^64 - 1, without fraction or exponent, and not `-0`. -/
  | integer (n : Int)
  /-- Any other number; `fits` when its double is finite. -/
  | real (fits : Bool)
deriving DecidableEq, Repr

/-- A token of a text, or what stands in its place where there is none. -/
inductive Token where
  | openObject
  | closeObject
  | openArray
  | closeArray
  | comma
  | colon
  | null
  | bool (b : Bool)
  | number (n : Numeral)
  | string (pieces : List Piece) (ending : Ending)
  /-- A literal name, starting as `initial`, that is misspelt or cut by the end of the text. -/
  | badWord (initial : Char) (cut : Bool)
  /-- A number that is misspelt, or cut by the end of the text. -/
  | badNumber (cut : Bool)
  /-- A character that starts no token. -/
  | stray
deriving DecidableEq, Repr

/-! ## Numbers -/

/-- The whole number of 53 significant bits nearest to `n`; of two as near the even one. -/
def nearestDouble (n : Nat) : Nat :=
  let shift := n.log2 + 1 - 53
  let unit := Nat.pow 2 shift
  let low := n / unit
  let rest := n % unit
  let up := 2 * rest > unit || (2 * rest == unit && low % 2 == 1)
  (if up then low + 1 else low) * unit

/-- Whether `significand * 10 ^ exponent` is finite when computed in doubles. -/
def fitsDouble (significand : Nat) (exponent : Int) : Bool :=
  if significand = 0 then true
  else match exponent with
    | .negSucc _ => true
    | .ofNat e =>
      e ≤ 308 &&
        nearestDouble (nearestDouble significand * nearestDouble (Nat.pow 10 e)) < Nat.pow 2 1024

/-- How far a number has been read. -/
inductive Numeral.Phase where
  | sign
  | zero
  | whole
  | point
  | fraction
  | mark
  | markSign
  | power
deriving DecidableEq, Repr

/-- A number being read. Digits beyond 64 bits are counted and not added. -/
structure Numeral.Partial where
  phase : Numeral.Phase
  negative : Bool := false
  significand : Nat := 0
  /-- Whole digits that were only counted. -/
  dropped : Nat := 0
  /-- Fraction digits that were added. -/
  places : Nat := 0
  /-- Further fraction digits are ignored. -/
  full : Bool := false
  power : Nat := 0
  powerNegative : Bool := false
deriving DecidableEq, Repr

namespace Numeral.Partial

/-- The number of a decimal digit. -/
def digitValue (c : Char) : Nat := c.toNat - '0'.toNat

/-- The number after a digit before the point. -/
def addWhole (p : Partial) (c : Char) : Partial :=
  let grown := p.significand * 10 + digitValue c
  if p.dropped > 0 ∨ grown ≥ UInt64.size then { p with phase := .whole, dropped := p.dropped + 1 }
  else { p with phase := .whole, significand := grown }

/-- The number after a digit behind the point. -/
def addFraction (p : Partial) (c : Char) : Partial :=
  let grown := p.significand * 10 + digitValue c
  if p.full ∨ grown ≥ UInt64.size then { p with phase := .fraction, full := true }
  else { p with phase := .fraction, significand := grown, places := p.places + 1 }

/-- The number after a digit of its exponent. -/
def addPower (p : Partial) (c : Char) : Partial :=
  { p with phase := .power, power := p.power * 10 + digitValue c }

/-- The number after one more character; `none` when `c` does not continue it. -/
def next? (p : Partial) (c : Char) : Option Partial :=
  match p.phase with
  | .sign =>
    if c = '0' then some { p with phase := .zero }
    else if c.isDigit then some (p.addWhole c) else none
  | .zero =>
    if c = '.' then some { p with phase := .point }
    else if c = 'e' ∨ c = 'E' then some { p with phase := .mark } else none
  | .whole =>
    if c.isDigit then some (p.addWhole c)
    else if c = '.' then some { p with phase := .point }
    else if c = 'e' ∨ c = 'E' then some { p with phase := .mark } else none
  | .point => if c.isDigit then some (p.addFraction c) else none
  | .fraction =>
    if c.isDigit then some (p.addFraction c)
    else if c = 'e' ∨ c = 'E' then some { p with phase := .mark } else none
  | .mark =>
    if c = '+' then some { p with phase := .markSign }
    else if c = '-' then some { p with phase := .markSign, powerNegative := true }
    else if c.isDigit then some (p.addPower c) else none
  | .markSign | .power => if c.isDigit then some (p.addPower c) else none

/-- Whether the number may end before `c`, or at the end of the text. -/
def mayEnd (p : Partial) (c : Option Char) : Bool :=
  match p.phase with
  | .zero => !(c.any Char.isDigit)
  | .whole | .fraction | .power => true
  | .sign | .point | .mark | .markSign => false

/-- The power of ten that the significand is to be multiplied by. -/
def exponent (p : Partial) : Int :=
  let power : Int := if p.powerNegative then -p.power else p.power
  (p.dropped : Int) - p.places + power

/-- The number that was read. -/
def value (p : Partial) : Numeral :=
  let whole := p.dropped = 0 ∧ (p.phase = .zero ∨ p.phase = .whole)
  if whole ∧ !p.negative then .integer p.significand
  else if whole ∧ 0 < p.significand ∧ p.significand ≤ 0x8000000000000000 then
    .integer (-p.significand)
  else .real (fitsDouble p.significand p.exponent)

end Numeral.Partial

/-! ## String literals -/

/-- Where inside a string literal the next character stands. -/
inductive Quoting where
  | plain
  /-- After a backslash; `high` is a leading surrogate half just before it. -/
  | escape (high : Option Nat)
  /-- After `\u` and `count` digits of value `value`. -/
  | hex (high : Option Nat) (count : Nat) (value : Nat)
  /-- Right after a leading surrogate half. -/
  | lead (code : Nat)
  /-- After a character that is no hexadecimal digit, with `missing` bytes of the escape to come. -/
  | badHex (missing : Nat)
deriving DecidableEq, Repr

/-- Whether a code is the first half of a surrogate pair. -/
def isLead (code : Nat) : Bool := 0xD800 ≤ code && code ≤ 0xDBFF
/-- Whether a code is the second half of a surrogate pair. -/
def isTrail (code : Nat) : Bool := 0xDC00 ≤ code && code ≤ 0xDFFF

/-- The character of a one-letter escape. -/
def escaped? : Char → Option Char
  | '"' => some '"'
  | '\\' => some '\\'
  | '/' => some '/'
  | 'b' => some '\x08'
  | 'f' => some '\x0c'
  | 'n' => some '\n'
  | 'r' => some '\r'
  | 't' => some '\t'
  | _ => none

/-- A character that may not stand in a string literal unescaped. -/
def isControl (c : Char) : Bool := c.toNat < 0x20

/-- The pieces and the place after a complete `\u` escape; `pieces` is in reverse. -/
def afterHex (pieces : List Piece) (high : Option Nat) (code : Nat) : List Piece × Quoting :=
  match high with
  | some high =>
    if isTrail code then
      (.char (Char.ofNat (0x10000 + (high - 0xD800) * 0x400 + (code - 0xDC00))) :: pieces, .plain)
    else if isLead code then (.surrogate high :: pieces, .lead code)
    else (.char (Char.ofNat code) :: .surrogate high :: pieces, .plain)
  | none =>
    if isTrail code then (.surrogate code :: pieces, .plain)
    else if isLead code then (pieces, .lead code)
    else (.char (Char.ofNat code) :: pieces, .plain)

/-- What a character does to a string literal. -/
inductive Quoting.Step where
  | more (pieces : List Piece) (place : Quoting)
  | done (pieces : List Piece) (ending : Ending)

/-- What a character does outside of escapes. -/
def Quoting.plainStep (pieces : List Piece) (c : Char) : Quoting.Step :=
  if c = '"' then .done pieces .closed
  else if c = '\\' then .more pieces (.escape none)
  else if isControl c then .more (.control c :: pieces) .plain
  else .more (.char c :: pieces) .plain

/-- What a character does at a place of a string literal. -/
def Quoting.step (pieces : List Piece) (c : Char) : Quoting → Quoting.Step
  | .plain => plainStep pieces c
  | .lead code =>
    if c = '\\' then .more pieces (.escape (some code))
    else plainStep (.surrogate code :: pieces) c
  | .escape high =>
    if c = 'u' then .more pieces (.hex high 0 0)
    else
      let pieces := match high with
        | some code => .surrogate code :: pieces
        | none => pieces
      match escaped? c with
      | some e => .more (.char e :: pieces) .plain
      | none => .done pieces .broken
  | .hex high count value =>
    match Text.hexDigit? c with
    | some d =>
      if count = 3 then
        let (pieces, place) := afterHex pieces high (value * 16 + d)
        .more pieces place
      else .more pieces (.hex high (count + 1) (value * 16 + d))
    | none =>
      if count + c.utf8Size ≥ 4 then .done pieces .broken
      else .more pieces (.badHex (4 - count - c.utf8Size))
  | .badHex missing =>
    if c.utf8Size ≥ missing then .done pieces .broken
    else .more pieces (.badHex (missing - c.utf8Size))

/-! ## The machine -/

/-- What the machine has read of the token it stands in. -/
inductive LexState where
  | start
  /-- Inside a literal name, with the letters still to come. -/
  | word (initial : Char) (left : List Char) (meaning : Token)
  | number (n : Numeral.Partial)
  /-- Inside a string literal, with its pieces so far in reverse. -/
  | string (pieces : List Piece) (place : Quoting)
deriving DecidableEq, Repr

/-- A character that may stand between tokens. -/
def isBlank (c : Char) : Bool := c = ' ' || c = '\n' || c = '\t' || c = '\r'

/-- The tokens that `c` completes and the state after it, when no token is open. After a token that
no text can continue there is no state. -/
def startStep (c : Char) : List Token × Option LexState :=
  if isBlank c then ([], some .start)
  else match c with
    | '{' => ([.openObject], some .start)
    | '}' => ([.closeObject], some .start)
    | '[' => ([.openArray], some .start)
    | ']' => ([.closeArray], some .start)
    | ',' => ([.comma], some .start)
    | ':' => ([.colon], some .start)
    | '"' => ([], some (.string [] .plain))
    | 'n' => ([], some (.word 'n' ['u', 'l', 'l'] .null))
    | 't' => ([], some (.word 't' ['r', 'u', 'e'] (.bool true)))
    | 'f' => ([], some (.word 'f' ['a', 'l', 's', 'e'] (.bool false)))
    | '-' => ([], some (.number { phase := .sign, negative := true }))
    | '0' => ([], some (.number { phase := .zero }))
    | c =>
      if c.isDigit then ([], some (.number (Numeral.Partial.addWhole { phase := .whole } c)))
      else ([.stray], none)

/-- The tokens that `c` completes and the state after it. -/
def LexState.step (c : Char) : LexState → List Token × Option LexState
  | .start => startStep c
  | .word _ [] meaning =>
    let (tokens, next) := startStep c
    (meaning :: tokens, next)
  | .word initial (l :: left) meaning =>
    if c ≠ l then ([.badWord initial false], none)
    else if left.isEmpty then ([meaning], some .start)
    else ([], some (.word initial left meaning))
  | .number n =>
    match n.next? c with
    | some n => ([], some (.number n))
    | none =>
      if n.mayEnd (some c) then
        let (tokens, next) := startStep c
        (.number n.value :: tokens, next)
      else ([.badNumber false], none)
  | .string pieces place =>
    match place.step pieces c with
    | .more pieces place => ([], some (.string pieces place))
    | .done pieces .closed => ([.string pieces.reverse .closed], some .start)
    | .done pieces ending => ([.string pieces.reverse ending], none)

/-- The tokens completed by the end of the text. -/
def LexState.finish : LexState → List Token
  | .start => []
  | .word _ [] meaning => [meaning]
  | .word initial (_ :: _) _ => [.badWord initial true]
  | .number n => if n.mayEnd none then [.number n.value] else [.badNumber true]
  | .string pieces _ => [.string pieces.reverse .cut]

/-- The tokens of the text from state `s` on, after the tokens of `read` (in reverse). -/
def LexState.run (s : LexState) (read : List Token) : List Char → List Token
  | [] => (s.finish.reverse ++ read).reverse
  | c :: cs =>
    match s.step c with
    | (tokens, some s) => s.run (tokens.reverse ++ read) cs
    | (tokens, none) => (tokens.reverse ++ read).reverse

/-- The tokens of a text, up to the first that no text can continue. -/
def scan (text : List Char) : List Token :=
  LexState.start.run [] text

end UsbHost.Json
