import UsbHost.Json.Schema
import UsbHost.Json.Token

/-!
# Reading JSON

A `Reader` takes tokens off the front of a list. `Schema.read` reads a value of a given shape in one
pass, so of several problems in a text the first decides. A member that a record does not know is
passed over by `passValue`, which asks only that it is a value; with a limit the same function keeps
the tokens of a value for a later reading, and is strict about numbers, strings and nesting.
-/

namespace UsbHost.Json

/-- A reading of something at the front of the tokens. -/
abbrev Reader (α : Type) := StateT (List Token) (Except Problem) α

/-- The text of a string literal. -/
def literalText (pieces : List Piece) (ending : Ending) : Except Problem String :=
  let chars := pieces.filterMap fun
    | .char c => some c
    | _ => none
  if chars.length < pieces.length then .error .malformed
  else match ending with
    | .closed => .ok (String.ofList chars)
    | .cut => .error .endOfInput
    | .broken => .error .malformed

/-- The bytes of a string literal: UTF-8, and surrogate halves in the same pattern. -/
def literalBytes (pieces : List Piece) (ending : Ending) : Except Problem (List UInt8) :=
  let bytes := pieces.flatMap fun
    | .char c | .control c => String.utf8EncodeChar c
    | .surrogate code => [0xE0 + (code / 0x1000).toUInt8, 0x80 + (code / 0x40 % 0x40).toUInt8,
        0x80 + (code % 0x40).toUInt8]
  match ending with
  | .closed => .ok bytes
  | .cut => .error .endOfInput
  | .broken => .error .malformed

/-- The problem of finding `t` where a value of another kind is expected. A scalar is read to its
end first. -/
def Token.refusal : Token → Problem
  | .null | .bool _ | .openObject | .openArray => .mismatched
  | .number (.integer _) | .number (.real true) => .mismatched
  | .number (.real false) => .malformed
  | .string pieces ending =>
    match literalText pieces ending with
    | .ok _ => .mismatched
    | .error problem => problem
  | .badWord _ cut | .badNumber cut => if cut then .endOfInput else .malformed
  | .closeObject | .closeArray | .comma | .colon | .stray => .malformed

namespace Reader

/-- Whatever token comes first. -/
def token : Reader Token
  | [] => .error .endOfInput
  | t :: ts => .ok (t, ts)

/-- The token `expected`. -/
def exactly (expected : Token) : Reader Unit
  | [] => .error .endOfInput
  | t :: ts => if t = expected then .ok ((), ts) else .error .malformed

/-- A value made of one token. -/
def scalar (meaning : Token → Option α) : Reader α := do
  let t ← token
  match meaning t with
  | some a => pure a
  | none => throw t.refusal

/-- A string. -/
def text : Reader String := do
  match ← token with
  | .string pieces ending => literalText pieces ending
  | t => throw t.refusal

/-- Whether an array goes on, and the comma before its next item. The closing bracket is taken. -/
def anotherItem (first : Bool) : Reader Bool
  | [] => .error .endOfInput
  | .closeArray :: ts => .ok (false, ts)
  | .comma :: ts =>
    if first then .error .malformed
    else match ts with
      | [] => .error .endOfInput
      | .closeArray :: _ => .error .malformed
      | _ => .ok (true, ts)
  | ts => if first then .ok (true, ts) else .error .malformed

/-- The name of an object's next member, and the comma before it. The closing brace is taken. -/
def anotherName (first : Bool) : Reader (Option String)
  | [] => .error .endOfInput
  | .closeObject :: ts => .ok (none, ts)
  | .comma :: ts =>
    if first then .error .malformed
    else match ts with
      | [] => .error .endOfInput
      | .string pieces ending :: ts => do return (some (← literalText pieces ending), ts)
      | _ => .error .malformed
  | .string pieces ending :: ts =>
    if first then do return (some (← literalText pieces ending), ts) else .error .malformed
  | _ => .error .malformed

/-- The items of an array after its bracket; `read` is in reverse. Each item takes a token, so
`fuel` beyond the number of tokens is never used up. -/
def items (item : Reader α) : (fuel : Nat) → (read : List α) → Reader (List α)
  | 0, _ => throw .endOfInput
  | fuel + 1, read => do
    if ← anotherItem read.isEmpty then items item fuel ((← item) :: read)
    else pure read.reverse

/-- Reads the members of an object after its brace, one `member name` each. -/
def members (member : String → α → Reader α) : (fuel : Nat) → (first : Bool) → α → Reader α
  | 0, _, _ => throw .endOfInput
  | fuel + 1, first, a => do
    match ← anotherName first with
    | some name => members member fuel false (← member name a)
    | none => pure a

/-- An amount of fuel that the tokens at hand cannot use up. -/
def enough : Reader Nat := fun ts => .ok (ts.length + 1, ts)

end Reader

/-! ## Passing over a value -/

/-- What may come next inside a value that is passed over. -/
inductive Place where
  | value
  /-- After `[`: a value or the end of the array. -/
  | firstItem
  /-- After `{`: a name or the end of the object. -/
  | firstName
  /-- After a comma of an object. -/
  | name
  | colon
  /-- After a value: a comma, or the end of what encloses it. -/
  | afterValue
deriving DecidableEq, Repr

/-- What is wrong with a scalar token; strict reading asks more of numbers and strings. -/
def Token.scalarProblem (strict : Bool) : Token → Option Problem
  | .null | .bool _ => none
  | .number (.real false) => if strict then some .malformed else none
  | .number _ => none
  | .string pieces ending =>
    if strict then
      match literalText pieces ending with
      | .ok _ => none
      | .error problem => some problem
    else if pieces.any fun | .control _ => true | _ => false then some .malformed
    else match ending with
      | .closed => none
      | .cut => some .endOfInput
      | .broken => some .malformed
  | .badWord _ cut => if cut then some .endOfInput else some .malformed
  | .badNumber cut => if strict && cut then some .endOfInput else some .malformed
  | _ => some .malformed

/-- Splits off the tokens of one value. `inside` are the closing tokens that are due, and `passed`
the tokens so far in reverse. With `some limit` the value is held to what a value that is kept must
satisfy, at most `limit` levels of nesting among it; with `none` it only has to be a value. -/
def passValue (limit : Option Nat) (inside : List Token) (place : Place) (passed : List Token) :
    List Token → Except Problem (List Token × List Token)
  | [] => .error .endOfInput
  | t :: ts =>
    let passed := t :: passed
    let close (_ : Unit) :=
      match inside with
      | due :: inside =>
        if t ≠ due then .error .malformed
        else if inside.isEmpty then .ok (passed.reverse, ts)
        else passValue limit inside .afterValue passed ts
      | [] => .error .malformed
    match place with
    | .value | .firstItem =>
      match t with
      | .openArray =>
        if limit.any (inside.length ≥ ·) then .error .malformed
        else passValue limit (.closeArray :: inside) .firstItem passed ts
      | .openObject =>
        if limit.any (inside.length ≥ ·) then .error .malformed
        else passValue limit (.closeObject :: inside) .firstName passed ts
      | .closeArray => if place = .firstItem then close () else .error .malformed
      | t =>
        match t.scalarProblem limit.isSome with
        | some problem => .error problem
        | none =>
          if inside.isEmpty then .ok (passed.reverse, ts)
          else passValue limit inside .afterValue passed ts
    | .firstName | .name =>
      match t with
      | .string .. =>
        match t.scalarProblem limit.isSome with
        | some problem => .error problem
        | none => passValue limit inside .colon passed ts
      | .closeObject => if place = .firstName then close () else .error .malformed
      | _ => .error .malformed
    | .colon => if t = .colon then passValue limit inside .value passed ts else .error .malformed
    | .afterValue =>
      match t with
      | .comma =>
        let next := if inside.head? = some .closeObject then .name else .value
        passValue limit inside next passed ts
      | _ => close ()

namespace Reader

/-- Passes over a value. -/
def skip : Reader Unit := fun ts => do
  let (_, ts) ← passValue none [] .value [] ts
  return ((), ts)

/-- The tokens of a value that is kept, nested at most `limit` deep. -/
def keep (limit : Nat) : Reader (List Token) := passValue (some limit) [] .value []

/-- One of `names`. -/
def choiceName (names : List String) (name : String) : Except Problem (Fin names.length) :=
  match names.findFinIdx? (· == name) with
  | some i => .ok i
  | none => .error .mismatched

/-- Only `null`; a value that was kept for later may also say `{}`. -/
def unit (kept : Bool) : Reader Unit
  | .openObject :: .closeObject :: ts => if kept then .ok ((), ts) else .error .mismatched
  | ts => scalar (fun | .null => some () | _ => none) ts

/-- One of `names`: its name, or an object with its name over `null`. -/
def choice (kept : Bool) (names : List String) : Reader (Fin names.length) := do
  match ← token with
  | .string pieces ending => choiceName names (← literalText pieces ending)
  | .openObject =>
    let name ← choiceName names (← text)
    exactly .colon
    unit kept
    exactly .closeObject
    pure name
  | _ => throw .malformed

/-- A number of so many bits, without a sign. -/
def word (width : Nat) : Reader (BitVec width) :=
  scalar fun
    | .number (.integer n) =>
      if 0 ≤ n ∧ n.toNat < Nat.pow 2 width then some (BitVec.ofInt width n) else none
    | _ => none

/-- A number of 32 bits with a sign. -/
def int32 : Reader Int32 :=
  scalar fun
    | .number (.integer n) =>
      if -0x80000000 ≤ n ∧ n < 0x80000000 then some (Int32.ofInt n) else none
    | _ => none

/-- The items of an array. -/
def list (item : Reader α) : Reader (List α) := do
  match ← token with
  | .openArray => items item (← enough) []
  | t => throw t.refusal

/-- Bytes: an array of numbers or, with `textual`, also the bytes of a string literal. -/
def bytes (textual : Bool) : Reader (List UInt8) := fun ts =>
  match textual, ts with
  | true, .string pieces ending :: rest => do return (← literalBytes pieces ending, rest)
  | _, ts => list (UInt8.ofBitVec <$> word 8) ts

end Reader

/-- The members of a record as far as they have been read. -/
@[reducible] def Fields.Draft : Fields → Type
  | .nil => Unit
  | .cons _ _ s rest => Option s.Carrier × rest.Draft

/-- The draft in which nothing has been read. -/
def Fields.blank : (fs : Fields) → fs.Draft
  | .nil => ()
  | .cons _ _ _ rest => (none, rest.blank)

/-- The record of a draft; `none` when a member is missing that may not be. -/
def Fields.complete? : (fs : Fields) → fs.Draft → Option fs.Carrier
  | .nil, _ => some ()
  | .cons _ presence s rest, (v, vs) => do
    return (← v.or (presence.fallback? s), ← rest.complete? vs)

mutual
/-- Reads a value of a shape. `kept` says that the tokens are of a value that was kept for later. -/
def Schema.read (kept : Bool) : (s : Schema) → Reader s.Carrier
  | .unit => Reader.unit kept
  | .flag => Reader.scalar fun | .bool b => some b | _ => none
  | .word width => Reader.word width
  | .int32 => Reader.int32
  | .text => Reader.text
  | .bytes textual => Reader.bytes textual
  | .choice names => Reader.choice kept names
  | .optional s => fun
    | .null :: ts => .ok (none, ts)
    | .badWord 'n' cut :: _ => .error (if cut then .endOfInput else .malformed)
    | ts => (some <$> s.read kept) ts
  | .list s => Reader.list (s.read kept)
  | .record fs => do
    match ← Reader.token with
    | .openObject =>
      let draft ← Reader.members (fs.readMember kept) (← Reader.enough) true fs.blank
      match fs.complete? draft with
      | some record => pure record
      | none => throw .mismatched
    | .openArray => fs.readItems kept true false
    | t => throw t.refusal

/-- Reads the value of the member `name` into the draft. A member may not come twice, and one that
is not known is passed over. -/
def Fields.readMember (kept : Bool) : (fs : Fields) → String → fs.Draft → Reader fs.Draft
  | .nil, _, _ => do
    Reader.exactly .colon
    Reader.skip
  | .cons known _ s rest, name, (v, vs) =>
    if name = known then
      if v.isSome then throw .mismatched
      else do
        Reader.exactly .colon
        return (some (← s.read kept), vs)
    else do return (v, ← rest.readMember kept name vs)

/-- Reads the values of the members in order from an array after its bracket. At its end the members
to come are missing. -/
def Fields.readItems (kept : Bool) : (fs : Fields) → (first ended : Bool) → Reader fs.Carrier
  | .nil, _, ended => do
    unless ended do Reader.exactly .closeArray
  | .cons _ presence s rest, first, ended => do
    let more ← if ended then pure false else Reader.anotherItem first
    if more then return (← s.read kept, ← rest.readItems kept false false)
    else match presence.fallback? s with
      | some v => return (v, ← rest.readItems kept false true)
      | none => throw .mismatched
end

end UsbHost.Json
