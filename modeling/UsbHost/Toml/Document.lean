import UsbHost.Toml.Scalar
import UsbHost.Toml.Tree

/-!
# TOML documents

A document is a list of lines, each empty, a header or an entry. `Document.statements` reads the
lines and `Document.parse` also builds the table that they describe.
-/

namespace UsbHost.Toml.Document

open Reader

/-! ## Keys -/

/-- A character of a key without quotes. -/
def isBare (c : Char) : Bool := c.isAlphanum || c = '_' || c = '-'

/-- One part of a key. -/
def simpleKey : Reader String := do
  match ← peek with
  | some '"' | some '\'' => String.ofList <$> Quoted.readLine?
  | _ => String.ofList <$> many1 isBare

/-- The parts of a dotted key, at most `limit` of them. -/
def keyParts : (limit : Nat) → Reader (List String)
  | 0 => failure
  | limit + 1 => do
    blanks
    let part ← simpleKey
    blanks
    if ← optionalChar '.' then return part :: (← keyParts limit) else return [part]

/-- A key, with its parts. -/
def key : Reader (List String) := keyParts depthLimit

/-! ## Values -/

/-- The items of an array up to its closing bracket. -/
def items (item : Reader Value) : (fuel : Nat) → Reader (List Value)
  | 0 => failure
  | fuel + 1 => do
    gaps
    if ← optionalChar ']' then return []
    let v ← item
    gaps
    if ← optionalChar ',' then return v :: (← items item fuel)
    char ']'
    return [v]

/-- An entry of a table. -/
def entry (item : Reader Value) : Reader (List String × Value) := do
  let path ← key
  char '='
  blanks
  return (path, ← item)

/-- The entries of an inline table up to its closing brace; there is at least one. -/
def entries (item : Reader Value) : (fuel : Nat) → Reader (List (List String × Value))
  | 0 => failure
  | fuel + 1 => do
    let e ← entry item
    blanks
    if ← optionalChar ',' then return e :: (← entries item fuel)
    char '\x7d'
    return [e]

/-- An array after its opening bracket. -/
def array (item : Reader Value) : Reader Value := do
  return .array (← items item ((← get).length + 1))

/-- An inline table after its opening brace. -/
def inlineTable (item : Reader Value) : Reader Value := do
  blanks
  if ← optionalChar '\x7d' then return .table []
  (Value.ofEntries? (← entries item ((← get).length + 1)) : Option Value)

/-- A value, with arrays and inline tables nested at most `depth` deep. -/
def value (depth : Nat) : Reader Value := do
  match ← peek with
  | some '"' | some '\'' => (.text ∘ String.ofList) <$> Quoted.read
  | some '[' => char '['; nested depth array
  | some '\x7b' => char '\x7b'; nested depth inlineTable
  | some 't' => word ['t', 'r', 'u', 'e']; return .flag true
  | some 'f' => word ['f', 'a', 'l', 's', 'e']; return .flag false
  | _ => Scalar.date <|> Scalar.number
where
  nested : (depth : Nat) → (Reader Value → Reader Value) → Reader Value
    | 0, _ => failure
    | depth + 1, reader => reader (value depth)

/-! ## Lines -/

/-- A header, with its brackets. -/
def header : Reader Statement := do
  char '['
  if ← optionalChar '[' then
    let path ← key
    word [']', ']']
    return .element path
  else
    let path ← key
    char ']'
    return .table path

/-- The statement of a line, if there is one. -/
def line : Reader (Option Statement) := do
  blanks
  match ← peek with
  | none => return none
  | some '#' =>
    lineRest
    return none
  | some '\n' | some '\r' =>
    newline
    return none
  | some '[' =>
    let s ← header
    lineRest
    return some s
  | some _ =>
    let (path, v) ← entry (value depthLimit)
    lineRest
    return some (.entry path v)

/-- The statements of at most `fuel` lines. -/
def lines : (fuel : Nat) → Reader (List Statement)
  | 0 => failure
  | fuel + 1 => do
    let s ← line
    if (← get).isEmpty then return s.toList
    return s.toList ++ (← lines fuel)

/-- The mark of the byte order, which may stand before a document. -/
def mark : Char := '\ufeff'

/-- The statements of a document. -/
def statements (text : List Char) : Option (List Statement) :=
  let text := if text.head? = some mark then text.tail else text
  (lines (text.length + 1) text).map (·.1)

/-- The table that a document describes. -/
def parse (text : String) : Option (List (String × Value)) := do
  let root ← Members.build [] [] (← statements text.toList)
  return Members.toValues root

end UsbHost.Toml.Document
