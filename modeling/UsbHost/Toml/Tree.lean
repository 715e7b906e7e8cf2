import UsbHost.Toml.Basic

/-!
# Tables under construction

The statements of a document build a tree of tables. A table remembers how it came about, because
that decides what may be added to it: a header may name a table that so far was only implied by the
headers of tables inside it, and dotted keys may extend tables that dotted keys have made. No key is
given twice.
-/

namespace UsbHost.Toml

/-- How a table came about. -/
inductive Origin where
  /-- By a header of its own, or as the root. -/
  | header
  /-- By the header of a table inside it. -/
  | implied
  /-- By a dotted key. -/
  | dotted
deriving DecidableEq, Repr

/-- What a key stands for while the tree is built. -/
inductive Node where
  | value (v : Value)
  | table (origin : Origin) (members : List (String × Node))
  /-- An array of tables. -/
  | elements (tables : List (List (String × Node)))
deriving Inhabited

/-- The keys of a table in the order in which they came, with what they stand for. -/
abbrev Members := List (String × Node)

namespace Members

/-- What a key stands for. -/
def get? (key : String) : Members → Option Node
  | [] => none
  | (k, n) :: ms => if k = key then some n else get? key ms

/-- The members with a new value for a key, which keeps its place if it has one. -/
def put (key : String) (node : Node) : Members → Members
  | [] => [(key, node)]
  | (k, n) :: ms => if k = key then (key, node) :: ms else (k, n) :: put key node ms

/-- Changes the table at the end of a path. Tables that are missing on the way are made; with
`dotted` they are the tables of a dotted key, which does not enter tables that have a header. -/
def descend (dotted : Bool) (change : Origin → Members → Option Members) :
    (path : List String) → Origin → Members → Option Members
  | [], origin, members => change origin members
  | key :: path, _, members =>
    match members.get? key with
    | none => do
      let origin := if dotted then .dotted else .implied
      return members.put key (.table origin (← descend dotted change path origin []))
    | some (.value _) => none
    | some (.elements tables) =>
      match tables.reverse with
      | [] => none
      | last :: before => do
        let last ← descend dotted change path .header last
        return members.put key (.elements (last :: before).reverse)
    | some (.table origin inner) =>
      if dotted && origin == .header then none
      else do return members.put key (.table origin (← descend dotted change path origin inner))

/-- Gives a value to a key of a table. The table must be the one the entry is in, or one that dotted
keys have made. -/
def define (isInner : Bool) (key : String) (v : Value) (origin : Origin) (members : Members) :
    Option Members :=
  if (origin == .dotted) == isInner && (members.get? key).isNone then
    some (members.put key (.value v))
  else none

/-- The path without its last key, and that key. -/
def split? (path : List String) : Option (List String × String) :=
  path.getLast?.map (path.dropLast, ·)

/-- Gives a value to a dotted key. -/
def insert (path : List String) (v : Value) (origin : Origin) (members : Members) :
    Option Members := do
  let (tables, key) ← split? path
  descend true (define (!tables.isEmpty) key v) tables origin members

/-- Opens the table of a header. -/
def openTable (path : List String) (root : Members) : Option Members := do
  let (tables, key) ← split? path
  descend false (fun _ members =>
    match members.get? key with
    | none => some (members.put key (.table .header []))
    | some (.table .implied inner) => some (members.put key (.table .header inner))
    | _ => none) tables .header root

/-- Adds an element to the array of tables of a header. -/
def openElement (path : List String) (root : Members) : Option Members := do
  let (tables, key) ← split? path
  descend false (fun _ members =>
    match members.get? key with
    | none => some (members.put key (.elements [[]]))
    | some (.elements es) => some (members.put key (.elements (es ++ [[]])))
    | _ => none) tables .header root

/-- The tree that statements build; `here` is the path of the last header. -/
def build (here : List String) (root : Members) : List Statement → Option Members
  | [] => some root
  | .table path :: rest => do build path (← root.openTable path) rest
  | .element path :: rest => do build path (← root.openElement path) rest
  | .entry path v :: rest => do build here (← descend false (insert path v) here .header root) rest

end Members

mutual
/-- The value of a finished node. -/
def Node.toValue : Node → Value
  | .value v => v
  | .table _ members => .table (Members.toValues members)
  | .elements tables => .array (Members.toTables tables)

/-- The members of a finished table. -/
def Members.toValues : List (String × Node) → List (String × Value)
  | [] => []
  | (key, node) :: members => (key, node.toValue) :: Members.toValues members

/-- The elements of a finished array of tables. -/
def Members.toTables : List (List (String × Node)) → List Value
  | [] => []
  | members :: tables => .table (Members.toValues members) :: Members.toTables tables
end

/-- The table of an inline table's entries. -/
def Value.ofEntries? (entries : List (List String × Value)) : Option Value :=
  (entries.foldlM (fun members (path, v) => Members.insert path v .header members) []).map
    fun members => .table (Members.toValues members)

end UsbHost.Toml
