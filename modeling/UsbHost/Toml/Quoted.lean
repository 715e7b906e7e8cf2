import UsbHost.Text.Number

/-!
# Quoted text in TOML

A text is quoted in one of four forms: between double quotes, with escapes, or between single
quotes, without; and each of them on one line, or between three quotes on many. `Quoted.write` takes
the plainest form that can hold the text, and `Quoted.read` reads all four.
-/

namespace UsbHost.Toml.Quoted

/-! ## Characters -/

/-- A blank within a line. -/
def isBlank (c : Char) : Bool := c = ' ' || c = '\t'

/-- A character that may stand in a comment or a literal: no control character but the tab. -/
def isPrintable (c : Char) : Bool := c = '\t' || (0x20 ≤ c.toNat && c.toNat ≠ 0x7F)

/-- The character of a number, if there is one. -/
def charOf? (n : Nat) : Option Char :=
  if h : n.isValidChar then some (Char.ofNatAux n h) else none

/-- The character of some hexadecimal digits. -/
def hexChar? (digits : List Char) : Option Char :=
  (Text.hexValue? 0 digits).bind charOf?

/-! ## Reading -/

/-- The text up to the closing double quote, and what comes after it. -/
def readBasic : List Char → Option (List Char × List Char)
  | '"' :: cs => some ([], cs)
  | '\\' :: 'u' :: a :: b :: c :: d :: cs => do
    let (text, rest) ← readBasic cs
    return ((← hexChar? [a, b, c, d]) :: text, rest)
  | '\\' :: 'U' :: a :: b :: c :: d :: e :: f :: g :: h :: cs => do
    let (text, rest) ← readBasic cs
    return ((← hexChar? [a, b, c, d, e, f, g, h]) :: text, rest)
  | '\\' :: c :: cs => do
    let (text, rest) ← readBasic cs
    return ((← escaped? c) :: text, rest)
  | c :: cs =>
    if isPrintable c && c ≠ '\\' then do
      let (text, rest) ← readBasic cs
      return (c :: text, rest)
    else none
  | [] => none
where
  /-- The character that a letter after a backslash stands for. -/
  escaped? : Char → Option Char
    | 'b' => some '\x08'
    | 't' => some '\t'
    | 'n' => some '\n'
    | 'f' => some '\x0c'
    | 'r' => some '\r'
    | '"' => some '"'
    | '\\' => some '\\'
    | _ => none

/-- Whether nothing but blanks is left on a line. -/
def endsLine (cs : List Char) : Bool :=
  match cs.dropWhile isBlank with
  | '\n' :: _ | '\r' :: '\n' :: _ => true
  | _ => false

/-- The text up to three closing double quotes, before which one or two more may stand. A backslash
at the end of a line drops the blanks and line ends that follow; with `skips` they are being
dropped. -/
def readLongBasic (skips : Bool) : List Char → Option (List Char × List Char)
  | '"' :: '"' :: '"' :: '"' :: '"' :: cs => some (['"', '"'], cs)
  | '"' :: '"' :: '"' :: '"' :: cs => some (['"'], cs)
  | '"' :: '"' :: '"' :: cs => some ([], cs)
  | '\\' :: 'u' :: a :: b :: c :: d :: cs => do
    let (text, rest) ← readLongBasic false cs
    return ((← hexChar? [a, b, c, d]) :: text, rest)
  | '\\' :: 'U' :: a :: b :: c :: d :: e :: f :: g :: h :: cs => do
    let (text, rest) ← readLongBasic false cs
    return ((← hexChar? [a, b, c, d, e, f, g, h]) :: text, rest)
  | '\\' :: c :: cs =>
    match readBasic.escaped? c with
    | some e => do
      let (text, rest) ← readLongBasic false cs
      return (e :: text, rest)
    | none => if endsLine (c :: cs) then readLongBasic true (c :: cs) else none
  | '\r' :: '\n' :: cs =>
    if skips then readLongBasic true cs
    else do
      let (text, rest) ← readLongBasic false cs
      return ('\n' :: text, rest)
  | c :: cs =>
    if skips && (c = '\n' || isBlank c) then readLongBasic true cs
    else if c = '\n' || (isPrintable c && c ≠ '\\') then do
      let (text, rest) ← readLongBasic false cs
      return (c :: text, rest)
    else none
  | [] => none

/-- The text up to the closing single quote, and what comes after it. -/
def readLiteral : List Char → Option (List Char × List Char)
  | '\'' :: cs => some ([], cs)
  | c :: cs =>
    if isPrintable c then do
      let (text, rest) ← readLiteral cs
      return (c :: text, rest)
    else none
  | [] => none

/-- The text up to three closing single quotes, before which one or two more may stand. -/
def readLongLiteral : List Char → Option (List Char × List Char)
  | '\'' :: '\'' :: '\'' :: '\'' :: '\'' :: cs => some (['\'', '\''], cs)
  | '\'' :: '\'' :: '\'' :: '\'' :: cs => some (['\''], cs)
  | '\'' :: '\'' :: '\'' :: cs => some ([], cs)
  | '\r' :: '\n' :: cs => do
    let (text, rest) ← readLongLiteral cs
    return ('\n' :: text, rest)
  | c :: cs =>
    if c = '\n' || isPrintable c then do
      let (text, rest) ← readLongLiteral cs
      return (c :: text, rest)
    else none
  | [] => none

/-- What follows three opening quotes: a line end there is no part of the text. -/
def afterOpening : List Char → List Char
  | '\n' :: cs | '\r' :: '\n' :: cs => cs
  | cs => cs

/-- Reads a quoted text on one line. -/
def readLine? : List Char → Option (List Char × List Char)
  | '"' :: cs => readBasic cs
  | '\'' :: cs => readLiteral cs
  | _ => none

/-- Reads a quoted text in any form. -/
def read : List Char → Option (List Char × List Char)
  | '"' :: '"' :: '"' :: cs => readLongBasic false (afterOpening cs)
  | '\'' :: '\'' :: '\'' :: cs => readLongLiteral (afterOpening cs)
  | cs => readLine? cs

/-! ## Writing -/

/-- The longest row of a character. -/
def longestRow (q : Char) (text : List Char) : Nat :=
  (text.foldl (fun (longest, row) c =>
    if c = q then (max longest (row + 1), row + 1) else (longest, 0)) (0, 0)).1

/-- A character that only an escape can stand for. -/
def needsEscape (c : Char) : Bool := !isPrintable c && c ≠ '\n'

/-- The escape of a character. -/
def escape (c : Char) : List Char :=
  match c with
  | '\x08' => ['\\', 'b']
  | '\t' => ['\\', 't']
  | '\n' => ['\\', 'n']
  | '\x0c' => ['\\', 'f']
  | '\r' => ['\\', 'r']
  | '"' => ['\\', '"']
  | '\\' => ['\\', '\\']
  | c => ['\\', 'u'] ++ (Text.hex 4 c.toNat).toList.map Char.toUpper

/-- The text with escapes. On many lines, line ends stand for themselves and so do quotes, but for
each third of a row; `row` is how many have just been written. -/
def writeEscaped (long : Bool) (row : Nat) : List Char → List Char
  | [] => []
  | c :: cs =>
    if c = '"' then
      if long && row < 2 then c :: writeEscaped long (row + 1) cs
      else escape c ++ writeEscaped long 0 cs
    else if (c = '\n' && long) || (isPrintable c && c ≠ '\\' && c ≠ '\t') then
      c :: writeEscaped long 0 cs
    else escape c ++ writeEscaped long 0 cs

/-- The forms in which a text can be written. -/
inductive Form where
  | basic
  | literal
  | longBasic
  | longLiteral
deriving DecidableEq, Repr

/-- The plainest form that can hold a text: without escapes if there is one. -/
def form (text : List Char) : Form :=
  let controls := text.any needsEscape
  let singles := longestRow '\'' text
  let doubles := longestRow '"' text
  if !controls && '\\' ∉ text && doubles = 0 && '\n' ∉ text then .basic
  else if !controls && singles = 0 && '\n' ∉ text then .literal
  else if !controls && '\\' ∉ text && doubles ≤ 2 then .longBasic
  else if !controls && singles ≤ 2 then .longLiteral
  else if '\n' ∈ text then .longBasic
  else .basic

/-- A text of many lines begins on a line of its own. -/
def opening (text : List Char) : List Char := if '\n' ∈ text then ['\n'] else []

/-- Quotes a text. -/
def write (text : List Char) : List Char :=
  match form text with
  | .basic => ['"'] ++ writeEscaped false 0 text ++ ['"']
  | .literal => ['\''] ++ text ++ ['\'']
  | .longBasic => ['"', '"', '"'] ++ opening text ++ writeEscaped true 0 text ++ ['"', '"', '"']
  | .longLiteral => ['\'', '\'', '\''] ++ opening text ++ text ++ ['\'', '\'', '\'']

end UsbHost.Toml.Quoted
