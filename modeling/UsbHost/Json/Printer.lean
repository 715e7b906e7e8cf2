import UsbHost.Json.Basic

/-!
# Writing JSON

Two layouts of a value: `render` on one line without blanks, `renderPretty` with one member or item
a line, indented by two blanks for each level. Both write the same tokens.
-/

namespace UsbHost.Json

/-- The digit of a number below 16, in small letters. -/
def hexDigit (n : Nat) : Char :=
  if n < 10 then Char.ofNat ('0'.toNat + n) else Char.ofNat ('a'.toNat + (n - 10))

/-- How a character is written inside a string literal. Quotes, backslashes and control characters
are escaped, the latter by a letter where one exists. -/
def escape (c : Char) : List Char :=
  match c with
  | '"' => ['\\', '"']
  | '\\' => ['\\', '\\']
  | '\x08' => ['\\', 'b']
  | '\x0c' => ['\\', 'f']
  | '\n' => ['\\', 'n']
  | '\r' => ['\\', 'r']
  | '\t' => ['\\', 't']
  | c =>
    if c.toNat < 0x20 then
      ['\\', 'u', '0', '0', hexDigit (c.toNat / 16), hexDigit (c.toNat % 16)]
    else [c]

/-- A text as a string literal. -/
def quote (s : String) : List Char :=
  '"' :: (s.toList.flatMap escape ++ ['"'])

/-- A number in decimal digits. -/
def renderNumber (n : Int) : List Char :=
  (toString n).toList

/-- The parts with `separator` between them. -/
def joined (separator : List Char) (parts : List (List Char)) : List Char :=
  (parts.intersperse separator).flatten

/-- The value on one line. -/
def render : Json → List Char
  | .null => ['n', 'u', 'l', 'l']
  | .bool true => ['t', 'r', 'u', 'e']
  | .bool false => ['f', 'a', 'l', 's', 'e']
  | .number n => renderNumber n
  | .string s => quote s
  | .array items => '[' :: (joined [','] (items.map render) ++ [']'])
  | .object members =>
    '{' :: (joined [','] (members.map fun m => quote m.1 ++ ':' :: render m.2) ++ ['}'])
termination_by v => sizeOf v
decreasing_by
  · have := List.sizeOf_lt_of_mem ‹_ ∈ items›
    simp; omega
  · have := List.sizeOf_lt_of_mem ‹_ ∈ members›
    cases m; simp at *; omega

/-- The start of a line at a nesting level. -/
def lineStart (level : Nat) : List Char :=
  '\n' :: List.replicate (2 * level) ' '

/-- The value at a nesting level, a line for each item and member. -/
def renderPretty (level : Nat) : Json → List Char
  | .null => ['n', 'u', 'l', 'l']
  | .bool true => ['t', 'r', 'u', 'e']
  | .bool false => ['f', 'a', 'l', 's', 'e']
  | .number n => renderNumber n
  | .string s => quote s
  | .array [] => ['[', ']']
  | .array items =>
    '[' :: (lineStart (level + 1)
      ++ joined (',' :: lineStart (level + 1)) (items.map (renderPretty (level + 1)))
      ++ lineStart level ++ [']'])
  | .object [] => ['{', '}']
  | .object members =>
    '{' :: (lineStart (level + 1)
      ++ joined (',' :: lineStart (level + 1))
        (members.map fun m => quote m.1 ++ ':' :: ' ' :: renderPretty (level + 1) m.2)
      ++ lineStart level ++ ['}'])
termination_by v => sizeOf v
decreasing_by
  · have := List.sizeOf_lt_of_mem ‹_ ∈ items›
    simp; omega
  · have := List.sizeOf_lt_of_mem ‹_ ∈ members›
    cases m; simp at *; omega

end UsbHost.Json
