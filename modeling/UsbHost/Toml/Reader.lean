import UsbHost.Toml.Quoted

/-!
# Readers

A reader takes something from the start of a text and leaves the rest, or fails. The readers here
are those that the other modules share: single characters, blanks, line ends and comments.
-/

namespace UsbHost.Toml

/-- Takes an `α` from the start of a text. -/
abbrev Reader := StateT (List Char) Option

namespace Reader

/-- The next character, which stays where it is. -/
def peek : Reader (Option Char) := return (← get).head?

/-- A character that fulfils a condition. -/
def one (p : Char → Bool) : Reader Char := fun
  | c :: cs => if p c then some (c, cs) else none
  | [] => none

/-- A given character. -/
def char (c : Char) : Reader Unit := discard (one (· = c))

/-- A given character, if it comes next. -/
def optionalChar (c : Char) : Reader Bool := fun
  | d :: cs => if d = c then some (true, cs) else some (false, d :: cs)
  | [] => some (false, [])

/-- All characters up to one that does not fulfil a condition. -/
def many (p : Char → Bool) : Reader (List Char) := fun cs => some (cs.takeWhile p, cs.dropWhile p)

/-- The same, and at least one. -/
def many1 (p : Char → Bool) : Reader (List Char) := do
  let c ← one p
  return c :: (← many p)

/-- A given text. -/
def word : List Char → Reader Unit
  | [] => pure ()
  | c :: cs => do
    char c
    word cs

/-! ## Blanks and lines -/

/-- Any blanks. -/
def blanks : Reader Unit := discard (many Quoted.isBlank)

/-- A line end in one of its two forms. -/
def newline : Reader Unit := fun
  | '\n' :: cs | '\r' :: '\n' :: cs => some ((), cs)
  | _ => none

/-- A line end, or the end of the text. -/
def lineEnd : Reader Unit := fun
  | [] => some ((), [])
  | cs => newline cs

/-- A comment, up to the end of its line. -/
def comment : Reader Unit := do
  char '#'
  discard (many Quoted.isPrintable)

/-- What may follow a statement on its line. -/
def lineRest : Reader Unit := do
  blanks
  if (← peek) = some '#' then comment
  lineEnd

/-- Skips blanks, line ends and comments; with `inComment` a comment has begun. -/
def skipGaps (inComment : Bool) : List Char → Option (List Char)
  | '\n' :: cs | '\r' :: '\n' :: cs => skipGaps false cs
  | c :: cs =>
    if inComment then
      if Quoted.isPrintable c then skipGaps true cs else none
    else if c = '#' then skipGaps true cs
    else if Quoted.isBlank c then skipGaps false cs
    else some (c :: cs)
  | [] => if inComment then none else some []

/-- What may stand between the parts of an array. -/
def gaps : Reader Unit := fun cs => (skipGaps false cs).map ((), ·)

end Reader

end UsbHost.Toml
