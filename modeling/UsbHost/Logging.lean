import UsbHost.Notice

/-!
# Logging

What is logged is decided by a filter: a list of directives, each with a level for the targets that
begin in some way. Of the directives for a target the one with the longest beginning counts. The
filter of the environment wins over the level of the settings, if it can be read. Logging is set up
once.
-/

namespace UsbHost.Logging

/-- How much is shown: everything up to a severity, or nothing. -/
abbrev Level := Option Severity

namespace Level

/-- The level as filters spell it. -/
def name (l : Level) : String := l.elim "off" Severity.name

/-- The levels by their numbers. -/
def all : List Level := none :: Severity.all.map some

/-- A text in small letters. -/
def lower (s : String) : String := s.map Char.toLower

/-- Reads a level: its number or its name, in letters of any case. No text at all is an error's. -/
def ofText? (s : String) : Option Level :=
  match Text.readDecimal UInt64.size s.toList with
  | some n => all[n]?
  | none => if s.isEmpty then some (some .error) else all.find? (name · = lower s)

end Level

/-- A directive: the level of the targets that begin with `target`. -/
structure Directive where
  target : String
  level : Level
  /-- Whether it counts only within spans of its own; no target has any here. -/
  spanned : Bool := false
deriving DecidableEq, Repr

namespace Directive

/-- Whether a directive may begin with a character. -/
def startsWith (c : Char) : Bool :=
  c.isAlphanum || c ∈ ['-', ':', '_', '['] || c.toNat ≥ 0x80

/-- The level after an equals sign; nothing there stands for everything. -/
def levelOf? (cs : List Char) : Option Level :=
  if cs.isEmpty then some (some .trace) else Level.ofText? (String.ofList cs)

/-- White space, as it may stand around a directive. -/
def isSpace (c : Char) : Bool :=
  ('\t' ≤ c && c ≤ '\r') || ('\u2000' ≤ c && c ≤ '\u200a') ||
    c ∈ [' ', '\u0085', '\u00a0', '\u1680', '\u2028', '\u2029', '\u202f', '\u205f', '\u3000']

/-- The text without the white space around it. -/
def trim (cs : List Char) : List Char :=
  ((cs.dropWhile isSpace).reverse.dropWhile isSpace).reverse

/-- What follows a span, which is a name, a field in braces, or both, up to a closing bracket. -/
def afterSpan? (cs : List Char) : Option (List Char) :=
  match cs.dropWhile fun c => c ≠ ']' && c ≠ '{' with
  | ']' :: rest => some rest
  | '{' :: field =>
    match field.dropWhile (· ≠ '}') with
    | '}' :: ']' :: rest => if field.head? = some '}' then none else some rest
    | _ => none
  | _ => none

/-- Reads a directive: a level for all targets, a target with its level, or a target of which
everything is shown. White space around it does not count when the parts of a directive are looked
for, but they are then taken from their places in the whole text. -/
def ofText? (text : String) : Option Directive :=
  let whole := text.toList
  let cs := trim whole
  if !cs.head?.any startsWith then none
  else
    let length := (cs.takeWhile fun c => c ≠ '=' && c ≠ '[').length
    let target := String.ofList (whole.take length)
    let level rest := levelOf? (whole.drop (cs.length - List.length rest))
    match cs.drop length with
    | '=' :: rest => (level rest).map fun level => { target, level }
    | '[' :: rest =>
      match afterSpan? rest with
      | some [] => some { target, level := some .trace, spanned := true }
      | some ('=' :: rest) => (level rest).map fun level => { target, level, spanned := true }
      | _ => none
    | _ =>
      match Level.ofText? text with
      | some level => some { target := "", level }
      | none => some { target := text, level := some .trace }

/-- Whether a directive is for a target. -/
def covers (d : Directive) (target : String) : Bool :=
  !d.spanned && d.target.toList.isPrefixOf target.toList

end Directive

/-- The directives of a filter, in the order in which they were given. -/
abbrev LogFilter := List Directive

namespace LogFilter

/-- Reads directives that are separated by commas. Without any, errors are shown. -/
def ofText? (text : String) : Option LogFilter := do
  let directives ← ((text.splitOn ",").filter (!·.isEmpty)).mapM Directive.ofText?
  return if directives.isEmpty then [{ target := "", level := some .error }] else directives

/-- Of two directives for a target the more precise one; of two that are alike the second. -/
def prefer (best : Option Directive) (d : Directive) : Option Directive :=
  match best with
  | none => some d
  | some b => if b.target.utf8ByteSize ≤ d.target.utf8ByteSize then some d else best

/-- How much of a target is shown. -/
def levelOf (f : LogFilter) (target : String) : Level :=
  (((f.filter (·.covers target)).foldl prefer none).map (·.level)).getD none

end LogFilter

/-! ## Setting up -/

/-- The targets that follow the level of the settings; all others show warnings. -/
def targets : List String := ["libusb_shim", "usb_shim", "usb_binding", "common"]

/-- The directives for a level. -/
def directives (level : String) : String :=
  String.intercalate "," ("warn" :: targets.map fun target => s!"{target}={level}")

/-- Why logging was not set up. -/
inductive Error where
  | invalidFilter
  | alreadyInitialized
deriving DecidableEq, Repr

/-- The text of an error of the configuration. -/
def configurationError (text : String) : String := s!"Configuration error: {text}"

/-- The text of the error. -/
def Error.message : Error → String
  | invalidFilter => configurationError "Invalid log filter"
  | alreadyInitialized => configurationError "Logging already initialized"

/-- The filter for a level, or that of the environment. -/
def filterFor (environment : Option String) (level : String) : Option LogFilter :=
  (environment.bind LogFilter.ofText?).or (LogFilter.ofText? (directives level))

/-- Sets up logging, unless it is. -/
def setup (environment : Option String) (level : String) (installed : Option LogFilter) :
    Except Error LogFilter :=
  match filterFor environment level, installed with
  | none, _ => .error .invalidFilter
  | some _, some _ => .error .alreadyInitialized
  | some filter, none => .ok filter

end UsbHost.Logging
