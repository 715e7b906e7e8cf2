import UsbHost.Files
import UsbHost.Notice
import UsbHost.Settings.Text

/-!
# Settings in files

Settings are loaded from the file that is asked for, or else from the first of the places where one
is looked for. Saving writes settings that cannot be loaded again too: only loading checks them.
-/

namespace UsbHost.Settings

/-- Where the settings of a user are. -/
structure Environment where
  home : String
  /-- The directory for settings, if the user has chosen one. -/
  configHome : Option String := none
deriving DecidableEq, Repr

namespace Environment

/-- The directory for settings. A choice that is not an absolute path does not count. -/
def configDirectory (e : Environment) : String :=
  match e.configHome with
  | some path => if Path.isAbsolute path then path else Path.join e.home ".config"
  | none => Path.join e.home ".config"

/-- The file of a user's settings. -/
def defaultPath (e : Environment) : String :=
  Path.join (Path.join e.configDirectory "libusb-shim") "shim.toml"

/-- The file of the settings of all users. -/
def systemPath : String := "/etc/libusb-shim/shim.toml"

end Environment

/-! ## Errors -/

/-- Why settings were not loaded. -/
inductive LoadError where
  | nowhere
  | unreadable (path : String)
  | malformed (path : String)
  | invalid (e : Settings.Error)
deriving DecidableEq, Repr

/-- The text of the error. -/
def LoadError.message : LoadError → String
  | nowhere => "No configuration file found, using defaults"
  | unreadable path => s!"Failed to read config file: {path}"
  | malformed path => s!"Failed to parse config file: {path}"
  | invalid e => e.message

/-- Why settings were not saved. -/
inductive SaveError where
  /-- A number is too large for the file. -/
  | unwritable
  | noDirectory (path : String)
  | refused (path : String)
deriving DecidableEq, Repr

/-- The text of the error. -/
def SaveError.message : SaveError → String
  | unwritable => "Failed to serialize configuration"
  | noDirectory path => s!"Failed to create config directory: {path}"
  | refused path => s!"Failed to write config file: {path}"

/-! ## Notices -/

/-- What is told about settings. -/
inductive Event where
  | loaded (path : String)
  | defaulted (e : LoadError)
  | saved (path : String)
deriving DecidableEq, Repr

/-- How an event is shown. -/
def Event.shown : Event → Severity × String
  | loaded path => (.info, s!"Loaded configuration from: {path}")
  | defaulted e => (.debug, s!"Failed to load config: {e.message}, using defaults")
  | saved path => (.info, s!"Saved configuration to: {path}")

/-! ## Loading and saving -/

section

variable {m : Type → Type} [Monad m] [Files m]

/-- The settings in a file. -/
def loadFile (path : String) : m (Except LoadError Settings) := do
  match (← Files.read path).bind String.fromUTF8? with
  | none => return .error (.unreadable path)
  | some text =>
    match ofText? text with
    | none => return .error (.malformed path)
    | some s =>
      match s.validate with
      | .error e => return .error (.invalid e)
      | .ok () => return .ok s

/-- Loads the settings of a file, and tells where it is; `~` stands for the home directory. -/
def load (e : Environment) (path : String) : m (String × Except LoadError Settings) := do
  let path := Path.expandHome e.home path
  return (path, ← loadFile path)

/-- The first of the places where settings are looked for that is there. -/
def find? (e : Environment) : m (Option String) := do
  if ← Files.isPresent e.defaultPath then return some e.defaultPath
  if ← Files.isPresent Environment.systemPath then return some Environment.systemPath
  return none

/-- Loads the settings from where they are looked for. -/
def loadFound (e : Environment) : m (String × Except LoadError Settings) := do
  match ← find? (m := m) e with
  | some path => return (path, ← loadFile path)
  | none => return ("", .error .nowhere)

/-- Loads the settings from where they are looked for; the defaults stand in for those that cannot
be loaded. -/
def loadOrDefault (e : Environment) : m (Settings × Event) := do
  match ← loadFound e with
  | (path, .ok s) => return (s, .loaded path)
  | (_, .error error) => return ({}, .defaulted error)

/-- Saves settings. -/
def save (path : String) (s : Settings) : m (Except SaveError Unit) := do
  match s.toText? with
  | none => return .error .unwritable
  | some text =>
    match Path.parent? path with
    | some parent =>
      unless ← Files.makeDirectory parent do return .error (.noDirectory parent)
    | none => pure ()
    if ← Files.write path text then return .ok () else return .error (.refused path)

end

end UsbHost.Settings
