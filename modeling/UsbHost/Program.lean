import UsbHost.Command
import UsbHost.CommandLine
import UsbHost.Logging
import UsbHost.Platform.Usb
import UsbHost.Settings.Storage

/-!
# The program

What the program does with its arguments: it saves the default settings, or loads the settings, sets
up logging, and runs one command on a session over the USB worker. In the end the worker is stopped.
-/

namespace UsbHost.Program

/-- What the program reads of its surroundings. -/
structure Environment where
  settings : Settings.Environment
  /-- The filter for logging, if the environment has one. -/
  logFilter : Option String := none
deriving DecidableEq, Repr

/-- What the program printed, and the texts of the error it ended with, the outermost first. A
program that met a fault ended there, without an error of its own. -/
structure Result where
  out : String := ""
  error : List String := []
  fault : Option Fault := none
deriving DecidableEq, Repr

/-- The exit code of a program that met a fault. -/
def faultCode : UInt32 := 101

/-- The exit code of a program that came to a result. -/
def Result.exitCode (r : Result) : UInt32 :=
  if r.fault.isSome then faultCode else if r.error.isEmpty then 0 else 1

/-- The command that arguments ask for; listing is the least of them. -/
def commandOf (a : Arguments) : Command :=
  if a.json then .json
  else match a.describe, a.readDeviceDescriptor with
    | some index, _ => .describe index
    | none, some index => .readDescriptor index
    | none, none => .list

/-- How often events are handled before a transfer counts as lost. -/
def patience : Nat := 50

section

variable {η δ : Type} [Host η δ]

/-- Runs a command on a new session, and stops the worker. -/
def serve (command : Command) (platform : UsbPlatform η δ) : Result × UsbPlatform η δ :=
  let handleEvents : CommandM (UsbPlatform η δ) Empty Unit :=
    Session.handleEvents (σ := UsbPlatform η δ) (fun _ (_ : Callback Empty) => pure ()) .default
  let action : CommandM (UsbPlatform η δ) Empty (Except Command.Error Unit) :=
    command.run (σ := UsbPlatform η δ) (κ := Empty) handleEvents patience
  let (ended, s) := action.run.run { session := { platform } }
  let result : Result := match ended with
    | .ok (.ok ()) => { out := s.printed }
    | .ok (.error e) => { out := s.printed, error := e.texts }
    | .error (.error e) => { out := s.printed, error := [e.message] }
    | .error (.fault f) => { out := s.printed, fault := some f }
  (result, (UsbPlatform.stop.run s.session.platform).2)

variable {m : Type → Type} [Monad m] [Files m]

/-- Saves the default settings. -/
def saveDefaults (e : Settings.Environment) : m Result := do
  match ← Settings.save e.defaultPath {} with
  | .ok () => return { out := s!"Configuration saved to: {e.defaultPath}\n" }
  | .error error => return { error := ["Failed to save configuration", error.message] }

/-- The settings that arguments ask for. -/
def settingsFor (e : Settings.Environment) (a : Arguments) :
    m (Except Settings.LoadError Settings) := do
  match a.config with
  | some path => return (← Settings.load e path).2
  | none => return .ok (← Settings.loadOrDefault e).1

/-- Runs the program over a host, which starts with a code. -/
def run (e : Environment) (a : Arguments) (host : η) (startCode : Int) :
    m (Result × UsbPlatform η δ) := do
  let idle : UsbPlatform η δ := .start host startCode []
  if a.saveConfig then return (← saveDefaults e.settings, idle)
  match ← settingsFor e.settings a with
  | .error error => return ({ error := ["Failed to load configuration", error.message] }, idle)
  | .ok settings =>
    match Logging.setup e.logFilter (a.logLevel.getD settings.level) none with
    | .error error => return ({ error := ["Failed to setup logging", error.message] }, idle)
    | .ok _ => return serve (commandOf a) (.start host startCode settings.filters)

end

end UsbHost.Program
