import UsbHost.Host.Scripted
import UsbHost.Program

/-!
# Entry point

The command line of the program, over the files of the computer and a bus without devices.
-/

namespace UsbHost.Main

/-- Whether an action can be done. -/
def succeeds (action : IO Unit) : IO Bool := do
  try
    action
    return true
  catch _ => return false

instance : Files IO where
  isPresent path := succeeds (discard (IO.FS.realPath path))
  read path := do
    try
      return some (← IO.FS.readBinFile path)
    catch _ => return none
  makeDirectory path := succeeds (IO.FS.createDirAll path)
  write path text := succeeds (IO.FS.writeFile path text)

/-- The environment variables that the program reads. -/
def environment : IO Program.Environment := do
  return {
    settings := {
      home := (← IO.getEnv "HOME").getD ""
      configHome := ← IO.getEnv "XDG_CONFIG_HOME" }
    logFilter := ← IO.getEnv "RUST_LOG" }

/-- What is printed for arguments that are not followed. -/
def usage : String := String.intercalate "\n" [
  "libusb-shim - libusb host API over a platform USB binding",
  "",
  "Usage: usb-shim [OPTIONS]",
  "",
  "Options:",
  "  -c, --config <PATH>                   Path to configuration file",
  "      --save-config                     Save default configuration and exit",
  "  -l, --log-level <LEVEL>               Log level (trace, debug, info, warn, error)",
  "      --list-devices                    List USB devices and exit (default)",
  "      --describe <INDEX>                Print the active configuration of a device",
  "      --read-device-descriptor <INDEX>  Read the device descriptor of a device",
  "      --json                            Print device records as JSON",
  "  -h, --help                            Print help",
  "  -V, --version                         Print version"]

/-- Runs the program with arguments, to its exit code. -/
def run (arguments : List String) : IO UInt32 := do
  match Arguments.parse arguments with
  | .error .version =>
    IO.println "usb-shim"
    return 0
  | .error error =>
    if error.exitCode = 0 then IO.println usage else IO.eprintln s!"error: {error.name}\n\n{usage}"
    return error.exitCode.toUInt32
  | .ok a =>
    let bus : ScriptedHost := {}
    let (result, _) ← Program.run (m := IO) (δ := ScriptedDevice) (← environment) a bus 0
    IO.print result.out
    if let some fault := result.fault then
      IO.eprintln fault.message
    unless result.error.isEmpty do
      IO.eprintln ("Error: " ++ String.intercalate "\n  " result.error)
    return result.exitCode

end UsbHost.Main

/-- The program. -/
def main (arguments : List String) : IO UInt32 := UsbHost.Main.run arguments
