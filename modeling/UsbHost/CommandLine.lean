import UsbHost.Text.Number

/-!
# Command lines

The arguments of the program: options with a value and flags, and nothing else. Arguments are taken
one after the other. A value that is an argument of its own is looked at only when the next option
is known, so an argument that is unknown is found before a value that is wrong.
-/

namespace UsbHost

/-- What the arguments ask for. -/
structure Arguments where
  config : Option String := none
  saveConfig : Bool := false
  logLevel : Option String := none
  listDevices : Bool := false
  describe : Option Nat := none
  readDeviceDescriptor : Option Nat := none
  json : Bool := false
deriving DecidableEq, Repr

namespace Arguments

/-- Why the program does not run; asking for help or for the version is one reason. -/
inductive Error where
  | unknown
  | missingValue
  | badValue
  | unexpectedValue
  | repeated
  | help
  | version
deriving DecidableEq, Repr

/-- The kind of an error in reports. -/
def Error.name : Error → String
  | unknown => "UnknownArgument"
  | missingValue => "InvalidValue"
  | badValue => "ValueValidation"
  | unexpectedValue => "TooManyValues"
  | repeated => "ArgumentConflict"
  | help => "DisplayHelp"
  | version => "DisplayVersion"

/-- The exit code of the program; asking is no failure. -/
def Error.exitCode : Error → Nat
  | help | version => 0
  | _ => 2

/-! ## Options and flags -/

/-- An option that has a value. -/
inductive Setting where
  | config
  | logLevel
  | describe
  | readDeviceDescriptor
deriving DecidableEq, Repr

/-- An option that has none. -/
inductive Flag where
  | saveConfig
  | listDevices
  | json
  | help
  | version
deriving DecidableEq, Repr

/-- What an argument can name. -/
abbrev Key := Setting ⊕ Flag

/-- The key of a long name. -/
def longKey? : String → Option Key
  | "config" => some (.inl .config)
  | "log-level" => some (.inl .logLevel)
  | "describe" => some (.inl .describe)
  | "read-device-descriptor" => some (.inl .readDeviceDescriptor)
  | "save-config" => some (.inr .saveConfig)
  | "list-devices" => some (.inr .listDevices)
  | "json" => some (.inr .json)
  | "help" => some (.inr .help)
  | "version" => some (.inr .version)
  | _ => none

/-- The key of a letter. -/
def shortKey? : Char → Option Key
  | 'c' => some (.inl .config)
  | 'l' => some (.inl .logLevel)
  | 'h' => some (.inr .help)
  | 'V' => some (.inr .version)
  | _ => none

/-! ## Setting -/

/-- An index of a device. -/
def index? (value : String) : Except Error Nat :=
  match Text.readDecimal UInt64.size value.toList with
  | some n => .ok n
  | none => .error .badValue

/-- Gives an option its value, which it must not have had. A path must not be empty. -/
def assign (a : Arguments) (value : String) : Setting → Except Error Arguments
  | .config =>
    if a.config.isSome then .error .repeated
    else if value.isEmpty then .error .missingValue
    else .ok { a with config := some value }
  | .logLevel =>
    if a.logLevel.isSome then .error .repeated else .ok { a with logLevel := some value }
  | .describe =>
    if a.describe.isSome then .error .repeated
    else do return { a with describe := some (← index? value) }
  | .readDeviceDescriptor =>
    if a.readDeviceDescriptor.isSome then .error .repeated
    else do return { a with readDeviceDescriptor := some (← index? value) }

/-- Raises a flag, which must not have been raised. -/
def raise (a : Arguments) : Flag → Except Error Arguments
  | .saveConfig => if a.saveConfig then .error .repeated else .ok { a with saveConfig := true }
  | .listDevices => if a.listDevices then .error .repeated else .ok { a with listDevices := true }
  | .json => if a.json then .error .repeated else .ok { a with json := true }
  | .help => .error .help
  | .version => .error .version

/-! ## Taking arguments -/

/-- An option that has been named, and its value once there is one. -/
structure Pending where
  setting : Setting
  value : Option String := none
deriving DecidableEq, Repr

/-- The arguments once the value of the last option has been looked at. -/
def settle (a : Arguments) : Option Pending → Except Error Arguments
  | none => .ok a
  | some { value := none, .. } => .error .missingValue
  | some { setting, value := some value } => a.assign value setting

/-- Takes a key, with the value that is attached to it. -/
def takeKey (a : Arguments) (pending : Option Pending) (value : Option String) :
    Key → Except Error (Arguments × Option Pending)
  | .inl setting => do
    let a ← a.settle pending
    match value with
    | some value => return (← a.assign value setting, none)
    | none => return (a, some { setting })
  | .inr flag =>
    if value.isSome then .error .unexpectedValue
    else do return (← (← a.settle pending).raise flag, none)

/-- A name and the value after an equals sign. -/
def splitValue (text : List Char) : String × Option String :=
  (String.ofList (text.takeWhile (· ≠ '=')),
    match text.dropWhile (· ≠ '=') with
    | _ :: value => some (String.ofList value)
    | [] => none)

/-- The value that is attached to a letter, with or without an equals sign. -/
def attached? : List Char → Option String
  | [] => none
  | '=' :: value => some (String.ofList value)
  | value => some (String.ofList value)

/-- Takes the letters after a dash. A flag among them ends the program, so there is one at most. -/
def takeLetters (a : Arguments) (pending : Option Pending) :
    List Char → Except Error (Arguments × Option Pending)
  | [] => .ok (a, pending)
  | c :: cs =>
    match shortKey? c with
    | none => .error .unknown
    | some (.inl setting) => a.takeKey pending (attached? cs) (.inl setting)
    | some (.inr flag) => do
      let (a, pending) ← a.takeKey pending none (.inr flag)
      takeLetters a pending cs

/-- Takes one argument that is not two dashes. -/
def take (a : Arguments) (pending : Option Pending) (argument : String) :
    Except Error (Arguments × Option Pending) :=
  match argument.toList with
  | '-' :: '-' :: text =>
    let (name, value) := splitValue text
    match longKey? name with
    | some key => a.takeKey pending value key
    | none => .error .unknown
  | '-' :: c :: cs => a.takeLetters pending (c :: cs)
  | _ =>
    match pending with
    | some { setting, value := none } => .ok (a, some { setting, value := some argument })
    | _ => .error .unknown

/-- Takes arguments one after the other. After two dashes nothing may follow. -/
def takeAll (a : Arguments) (pending : Option Pending) : List String → Except Error Arguments
  | [] => a.settle pending
  | argument :: rest =>
    if argument = "--" then
      if rest.isEmpty then a.settle pending else .error .unknown
    else do
      let (a, pending) ← a.take pending argument
      takeAll a pending rest

/-- Reads the arguments that follow the name of the program. -/
def parse (arguments : List String) : Except Error Arguments := takeAll {} none arguments

end Arguments

end UsbHost
