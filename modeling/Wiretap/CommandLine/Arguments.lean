import Wiretap.Settings.Overrides
/-! # Arguments of the command line

Options have a long name, some also a short one. The value of an option follows it: behind `=` in the
same argument, directly behind a short name, or as the next argument. A value of its own argument is
looked at only when the next option begins, or at the end; an argument that fits nowhere is reported
before it. Every option may be given once.
-/

namespace Wiretap

/-- The options that take a value. -/
inductive ValueOption where
  | config | localPort | bind | targetHost | targetPort | bufferSize | inspector | capture | logLevel
  deriving Repr, DecidableEq, BEq

/-- The options that stand alone. -/
inductive FlagOption where
  | verbose | noConsole | validateOnly | help | version
  deriving Repr, DecidableEq, BEq

/-- An option. -/
inductive CommandOption where
  | value (option : ValueOption)
  | flag (option : FlagOption)
  deriving Repr, DecidableEq, BEq

namespace ValueOption

def all : List ValueOption :=
  [.config, .localPort, .bind, .targetHost, .targetPort, .bufferSize, .inspector, .capture, .logLevel]

/-- The long name. -/
def long : ValueOption → String
  | .config => "config"
  | .localPort => "port"
  | .bind => "bind"
  | .targetHost => "upstream-host"
  | .targetPort => "upstream-port"
  | .bufferSize => "buffer-size"
  | .inspector => "inspector"
  | .capture => "capture"
  | .logLevel => "log-level"

def short? : ValueOption → Option Char
  | .config => some 'c'
  | .localPort => some 'p'
  | .bind => some 'b'
  | _ => none

/-- What stands for the value. -/
def placeholder : ValueOption → String
  | .config => "CONFIG"
  | .localPort => "PORT"
  | .bind => "BIND"
  | .targetHost => "UPSTREAM_HOST"
  | .targetPort => "UPSTREAM_PORT"
  | .bufferSize => "BUFFER_SIZE"
  | .inspector => "INSPECTOR"
  | .capture => "CAPTURE"
  | .logLevel => "LOG_LEVEL"

/-- What the option is for. -/
def purpose : ValueOption → String
  | .config => "Path to configuration file"
  | .localPort => "Local port to relay"
  | .bind => "Local bind address (e.g., 0.0.0.0)"
  | .targetHost => "Upstream server host"
  | .targetPort => "Upstream server port"
  | .bufferSize => "Read buffer size in bytes"
  | .inspector => "Inspector kind: noop, log or capture"
  | .capture => "Capture file path for --inspector capture"
  | .logLevel => "Log level"

end ValueOption

namespace FlagOption

def all : List FlagOption := [.verbose, .noConsole, .validateOnly, .help, .version]

def long : FlagOption → String
  | .verbose => "verbose"
  | .noConsole => "no-console"
  | .validateOnly => "validate-config"
  | .help => "help"
  | .version => "version"

def short? : FlagOption → Option Char
  | .verbose => some 'v'
  | .help => some 'h'
  | .version => some 'V'
  | _ => none

def purpose : FlagOption → String
  | .verbose => "Enable verbose logging"
  | .noConsole => "Do not read commands from stdin"
  | .validateOnly => "Validate configuration and exit"
  | .help => "Print help"
  | .version => "Print version"

end FlagOption

namespace CommandOption

def all : List CommandOption := ValueOption.all.map .value ++ FlagOption.all.map .flag

def long : CommandOption → String
  | .value o => o.long
  | .flag o => o.long

def short? : CommandOption → Option Char
  | .value o => o.short?
  | .flag o => o.short?

def toText : CommandOption → String
  | .value o => s!"--{o.long} <{o.placeholder}>"
  | .flag o => s!"--{o.long}"

def purpose : CommandOption → String
  | .value o => o.purpose
  | .flag o => o.purpose

def ofLong? (name : String) : Option CommandOption := all.find? (·.long == name)

def ofShort? (name : Char) : Option CommandOption := all.find? (·.short? == some name)

end CommandOption

/-- Why a value is not one for its option. -/
inductive ValueFault where
  | numeral (fault : Text.NumeralFault)
  | outOfRange (value : Int)
  | address
  deriving Repr, DecidableEq, BEq

def ValueFault.message : ValueFault → String
  | .numeral fault => fault.message
  | .outOfRange value => s!"{value} is not in 0..=65535"
  | .address => "invalid IP address syntax"

/-- What is wrong with the arguments. -/
inductive ArgumentFault where
  /-- An argument fits nowhere. -/
  | unexpected (argument : String)
  /-- An option that stands alone was given a value. -/
  | unexpectedValue (option : FlagOption) (value : String)
  | missingValue (option : ValueOption)
  | invalidValue (option : ValueOption) (value : String) (fault : ValueFault)
  | repeated (option : CommandOption)
  deriving Repr, DecidableEq, BEq

/-- The wording of an argument's fault. -/
def ArgumentFault.message : ArgumentFault → String
  | .unexpected argument => s!"unexpected argument '{argument}' found"
  | .unexpectedValue option value =>
    s!"unexpected value '{value}' for '--{option.long}' found; no more were expected"
  | .missingValue option =>
    s!"a value is required for '{CommandOption.toText (.value option)}' but none was supplied"
  | .invalidValue option value fault =>
    s!"invalid value '{value}' for '{CommandOption.toText (.value option)}': {fault.message}"
  | .repeated option => s!"the argument '{option.toText}' cannot be used multiple times"

/-- What the command line says. -/
structure Arguments where
  config : String := "relaytap.toml"
  overrides : Overrides := {}
  logLevel : Option String := none
  isVerbose : Bool := false
  hasConsole : Bool := true
  /-- Whether the settings are only to be validated. -/
  onlyValidates : Bool := false
  deriving Repr, DecidableEq, BEq

/-- What the command line asks for. -/
inductive Request where
  | run (arguments : Arguments)
  | help
  | version
  deriving Repr, DecidableEq, BEq

namespace Arguments

def number (value : String) : Except ValueFault UInt16 :=
  match Text.Numeral.readInt64 value with
  | .error fault => .error (.numeral fault)
  | .ok n => if 0 ≤ n ∧ n ≤ 65535 then .ok (UInt16.ofNat n.toNat) else .error (.outOfRange n)

def address (value : String) : Except ValueFault IpAddress :=
  match IpAddress.ofText? value with
  | some ip => .ok ip
  | none => .error .address

/-- The path of a value, which cannot be empty. -/
def path (option : ValueOption) (value : String) : Except ArgumentFault String :=
  if value.isEmpty then .error (.missingValue option) else .ok value

/-- The arguments with the value of an option. -/
def withValue (a : Arguments) (option : ValueOption) (value : String) :
    Except ArgumentFault Arguments :=
  let check {α : Type} (r : Except ValueFault α) : Except ArgumentFault α :=
    r.mapError (.invalidValue option value)
  match option with
  | .config => return { a with config := (← path option value) }
  | .localPort =>
    return { a with overrides := { a.overrides with localPort := some (← check (number value)) } }
  | .bind =>
    return { a with overrides := { a.overrides with bindAddress := some (← check (address value)) } }
  | .targetHost => return { a with overrides := { a.overrides with targetHost := some value } }
  | .targetPort =>
    return { a with overrides := { a.overrides with targetPort := some (← check (number value)) } }
  | .bufferSize => do
    let n ← check ((Text.Numeral.readUInt64 value).mapError .numeral)
    return { a with overrides := { a.overrides with bufferSize := some n } }
  | .inspector => return { a with overrides := { a.overrides with inspector := some value } }
  | .capture =>
    return { a with overrides := { a.overrides with capturePath := some (← path option value) } }
  | .logLevel => return { a with logLevel := some value }

end Arguments

/-- Why reading arguments stops before their end. -/
inductive ReadingStop where
  | fault (fault : ArgumentFault)
  | help
  | version
  deriving Repr, DecidableEq, BEq

/-- Arguments that have been read in part. -/
structure PartialArguments where
  arguments : Arguments := {}
  /-- The options that were given. -/
  given : List CommandOption := []
  /-- The option whose value is an argument of its own, with the value once it has been read. -/
  pending : Option (ValueOption × Option String) := none

namespace PartialArguments

def refuse (fault : ArgumentFault) : Except ReadingStop α := .error (.fault fault)

def give (p : PartialArguments) (option : CommandOption) : Except ReadingStop PartialArguments :=
  if p.given.contains option then refuse (.repeated option)
  else .ok { p with given := option :: p.given }

def take (p : PartialArguments) (option : ValueOption) (value : String) :
    Except ReadingStop PartialArguments := do
  let p ← p.give (.value option)
  let arguments ← (p.arguments.withValue option value).mapError .fault
  return { p with arguments }

/-- Look at the value of its own argument that was read last. -/
def resolve (p : PartialArguments) : Except ReadingStop PartialArguments :=
  match p.pending with
  | none => .ok p
  | some (option, none) => refuse (.missingValue option)
  | some (option, some value) => { p with pending := none }.take option value

/-- Take an option that stands alone. -/
def takeFlag (p : PartialArguments) (option : FlagOption) :
    Except ReadingStop PartialArguments := do
  let p ← p.resolve
  match option with
  | .help => throw .help
  | .version => throw .version
  | .verbose =>
    let p ← p.give (.flag option)
    return { p with arguments := { p.arguments with isVerbose := true } }
  | .noConsole =>
    let p ← p.give (.flag option)
    return { p with arguments := { p.arguments with hasConsole := false } }
  | .validateOnly =>
    let p ← p.give (.flag option)
    return { p with arguments := { p.arguments with onlyValidates := true } }

def takeAttached (p : PartialArguments) (option : ValueOption) (value : String) :
    Except ReadingStop PartialArguments := do
  (← p.resolve).take option value

def expect (p : PartialArguments) (option : ValueOption) :
    Except ReadingStop PartialArguments := do
  return { ← p.resolve with pending := some (option, none) }

/-- Read an argument that begins with two hyphens, without them. -/
def readLong (p : PartialArguments) (text : List Char) : Except ReadingStop PartialArguments :=
  let name := String.ofList (text.takeWhile (· != '='))
  match CommandOption.ofLong? name, text.dropWhile (· != '=') with
  | none, _ => refuse (.unexpected s!"--{name}")
  | some (.value option), _ :: value => p.takeAttached option (String.ofList value)
  | some (.value option), [] => p.expect option
  | some (.flag option), _ :: value => refuse (.unexpectedValue option (String.ofList value))
  | some (.flag option), [] => p.takeFlag option

/-- Read an argument that begins with one hyphen, without it: options that stand alone, and then
possibly one with a value. -/
def readShort (p : PartialArguments) : List Char → Except ReadingStop PartialArguments
  | [] => .ok p
  | c :: rest =>
    match CommandOption.ofShort? c with
    | none => refuse (.unexpected (String.ofList ['-', c]))
    | some (.flag option) =>
      match p.takeFlag option with
      | .ok p => readShort p rest
      | .error stop => .error stop
    | some (.value option) =>
      match rest with
      | [] => p.expect option
      | '=' :: value => p.takeAttached option (String.ofList value)
      | value => p.takeAttached option (String.ofList value)

def readPlain (p : PartialArguments) (argument : String) : Except ReadingStop PartialArguments :=
  match p.pending with
  | some (option, none) => .ok { p with pending := some (option, some argument) }
  | _ => refuse (.unexpected argument)

/-- Read all arguments. Behind two hyphens on their own there is no option, so that nothing fits
there. -/
def readAll (p : PartialArguments) : List String → Except ReadingStop PartialArguments
  | [] => p.resolve
  | argument :: rest =>
    match argument.toList with
    | ['-', '-'] =>
      match rest with
      | [] => p.resolve
      | next :: _ => refuse (.unexpected next)
    | '-' :: '-' :: text =>
      match p.readLong text with
      | .ok p => readAll p rest
      | .error stop => .error stop
    | '-' :: c :: text =>
      match p.readShort (c :: text) with
      | .ok p => readAll p rest
      | .error stop => .error stop
    | _ =>
      match p.readPlain argument with
      | .ok p => readAll p rest
      | .error stop => .error stop

end PartialArguments

def Request.ofArguments (arguments : List String) : Except ArgumentFault Request :=
  match PartialArguments.readAll {} arguments with
  | .ok p => .ok (.run p.arguments)
  | .error .help => .ok .help
  | .error .version => .ok .version
  | .error (.fault fault) => .error fault

end Wiretap
