import Wiretap.CommandLine.Arguments
import Wiretap.Inspect.Station
import Wiretap.Journal.Display
import Wiretap.Journal.FilterText
import Wiretap.Settings.File
import Wiretap.Time.Spelling
/-! # Starting the program

The settings come from the file if there is one, and else from the environment; then the options of
the command line take effect, and the whole is validated. After that the program reports what it
will do and builds the inspector.
-/

namespace Wiretap

/-- What a program is started with. -/
structure Invocation where
  arguments : List String
  environment : Environment
  disk : Disk

/-- What a program comes to. -/
structure Conclusion where
  /-- The exit code, if the program ends. -/
  exitCode : Option Nat
  output : String
  errors : String
  deriving Repr, DecidableEq, BEq

namespace Program

def versionText : String := "relaytap 0.1.0\n"

def usage : String := "Usage: relaytap [OPTIONS]"

def helpLine (o : CommandOption) : String :=
  let short := match o.short? with
    | some c => "-" ++ String.singleton c ++ ", "
    | none => "    "
  s!"  {short}{o.toText}\n          {o.purpose}\n"

/-- What is printed when help is asked for. -/
def helpText : String :=
  s!"Transparent TCP relay with pluggable traffic inspection\n\n{usage}\n\nOptions:\n" ++
    String.join (CommandOption.all.map helpLine)

def argumentReport (fault : ArgumentFault) : String :=
  s!"error: {fault.message}\n\n{usage}\n\nFor more information, try '--help'.\n"

/-- What is printed about a failure that ends the program: its outermost part, then the others. -/
def failureReport (f : Failure) : String :=
  let parts := f.activities.map Activity.message ++ f.cause.message?.toList
  let causes := match parts.drop 1 with
    | [] => ""
    | causes => "\nCaused by:\n" ++ String.join (causes.map fun c => s!"    {c}\n")
  s!"Error: {f.headline}\n{causes}"

/-! ## Starting -/

/-- The settings of the file, or of the environment when there is no file. -/
def baseSettings (disk : Disk) (env : Environment) (a : Arguments) : Except Failure Settings :=
  if disk.exists? a.config then Settings.load disk a.config else Settings.ofEnvironment env

def settings (disk : Disk) (env : Environment) (a : Arguments) : Except Failure Settings := do
  match (← baseSettings disk env a).merge a.overrides with
  | (_, some fault) => throw fault
  | (s, none) =>
    during .validatingFinally s.validate
    return s

def filterVariable : String := "RUST_LOG"

/-- The filter that holds unless a variable gives one. -/
def filterText (a : Arguments) (s : Settings) : String :=
  if a.isVerbose then "debug" else a.logLevel.getD s.logLevel

/-- The filter of the journal. A faulty filter in the environment is as good as none, unless the
program breaks down over it. -/
def filter (env : Environment) (a : Arguments) (s : Settings) : FilterReading :=
  match (env filterVariable).map JournalFilter.ofText with
  | some (.ok filter) => { filter }
  | some (.error .cutCharacter) => { filter := ⟨[]⟩, isBroken := true }
  | _ => JournalFilter.ofTextLeniently (filterText a s)

def refusalLine (refused : String × FilterFault) : String :=
  s!"ignoring `{refused.1}`: {refused.2.message}\n"

def relayEntry (r : Relay) : Entry :=
  .info .program <|
    s!"Relay: {r.listenAddress.toText} -> {r.target.toText} " ++
      s!"(buffer {r.bufferSize} bytes, restart delay {r.restartDelay.compact})"

def summary (s : Settings) : Journal :=
  s.relays.map relayEntry ++ [.info .program s!"Inspector: {s.inspector.summary}"] ++
    if s.metrics.enabled then
      [.info .program s!"Metrics endpoint: http://{s.metrics.bindAddress.toText}/metrics"]
    else []

def startEntry : Entry := .info .program "Starting relaytap v0.1.0"

def validEntry : Entry := .info .program "Configuration is valid"

/-- A program whose relays are to run. -/
structure Setup where
  arguments : Arguments
  settings : Settings
  filter : JournalFilter
  inspector : Inspector
  /-- The disk, with the inspector's file. -/
  disk : Disk
  /-- What has been printed so far. -/
  output : String
  errors : String

/-- What starting a program comes to. -/
inductive Start where
  | ended (conclusion : Conclusion)
  | runs (setup : Setup)

/-- What is printed when the program breaks down with a text. -/
def breakdownReport (text : String) : String := s!"\n{text}\n"

/-- The end of a program that breaks down. It has an exit code of its own. -/
def brokenDown (errors text : String) : Conclusion :=
  ⟨some 101, "", errors ++ breakdownReport text⟩

/-- Start with valid settings. -/
def startWith (i : Invocation) (a : Arguments) (s : Settings) : Start :=
  let reading := filter i.environment a s
  let errors := String.join (reading.refused.map refusalLine)
  if reading.isBroken then .ended (brokenDown errors FilterFault.cutCharacter.message)
  else if a.onlyValidates then
    .ended ⟨some 0, reading.filter.display (startEntry :: validEntry :: summary s), errors⟩
  else
    let output := reading.filter.display (startEntry :: summary s)
    match during .buildingInspector (Inspector.build i.disk s.inspector) with
    | .error fault => .ended ⟨some 1, output, errors ++ failureReport fault⟩
    | .ok (inspector, disk) => .runs ⟨a, s, reading.filter, inspector, disk, output, errors⟩

def failed (fault : Failure) : Conclusion :=
  match fault.breakdown? with
  | some text => brokenDown "" text
  | none => ⟨some 1, "", failureReport fault⟩

/-- Start the program. -/
def start (i : Invocation) : Start :=
  match Request.ofArguments i.arguments with
  | .error fault => .ended ⟨some 2, "", argumentReport fault⟩
  | .ok .help => .ended ⟨some 0, helpText, ""⟩
  | .ok .version => .ended ⟨some 0, versionText, ""⟩
  | .ok (.run a) =>
    match settings i.disk i.environment a with
    | .error fault => .ended (failed fault)
    | .ok s => startWith i a s

end Program

end Wiretap
