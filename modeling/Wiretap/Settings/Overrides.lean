import Wiretap.Failure
/-! # Overrides of settings

Variables of the environment and options of the command line change the first relay, the log level
and the inspector. A relay with standard values is added first when there is none. Overrides take
effect one after another; those before a faulty one stay in effect.
-/

namespace Wiretap

abbrev Environment := String → Option String

namespace Settings

def withRelay (s : Settings) : Settings :=
  if s.relays.isEmpty then { s with relays := [standardRelay] } else s

/-- Change the first relay, if there is one. -/
def modifyFirst (change : Relay → Relay) (s : Settings) : Settings :=
  match s.relays with
  | [] => s
  | r :: rest => { s with relays := change r :: rest }

end Settings

/-- The variables that override settings. -/
inductive Variable where
  | localPort | bindAddress | targetHost | targetPort | bufferSize | restartDelay | logLevel
  deriving Repr, DecidableEq, BEq

namespace Variable

def all : List Variable :=
  [.localPort, .bindAddress, .targetHost, .targetPort, .bufferSize, .restartDelay, .logLevel]

/-- The name of a variable in the environment. -/
def name : Variable → String
  | .localPort => "RELAYTAP_PORT"
  | .bindAddress => "RELAYTAP_BIND_ADDR"
  | .targetHost => "RELAYTAP_UPSTREAM_HOST"
  | .targetPort => "RELAYTAP_UPSTREAM_PORT"
  | .bufferSize => "RELAYTAP_BUFFER_SIZE"
  | .restartDelay => "RELAYTAP_RESTART_DELAY"
  | .logLevel => "RELAYTAP_LOG_LEVEL"

def number (text : String) : Except Cause UInt16 :=
  (Text.Numeral.readUInt16 text).mapError .numeral

/-- The settings after a variable took effect with a value. -/
def apply (value : String) (s : Settings) : Variable → Except Cause Settings
  | .localPort => do
    let p ← number value
    return s.modifyFirst fun r => { r with localPort := p }
  | .bindAddress =>
    match IpAddress.ofText? value with
    | some ip => .ok (s.modifyFirst fun r => { r with bindAddress := ip })
    | none => .error .address
  | .targetHost => .ok (s.modifyFirst fun r => { r with targetHost := value })
  | .targetPort => do
    let p ← number value
    return s.modifyFirst fun r => { r with targetPort := some p }
  | .bufferSize => do
    let n ← (Text.Numeral.readUInt64 value).mapError .numeral
    return s.modifyFirst fun r => { r with bufferSize := n }
  | .restartDelay => do
    let d ← (Span.read value).mapError .spelling
    return s.modifyFirst fun r => { r with restartDelay := d }
  | .logLevel => .ok { s with logLevel := value }

/-- Let variables take effect in order, up to the first faulty one. -/
def applyAll (env : Environment) : List Variable → Settings → Settings × Option Failure
  | [], s => (s, none)
  | v :: rest, s =>
    match env v.name with
    | none => applyAll env rest s
    | some value =>
      match v.apply value s with
      | .ok s' => applyAll env rest s'
      | .error cause => (s, some ⟨[.overriding v.name value], cause⟩)

end Variable

/-- The settings after the environment took effect, as far as it went. -/
def Settings.applyEnvironment (env : Environment) (s : Settings) : Settings × Option Failure :=
  Variable.applyAll env Variable.all s.withRelay

/-- The standard settings with the environment's overrides. They are not validated: they only become
usable with a target. -/
def Settings.ofEnvironment (env : Environment) : Except Failure Settings :=
  match standard.applyEnvironment env with
  | (s, none) => .ok s
  | (_, some f) => .error f

/-- The options of the command line that override settings. -/
structure Overrides where
  localPort : Option UInt16 := none
  bindAddress : Option IpAddress := none
  targetHost : Option String := none
  targetPort : Option UInt16 := none
  bufferSize : Option Nat := none
  inspector : Option String := none
  capturePath : Option String := none
  deriving Repr, DecidableEq, BEq

namespace Overrides

/-- Where a capture goes unless a path is given. -/
def standardCapturePath : String := "relaytap-capture.jsonl"

def applyTo (o : Overrides) (r : Relay) : Relay :=
  { r with
    localPort := o.localPort.getD r.localPort
    bindAddress := o.bindAddress.getD r.bindAddress
    targetHost := o.targetHost.getD r.targetHost
    targetPort := o.targetPort.or r.targetPort
    bufferSize := o.bufferSize.getD r.bufferSize }

def choice (o : Overrides) : String → Except Failure InspectorChoice
  | "noop" => .ok .noop
  | "log" => .ok .standard
  | "capture" => .ok (.capture (o.capturePath.getD standardCapturePath))
  | kind => .error (.of (.unknownInspector kind))

end Overrides

/-- The settings after the options took effect. An unknown kind of inspector leaves the inspector as
it was. -/
def Settings.merge (o : Overrides) (s : Settings) : Settings × Option Failure :=
  let s := s.withRelay.modifyFirst o.applyTo
  match o.inspector with
  | none => (s, none)
  | some kind =>
    match o.choice kind with
    | .ok inspector => ({ s with inspector }, none)
    | .error f => (s, some f)

end Wiretap
