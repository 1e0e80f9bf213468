import Wiretap.Number.Word
import Wiretap.Settings.Basic
import Wiretap.Shape
import Wiretap.Toml.Reader
/-! # Settings in documents

How settings are laid out in a TOML document. Keys are read in the order of the document, so the
first key with a value of the wrong shape is the one reported; a required key that is missing is
reported when its table has been read. Unknown keys are passed over. A table may also be written as
an array of its values in a fixed order.
-/

namespace Wiretap.Layout

open Toml (Value)

/-- How a value counts when another one is expected. A moment is a table of one unknown key. -/
def found : Value → Found
  | .string s => .string s
  | .integer i => .integer i
  | .float f => .float f
  | .boolean b => .boolean b
  | .moment => .map
  | .array _ => .sequence
  | .table _ => .map

abbrev Field (α : Type) := Value → Except ShapeFault α

/-- An unsigned integer of at most `bound`. -/
def unsigned (bound : Nat) (expected : String) : Field Nat
  | .integer i =>
    if 0 ≤ i ∧ i ≤ bound then .ok i.toNat else .error (.wrongValue (.integer i) expected)
  | v => .error (.wrongType (found v) expected)

def word : Field UInt16 := fun v => (unsigned 65535 "u16" v).map UInt16.ofNat

def size : Field Nat := unsigned (Word.count64 - 1) "usize"

def text : Field String
  | .string s => .ok s
  | v => .error (.wrongType (found v) "a string")

def flag : Field Bool
  | .boolean b => .ok b
  | v => .error (.wrongType (found v) "a boolean")

def path : Field String
  | .string s => .ok s
  | v => .error (.wrongType (found v) "path string")

def ipAddress : Field IpAddress
  | .string s =>
    match IpAddress.ofText? s with
    | some a => .ok a
    | none => .error .badIpAddress
  | v => .error (.wrongType (found v) "IP address")

def socketAddress : Field SocketAddress
  | .string s =>
    match SocketAddress.ofText? s with
    | some a => .ok a
    | none => .error .badSocketAddress
  | v => .error (.wrongType (found v) "socket address")

def span : Field Span
  | .string s =>
    match Span.read s with
    | .ok d => .ok d
    | .error .pastLongest => .error .spanPastLongest
    | .error _ => .error (.wrongValue (.string s) "a duration")
  | v => .error (.wrongType (found v) "a duration")

/-- The keys of a relay's table that have been read. -/
structure RelayDraft where
  localPort : Option UInt16 := none
  bindAddress : Option IpAddress := none
  targetHost : Option String := none
  targetPort : Option UInt16 := none
  bufferSize : Option Nat := none
  restartDelay : Option Span := none

namespace RelayDraft

def read (draft : RelayDraft) : String × Value → Except ShapeFault RelayDraft
  | ("port", v) => return { draft with localPort := some (← word v) }
  | ("bind_addr", v) => return { draft with bindAddress := some (← ipAddress v) }
  | ("upstream_host", v) => return { draft with targetHost := some (← text v) }
  | ("upstream_port", v) => return { draft with targetPort := some (← word v) }
  | ("buffer_size", v) => return { draft with bufferSize := some (← size v) }
  | ("restart_delay", v) => return { draft with restartDelay := some (← span v) }
  | _ => return draft

/-- The relay of a draft; the keys that were not read have their standard values. -/
def finish (draft : RelayDraft) (localPort : UInt16) : Relay :=
  let base := Relay.atPort localPort
  { localPort
    bindAddress := draft.bindAddress.getD base.bindAddress
    targetHost := draft.targetHost.getD base.targetHost
    targetPort := draft.targetPort
    bufferSize := draft.bufferSize.getD base.bufferSize
    restartDelay := draft.restartDelay.getD base.restartDelay }

end RelayDraft

def relayKeys : List String :=
  ["port", "bind_addr", "upstream_host", "upstream_port", "buffer_size", "restart_delay"]

/-- A relay. -/
def relay : Field Relay
  | .table entries => do
    let draft ← entries.foldlM RelayDraft.read {}
    match draft.localPort with
    | some p => return draft.finish p
    | none => throw (.missingField "port")
  | .array items => do
    let draft ← (relayKeys.zip items).foldlM RelayDraft.read {}
    match draft.localPort with
    | some p => return draft.finish p
    | none => throw (.wrongLength 0 "struct RelayConfig with 6 elements")
  | .moment => .error (.missingField "port")
  | v => .error (.wrongType (found v) "struct RelayConfig")

def relays : Field (List Relay)
  | .array items => items.mapM relay
  | v => .error (.wrongType (found v) "a sequence")

/-- The kinds of inspectors. -/
inductive InspectorKind where
  | noop | log | capture
  deriving Repr, DecidableEq, BEq

def inspectorKind : Field InspectorKind
  | .string "noop" => .ok .noop
  | .string "log" => .ok .log
  | .string "capture" => .ok .capture
  | .string s => .error (.unknownVariant s ["noop", "log", "capture"])
  | v => .error (.wrongType (found v) "variant identifier")

/-- The kind that a table gives, in the order of its keys. -/
def kindIn (entries : List (String × Value)) : Except ShapeFault InspectorKind :=
  match entries.lookup "kind" with
  | some v => inspectorKind v
  | none => .error (.missingField "kind")

/-- The inspector of a kind, with its parameter from a table. -/
def inspectorIn (entries : List (String × Value)) : InspectorKind → Except ShapeFault InspectorChoice
  | .noop => .ok .noop
  | .log =>
    match entries.lookup "preview_bytes" with
    | some v => (size v).map .log
    | none => .ok .standard
  | .capture =>
    match entries.lookup "path" with
    | some v => (path v).map .capture
    | none => .error (.missingField "path")

/-- The inspector of a kind, with its parameter from the rest of an array. -/
def inspectorOf (items : List Value) : InspectorKind → Except ShapeFault InspectorChoice
  | .noop =>
    if items.isEmpty then .ok .noop
    else .error (.wrongLength items.length "0 elements in sequence")
  | .log =>
    match items with
    | [] => .ok .standard
    | v :: rest => do
      let choice ← (size v).map .log
      if rest.isEmpty then return choice
      else throw (.wrongLength items.length "1 element in sequence")
  | .capture =>
    match items with
    | [] => .error (.wrongLength 0 "struct variant InspectorConfig::Capture with 1 element")
    | v :: rest => do
      let choice ← (path v).map .capture
      if rest.isEmpty then return choice
      else throw (.wrongLength items.length "1 element in sequence")

def inspector : Field InspectorChoice
  | .table entries => do inspectorIn entries (← kindIn entries)
  | .array [] => .error (.missingField "kind")
  | .array (kind :: items) => do inspectorOf items (← inspectorKind kind)
  | .moment => .error (.missingField "kind")
  | v => .error (.wrongType (found v) "internally tagged enum InspectorConfig")

def readMetrics (m : MetricsEndpoint) : String × Value → Except ShapeFault MetricsEndpoint
  | ("enabled", v) => return { m with enabled := ← flag v }
  | ("bind_addr", v) => return { m with bindAddress := ← socketAddress v }
  | _ => return m

def metricsEndpoint : Field MetricsEndpoint
  | .table entries => entries.foldlM readMetrics .standard
  | .array items => (["enabled", "bind_addr"].zip items).foldlM readMetrics .standard
  | .moment => .ok .standard
  | v => .error (.wrongType (found v) "struct MetricsConfig")

def readKey (s : Settings) : String × Value → Except ShapeFault Settings
  | ("log_level", v) => return { s with logLevel := ← text v }
  | ("relays", v) => return { s with relays := ← relays v }
  | ("inspector", v) => return { s with inspector := ← inspector v }
  | ("metrics", v) => return { s with metrics := ← metricsEndpoint v }
  | _ => return s

/-- The settings of an empty document: they have no relay. -/
def blank : Settings := { Settings.standard with relays := [] }

end Wiretap.Layout

def Wiretap.Settings.ofDocument (document : Wiretap.Toml.Document) :
    Except Wiretap.ShapeFault Wiretap.Settings :=
  document.foldlM Wiretap.Layout.readKey Wiretap.Layout.blank
