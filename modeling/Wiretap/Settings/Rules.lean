import Wiretap.Settings.Basic
/-! # Rules that settings obey

Settings are usable when there is a relay, no two relays share a local number, every relay can be
run, and the inspector's parameters make sense. The first broken rule is reported: relays in their
order, for each of them its rules in a fixed order, and the inspector last.
-/

namespace Wiretap

/-- A broken rule. -/
inductive RuleFault where
  | noRelays
  | zeroPort
  | duplicatePort (localPort : UInt16)
  | zeroTargetPort (localPort : UInt16)
  | blankTarget (localPort : UInt16)
  | selfLoop (localPort : UInt16) (target : Target)
  | zeroBuffer (localPort : UInt16)
  | hugeBuffer (localPort : UInt16)
  | capturePathMissing
  | previewEmpty
  deriving Repr, DecidableEq, BEq

namespace RuleFault

/-- The wording of a broken rule. -/
def message : RuleFault → String
  | .noRelays => "at least one relay must be configured"
  | .zeroPort => "relay port must be greater than 0"
  | .duplicatePort p => s!"duplicate relay port: {p.toNat}"
  | .zeroTargetPort p => s!"upstream_port for relay {p.toNat} must be greater than 0"
  | .blankTarget p => s!"upstream_host for relay {p.toNat} cannot be empty"
  | .selfLoop p target =>
    s!"relay {p.toNat} would forward to itself ({target.toText}); set upstream_host or upstream_port"
  | .zeroBuffer p => s!"buffer_size for relay {p.toNat} must be greater than 0"
  | .hugeBuffer p => s!"buffer_size for relay {p.toNat} cannot exceed 1 MiB"
  | .capturePathMissing => "capture inspector requires a path"
  | .previewEmpty => "preview_bytes must be greater than 0"

end RuleFault

def maxBufferSize : Nat := 1024 * 1024

/-- The first rule that a relay breaks, given the local numbers of the relays before it. -/
def Relay.firstFault? (seen : List UInt16) (r : Relay) : Option RuleFault :=
  if r.localPort = 0 then some .zeroPort
  else if r.localPort ∈ seen then some (.duplicatePort r.localPort)
  else if r.targetPort = some 0 then some (.zeroTargetPort r.localPort)
  else if (Text.trim r.targetHost).isEmpty then some (.blankTarget r.localPort)
  else if r.isSelfLoop then some (.selfLoop r.localPort r.target)
  else if r.bufferSize = 0 then some (.zeroBuffer r.localPort)
  else if r.bufferSize > maxBufferSize then some (.hugeBuffer r.localPort)
  else none

/-- The first rule that a row of relays breaks, given the local numbers in front of it. -/
def Relay.firstFaultIn? (seen : List UInt16) : List Relay → Option RuleFault
  | [] => none
  | r :: rest => (r.firstFault? seen).or (firstFaultIn? (r.localPort :: seen) rest)

def InspectorChoice.fault? : InspectorChoice → Option RuleFault
  | .noop => none
  | .log previewBytes => if previewBytes = 0 then some .previewEmpty else none
  | .capture path => if path.isEmpty then some .capturePathMissing else none

namespace Settings

def relaysFault? (s : Settings) : Option RuleFault :=
  if s.relays.isEmpty then some .noRelays else Relay.firstFaultIn? [] s.relays

end Settings

/-- A relay can be run, whatever other relays there are. -/
structure Relay.Sound (r : Relay) : Prop where
  localPort_ne : r.localPort ≠ 0
  targetPort_ne : r.targetPort ≠ some 0
  target_not_blank : (Text.trim r.targetHost).isEmpty = false
  not_selfLoop : r.isSelfLoop = false
  bufferSize_pos : 0 < r.bufferSize
  bufferSize_le : r.bufferSize ≤ maxBufferSize

def InspectorChoice.Sound : InspectorChoice → Prop
  | .noop => True
  | .log previewBytes => previewBytes ≠ 0
  | .capture path => path.isEmpty = false

/-- The settings can be used. -/
structure Settings.Valid (s : Settings) : Prop where
  relays_ne : s.relays ≠ []
  localPorts_distinct : (s.relays.map Relay.localPort).Nodup
  relays_sound : ∀ r ∈ s.relays, r.Sound
  inspector_sound : s.inspector.Sound

end Wiretap
