import Wiretap.Disk
import Wiretap.Net.Notation
import Wiretap.Net.Target
import Wiretap.Text.Blank
import Wiretap.Time.Span
/-! # Settings of a relay program

Which relays to run, how to look at their traffic, and where to publish the counters. A relay
listens at a local address and forwards to a target; when the target's number is not given, it is
the local one.
-/

namespace Wiretap

/-- One supervised relay. -/
structure Relay where
  localPort : UInt16
  bindAddress : IpAddress
  targetHost : String
  targetPort : Option UInt16
  /-- The largest chunk that is read at once. -/
  bufferSize : Nat
  /-- The pause between attempts. -/
  restartDelay : Span
  deriving Repr, DecidableEq, BEq

namespace Relay

/-- The size of a chunk unless it is set. -/
def defaultBufferSize : Nat := 4096

/-- A relay of which only the local number is known. -/
def atPort (localPort : UInt16) : Relay where
  localPort
  bindAddress := .anyV4
  targetHost := "127.0.0.1"
  targetPort := none
  bufferSize := defaultBufferSize
  restartDelay := .zero

def effectiveTargetPort (r : Relay) : UInt16 := r.targetPort.getD r.localPort

def listenAddress (r : Relay) : SocketAddress := { ip := r.bindAddress, portNumber := r.localPort }

def target (r : Relay) : Target := ⟨r.targetHost, r.effectiveTargetPort⟩

def isLocal (ip : IpAddress) : Bool := ip.isUnspecified || ip.isLoopback

/-- Whether the target is the relay's own listening address: the bind address itself, or a loopback
or wildcard address or the name `localhost` while the relay is bound to such an address. -/
def isSelfLoop (r : Relay) : Bool :=
  if r.effectiveTargetPort != r.localPort then false
  else
    let host := Text.trim r.targetHost
    if Text.sameIgnoringAsciiCase host "localhost" then isLocal r.bindAddress
    else
      match IpAddress.ofText? host with
      | some ip => ip == r.bindAddress || (isLocal ip && isLocal r.bindAddress)
      | none => false

end Relay

/-- Which inspector looks at the traffic. -/
inductive InspectorChoice where
  /-- None. -/
  | noop
  /-- Log a preview of every chunk. -/
  | log (previewBytes : Nat)
  /-- Append every chunk to a file. -/
  | capture (path : String)
  deriving Repr, DecidableEq, BEq

namespace InspectorChoice

/-- The length of a preview unless it is set. -/
def defaultPreviewBytes : Nat := 64

/-- The choice when there is none. -/
def standard : InspectorChoice := .log defaultPreviewBytes

def kind : InspectorChoice → String
  | .noop => "noop"
  | .log _ => "log"
  | .capture _ => "capture"

/-- Whether two choices are the same one. How a path is spelled does not matter. -/
def sameAs : InspectorChoice → InspectorChoice → Bool
  | .capture a, .capture b => samePath a b
  | a, b => a = b

variable {a b c : InspectorChoice}

@[simp] theorem sameAs_refl (a : InspectorChoice) : a.sameAs a = true := by
  cases a <;> simp [sameAs, samePath]

theorem sameAs_symm (same : a.sameAs b = true) : b.sameAs a = true := by
  cases a <;> cases b <;> simp_all [sameAs, samePath]

theorem sameAs_trans (first : a.sameAs b = true) (second : b.sameAs c = true) : a.sameAs c = true := by
  cases a <;> cases b <;> cases c <;> simp_all [sameAs, samePath]

end InspectorChoice

/-- Where the counters are published. -/
structure MetricsEndpoint where
  enabled : Bool
  bindAddress : SocketAddress
  deriving Repr, DecidableEq, BEq

namespace MetricsEndpoint

/-- The address of the endpoint unless it is set. -/
def standardAddress : SocketAddress := { ip := .loopbackV4, portNumber := 9090 }

def standard : MetricsEndpoint := ⟨false, standardAddress⟩

end MetricsEndpoint

/-- All settings. -/
structure Settings where
  logLevel : String
  relays : List Relay
  inspector : InspectorChoice
  metrics : MetricsEndpoint
  deriving Repr, DecidableEq, BEq

namespace Settings

/-- The log level unless it is set. -/
def standardLogLevel : String := "info"

/-- The relay that stands in when none is configured. -/
def standardRelay : Relay := .atPort 3001

/-- Whether two settings are the same ones, however the path of a capture is spelled. -/
def sameAs (s t : Settings) : Bool :=
  s.logLevel = t.logLevel && s.relays = t.relays && s.inspector.sameAs t.inspector &&
    s.metrics = t.metrics

@[simp] theorem sameAs_refl (s : Settings) : s.sameAs s = true := by simp [sameAs]

/-- The settings without any configuration. Their relay has no usable target yet. -/
def standard : Settings where
  logLevel := standardLogLevel
  relays := [standardRelay]
  inspector := .standard
  metrics := .standard

end Settings

end Wiretap
