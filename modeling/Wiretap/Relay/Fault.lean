import Wiretap.Inspect.Inspector
import Wiretap.Net.Notation
/-! # Faults of a relay

What goes wrong while a session is set up or while it runs. Only the first four kinds end an attempt
before it relays.
-/

namespace Wiretap

/-- A fault of a relay. -/
inductive RelayFault where
  | bind (address : SocketAddress) (source : IoFault)
  | accept (localPort : UInt16) (source : IoFault)
  | connect (target message : String) (source : Option IoFault)
  /-- The target closed its connection while no client had come. -/
  | targetClosed (target : SocketAddress) (source : Option IoFault)
  | read (localPort : UInt16) (direction : Direction) (source : IoFault)
  | write (localPort : UInt16) (direction : Direction) (source : IoFault)
  | peerClosed (localPort : UInt16) (direction : Direction)
  | inspection (fault : InspectionFault)
  deriving Repr, DecidableEq, BEq

namespace RelayFault

/-- The name of the kind of a fault. -/
def kind : RelayFault → String
  | .bind .. => "bind"
  | .accept .. => "accept"
  | .connect .. => "connect"
  | .targetClosed .. => "upstream_closed"
  | .read .. => "read"
  | .write .. => "write"
  | .peerClosed .. => "peer_closed"
  | .inspection _ => "inspection"

def isSetupFailure : RelayFault → Bool
  | .bind .. | .accept .. | .connect .. | .targetClosed .. => true
  | _ => false

/-- The wording of a fault. -/
def message : RelayFault → String
  | .bind address source => s!"failed to bind {address.toText}: {source.message}"
  | .accept p source => s!"failed to accept on port {p.toNat}: {source.message}"
  | .connect target message _ => s!"failed to connect to upstream {target}: {message}"
  | .targetClosed target _ => s!"upstream {target.toText} closed before a client connected"
  | .read p d source => s!"{d.name} read failed on port {p.toNat}: {source.message}"
  | .write p d source => s!"{d.name} write failed on port {p.toNat}: {source.message}"
  | .peerClosed p d => s!"{d.name} peer closed the stream on port {p.toNat}"
  | .inspection fault => s!"inspection failed: {fault.wording}"

/-- The wordings of what is behind a fault. -/
def sources : RelayFault → List String
  | .bind _ source | .accept _ source | .read _ _ source | .write _ _ source => [source.message]
  | .connect _ _ source | .targetClosed _ source => (source.map IoFault.message).toList
  | .peerClosed .. => []
  | .inspection fault => [fault.wording]

end RelayFault

end Wiretap
