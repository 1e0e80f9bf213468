import Wiretap.Bytes
/-! # Traffic

The two ways that bytes travel through a relay, and a chunk as an inspector sees it.
-/

namespace Wiretap

/-- The side that a chunk comes from. -/
inductive Direction where
  /-- From the client to the server. -/
  | client
  /-- From the server to the client. -/
  | server
  deriving Repr, DecidableEq, BEq

def Direction.name : Direction → String
  | .client => "client"
  | .server => "server"

def Direction.ofName? : String → Option Direction
  | "client" => some .client
  | "server" => some .server
  | _ => none

def Direction.names : List String := ["client", "server"]

/-- One chunk of a session. -/
structure Event where
  sessionId : String
  localPort : UInt16
  direction : Direction
  chunk : Bytes
  deriving Repr, DecidableEq, BEq

end Wiretap
