/-! # Internet addresses

Addresses of hosts and of sockets, and the ranges that matter to a relay: loopback and wildcard.
-/

namespace Wiretap

/-- The address of a host. An IPv6 address is its eight 16-bit groups. -/
inductive IpAddress where
  | v4 (a b c d : UInt8)
  | v6 (groups : Vector UInt16 8)
  deriving Repr, DecidableEq, BEq

namespace IpAddress

/-- `0.0.0.0`, every address of this host. -/
def anyV4 : IpAddress := .v4 0 0 0 0

/-- `127.0.0.1`. -/
def loopbackV4 : IpAddress := .v4 127 0 0 1

/-- `::`, every address of this host. -/
def anyV6 : IpAddress := .v6 #v[0, 0, 0, 0, 0, 0, 0, 0]

/-- `::1`. -/
def loopbackV6 : IpAddress := .v6 #v[0, 0, 0, 0, 0, 0, 0, 1]

/-- Whether an address is in `127.0.0.0/8` or is `::1`. -/
def isLoopback : IpAddress → Bool
  | .v4 a _ _ _ => a == 127
  | a@(.v6 _) => a == loopbackV6

/-- Whether an address stands for every address of its family on this host. -/
def isUnspecified (a : IpAddress) : Bool := a == anyV4 || a == anyV6

def isV4 : IpAddress → Bool
  | .v4 .. => true
  | .v6 _ => false

def loopbackAlike (a : IpAddress) : IpAddress := if a.isV4 then loopbackV4 else loopbackV6

end IpAddress

/-- The address of a socket. A scope is part of an IPv6 address only. -/
structure SocketAddress where
  ip : IpAddress
  portNumber : UInt16
  scope : Nat := 0
  deriving Repr, DecidableEq, BEq

end Wiretap
