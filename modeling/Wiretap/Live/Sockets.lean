import Std.Async.DNS
import Std.Async.TCP
import Wiretap.Net.Notation
/-! # Real sockets

Addresses as the system takes them, and the few things that are done with sockets.
-/

namespace Wiretap.Live

open Std.Async

abbrev Outlet := TCP.Socket.Client

abbrev Door := TCP.Socket.Server

def toSystem (a : SocketAddress) : Std.Net.SocketAddress :=
  match a.ip with
  | .v4 a1 a2 a3 a4 => .v4 ⟨.ofParts a1 a2 a3 a4, a.portNumber⟩
  | .v6 groups => .v6 ⟨⟨groups⟩, a.portNumber⟩

def ofSystem : Std.Net.IPAddr → IpAddress
  | .v4 a => .v4 a.octets[0] a.octets[1] a.octets[2] a.octets[3]
  | .v6 a => .v6 a.segments

def ofSystemSocket : Std.Net.SocketAddress → SocketAddress
  | .v4 ⟨host, portNumber⟩ => { ip := ofSystem (.v4 host), portNumber }
  | .v6 ⟨host, portNumber⟩ => { ip := ofSystem (.v6 host), portNumber }

def backlog : UInt32 := 1024

/-- The addresses of a host. The system names an address once for every type of socket. -/
def resolve (host : String) : Async (List IpAddress) := do
  return ((← DNS.getAddrInfo host "").toList.map ofSystem).eraseDups

def dial (address : SocketAddress) : Async Outlet := do
  let outlet ← TCP.Socket.Client.mk
  outlet.connect (toSystem address)
  outlet.noDelay
  return outlet

def openDoor (address : SocketAddress) : IO Door := do
  let door ← TCP.Socket.Server.mk
  door.bind (toSystem address)
  door.listen backlog
  return door

/-- Let a client in: its connection, and the address that it has come from. -/
def letIn (door : Door) : Async (Outlet × SocketAddress) := do
  let outlet ← door.accept
  let origin ← outlet.getPeerName
  try outlet.noDelay catch _ => pure ()
  return (outlet, ofSystemSocket origin)

/-- Receive something. There is nothing at the end. -/
def receive (outlet : Outlet) (limit : Nat) : Async (List UInt8) := do
  return ((← outlet.recv? limit.toUInt64).map fun b => b.data.toList).getD []

def send (outlet : Outlet) (bytes : List UInt8) : Async Unit := outlet.send ⟨bytes.toArray⟩

def stopReceiving (outlet : Outlet) : IO Unit := ((outlet.recvSelector 1).unregisterFn).block

def stopLettingIn (door : Door) : IO Unit := (door.acceptSelector.unregisterFn).block

end Wiretap.Live
