import Wiretap.Journal
import Wiretap.Net.Network
import Wiretap.Relay.Fault
/-! # Listening for one client

A doorway is opened for a single client. It closes behind the client, and also when letting the
client in fails.
-/

namespace Wiretap

/-- A listener for a single client. -/
structure Doorway where
  listener : Nat
  address : SocketAddress
  deriving Repr, DecidableEq, BEq

namespace Doorway

def openAt (n : Network) (address : SocketAddress) : Except RelayFault Doorway × Network :=
  match n.listen address with
  | (.ok listener, n) => (.ok ⟨listener, address⟩, n)
  | (.error fault, n) => (.error (.bind address fault), n)

def openEntry (d : Doorway) : Entry :=
  .info .doorway "Listening for one client" [("addr", .text d.address.toText)]

def clientEntry (d : Doorway) (client : SocketAddress) : Entry :=
  .info .doorway "Accepted client connection"
    [("peer", .text client.toText), ("port", .number d.address.portNumber.toNat)]

def close (d : Doorway) (n : Network) : Network := n.unlisten d.listener

def letIn (d : Doorway) (n : Network) : Poll (Except RelayFault Socket) × Network :=
  match n.accept d.listener with
  | (.pending, n) => (.pending, n)
  | (.ready (.ok client), n) => (.ready (.ok client), (d.close n).tryNoDelay client)
  | (.ready (.error fault), n) =>
    (.ready (.error (.accept d.address.portNumber fault)), d.close n)

end Doorway

end Wiretap
