import Wiretap.Supervise.Run
/-! # Rehearsals

A run of a supervisor together with what is outside: the client that connects to the relay, the
target that the relay connects to, and somebody else who may listen at the relay's address. What
they do takes effect before anybody does anything else.
-/

namespace Wiretap

namespace Network

/-- Connect somebody to a new listener at an address: both ends of the connection. -/
def pair? (n : Network) (address : SocketAddress) : Option (Socket × Socket × Network) :=
  match n.listen address with
  | (.error _, _) => none
  | (.ok listener, n) =>
    match n.dial address with
    | (.error _, _) => none
    | (.ok dialled, n) =>
      match n.accept listener with
      | (.ready (.ok accepted), n) => some (dialled, accepted, n)
      | _ => none

end Network

/-- A rehearsal. A party is known by the direction of what it sends. -/
structure Rehearsal where
  run : Run
  /-- The client's end of its connection. -/
  client : Option Socket := none
  /-- The target's end of the relay's connection. -/
  server : Option Socket := none
  /-- Where the target listens. -/
  targetListener : Option Nat := none
  /-- Where somebody else listens at the relay's address. -/
  occupier : Option Nat := none

namespace Rehearsal

/-- A rehearsal that begins with a session, between a client and a target that are connected
already. -/
def ofSession? (relay : Relay) (scene : Scene) (target : SocketAddress) : Option Rehearsal := do
  let (client, client', n) ← scene.network.pair? relay.listenAddress
  let (target', server, n) ← n.pair? target
  let (sessionId, scene) := { scene with network := n }.nameSession relay.localPort
  let session := Session.start sessionId relay.localPort relay.bufferSize
    ⟨client', relay.listenAddress⟩ ⟨target', target⟩ scene.now
  let run := { Run.ofRelay relay scene with isRunning := true }
  let run := { run with supervisor := { run.supervisor with stage := .relaying session } }
  return { run, client := some client, server := some server }

def network (r : Rehearsal) : Network := r.run.scene.network

def onNetwork (r : Rehearsal) (f : Network → Network) : Rehearsal :=
  { r with run := r.run.onNetwork f }

def settle (r : Rehearsal) : Rehearsal := { r with run := r.run.settle }

def socket? (r : Rehearsal) : Direction → Option Socket
  | .client => r.client
  | .server => r.server

def setSocket (r : Rehearsal) (socket : Option Socket) : Direction → Rehearsal
  | .client => { r with client := socket }
  | .server => { r with server := socket }

def act (r : Rehearsal) (party : Direction) (f : Network → Socket → Network) : Rehearsal :=
  match r.socket? party with
  | some s => (r.onNetwork (f · s)).settle
  | none => r

/-- A party sends something, if that is possible. A party that holds no end sends nothing. -/
def send (r : Rehearsal) (party : Direction) (bytes : Bytes) : Except IoFault Unit × Rehearsal :=
  match r.socket? party with
  | some s =>
    let (result, n) := r.network.send s bytes
    (result, (r.onNetwork fun _ => n).settle)
  | none => (.ok (), r)

def shutdown (r : Rehearsal) (party : Direction) : Rehearsal := r.act party Network.shutdown

def close (r : Rehearsal) (party : Direction) : Rehearsal :=
  (r.act party Network.close).setSocket none party

def reset (r : Rehearsal) (party : Direction) : Rehearsal :=
  (r.act party Network.reset).setSocket none party

/-- A party receives something, if it holds an end. -/
def receive (r : Rehearsal) (party : Direction)
    (f : Network → Socket → Except IoFault Bytes × Network) :
    Option (Except IoFault Bytes) × Rehearsal :=
  match r.socket? party with
  | some s =>
    let (result, n) := f r.network s
    (some result, r.onNetwork fun _ => n)
  | none => (none, r)

/-- A party gets another end. The one that it held is closed. -/
def replace (r : Rehearsal) (party : Direction) (socket : Socket) (n : Network) : Rehearsal :=
  ((r.onNetwork fun _ => (r.socket? party).elim n n.close).setSocket (some socket) party).settle

/-- The client connects to the relay, if that is possible. -/
def connect (r : Rehearsal) : Except IoFault Unit × Rehearsal :=
  match r.network.dial r.run.supervisor.relay.listenAddress with
  | (.ok socket, n) => (.ok (), r.replace .client socket n)
  | (.error fault, n) => (.error fault, r.onNetwork fun _ => n)

/-- The target accepts a connection if one waits. -/
def accept (r : Rehearsal) : Bool × Rehearsal :=
  match r.targetListener.map r.network.accept with
  | some (.ready (.ok socket), n) => (true, r.replace .server socket n)
  | some (_, n) => (false, (r.onNetwork fun _ => n).settle)
  | none => (false, r)

/-- Somebody listens at an address, if that is possible. -/
def listen (r : Rehearsal) (address : SocketAddress) : Option Nat × Rehearsal :=
  let (result, n) := r.network.listen address
  (result.toOption, r.onNetwork fun _ => n)

def raiseTarget (r : Rehearsal) (address : SocketAddress) : Bool × Rehearsal :=
  let (listener, r) := r.listen address
  (listener.isSome, { r with targetListener := listener.or r.targetListener }.settle)

def lowerTarget (r : Rehearsal) : Rehearsal :=
  (r.onNetwork fun n => r.targetListener.elim n n.unlisten).settle

def occupy (r : Rehearsal) : Bool × Rehearsal :=
  let (listener, r) := r.listen r.run.supervisor.relay.listenAddress
  (listener.isSome, { r with occupier := listener.or r.occupier }.settle)

def vacate (r : Rehearsal) : Rehearsal :=
  (r.onNetwork fun n => r.occupier.elim n n.unlisten).settle

def isAwaiting (r : Rehearsal) : Bool :=
  match r.run.supervisor.stage with
  | .awaiting .. => true
  | _ => false

/-- Try something until it succeeds, at most so often, with a pause of the supervisor in between. The
result says whether it has succeeded. -/
def await (attempt : Rehearsal → Bool × Rehearsal) : Nat → Rehearsal → Bool × Rehearsal
  | 0, r => (false, r)
  | n + 1, r =>
    match attempt r with
    | (true, r) => (true, r)
    | (false, r) => await attempt n { r with run := r.run.pass }.settle

end Rehearsal

end Wiretap
