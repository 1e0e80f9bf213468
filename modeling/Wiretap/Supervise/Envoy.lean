import Wiretap.Supervise.Supervisor
/-! # Supervisors in the world

A supervisor whose connections lead outside. The host that it sees is a hall of its own: what really
comes from the client or the target is sent into the hall, and what the hall holds for them is
collected and carried out. Before some steps an errand has to be run: a name is resolved, an address
is dialled, a doorway is opened. How the errand went decides what the step comes to.
-/

namespace Wiretap

/-- What has to be done outside before a supervisor can take its next step. -/
inductive Errand where
  | resolve (host : String)
  | dial (address : SocketAddress)
  /-- Listen for a client. -/
  | openDoor (address : SocketAddress)
  deriving Repr, DecidableEq, BEq

/-- A supervisor with its hall, and the outer ends of its connections. A party is known by the
direction of what it sends. -/
structure Envoy where
  supervisor : Supervisor
  scene : Scene
  client : Option Socket := none
  server : Option Socket := none

namespace Envoy

def start (relay : Relay) (scene : Scene) : Envoy where
  supervisor := .start relay
  scene := { scene with network := { isOpen := true } }

/-- The errand that is to be run next. -/
def errand? (e : Envoy) : Option Errand :=
  match e.supervisor.stage with
  | .resting wakes =>
    if wakes.nanoseconds ≤ e.scene.now.nanoseconds then
      some (.resolve e.supervisor.relay.target.host)
    else none
  | .dialling (.trying (address :: _) _) => some (.dial address)
  | .binding _ => some (.openDoor e.supervisor.relay.listenAddress)
  | _ => none

def isAwaiting (e : Envoy) : Bool :=
  match e.supervisor.stage with
  | .awaiting .. => true
  | _ => false

/-- When the pause ends, if the supervisor pauses. -/
def wakes? (e : Envoy) : Option Span :=
  match e.supervisor.stage with
  | .resting wakes => some wakes
  | _ => none

def enter (e : Envoy) (scene : Scene) : Envoy :=
  { e with scene := { scene with network := e.scene.network } }

def socket? (e : Envoy) : Direction → Option Socket
  | .client => e.client
  | .server => e.server

/-- Whether a party may send more: what it has sent before has been received. -/
def isHungry (e : Envoy) (party : Direction) : Bool :=
  ((e.socket? party).bind fun s => e.scene.network.endpoint? s.opposite).all (·.inbox.isEmpty)

def onNetwork (e : Envoy) (f : Network → Network) : Envoy :=
  { e with scene := { e.scene with network := f e.scene.network } }

/-- Take over what a step leaves behind. -/
def take (e : Envoy) (s : Supervisor.Step) : Envoy :=
  { e with supervisor := s.supervisor, scene := s.scene }

def advance (e : Envoy) : Envoy := e.take (e.supervisor.step .client e.scene)

/-- Let everybody take steps until there is nothing to do or an errand is to be run, at most so many
times. -/
def settleFor : Nat → Envoy → Envoy
  | 0, e => e
  | n + 1, e =>
    let up := e.supervisor.stepLane .client e.scene
    let down := up.supervisor.stepLane .server up.scene
    let e := (e.take up).take down
    if e.errand?.isSome then e
    else
      let own := e.supervisor.step .client e.scene
      if up.isBlocked && down.isBlocked && own.isBlocked then e else settleFor n (e.take own)

/-- Let everybody take steps until there is nothing to do or an errand is to be run. -/
def settle (e : Envoy) : Envoy := settleFor (3 * e.scene.network.load + 64) e

/-! ## Errands that were run -/

/-- The name was resolved, or has no addresses. The attempt that begins gets a new hall. -/
def resolved (e : Envoy) (addresses : Option (List IpAddress)) : Envoy :=
  let names := addresses.toList.map fun ips => (e.supervisor.relay.target.host, ips)
  { e.onNetwork fun _ => { names, isOpen := true } with client := none, server := none
    }.advance.settle

def failNext (e : Envoy) (call : NetworkCall) (number : Nat) : Envoy :=
  e.onNetwork ({ · with failures := [(call, number)] })

/-- The address was dialled. -/
def dialled (e : Envoy) (address : SocketAddress) : Except Nat Unit → Envoy
  | .error number => (e.failNext .connect number).advance.settle
  | .ok () =>
    match e.scene.network.listen address with
    | (.error _, _) => e
    | (.ok listener, n) =>
      let e := (e.onNetwork fun _ => n).advance
      match e.scene.network.accept listener with
      | (.ready (.ok server), n) =>
        { e.onNetwork fun _ => n.unlisten listener with server := some server }.settle
      | (_, n) => (e.onNetwork fun _ => n.unlisten listener).settle

def opened (e : Envoy) : Except Nat Unit → Envoy
  | .error number => (e.failNext .bind number).advance.settle
  | .ok () => e.advance.settle

/-! ## What comes from outside -/

def admitClient (e : Envoy) (origin : SocketAddress) : Envoy :=
  match e.scene.network.dial e.supervisor.relay.listenAddress with
  | (.error _, _) => e
  | (.ok client, n) =>
    { e.onNetwork fun _ => n.modify client ({ · with address := origin })
      with client := some client }.settle

def notAdmitted (e : Envoy) (number : Nat) : Envoy :=
  (e.failNext .accept number).admitClient e.supervisor.relay.listenAddress

def act (e : Envoy) (party : Direction) (f : Network → Socket → Network) : Envoy :=
  match e.socket? party with
  | some s => (e.onNetwork (f · s)).settle
  | none => e

def send (e : Envoy) (party : Direction) (bytes : Bytes) : Envoy :=
  e.act party fun n s => (n.send s bytes).2

def finish (e : Envoy) (party : Direction) : Envoy := e.act party Network.shutdown

def breakOff (e : Envoy) (party : Direction) : Envoy := e.act party Network.reset

/-! ## What is to be carried out -/

/-- What a party is to get. -/
structure Delivery where
  bytes : Bytes
  /-- Whether nothing follows. -/
  isLast : Bool
  /-- Whether its connection has been given up. -/
  isClosed : Bool
  deriving Repr, DecidableEq, BEq

def collect (e : Envoy) (party : Direction) : Delivery × Envoy :=
  match e.socket? party with
  | none => (⟨[], true, true⟩, e)
  | some s =>
    let (bytes, n) := e.scene.network.drain s
    let isLast := (n.endpoint? s).all (·.ending.isSome)
    let isClosed := (n.endpoint? s.opposite).all (!·.isOpen)
    (⟨bytes, isLast, isClosed⟩, e.onNetwork fun _ => n)

end Envoy

end Wiretap
