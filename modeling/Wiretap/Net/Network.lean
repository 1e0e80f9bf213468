import Wiretap.IoFault
import Wiretap.Net.Notation
import Wiretap.Poll
/-! # A host and its connections

A host that is connected to itself: it has the loopback addresses and the wildcards. Whoever
dials an address where somebody listens gets one end of a connection; the other end waits to be
accepted there. What is sent into an end arrives at the other one in order and stays there until it is
received; where one send stops and the next one begins cannot be told any more. There may be a bound
for what waits at an end.

The next calls of any kind can be made to fail.
-/

namespace Wiretap

/-- The two ends of a connection. -/
inductive Side where
  | dialled | accepted
  deriving Repr, DecidableEq, BEq

def Side.opposite : Side → Side
  | .dialled => .accepted
  | .accepted => .dialled

/-- One end of a connection, by the connection's number. -/
structure Socket where
  connection : Nat
  side : Side
  deriving Repr, DecidableEq, BEq

def Socket.opposite (s : Socket) : Socket := { s with side := s.side.opposite }

/-- How what arrives at an end stops. -/
inductive Ending where
  /-- The other side has nothing more to send. -/
  | finished
  /-- The other side broke the connection. -/
  | reset
  deriving Repr, DecidableEq, BEq

/-- Octets that have arrived and were not received yet. -/
structure Inbox where
  /-- The octets that arrived first. -/
  front : Bytes := []
  /-- What was sent behind them, the last of it first. -/
  back : List Bytes := []
  deriving Repr, DecidableEq, BEq

namespace Inbox

def octets (i : Inbox) : Bytes :=
  if i.back.isEmpty then i.front else i.front ++ i.back.reverse.flatten

def isEmpty (i : Inbox) : Bool := i.octets.isEmpty

def push (i : Inbox) (bytes : Bytes) : Inbox := { i with back := bytes :: i.back }

def load (i : Inbox) : Nat := i.octets.length

end Inbox

/-- The state of one end. -/
structure Endpoint where
  /-- The address that the end has on the host. -/
  address : SocketAddress
  inbox : Inbox := {}
  /-- What comes behind the inbox, when it is known. -/
  ending : Option Ending := none
  /-- Whether somebody holds the end. -/
  isOpen : Bool := true
  /-- Whether what is sent leaves without delay. -/
  noDelay : Bool := false
  deriving Repr, DecidableEq, BEq

/-- A connection. -/
structure Connection where
  dialled : Endpoint
  accepted : Endpoint
  deriving Repr, DecidableEq, BEq

namespace Connection

def endpoint (c : Connection) : Side → Endpoint
  | .dialled => c.dialled
  | .accepted => c.accepted

def modify (c : Connection) (f : Endpoint → Endpoint) : Side → Connection
  | .dialled => { c with dialled := f c.dialled }
  | .accepted => { c with accepted := f c.accepted }

end Connection

/-- Somebody who listens at an address. -/
structure Listener where
  address : SocketAddress
  /-- The connections that wait to be accepted. -/
  queue : List Nat
  isOpen : Bool
  deriving Repr, DecidableEq, BEq

/-- The calls that can be made to fail. -/
inductive NetworkCall where
  | socket | bind | listen | connect | accept | noDelay
  deriving Repr, DecidableEq, BEq

/-- The host. Connections and listeners are known by the order in which they came into being. -/
structure Network where
  connections : List Connection := []
  listeners : List Listener := []
  /-- The names that are known, with their addresses. -/
  names : List (String × List IpAddress) := []
  /-- The system error numbers with which the next calls fail. -/
  failures : List (NetworkCall × Nat) := []
  /-- Whether the addresses of other hosts can be used, too. What is dialled there has to be listened
  at here. -/
  isOpen : Bool := false
  /-- How many octets may wait at an end until no more are taken from whoever waits for room. -/
  window? : Option Nat := none
  deriving Repr, DecidableEq, BEq

namespace Network

/-! ## Names and addresses -/

/-- The addresses of a host that is given by an address or a name. -/
def resolve (n : Network) (host : String) : Except IoFault (List IpAddress) :=
  match IpAddress.ofText? host with
  | some ip => .ok [ip]
  | none =>
    if host.contains (Char.ofNat 0) then .error .nulInName
    else
      match n.names.lookup host with
      | some addresses => .ok addresses
      | none => .error .unknownHost

def reaches (n : Network) (ip : IpAddress) : Bool := n.isOpen || ip.isUnspecified || ip.isLoopback

/-- Whether one address covers another: a wildcard covers its family. -/
def covers (a b : IpAddress) : Bool := a == b || (a.isUnspecified && a.isV4 == b.isV4)

/-- Whether two addresses cannot be listened at together. -/
def clash (a b : SocketAddress) : Bool :=
  a.portNumber == b.portNumber && (covers a.ip b.ip || covers b.ip a.ip)

/-! ## Failures -/

/-- Let a call fail if it was made to. -/
def attempt (n : Network) (call : NetworkCall) : Except IoFault Unit × Network :=
  match n.failures.find? (·.1 == call) with
  | some failure =>
    (.error (.system failure.2), { n with failures := n.failures.erase failure })
  | none => (.ok (), n)

/-- Let one of several calls fail, the first one that was made to. Those behind it are not made. -/
def attemptAll (n : Network) : List NetworkCall → Except IoFault Unit × Network
  | [] => (.ok (), n)
  | call :: rest =>
    match n.attempt call with
    | (.ok (), n) => n.attemptAll rest
    | failed => failed

/-! ## Ends of connections -/

def endpoint? (n : Network) (s : Socket) : Option Endpoint :=
  n.connections[s.connection]?.map (·.endpoint s.side)

def modify (n : Network) (s : Socket) (f : Endpoint → Endpoint) : Network :=
  { n with connections := n.connections.modify s.connection (·.modify f s.side) }

def peerAddress? (n : Network) (s : Socket) : Option SocketAddress :=
  (n.endpoint? s.opposite).map (·.address)

/-- Receive what waits, at most so many octets. None means that nothing more will come. -/
def receive (n : Network) (s : Socket) (limit : Nat) :
    Poll (Except IoFault Bytes) × Network :=
  match n.endpoint? s with
  | none => (.ready (.error (.system Errno.notConnected)), n)
  | some e =>
    match e.inbox.octets, e.ending with
    | octet :: more, _ =>
      let waiting := octet :: more
      (.ready (.ok (waiting.take limit)),
        n.modify s ({ · with inbox := { front := waiting.drop limit } }))
    | [], none => (.pending, n)
    | [], some .finished => (.ready (.ok []), n)
    | [], some .reset => (.ready (.error (.system Errno.connectionReset)), n)

/-- Look whether a receive would give anything, without receiving it. -/
def peek (n : Network) (s : Socket) : Poll (Except IoFault Bytes) := (n.receive s 1).1

/-- Send all of some octets. Nothing can be sent behind an end, nor to an end that nobody holds. -/
def send (n : Network) (s : Socket) (bytes : Bytes) : Except IoFault Unit × Network :=
  match n.endpoint? s.opposite with
  | none => (.error (.system Errno.notConnected), n)
  | some peer =>
    if peer.ending.isSome || !peer.isOpen then (.error (.system Errno.brokenPipe), n)
    else if bytes.isEmpty then (.ok (), n)
    else (.ok (), n.modify s.opposite fun e => { e with inbox := e.inbox.push bytes })

/-- The first of some octets, as far as there is room for them across from a socket. -/
def fitting (n : Network) (s : Socket) (bytes : Bytes) : Bytes :=
  match n.window? with
  | none => bytes
  | some window => bytes.take (window - (n.endpoint? s.opposite).elim 0 (·.inbox.load))

/-- Send what there is room for. The number of octets is the result, and without room one has to
wait. -/
def offer (n : Network) (s : Socket) (bytes : Bytes) : Poll (Except IoFault Nat) × Network :=
  let fitting := n.fitting s bytes
  match n.send s fitting with
  | (.error fault, n) => (.ready (.error fault), n)
  | (.ok (), n) =>
    if fitting.isEmpty && !bytes.isEmpty then (.pending, n) else (.ready (.ok fitting.length), n)

def shutdown (n : Network) (s : Socket) : Network :=
  n.modify s.opposite fun e => { e with ending := e.ending.or (some .finished) }

/-- Give an end up: sending is finished. What has arrived and was not received is lost, which the
other side learns as a broken connection. -/
def close (n : Network) (s : Socket) : Network :=
  let losesNothing := (n.endpoint? s).all (·.inbox.isEmpty)
  let n :=
    if losesNothing then n.shutdown s else n.modify s.opposite ({ · with ending := some .reset })
  n.modify s fun e => { e with inbox := {}, isOpen := false }

/-- Break a connection. What has arrived at the other side can be received there all the same. -/
def reset (n : Network) (s : Socket) : Network :=
  (n.modify s.opposite ({ · with ending := some .reset })).modify s
    fun e => { e with inbox := {}, isOpen := false }

/-- Ask for sending without delay. -/
def setNoDelay (n : Network) (s : Socket) : Except IoFault Unit × Network :=
  match n.attempt .noDelay with
  | (.ok (), n) => (.ok (), n.modify s ({ · with noDelay := true }))
  | failed => failed

/-- Ask for sending without delay, whether or not that succeeds. -/
def tryNoDelay (n : Network) (s : Socket) : Network := (n.setNoDelay s).2

/-! ## Listening and dialling -/

/-- Listen at an address. The listener's number is the result. -/
def listen (n : Network) (address : SocketAddress) : Except IoFault Nat × Network :=
  match n.attemptAll [.socket, .bind] with
  | (.error fault, n) => (.error fault, n)
  | (.ok (), n) =>
    if !n.reaches address.ip then (.error (.system Errno.addressNotAvailable), n)
    else if n.listeners.any (fun l => l.isOpen && clash l.address address) then
      (.error (.system Errno.addressInUse), n)
    else
      match n.attempt .listen with
      | (.error fault, n) => (.error fault, n)
      | (.ok (), n) =>
        (.ok n.listeners.length, { n with listeners := n.listeners ++ [⟨address, [], true⟩] })

/-- Whether a listener takes what is dialled to an address. A wildcard that is dialled stands for the
loopback address. -/
def Listener.takes (l : Listener) (address : SocketAddress) : Bool :=
  let ip := if address.ip.isUnspecified then address.ip.loopbackAlike else address.ip
  l.isOpen && l.address.portNumber == address.portNumber && covers l.address.ip ip

def firstEphemeral : Nat := 32768

def dialledFrom (n : Network) (address : SocketAddress) : SocketAddress where
  ip := address.ip.loopbackAlike
  portNumber := (firstEphemeral + n.connections.length).toUInt16

/-- Add a connection that waits to be accepted by a listener. -/
def connect (n : Network) (listener : Nat) (address : SocketAddress) : Socket × Network :=
  let number := n.connections.length
  let connection : Connection := ⟨{ address := n.dialledFrom address }, { address }⟩
  (⟨number, .dialled⟩,
    { n with
      connections := n.connections ++ [connection]
      listeners := n.listeners.modify listener fun l => { l with queue := l.queue ++ [number] } })

/-- Dial an address. -/
def dial (n : Network) (address : SocketAddress) : Except IoFault Socket × Network :=
  match n.attemptAll [.socket, .connect] with
  | (.error fault, n) => (.error fault, n)
  | (.ok (), n) =>
    if !n.reaches address.ip then (.error (.system Errno.networkUnreachable), n)
    else
      match n.listeners.findIdx? (Listener.takes · address) with
      | none => (.error (.system Errno.connectionRefused), n)
      | some listener =>
        let (socket, n) := n.connect listener address
        (.ok socket, n)

/-- Accept the next connection that waits. When that fails the connection is given up. -/
def accept (n : Network) (listener : Nat) : Poll (Except IoFault Socket) × Network :=
  match n.listeners[listener]? with
  | none => (.pending, n)
  | some l =>
    match l.queue with
    | [] => (.pending, n)
    | connection :: queue =>
      let socket : Socket := ⟨connection, .accepted⟩
      let n := { n with listeners := n.listeners.modify listener ({ · with queue }) }
      match n.attempt .accept with
      | (.ok (), n) => (.ready (.ok socket), n)
      | (.error fault, n) => (.ready (.error fault), n.close socket)

/-- Stop listening. The connections that were waiting are given up. -/
def unlisten (n : Network) (listener : Nat) : Network :=
  match n.listeners[listener]? with
  | none => n
  | some l =>
    let n := l.queue.foldl (fun n connection => n.close ⟨connection, .accepted⟩) n
    { n with listeners := n.listeners.modify listener ({ · with queue := [], isOpen := false }) }

/-! ## Receiving in bulk -/

def load (n : Network) : Nat :=
  n.connections.foldl (fun sum c => sum + c.dialled.inbox.load + c.accepted.inbox.load) 0

/-- Receive until there are so many octets or no more to be had, in at most so many receives. -/
def gatherFor : Nat → Network → Socket → Nat → Bytes × Network
  | 0, n, _, _ => ([], n)
  | fuel + 1, n, s, count =>
    if count = 0 then ([], n)
    else
      match n.receive s count with
      | (.ready (.ok (octet :: octets)), n) =>
        let got := octet :: octets
        let (more, n) := gatherFor fuel n s (count - got.length)
        (got ++ more, n)
      | (_, n) => ([], n)

/-- Receive so many octets, or fewer when no more are to be had. -/
def gather (n : Network) (s : Socket) (count : Nat) : Bytes × Network := gatherFor count n s count

def drain (n : Network) (s : Socket) : Bytes × Network := n.gather s n.load

def receiveExactly (n : Network) (s : Socket) (count : Nat) : Except IoFault Bytes × Network :=
  let (bytes, n) := n.gather s count
  if bytes.length = count then (.ok bytes, n)
  else
    match n.peek s with
    | .ready (.error fault) => (.error fault, n)
    | _ => (.error .endedEarly, n)

/-- Receive all that there is, unless the connection is broken. -/
def receiveAll (n : Network) (s : Socket) : Except IoFault Bytes × Network :=
  let (bytes, n) := n.drain s
  match n.peek s with
  | .ready (.error fault) => (.error fault, n)
  | _ => (.ok bytes, n)

end Network

end Wiretap
