import Wiretap.Journal
import Wiretap.Net.Network
import Wiretap.Net.Target
import Wiretap.Relay.Fault
/-! # Dialling a target

The addresses of a target are tried one after the other, in the order in which they were resolved,
until one connects. When none does, the last fault is the one that is reported.
-/

namespace Wiretap

/-- How an address is dialled, and how a connection is asked to send without delay. -/
structure Dialler (ω σ : Type) where
  dial : SocketAddress → ω → Except IoFault σ × ω
  setNoDelay : σ → ω → Except IoFault Unit × ω

def Network.dialler : Dialler Network Socket where
  dial address n := n.dial address
  setNoDelay socket n := n.setNoDelay socket

def Target.addresses (t : Target) (n : Network) : Except IoFault (List SocketAddress) :=
  (n.resolve t.host).map fun ips => ips.map fun ip => { ip, portNumber := t.portNumber }

/-- Where dialling is. -/
inductive Dialling (σ : Type) where
  /-- These addresses are still to be tried; the one that was tried last had this fault. -/
  | trying (addresses : List SocketAddress) (lastFault : Option IoFault)
  | connected (socket : σ) (address : SocketAddress)
  | failed (reason : String) (fault : Option IoFault)
  deriving Repr, DecidableEq, BEq

namespace Dialling

/-- Dialling that begins with what resolving the target came to. -/
def start : Except IoFault (List SocketAddress) → Dialling σ
  | .error fault => .failed s!"DNS resolution failed: {fault.message}" (some fault)
  | .ok addresses => .trying addresses none

def startEntry (t : Target) : Entry :=
  .debug .dialling "Connecting to upstream" [("upstream", .text t.toText)]

def failedEntry (address : SocketAddress) (fault : IoFault) : Entry :=
  .warn .dialling "Failed to connect to upstream address"
    [("upstream", .text address.toText), ("error", .text fault.message)]

def connectedEntry (address : SocketAddress) : Entry :=
  .info .dialling "Connected to upstream" [("upstream", .text address.toText)]

/-- The entry about a connection that cannot send without delay. -/
def delayEntry (address : SocketAddress) (fault : IoFault) : Entry :=
  .debug .dialling "Failed to set TCP_NODELAY on upstream stream"
    [("upstream", .text address.toText), ("error", .text fault.message)]

/-- What a step leaves behind. -/
structure Step (ω σ : Type) where
  dialling : Dialling σ
  world : ω
  journal : Journal

/-- Try the next address. -/
def step (d : Dialler ω σ) (world : ω) : Dialling σ → Step ω σ
  | .trying [] none => ⟨.failed "no addresses resolved" none, world, []⟩
  | .trying [] (some fault) => ⟨.failed fault.message (some fault), world, []⟩
  | .trying (address :: rest) _ =>
    match d.dial address world with
    | (.error fault, world) => ⟨.trying rest (some fault), world, [failedEntry address fault]⟩
    | (.ok socket, world) =>
      match d.setNoDelay socket world with
      | (.ok (), world) => ⟨.connected socket address, world, [connectedEntry address]⟩
      | (.error fault, world) =>
        ⟨.connected socket address, world, [delayEntry address fault, connectedEntry address]⟩
  | finished => ⟨finished, world, []⟩

def runFor (d : Dialler ω σ) : Nat → Dialling σ → ω → Step ω σ
  | 0, dialling, world => ⟨dialling, world, []⟩
  | n + 1, dialling, world =>
    let s := dialling.step d world
    let more := runFor d n s.dialling s.world
    { more with journal := s.journal ++ more.journal }

def remaining : Dialling σ → Nat
  | .trying addresses _ => addresses.length
  | _ => 0

def run (d : Dialler ω σ) (dialling : Dialling σ) (world : ω) : Step ω σ :=
  runFor d (dialling.remaining + 1) dialling world

/-- What dialling a target came to, when it is over. -/
def result? (t : Target) : Dialling σ → Option (Except RelayFault (σ × SocketAddress))
  | .trying .. => none
  | .connected socket address => some (.ok (socket, address))
  | .failed reason fault => some (.error (.connect t.toText reason fault))

end Dialling

/-- Whether the other side of an idle connection is still there. -/
inductive Presence where
  | present
  | gone (fault : Option IoFault)
  deriving Repr, DecidableEq, BEq

/-- Look whether the other side of an idle connection is still there. Once it has sent anything it
counts as there: only receiving what it sent could tell more. -/
def Network.presence (n : Network) (s : Socket) : Presence :=
  match n.peek s with
  | .ready (.ok []) => .gone none
  | .ready (.error fault) => .gone (some fault)
  | _ => .present

end Wiretap
