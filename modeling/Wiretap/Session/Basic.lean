import Wiretap.Session.Report
import Wiretap.Session.Scene
/-! # Sessions

A session pairs a client with a target: one lane for each direction, and a stop signal that both
lanes share. The lanes take their steps in any order. When both have ended the connections are
closed and the session reports.
-/

namespace Wiretap

/-- A session. -/
structure Session where
  sessionId : String
  localPort : UInt16
  client : Socket
  target : Socket
  clientAddress : SocketAddress
  targetAddress : SocketAddress
  /-- When the session began. -/
  began : Span
  /-- From the client to the target. -/
  up : Lane
  /-- From the target to the client. -/
  down : Lane
  stopped : Bool
  deriving Repr, DecidableEq, BEq

namespace Session

/-- A party to a session: its socket and its address. -/
structure Party where
  socket : Socket
  address : SocketAddress
  deriving Repr, DecidableEq, BEq

/-- A session that begins. -/
def start (sessionId : String) (localPort : UInt16) (bufferSize : Nat) (client target : Party)
    (now : Span) : Session where
  sessionId
  localPort
  client := client.socket
  target := target.socket
  clientAddress := client.address
  targetAddress := target.address
  began := now
  up := .start ⟨sessionId, localPort, .client, bufferSize⟩
  down := .start ⟨sessionId, localPort, .server, bufferSize⟩
  stopped := false

def startEntry (s : Session) : Entry :=
  .info .session
    s!"Started relay session {s.sessionId} from {s.clientAddress.toText} to {s.targetAddress.toText}"

def lane (s : Session) : Direction → Lane
  | .client => s.up
  | .server => s.down

def setLane (s : Session) (lane : Lane) : Direction → Session
  | .client => { s with up := lane }
  | .server => { s with down := lane }

def devices (s : Session) : Direction → Devices Scene
  | .client => Scene.devices s.client s.target
  | .server => Scene.devices s.target s.client

/-- What a step leaves behind. -/
structure Step where
  session : Session
  scene : Scene
  acts : List Act
  /-- Whether the lane could do nothing. -/
  isBlocked : Bool

/-- One step of the lane of a direction over its devices. Nobody but the lanes has a hold on the stop
signal of a session. -/
def stepOver (s : Session) (direction : Direction) (devices : Devices ω) (world : ω) :
    Session × Lane.Step ω :=
  let r := (s.lane direction).step devices.muted s.stopped world
  ({ s with stopped := r.stopped }.setLane r.lane direction, r)

def stepLane (s : Session) (direction : Direction) (scene : Scene) : Step :=
  let (session, r) := s.stepOver direction (s.devices direction) scene
  { session
    scene := r.acts.foldl (Scene.note (s.lane direction).setup) r.world
    acts := r.acts
    isBlocked := r.isBlocked }

def isOver (s : Session) : Bool := s.up.termination?.isSome && s.down.termination?.isSome

def close (s : Session) (scene : Scene) : Scene :=
  { scene with network := (scene.network.close s.client).close s.target }

def report? (s : Session) (now : Span) : Option SessionReport := do
  let up ← s.up.report?
  let down ← s.down.report?
  return ⟨s.sessionId, s.localPort, s.clientAddress, s.targetAddress, now - s.began, up, down⟩

/-- Let the lanes go on in turn for a number of rounds, or until neither can do anything. -/
def settleFor : Nat → Session → Scene → Session × Scene
  | 0, s, scene => (s, scene)
  | n + 1, s, scene =>
    let up := s.stepLane .client scene
    let down := up.session.stepLane .server up.scene
    if up.isBlocked && down.isBlocked then (s, scene)
    else settleFor n down.session down.scene

/-- A bound for the rounds until neither lane can do anything: a round in which a lane does something
moves an octet towards its end, or a lane. -/
def roundBound (scene : Scene) : Nat := 3 * scene.network.load + 16

/-- Let the lanes go on until neither can do anything. -/
def settle (s : Session) (scene : Scene) : Session × Scene := settleFor (roundBound scene) s scene

end Session

end Wiretap
