import Wiretap.Relay.Dialling
import Wiretap.Relay.Doorway
import Wiretap.Session.Basic
import Wiretap.Supervise.Status
/-! # Supervisors

A supervisor makes one attempt after another to relay a session, forever. An attempt dials the
target, then listens for one client while it watches the target, then relays, and then closes what
it opened. Whatever goes wrong is recorded, and after a pause comes the next attempt. Every change
of the status is published.
-/

namespace Wiretap

/-- Where an attempt is, with the sockets that it holds. -/
inductive Stage where
  /-- Between attempts, until the clock shows a time. -/
  | resting (wakes : Span)
  | dialling (dialling : Dialling Socket)
  /-- The target is connected; a doorway is to be opened. -/
  | binding (target : Session.Party)
  /-- A client may come, or the target may go. -/
  | awaiting (target : Session.Party) (doorway : Doorway)
  | relaying (session : Session)
  deriving Repr, DecidableEq, BEq

/-- A supervisor. -/
structure Supervisor where
  relay : Relay
  status : Status
  stage : Stage
  deriving Repr, DecidableEq, BEq

/-- What a supervisor looks at first while it waits for a client. -/
inductive Glance where
  | client | target
  deriving Repr, DecidableEq, BEq

namespace Supervisor

def start (relay : Relay) : Supervisor := ⟨relay, .initial relay.localPort, .resting .zero⟩

/-- What a supervisor does, as far as others can tell. -/
inductive Act where
  /-- A turn of its loop begins. -/
  | began
  | published (status : Status)
  /-- The attempt is recorded as failed. -/
  | failed (fault : RelayFault)
  /-- The attempt is recorded as a completed session. -/
  | completed (report : SessionReport)
  deriving Repr, DecidableEq, BEq

/-- A moment of a supervisor's work: what it did, and the scene as it was then. -/
structure Moment where
  act : Act
  scene : Scene

/-- What a step leaves behind. -/
structure Step where
  supervisor : Supervisor
  scene : Scene
  /-- What was done, in order. -/
  moments : List Moment := []
  /-- Whether there was nothing to do. -/
  isBlocked : Bool := false

def Step.mark (s : Step) (act : Act) : Step := { s with moments := s.moments ++ [⟨act, s.scene⟩] }

def Step.publish (s : Step) (change : Status → Status) : Step :=
  let status := change s.supervisor.status
  { s with supervisor := { s.supervisor with status } }.mark (.published status)

def Step.log (s : Step) (entries : Journal) : Step := { s with scene := s.scene.log entries }

def Act.report? : Act → Option SessionReport
  | .completed report => some report
  | _ => none

/-- The report of the session, when one was completed. -/
def Step.report (s : Step) : Option SessionReport := s.moments.findSome? (·.act.report?)

def Step.goTo (s : Step) (stage : Stage) : Step :=
  { s with supervisor := { s.supervisor with stage } }

def portField (s : Supervisor) : String × FieldValue :=
  ("port", .number s.relay.localPort.toNat)

def attemptField (s : Supervisor) : String × FieldValue :=
  ("attempt", .number s.status.attempt.toNat)

def undertaking (s : Supervisor) : Undertaking :=
  ⟨.supervisor, "run_attempt", [s.attemptField, s.portField]⟩

/-- Put entries that belong to the attempt into the journal of a scene. -/
def note (s : Supervisor) (entries : Journal) (scene : Scene) : Scene :=
  scene.log (entries.map (·.within s.undertaking))

def startEntry (s : Supervisor) : Entry :=
  .info .supervisor "Supervisor started" [s.portField, ("upstream", .text s.relay.target.toText)]

def attemptEntry : Entry := .info .supervisor "Setting up relay"

def restartEntry (s : Supervisor) : Entry := .info .supervisor "Restarting relay..." [s.portField]

def Step.finish (s : Step) (record : Status → Status) : Step :=
  (((s.publish record).publish ({ · with state := .idle })).log [s.supervisor.restartEntry]).goTo
    (.resting (s.scene.now + s.supervisor.relay.restartDelay))

/-- Begin an attempt. -/
def begin (s : Supervisor) (scene : Scene) : Step :=
  let first := s.status.attempt = 0
  let begun : Step :=
    { supervisor := s, scene := scene.log (if first then [s.startEntry] else []) }
  let begun := (begun.mark .began).publish fun t => { t with attempt := t.attempt + 1 }
  let begun := begun.publish ({ · with state := .connecting })
  let entries := [attemptEntry, Dialling.startEntry s.relay.target]
  { begun with scene := begun.supervisor.note entries begun.scene }.goTo
    (.dialling (.start (s.relay.target.addresses scene.network)))

def failedEntry (s : Supervisor) (fault : RelayFault) : Entry :=
  .warn .supervisor "Relay attempt failed"
    [s.portField, s.attemptField, ("kind", .quoted fault.kind), ("error", .text fault.message)]

def fail (s : Supervisor) (scene : Scene) (fault : RelayFault) : Step :=
  let counters := scene.counters.recordSetupFailure s.relay.localPort fault.kind
  let step : Step :=
    { supervisor := s, scene := { scene with counters }.log [s.failedEntry fault] }
  (step.mark (.failed fault)).finish ({ · with lastError := some fault.message })

/-- A client has come through a doorway: begin a session with it. -/
def pair (s : Supervisor) (scene : Scene) (target : Session.Party) (doorway : Doorway)
    (client : Socket) : Step :=
  let address := (scene.network.peerAddress? client).getD s.relay.listenAddress
  let (sessionId, scene) := scene.nameSession s.relay.localPort
  let session :=
    Session.start sessionId s.relay.localPort s.relay.bufferSize ⟨client, address⟩ target scene.now
  let scene := s.note [doorway.clientEntry address, session.startEntry] scene
  let counters := scene.counters.recordSession s.relay.localPort
  let step : Step := { supervisor := s, scene := { scene with counters } }
  (step.publish ({ · with state := .relaying })).goTo (.relaying session)

/-- The session is over: close its connections and count it. -/
def complete (s : Supervisor) (scene : Scene) (session : Session) (report : SessionReport) : Step :=
  let step : Step := { supervisor := s, scene := session.close scene }
  let torn := (step.publish ({ · with state := .tearingDown })).log [report.entry]
  (torn.mark (.completed report)).finish fun t =>
    { t with sessionsCompleted := t.sessionsCompleted + 1, lastError := none }

def clientStep? (s : Supervisor) (scene : Scene) (target : Session.Party) (doorway : Doorway) :
    Option Step :=
  match doorway.letIn scene.network with
  | (.pending, _) => none
  | (.ready (.ok client), network) => some (s.pair { scene with network } target doorway client)
  | (.ready (.error fault), network) =>
    some (s.fail { scene with network := network.close target.socket } fault)

def targetStep? (s : Supervisor) (scene : Scene) (target : Session.Party) (doorway : Doorway) :
    Option Step :=
  match scene.network.presence target.socket with
  | .present => none
  | .gone fault =>
    let network := (doorway.close scene.network).close target.socket
    some (s.fail { scene with network } (.targetClosed target.address fault))

/-- One step of a supervisor, apart from those of its session's lanes. -/
def step (s : Supervisor) (first : Glance) (scene : Scene) : Step :=
  let idle : Step := { supervisor := s, scene, isBlocked := true }
  match s.stage with
  | .resting wakes =>
    if wakes.nanoseconds ≤ scene.now.nanoseconds then s.begin scene else idle
  | .dialling d =>
    let r := d.step Network.dialler scene.network
    let scene := s.note r.journal { scene with network := r.world }
    match r.dialling with
    | .connected socket address =>
      { supervisor := { s with stage := .binding ⟨socket, address⟩ }, scene }
    | .failed reason fault => s.fail scene (.connect s.relay.target.toText reason fault)
    | d => { supervisor := { s with stage := .dialling d }, scene }
  | .binding target =>
    match Doorway.openAt scene.network s.relay.listenAddress with
    | (.ok doorway, network) =>
      { supervisor := { s with stage := .awaiting target doorway }
        scene := s.note [doorway.openEntry] { scene with network } }
    | (.error fault, network) =>
      s.fail { scene with network := network.close target.socket } fault
  | .awaiting target doorway =>
    let client := s.clientStep? scene target doorway
    let target := s.targetStep? scene target doorway
    match first with
    | .client => (client.or target).getD idle
    | .target => (target.or client).getD idle
  | .relaying session =>
    match session.report? scene.now with
    | some report => s.complete scene session report
    | none => idle

/-- One step of a lane of the session, while there is one. -/
def stepLane (s : Supervisor) (direction : Direction) (scene : Scene) : Step :=
  match s.stage with
  | .relaying session =>
    let r := session.stepLane direction scene
    { supervisor := { s with stage := .relaying r.session }, scene := r.scene
      isBlocked := r.isBlocked }
  | _ => { supervisor := s, scene, isBlocked := true }

/-- Stop at once: what the attempt holds is closed, except that the lanes of a session go on by
themselves. -/
def abandon (s : Supervisor) (scene : Scene) : Option Session × Scene :=
  match s.stage with
  | .resting _ | .dialling _ => (none, scene)
  | .binding target => (none, { scene with network := scene.network.close target.socket })
  | .awaiting target doorway =>
    (none, { scene with network := (doorway.close scene.network).close target.socket })
  | .relaying session => (some session, scene)

end Supervisor

end Wiretap
