import Wiretap.Proofs.Session.Carriage
import Wiretap.Proofs.Supervise.Steps
/-! # A supervisor in the world

A host that a supervisor shares with others: targets, clients, and whoever else listens or dials
there. They do what they like with the ends of connections that they got, in any order and between
any two steps of the supervisor. They cannot touch an end that they never got.

Three things are kept that no part of the program keeps: what others got, all that was ever sent and
received, and the sessions that are over.
-/

namespace Wiretap

/-- What others may do on the host. -/
inductive Deed where
  | listen (address : SocketAddress)
  | unlisten (listener : Nat)
  | dial (address : SocketAddress)
  | accept (listener : Nat)
  | send (s : Socket) (bytes : Bytes)
  | receive (s : Socket) (limit : Nat)
  | shutdown (s : Socket)
  | close (s : Socket)
  | reset (s : Socket)
  /-- Change which names are known, which calls fail and which addresses can be used. -/
  | arrange (names : List (String × List IpAddress)) (failures : List (NetworkCall × Nat))
      (isOpen : Bool)

/-- A supervisor on a host that it shares. -/
structure World extends Supervision where
  /-- The ends of connections that others ever got. -/
  theirs : List Socket
  /-- The listeners that others ever got. -/
  theirDoors : List Nat
  ledger : Ledger
  /-- The sessions that are over, with their reports. -/
  past : List (Session × SessionReport)

namespace World

/-- A supervisor that has not begun, on a host where there are no connections yet. -/
def start (relay : Relay) (scene : Scene) : World where
  toSupervision := .start relay
    { scene with network := { scene.network with connections := [], listeners := [] } }
  theirs := []
  theirDoors := []
  ledger := .blank
  past := []

/-- What happens next. -/
inductive Happening where
  /-- The supervisor takes a step. -/
  | step (first : Glance)
  /-- A lane of its session takes a step. -/
  | lane (direction : Direction)
  /-- Others do something on the host. -/
  | deed (deed : Deed)
  /-- Others change the scene elsewhere: time passes, another inspector is installed. -/
  | besides (change : Scene → Scene)

def network (w : World) : Network := w.scene.network

def onNetwork (w : World) (network : Network) : World :=
  { w with scene := { w.scene with network } }

/-- Whether others have what they need for a deed. -/
def allows (w : World) : Deed → Bool
  | .listen _ | .dial _ | .arrange .. => true
  | .unlisten l | .accept l => w.theirDoors.any (· = l)
  | .send s _ | .receive s _ | .shutdown s | .close s | .reset s => w.theirs.any (· = s)

/-- After a deed of others. -/
def act (w : World) : Deed → World
  | .listen address =>
    let (result, network) := w.network.listen address
    { w.onNetwork network with theirDoors := w.theirDoors ++ result.toOption.toList }
  | .unlisten l => w.onNetwork (w.network.unlisten l)
  | .dial address =>
    let (result, network) := w.network.dial address
    { w.onNetwork network with theirs := w.theirs ++ result.toOption.toList }
  | .accept l =>
    match w.network.accept l with
    | (.ready (.ok s), network) => { w.onNetwork network with theirs := w.theirs ++ [s] }
    | (_, network) => w.onNetwork network
  | .send s bytes =>
    match w.network.send s bytes with
    | (.ok (), network) => { w.onNetwork network with ledger := w.ledger.send s bytes }
    | (_, network) => w.onNetwork network
  | .receive s limit =>
    match w.network.receive s limit with
    | (.ready (.ok bytes), network) =>
      { w.onNetwork network with ledger := w.ledger.receive s bytes }
    | (_, network) => w.onNetwork network
  | .shutdown s => w.onNetwork (w.network.shutdown s)
  | .close s => w.onNetwork (w.network.close s)
  | .reset s => w.onNetwork (w.network.reset s)
  | .arrange names failures isOpen => w.onNetwork { w.network with names, failures, isOpen }

/-- The session that is over with the supervisor's next step, if there is one. -/
def concluded (w : World) (first : Glance) : Option (Session × SessionReport) :=
  match w.supervisor.stage with
  | .relaying session => (w.supervisor.step first w.scene).report.map fun report => (session, report)
  | _ => none

/-- The ledger after the next step of a lane. -/
def ledgerAfter (w : World) (direction : Direction) : Ledger :=
  match w.supervisor.stage with
  | .relaying session => session.ledgerAfter direction w.scene w.ledger
  | _ => w.ledger

/-- After a happening. -/
def move (w : World) : Happening → World
  | .step first =>
    { w with
      toSupervision := w.toSupervision.move (.step first)
      past := w.past ++ (w.concluded first).toList }
  | .lane direction =>
    { w with
      toSupervision := w.toSupervision.move (.lane direction)
      ledger := w.ledgerAfter direction }
  | .deed d => if w.allows d then w.act d else w
  | .besides change => { w with scene := { change w.scene with network := w.network } }

def run (w : World) (happenings : List Happening) : World := happenings.foldl move w

/-- A step of a lane is one of the session that is under way, if there is one. -/
theorem move_lane_cases (w : World) (direction : Direction) :
    (∃ p, w.supervisor.stage = .relaying p ∧
      let r := p.stepLane direction w.scene
      w.move (.lane direction) =
        { w with
          supervisor := { w.supervisor with stage := .relaying r.session }
          scene := r.scene
          ledger := p.ledgerAfter direction w.scene w.ledger }) ∨
    w.move (.lane direction) = w := by
  simp only [move, Supervision.move, Supervisor.stepLane, ledgerAfter, Supervision.after]
  cases here : w.supervisor.stage with
  | relaying p => exact .inl ⟨p, rfl, by simp only [List.append_nil]⟩
  | _ => exact .inr (by simp only [List.append_nil])

theorem run_nil (w : World) : w.run [] = w := rfl

theorem run_concat (w : World) (happenings : List Happening) (h : Happening) :
    w.run (happenings ++ [h]) = (w.run happenings).move h := by
  rw [run, List.foldl_append]
  rfl

/-- What holds at first, and every happening keeps, holds after all happenings. -/
theorem run_invariant {P : World → Prop} {w : World} (begins : P w)
    (moves : ∀ w h, P w → P (w.move h)) (happenings : List Happening) : P (w.run happenings) := by
  induction happenings using List.reverseRecOn with
  | nil => exact begins
  | append_singleton happenings h ih =>
      rw [run_concat]
      exact moves _ h ih

end World

end Wiretap
