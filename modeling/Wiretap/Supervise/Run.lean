import Wiretap.Supervise.Supervisor
/-! # Runs of a supervisor

A supervisor that runs until it is told to stop, together with the sessions that it left behind when
it was stopped. Everybody takes steps in turn until there is nothing to do but wait for the clock or
for somebody outside.
-/

namespace Wiretap

/-- A run of a supervisor. -/
structure Run where
  supervisor : Supervisor
  isRunning : Bool
  /-- The sessions that were under way when the supervisor was stopped. -/
  abandoned : List Session
  scene : Scene
  /-- The reports of the sessions that were completed. -/
  reports : List SessionReport

namespace Run

def ofRelay (relay : Relay) (scene : Scene) : Run := ⟨.start relay, false, [], scene, []⟩

def start (r : Run) : Run := { r with isRunning := true }

def stop (r : Run) : Run :=
  let (session, scene) := r.supervisor.abandon r.scene
  { r with isRunning := false, abandoned := r.abandoned ++ session.toList, scene }

/-- A run after a round, and whether anybody did anything. -/
structure Round where
  run : Run
  isQuiet : Bool

/-- Let a supervisor that runs take a step. -/
def Round.supervise (r : Round) (step : Supervisor → Scene → Supervisor.Step) : Round :=
  if r.run.isRunning then
    let s := step r.run.supervisor r.run.scene
    { run :=
        { r.run with
          supervisor := s.supervisor
          scene := s.scene
          reports := r.run.reports ++ s.report.toList }
      isQuiet := r.isQuiet && s.isBlocked }
  else r

/-- Let the lanes of an abandoned session take a step each. Its connections are closed when both have
ended. -/
def Round.carryOn (r : Round) (session : Session) : Round :=
  let up := session.stepLane .client r.run.scene
  let down := up.session.stepLane .server up.scene
  if down.session.isOver then
    { run := { r.run with scene := down.session.close down.scene }, isQuiet := false }
  else
    { run := { r.run with scene := down.scene, abandoned := r.run.abandoned ++ [down.session] }
      isQuiet := r.isQuiet && up.isBlocked && down.isBlocked }

def round (r : Run) : Round :=
  let supervised := (({ run := r, isQuiet := true : Round}.supervise (·.step .client)).supervise
    (·.stepLane .client)).supervise (·.stepLane .server)
  r.abandoned.foldl Round.carryOn
    { supervised with run := { supervised.run with abandoned := [] } }

/-- Go on for a number of rounds, or until nobody does anything. -/
def settleFor : Nat → Run → Run
  | 0, r => r
  | n + 1, r =>
    let next := r.round
    if next.isQuiet then r else settleFor n next.run

/-- A number of rounds in which all that waits to be received is forwarded, and in which attempts go
on as far as they can. Attempts without a pause between them could go on forever. -/
def roundBound (r : Run) : Nat := 3 * r.scene.network.load + 64

/-- Go on until there is nothing to do but wait. -/
def settle (r : Run) : Run := settleFor r.roundBound r

/-- Let the clock run until the supervisor's pause is over, if it pauses. -/
def pass (r : Run) : Run :=
  match r.supervisor.stage with
  | .resting wakes =>
    if r.isRunning ∧ r.scene.now.nanoseconds < wakes.nanoseconds then
      { r with scene := { r.scene with now := wakes } }
    else r
  | _ => r

def installPlan (r : Run) (plan : Plan Inspector) : Except Failure Run := do
  return { r with scene := { r.scene with station := ← r.scene.station.installPlan plan } }

def onNetwork (r : Run) (f : Network → Network) : Run :=
  { r with scene := { r.scene with network := f r.scene.network } }

end Run

end Wiretap
