import Mathlib.Logic.Function.Basic
import Wiretap.Proofs.Lane.Stopping
import Wiretap.Session.Basic
/-! # The course of a session

The two lanes of a session take their steps in any order, over any devices, and others act on those
in between. To one lane all the rest is others: its part of a course is a run of a lane
(`laneRun_run`), so what holds of all runs of lanes holds of the lanes of a session.
-/

namespace Wiretap

variable {ω : Type}

namespace Session

variable (s : Session) (direction : Direction) (devices : Devices ω) (world : ω)

theorem lane_stepOver :
    (s.stepOver direction devices world).1.lane direction =
      (s.stepOver direction devices world).2.lane := by
  cases direction <;> rfl

theorem lane_stepOver_of_ne {direction other : Direction} (h : other ≠ direction) :
    (s.stepOver direction devices world).1.lane other = s.lane other := by
  cases direction <;> cases other <;> first | rfl | exact absurd rfl h

theorem stopped_stepOver :
    (s.stepOver direction devices world).1.stopped =
      (s.stepOver direction devices world).2.stopped := by
  cases direction <;> rfl

end Session

/-- A session under way, with the state of its devices, and for each lane the calls that it has made
and its acts, the newest first. -/
structure Course (ω : Type) where
  session : Session
  world : ω
  trace : Direction → Trace
  acts : Direction → List Act

/-- What happens next to a session. -/
inductive Move (ω : Type) where
  /-- A lane takes a step. -/
  | lane (direction : Direction)
  /-- Others act on the devices. -/
  | others (change : ω → ω)

/-- Whether the lane of a direction takes the step. -/
def Move.isOf (direction : Direction) : Move ω → Bool
  | .lane other => other = direction
  | .others _ => false

namespace Course

def start (session : Session) (world : ω) : Course ω := ⟨session, world, fun _ => [], fun _ => []⟩

variable (devices : Direction → Devices ω)

/-- The step that the lane of a direction takes next. -/
def step (c : Course ω) (direction : Direction) : Session × Lane.Step (Traced ω) :=
  c.session.stepOver direction (devices direction).traced ⟨c.world, c.trace direction⟩

/-- A course after a move. -/
def move (c : Course ω) : Move ω → Course ω
  | .lane direction =>
    let (session, s) := c.step devices direction
    { session
      world := s.world.world
      trace := Function.update c.trace direction s.world.trace
      acts := Function.update c.acts direction (s.acts.reverse ++ c.acts direction) }
  | .others change => { c with world := change c.world }

def run (c : Course ω) (moves : List (Move ω)) : Course ω := moves.foldl (move devices) c

theorem run_append (c : Course ω) (moves more : List (Move ω)) :
    c.run devices (moves ++ more) = (c.run devices moves).run devices more :=
  List.foldl_append

theorem step_leaves (c : Course ω) (direction : Direction) :
    (c.session.lane direction).Leaves c.session.stopped (c.step devices direction).2 :=
  Lane.step_leaves (devices direction).traced _ _ _

theorem lane_move (c : Course ω) (direction : Direction) :
    (c.move devices (.lane direction)).session.lane direction = (c.step devices direction).2.lane :=
  c.session.lane_stepOver direction _ _

theorem lane_move_of_ne (c : Course ω) {direction other : Direction} (h : other ≠ direction) :
    (c.move devices (.lane direction)).session.lane other = c.session.lane other :=
  c.session.lane_stepOver_of_ne _ _ h

theorem stopped_move_lane (c : Course ω) (direction : Direction) :
    (c.move devices (.lane direction)).session.stopped = (c.step devices direction).2.stopped :=
  c.session.stopped_stepOver direction _ _

/-- The stop signal is for good. -/
theorem stopped_move (c : Course ω) (m : Move ω) (fired : c.session.stopped = true) :
    (c.move devices m).session.stopped = true := by
  cases m with
  | others change => exact fired
  | lane direction =>
      rw [stopped_move_lane]
      have leaves := c.step_leaves devices direction
      rw [fired] at leaves
      cases leaves with
      | stays signal => exact signal
      | tornDown _ signal => exact signal

theorem stopped_run (c : Course ω) (moves : List (Move ω)) (fired : c.session.stopped = true) :
    (c.run devices moves).session.stopped = true := by
  induction moves generalizing c with
  | nil => exact fired
  | cons m rest ih => exact ih _ (c.stopped_move devices m fired)

/-! ## The part of one lane -/

def laneRun (c : Course ω) (direction : Direction) : LaneRun (Traced ω) :=
  ⟨c.session.lane direction, c.session.stopped, ⟨c.world, c.trace direction⟩, c.acts direction⟩

/-- A move as the lane of a direction sees it. -/
def turnOf (direction : Direction) (c : Course ω) : Move ω → Turn ω
  | .lane other =>
    if other = direction then .step
    else
      let after := c.move devices (.lane other)
      .meanwhile after.session.stopped fun _ => after.world
  | .others change => .meanwhile false change

/-- Some moves as the lane of a direction sees them. -/
def turnsOf (direction : Direction) : Course ω → List (Move ω) → List (Turn ω)
  | _, [] => []
  | c, m :: rest => c.turnOf devices direction m :: turnsOf direction (c.move devices m) rest

theorem laneRun_move (c : Course ω) (direction : Direction) (m : Move ω) :
    (c.move devices m).laneRun direction =
      (c.laneRun direction).turn (devices direction).muted.traced
        (c.turnOf devices direction m).traced := by
  cases m with
  | others change => simp [move, laneRun, turnOf, Turn.traced, LaneRun.turn]
  | lane other =>
      by_cases same : other = direction
      · subst same
        simp only [laneRun, lane_move, stopped_move_lane, turnOf, if_true, Turn.traced, LaneRun.turn]
        simp only [move, Function.update_self]
        rfl
      · -- To this lane the other one's step is something that others do.
        have signal : (c.session.stopped || (c.move devices (.lane other)).session.stopped) =
            (c.move devices (.lane other)).session.stopped := by
          cases fired : c.session.stopped with
          | false => rfl
          | true => rw [c.stopped_move devices (.lane other) fired]; rfl
        simp only [laneRun, lane_move_of_ne devices c (Ne.symm same), turnOf, if_neg same, Turn.traced,
          LaneRun.turn, signal]
        simp only [move, Function.update_of_ne (Ne.symm same)]

/-- The part of a lane in a course is a run of the lane among others. -/
theorem laneRun_run (c : Course ω) (direction : Direction) (moves : List (Move ω)) :
    (c.run devices moves).laneRun direction =
      (c.laneRun direction).follow (devices direction).muted.traced
        ((c.turnsOf devices direction moves).map Turn.traced) := by
  induction moves generalizing c with
  | nil => rfl
  | cons m rest ih =>
      rw [turnsOf, List.map_cons, LaneRun.follow, List.foldl_cons, ← laneRun_move]
      exact ih _

theorem countP_turnsOf (c : Course ω) (direction : Direction) (moves : List (Move ω)) :
    (c.turnsOf devices direction moves).countP Turn.isStep = moves.countP (Move.isOf direction) := by
  induction moves generalizing c with
  | nil => rfl
  | cons m rest ih =>
      have here : (c.turnOf devices direction m).isStep = m.isOf direction := by
        cases m with
        | others change => rfl
        | lane other =>
            by_cases same : other = direction <;> simp [turnOf, same, Turn.isStep, Move.isOf]
      rw [turnsOf, List.countP_cons, List.countP_cons, here, ih]

/-- A step of a lane in a scene is a move of the lane, after which the scene takes note of its acts. -/
theorem stepLane_eq (c : Course Scene) (direction : Direction) :
    let after := c.session.stepLane direction c.world
    let s := (c.step c.session.devices direction).2
    let noted := c.run c.session.devices [.lane direction,
      .others fun scene => s.acts.foldl (Scene.note (c.session.lane direction).setup) scene]
    after.session = noted.session ∧ after.scene = noted.world ∧ after.acts = s.acts ∧
      after.isBlocked = s.isBlocked := by
  have same := Lane.step_traced (c.session.devices direction).muted (c.session.lane direction)
    c.session.stopped ⟨c.world, c.trace direction⟩
  simp only [Session.stepLane, Session.stepOver, ← same]
  exact ⟨rfl, rfl, rfl, rfl⟩

end Course

end Wiretap
