import Mathlib.Data.List.Perm.Basic
import Wiretap.Proofs.Session.Counting
import Wiretap.Proofs.Supervise.Steps
/-! # Supervisors that share their counters

Any number of supervisors on one scene, with any number of sessions each. Their own steps, those of
the lanes and whatever others do happen in any order. A supervisor that is stopped leaves its
session to go on by itself. The calls that a lane has made are kept, also when its session is over.

`Fleet.Goes` says once what a move can do to the sessions and to the counters that lanes count in.
-/

namespace Wiretap

/-- A session with the calls that its lanes have made. -/
structure Voyage where
  session : Session
  trace : Direction → Trace

namespace Voyage

def begin (session : Session) : Voyage := ⟨session, fun _ => []⟩

def sail (v : Voyage) (direction : Direction) (scene : Scene) : Voyage where
  session := (v.session.stepLane direction scene).session
  trace := Function.update v.trace direction (v.trace direction ++ v.session.calls direction scene)

/-- What the lanes contribute to the counter with some labels. -/
def share (family : Family) (labels : List String) (v : Voyage) : UInt64 :=
  v.session.up.share family labels + v.session.down.share family labels

/-- The lanes of a session count for it, and for what they have done. -/
structure Squares (v : Voyage) : Prop where
  localPort (direction : Direction) :
    (v.session.lane direction).setup.localPort = v.session.localPort
  direction (direction : Direction) : (v.session.lane direction).setup.direction = direction
  counts (direction : Direction) : (v.session.lane direction).Counts (v.trace direction)

/-- A session whose lanes have not done anything yet. -/
structure IsNew (v : Voyage) (localPort : UInt16) : Prop where
  squares : v.Squares
  localPort : v.session.localPort = localPort
  share (family : Family) (labels : List String) : v.share family labels = 0

theorem isNew_begin (sessionId : String) (localPort : UInt16) (bufferSize : Nat)
    (client target : Session.Party) (now : Span) :
    (begin (.start sessionId localPort bufferSize client target now)).IsNew localPort where
  squares := {
    localPort := fun direction => by cases direction <;> rfl
    direction := fun direction => by cases direction <;> rfl
    counts := fun direction => by cases direction <;> exact Lane.counts_start _ }
  localPort := rfl
  share family labels := by
    rw [share, begin, Session.start, Lane.share_start, Lane.share_start]
    rfl

variable {v : Voyage} {direction : Direction} {scene : Scene}

theorem lane_sail_of_ne {other : Direction} (h : other ≠ direction) :
    (v.sail direction scene).session.lane other = v.session.lane other :=
  v.session.lane_stepOver_of_ne _ _ h

theorem localPort_sail (v : Voyage) (direction : Direction) (scene : Scene) :
    (v.sail direction scene).session.localPort = v.session.localPort := by
  cases direction <;> rfl

theorem Squares.sail (h : v.Squares) (direction : Direction) (scene : Scene) :
    (v.sail direction scene).Squares := by
  have moves := v.session.tracedStep_moves direction scene
  obtain ⟨lane, _, _⟩ := v.session.stepLane_eq_tracedStep direction scene
  have setup (other : Direction) :
      ((v.sail direction scene).session.lane other).setup = (v.session.lane other).setup := by
    by_cases same : other = direction
    · subst same
      exact (congrArg Lane.setup lane).trans moves.setup_eq
    · rw [lane_sail_of_ne same]
  refine ⟨fun other => ?_, fun other => ?_, fun other => ?_⟩
  · rw [setup, localPort_sail, h.localPort]
  · rw [setup, h.direction]
  · by_cases same : other = direction
    · subst same
      have counts := (h.counts other).moves moves
      rw [← lane] at counts
      simpa only [Voyage.sail, Function.update_self] using counts
    · rw [lane_sail_of_ne same]
      simpa only [Voyage.sail, Function.update_of_ne same] using h.counts other

/-- A counter grows by what a session's contribution to it grows by. -/
theorem value_sail (v : Voyage) (direction : Direction) (scene : Scene) (family : Family)
    (labels : List String) :
    ∃ n, (v.session.stepLane direction scene).scene.counters.value family labels =
        scene.counters.value family labels + n ∧
      (v.sail direction scene).share family labels = v.share family labels + n := by
  obtain ⟨n, value, share⟩ := v.session.value_stepLane direction scene family labels
  refine ⟨n, value, ?_⟩
  cases direction with
  | client =>
      have other : (v.sail .client scene).session.down = v.session.down := rfl
      have own : (v.sail .client scene).session.up.share family labels =
          v.session.up.share family labels + n := share
      rw [Voyage.share, own, other, Voyage.share, add_right_comm]
  | server =>
      have other : (v.sail .server scene).session.up = v.session.up := rfl
      have own : (v.sail .server scene).session.down.share family labels =
          v.session.down.share family labels + n := share
      rw [Voyage.share, own, other, Voyage.share, add_assoc]

end Voyage

/-! ## Supervisors with their sessions -/

/-- A supervisor with the calls that the lanes of its session have made. -/
structure Vessel where
  supervisor : Supervisor
  trace : Direction → Trace

namespace Vessel

def voyage? (b : Vessel) : Option Voyage :=
  match b.supervisor.stage with
  | .relaying session => some ⟨session, b.trace⟩
  | _ => none

/-- After a step of the supervisor. A session begins without any calls. -/
def after (b : Vessel) (s : Supervisor.Step) : Vessel :=
  ⟨s.supervisor, if b.voyage?.isSome then b.trace else fun _ => []⟩

/-- The session that is over with a step of the supervisor. -/
def landed? (b : Vessel) (s : Supervisor.Step) : Option Voyage :=
  if s.report.isSome then b.voyage? else none

def sail (b : Vessel) (direction : Direction) (scene : Scene) : Vessel where
  supervisor := (b.supervisor.stepLane direction scene).supervisor
  trace := match b.voyage? with
    | some v => (v.sail direction scene).trace
    | none => b.trace

/-- The session under way is one of the supervisor's port. -/
def Abides (b : Vessel) : Prop :=
  ∀ v, b.voyage? = some v → v.session.localPort = b.supervisor.relay.localPort

variable {b : Vessel} {scene : Scene}

theorem voyage?_of_relaying {session : Session} (here : b.supervisor.stage = .relaying session) :
    b.voyage? = some ⟨session, b.trace⟩ := by
  rw [voyage?, here]

theorem voyage?_after_pair (b : Vessel) (here : b.voyage? = none) (scene : Scene)
    (target : Session.Party) (doorway : Doorway) (client : Socket) :
    (b.after (b.supervisor.pair scene target doorway client)).voyage? =
      some (.begin (b.supervisor.pairing scene target doorway client).1) := by
  rw [after, here, Supervisor.pair_eq]
  rfl

/-- What a step of a supervisor does to its session. -/
inductive Berths (b : Vessel) (s : Supervisor.Step) : Prop where
  | begins {v : Voyage} (here : b.voyage? = none) (there : (b.after s).voyage? = some v)
      (landed : b.landed? s = none) (isNew : v.IsNew b.supervisor.relay.localPort)
  | stays (same : (b.after s).voyage? = b.voyage?) (landed : b.landed? s = none)
  | lands (there : (b.after s).voyage? = none) (landed : b.landed? s = b.voyage?)

theorem step_berths (b : Vessel) (first : Glance) (scene : Scene) :
    let s := b.supervisor.step first scene
    b.Berths s ∧ s.supervisor.relay = b.supervisor.relay ∧
      scene.counters.SameTraffic s.scene.counters := by
  have does := b.supervisor.step_does first scene
  intro s
  change b.supervisor.Does scene s at does
  generalize s = r at does
  -- Before and after most steps there is no session.
  have without (here : b.voyage? = none) (there : (b.after r).voyage? = none) : b.Berths r :=
    .stays (there.trans here.symm) (by rw [landed?, here, ite_self])
  cases does with
  | waits =>
      refine ⟨.stays ?_ rfl, rfl, fun _ _ _ => rfl⟩
      cases here : b.supervisor.stage with
      | relaying session =>
          have before := voyage?_of_relaying here
          rw [after, before, voyage?, here]
          rfl
      | _ => rw [voyage?, voyage?, after, here]
  | begins here =>
      refine ⟨without ?_ rfl, rfl, fun _ _ _ => rfl⟩
      rw [voyage?, here]
  | misses here | connects here | holds here | opens here =>
      refine ⟨without ?_ rfl, rfl, fun _ _ _ => rfl⟩
      rw [voyage?, here]
  | givesUp here | cannotOpen here | cannotAdmit here | targetGoes here =>
      refine ⟨without ?_ rfl, rfl, Counters.sameTraffic_recordSetupFailure _ _ _⟩
      rw [voyage?, here]
  | admits here =>
      have before : b.voyage? = none := by rw [voyage?, here]
      exact ⟨.begins before (b.voyage?_after_pair before ..) (by rw [landed?, before, ite_self])
        (Voyage.isNew_begin ..), rfl, Counters.sameTraffic_recordSession _ _⟩
  | completes here =>
      exact ⟨.lands rfl (if_pos rfl), rfl, fun _ _ _ => rfl⟩

theorem sail_cases (b : Vessel) (direction : Direction) (scene : Scene) :
    (∃ v, b.voyage? = some v ∧ (b.sail direction scene).voyage? = some (v.sail direction scene) ∧
      (b.supervisor.stepLane direction scene).scene = (v.session.stepLane direction scene).scene) ∨
    ((b.sail direction scene).voyage? = b.voyage? ∧
      (b.supervisor.stepLane direction scene).scene = scene) := by
  cases here : b.supervisor.stage with
  | relaying session =>
      have under := voyage?_of_relaying here
      refine .inl ⟨_, under, ?_, ?_⟩
      · rw [sail, under, voyage?, Supervisor.stepLane, here]
        rfl
      · rw [Supervisor.stepLane, here]
  | resting | dialling | binding | awaiting =>
      have without : b.voyage? = none := by rw [voyage?, here]
      have idle : b.supervisor.stepLane direction scene =
          { supervisor := b.supervisor, scene, isBlocked := true } := by
        rw [Supervisor.stepLane, here]
      refine .inr ⟨?_, by rw [idle]⟩
      rw [sail, idle, without]
      exact without

theorem Abides.after {s : Supervisor.Step} (h : b.Abides) (berths : b.Berths s)
    (relay : s.supervisor.relay = b.supervisor.relay) : (b.after s).Abides := by
  intro v here
  change v.session.localPort = s.supervisor.relay.localPort
  rw [relay]
  cases berths with
  | begins _ there _ isNew =>
      cases here.symm.trans there
      exact isNew.localPort
  | stays same => exact h v (same.symm.trans here)
  | lands there => cases there.symm.trans here

theorem Abides.sail (h : b.Abides) (direction : Direction) (scene : Scene) :
    (b.sail direction scene).Abides := by
  intro v here
  have relay : (b.sail direction scene).supervisor.relay = b.supervisor.relay := by
    rcases b.supervisor.stepLane_cases direction scene with ⟨_, _, eq⟩ | eq
    · exact congrArg (·.supervisor.relay) eq
    · exact congrArg (·.supervisor.relay) eq
  rw [relay]
  rcases b.sail_cases direction scene with ⟨u, there, sailed, _⟩ | ⟨same, _⟩
  · cases here.symm.trans sailed
    exact (u.localPort_sail direction scene).trans (h u there)
  · exact h v (same.symm.trans here)

end Vessel

/-! ## Everybody together -/

/-- Supervisors on one scene, the sessions that stopped ones have left, and those that are over. -/
structure Fleet where
  scene : Scene
  vessels : List Vessel
  adrift : List Voyage
  past : List Voyage

namespace Fleet

/-- Nobody is there yet, and nothing has been counted. -/
def start (scene : Scene) : Fleet := ⟨{ scene with counters := .none }, [], [], []⟩

def voyages (f : Fleet) : List Voyage :=
  f.vessels.flatMap (·.voyage?.toList) ++ f.adrift ++ f.past

/-- What happens next. -/
inductive Move where
  | joins (relay : Relay)
  | step (vessel : Nat) (first : Glance)
  /-- A lane of a supervisor's session takes a step. -/
  | lane (vessel : Nat) (direction : Direction)
  | stops (vessel : Nat)
  /-- A lane of a session that was left to itself takes a step. -/
  | drifts (voyage : Nat) (direction : Direction)
  /-- A session that was left to itself closes its connections when both lanes have ended. -/
  | lands (voyage : Nat)
  | asks (family : Family) (labels : List String)
  /-- Others change the scene elsewhere. -/
  | besides (change : Scene → Scene)

def move (f : Fleet) : Move → Fleet
  | .joins relay => { f with vessels := f.vessels ++ [⟨.start relay, fun _ => []⟩] }
  | .step i first =>
    match f.vessels[i]? with
    | some b =>
      let s := b.supervisor.step first f.scene
      { f with
        scene := s.scene
        vessels := f.vessels.set i (b.after s)
        past := f.past ++ (b.landed? s).toList }
    | none => f
  | .lane i direction =>
    match f.vessels[i]? with
    | some b =>
      { f with
        scene := (b.supervisor.stepLane direction f.scene).scene
        vessels := f.vessels.set i (b.sail direction f.scene) }
    | none => f
  | .stops i =>
    match f.vessels[i]? with
    | some b =>
      let (session?, scene) := b.supervisor.abandon f.scene
      { f with
        scene
        vessels := f.vessels.eraseIdx i
        adrift := f.adrift ++ (session?.map (⟨·, b.trace⟩)).toList }
    | none => f
  | .drifts j direction =>
    match f.adrift[j]? with
    | some v =>
      { f with
        scene := (v.session.stepLane direction f.scene).scene
        adrift := f.adrift.set j (v.sail direction f.scene) }
    | none => f
  | .lands j =>
    match f.adrift[j]? with
    | some v =>
      if v.session.isOver then
        { f with
          scene := v.session.close f.scene
          adrift := f.adrift.eraseIdx j
          past := f.past ++ [v] }
      else f
    | none => f
  | .asks family labels =>
    { f with scene := { f.scene with counters := (f.scene.counters.get family labels).2 } }
  | .besides change =>
    { f with scene := { change f.scene with counters := f.scene.counters } }

def run (f : Fleet) (moves : List Move) : Fleet := moves.foldl move f

theorem run_concat (f : Fleet) (moves : List Move) (m : Move) :
    f.run (moves ++ [m]) = (f.run moves).move m := by
  rw [run, List.foldl_append]
  rfl

/-! ## What a move does to the sessions -/

/-- What a move can do: nothing to any session, or one begins, or a lane of one takes a step. -/
inductive Goes (f g : Fleet) : Prop where
  | rests (same : g.voyages.Perm f.voyages) (kept : f.scene.counters.SameTraffic g.scene.counters)
  | begins {v : Voyage} {localPort : UInt16} (isNew : v.IsNew localPort)
      (same : g.voyages.Perm (v :: f.voyages))
      (kept : f.scene.counters.SameTraffic g.scene.counters)
  | sails {v : Voyage} {rest : List Voyage} (direction : Direction)
      (here : f.voyages.Perm (v :: rest))
      (there : g.voyages.Perm (v.sail direction f.scene :: rest))
      (scene : g.scene = (v.session.stepLane direction f.scene).scene)

def others (f : Fleet) (i : Nat) : List Voyage :=
  (f.vessels.eraseIdx i).flatMap (·.voyage?.toList) ++ f.adrift ++ f.past

variable {f : Fleet} {i : Nat} {b : Vessel}

def Abides (f : Fleet) : Prop :=
  ∀ b ∈ f.vessels, b.Abides

theorem Abides.set (h : f.Abides) {next : Vessel} (abides : next.Abides) :
    ∀ b ∈ f.vessels.set i next, b.Abides := by
  intro b member
  rcases List.mem_or_eq_of_mem_set member with other | rfl
  · exact h b other
  · exact abides

theorem Abides.move (h : f.Abides) (m : Move) : (f.move m).Abides := by
  cases m with
  | joins relay =>
      intro b member
      rcases List.mem_append.mp member with earlier | joined
      · exact h b earlier
      · obtain rfl := List.mem_singleton.mp joined
        exact fun v under => by cases under
  | step i first =>
      simp only [Fleet.move]
      split
      next b here =>
        obtain ⟨berths, relay, _⟩ := b.step_berths first f.scene
        exact h.set ((h b (List.mem_of_getElem? here)).after berths relay)
      next => exact h
  | lane i direction =>
      simp only [Fleet.move]
      split
      next b here => exact h.set ((h b (List.mem_of_getElem? here)).sail direction f.scene)
      next => exact h
  | stops i =>
      simp only [Fleet.move]
      split
      next => exact fun b member => h b (List.mem_of_mem_eraseIdx member)
      next => exact h
  | drifts j direction =>
      simp only [Fleet.move]
      split <;> exact h
  | lands j =>
      simp only [Fleet.move]
      split
      next => split <;> exact h
      next => exact h
  | asks | besides => exact h

end Fleet

end Wiretap
