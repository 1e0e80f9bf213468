import Mathlib.Algebra.BigOperators.Group.List.Basic
import Mathlib.Data.UInt
import Wiretap.Proofs.Counters.Values
import Wiretap.Proofs.Session.Carriage
/-! # What the lanes of a session count

A lane counts for its report and in the counters in one step. So a counter grows by what the figures
of a lane grow by when it bears the lane's labels, and stays as it is when it does not.
-/

namespace Wiretap

/-- The families of counters that lanes count in. -/
def Family.isTraffic : Family → Bool
  | .bytes | .chunks | .inspectionFailures => true
  | .sessions | .setupFailures => false

/-- Everything that lanes count in is the same. -/
def Counters.SameTraffic (cs after : Counters) : Prop :=
  ∀ family labels, family.isTraffic = true → after.value family labels = cs.value family labels

theorem Counters.sameTraffic_add {family : Family} (other : family.isTraffic = false)
    (labels : List String) (n : UInt64) (cs : Counters) :
    cs.SameTraffic (cs.add family labels n) := by
  intro counted others traffic
  refine value_add_of_family_ne ?_ ..
  rintro rfl
  cases other.symm.trans traffic

theorem Counters.sameTraffic_recordSession (q : UInt16) (cs : Counters) :
    cs.SameTraffic (cs.recordSession q) :=
  sameTraffic_add rfl _ _ _

theorem Counters.sameTraffic_recordSetupFailure (q : UInt16) (kind : String) (cs : Counters) :
    cs.SameTraffic (cs.recordSetupFailure q kind) :=
  sameTraffic_add rfl _ _ _

/-- The labels under which a lane counts in a family. -/
def LaneSetup.labels (setup : LaneSetup) : Family → List String
  | .inspectionFailures => [Counters.portLabel setup.localPort]
  | _ => [Counters.portLabel setup.localPort, setup.direction.name]

def Act.amount (family : Family) : Act → UInt64
  | .forwarded size =>
    match family with
    | .bytes => size.toUInt64
    | .chunks => 1
    | _ => 0
  | .inspected _ (.failed _) => if family = .inspectionFailures then 1 else 0
  | _ => 0

def LaneReport.figure (family : Family) (report : LaneReport) : UInt64 :=
  match family with
  | .bytes => report.bytes
  | .chunks => report.chunks
  | .inspectionFailures => report.inspectionFailures
  | .sessions | .setupFailures => 0

namespace Lane

/-- What a lane has to report in a family. -/
def figure (family : Family) (lane : Lane) : UInt64 :=
  match family with
  | .bytes => lane.bytes
  | .chunks => lane.chunks
  | .inspectionFailures => lane.inspectionFailures
  | .sessions | .setupFailures => 0

theorem figure_of_report {lane : Lane} {report : LaneReport} (h : lane.report? = some report)
    (family : Family) : report.figure family = lane.figure family := by
  rw [(report?_eq_some h).2]
  cases family <;> rfl

/-- What a lane contributes to the counter with some labels. -/
def share (family : Family) (labels : List String) (lane : Lane) : UInt64 :=
  if String.join (lane.setup.labels family) = String.join labels then lane.figure family else 0

theorem share_start (setup : LaneSetup) (family : Family) (labels : List String) :
    (start setup).share family labels = 0 := by
  have figure : (start setup).figure family = 0 := by cases family <;> rfl
  rw [share, figure, ite_self]

theorem Delivers.amounts_eq {rest : Bytes} {contacts : Trace} {acts : List Act}
    {progress : Progress} (h : Delivers rest contacts acts progress) (family : Family) :
    (acts.map (Act.amount family)).sum = 0 := by
  induction h with
  | accepts n more ih => exact (UInt64.zero_add _).trans ih
  | _ => rfl

theorem Moves.figure_eq {ω : Type} {lane : Lane} {stopped : Bool} {contacts : Trace} {s : Step ω}
    (h : Moves lane stopped contacts s) (family : Family) :
    s.lane.figure family = lane.figure family + (s.acts.map (Act.amount family)).sum := by
  cases h with
  | inspects here stopped verdict =>
      cases verdict <;> cases family <;> simp [figure, Act.amount]
  | writeWaits here delivers =>
      rw [delivers.amounts_eq, UInt64.add_zero]
      rfl
  | writeFails here delivers =>
      simp only [finish, List.map_append, List.sum_append, delivers.amounts_eq]
      cases family <;> simp [figure, Act.amount]
  | forwards here delivers =>
      simp only [List.map_append, List.sum_append, delivers.amounts_eq]
      cases family <;> simp [figure, Act.amount, countForwarded]
  | stopsReading | readWaits | readFails | sourceEnds | reads | stopsWriting | shutdownWaits
  | shutsDown | rests => cases family <;> simp [figure, Act.amount, finish]

/-- What a lane contributes grows by the amounts of its acts, if it bears the labels. -/
theorem Moves.share_eq {ω : Type} {lane : Lane} {stopped : Bool} {contacts : Trace} {s : Step ω}
    (h : Moves lane stopped contacts s) (family : Family) (labels : List String) :
    s.lane.share family labels = lane.share family labels +
      if String.join (lane.setup.labels family) = String.join labels then
        (s.acts.map (Act.amount family)).sum
      else 0 := by
  rw [share, share, h.setup_eq, h.figure_eq]
  split
  · rfl
  · exact (UInt64.add_zero 0).symm

end Lane

/-! ## What acts add to the counters -/

namespace Act

variable (setup : LaneSetup) (family : Family) (labels : List String) (cs : Counters)

theorem value_count (act : Act) :
    (act.count setup cs).value family labels = cs.value family labels +
      if String.join (setup.labels family) = String.join labels then act.amount family else 0 := by
  unfold count
  split
  · rw [Counters.recordInspectionFailure, Counters.value_add]
    cases family <;> simp [amount, LaneSetup.labels]
  · rw [Counters.recordChunk, Counters.value_add, Counters.value_add]
    cases family <;> simp [amount, LaneSetup.labels]
  next inspected forwarded =>
    have nothing : act.amount family = 0 := by
      unfold amount
      split
      · exact absurd rfl (forwarded _)
      · exact absurd rfl (inspected _ _)
      · rfl
    rw [nothing, ite_self, UInt64.add_zero]

theorem value_foldl_count (acts : List Act) :
    (acts.foldl (fun cs act => act.count setup cs) cs).value family labels =
      cs.value family labels +
        if String.join (setup.labels family) = String.join labels then
          (acts.map (amount family)).sum
        else 0 := by
  induction acts generalizing cs with
  | nil => simp
  | cons act rest ih =>
      rw [List.foldl_cons, ih, value_count, UInt64.add_assoc]
      split <;> simp

end Act

theorem Act.spares_count (q : UInt16) (setup : LaneSetup) (act : Act) (cs : Counters) :
    cs.Spares q (act.count setup cs) := by
  unfold Act.count
  split
  · exact Counters.spares_recordInspectionFailure cs
  · exact Counters.spares_recordChunk _ _ cs
  · exact .refl cs

/-! ## Steps of a session -/

namespace Session

variable (p : Session) (direction : Direction) (scene : Scene)

theorem counters_foldl_note (setup : LaneSetup) (acts : List Act) (scene : Scene) :
    (acts.foldl (Scene.note setup) scene).counters =
      acts.foldl (fun cs act => act.count setup cs) scene.counters := by
  induction acts generalizing scene with
  | nil => rfl
  | cons act rest ih => exact ih (scene.note setup act)

/-- Nothing is counted in a step of a lane but its acts. -/
theorem counters_stepLane :
    (p.stepLane direction scene).scene.counters =
      (p.tracedStep direction scene).acts.foldl
        (fun cs act => act.count (p.lane direction).setup cs) scene.counters := by
  obtain ⟨_, _, after⟩ := p.stepLane_eq_tracedStep direction scene
  have keeps : (p.devices direction).muted.traced.Keeps (·.world.counters = scene.counters) := by
    rw [p.devices_eq]
    exact ⟨fun _ _ h => h, fun _ _ h => h, fun _ h => h, fun _ h => h, fun _ _ h => h⟩
  have kept : (p.tracedStep direction scene).world.world.counters = scene.counters :=
    Lane.step_keeps keeps (p.lane direction) p.stopped ⟨scene, []⟩ rfl
  rw [after, counters_foldl_note, kept]

/-- A counter grows by what a lane's contribution to it grows by. -/
theorem value_stepLane (family : Family) (labels : List String) :
    let r := p.stepLane direction scene
    ∃ n, r.scene.counters.value family labels = scene.counters.value family labels + n ∧
      (r.session.lane direction).share family labels =
        (p.lane direction).share family labels + n := by
  intro r
  have moves := p.tracedStep_moves direction scene
  obtain ⟨lane, _, _⟩ := p.stepLane_eq_tracedStep direction scene
  have grown := congrArg (·.value family labels) (p.counters_stepLane direction scene)
  refine ⟨_, grown.trans (Act.value_foldl_count ..), ?_⟩
  rw [lane]
  exact moves.share_eq family labels

/-- The lanes of a session count neither sessions nor failed attempts. -/
theorem spares_stepLane (q : UInt16) :
    scene.counters.Spares q (p.stepLane direction scene).scene.counters := by
  have noted (acts : List Act) (cs : Counters) :
      cs.Spares q (acts.foldl (fun cs act => act.count (p.lane direction).setup cs) cs) := by
    induction acts generalizing cs with
    | nil => exact .refl cs
    | cons act rest ih => exact (act.spares_count q _ cs).trans (ih _)
  rw [counters_stepLane]
  exact noted _ _

variable {p direction}

end Session

end Wiretap
