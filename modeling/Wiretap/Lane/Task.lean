import Wiretap.Lane.Script
/-! # Lanes as tasks

A lane runs as a task. The panic of an inspector does not break it off, for that is caught where the
inspector is called. But what the panic carried is thrown away only after that, and a fault is put into
words and thrown away by the lane. Both may be values of any kind, and such a value may panic in turn.
Nobody catches that: the task is broken off, does nothing more, and has nothing to report.

The inspectors of a station hand out nothing of that kind.
-/

namespace Wiretap

/-- How the call of an inspector ends. -/
inductive CallEnd where
  /-- What is handed out can be shown and thrown away. -/
  | harmless (outcome : Outcome)
  /-- The inspector panics, and what that carries panics when it is thrown away. -/
  | burstingPayload (payload : Payload)
  /-- The inspector finds a fault that panics when it is put into words or thrown away. -/
  | burstingFault (fault : InspectionFault)
  deriving Repr, DecidableEq, BEq

namespace CallEnd

def outcome : CallEnd → Outcome
  | .harmless outcome => outcome
  | .burstingPayload payload => .panicked payload
  | .burstingFault fault => .returned (.failed fault)

def isHarmless : CallEnd → Bool
  | .harmless _ => true
  | .burstingPayload _ | .burstingFault _ => false

end CallEnd

/-- A lane that runs as a task. -/
structure LaneTask (ω : Type) where
  run : LaneRun ω
  isBrokenOff : Bool

namespace LaneTask

def start (setup : LaneSetup) (stopped : Bool) (world : ω) : LaneTask ω :=
  ⟨.start setup stopped world, false⟩

/-- Let the lane of a task take a step, given which inspections break it off. -/
def advance (devices : Devices ω) (breaks : Event → ω → Bool) (t : LaneTask ω) : LaneTask ω :=
  if t.isBrokenOff then t
  else
    match t.run.lane.phase with
    | .inspecting chunk =>
      let event := t.run.lane.event chunk
      if breaks event t.run.world then
        ⟨{ t.run with world := (devices.inspect event t.run.world).world }, true⟩
      else ⟨t.run.advance devices, false⟩
    | _ => ⟨t.run.advance devices, false⟩

def report? (t : LaneTask ω) : Option LaneReport := if t.isBrokenOff then none else t.run.lane.report?

end LaneTask

end Wiretap
