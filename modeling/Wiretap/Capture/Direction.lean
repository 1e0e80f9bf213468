import Wiretap.Capture.Record
import Wiretap.Json.Value
/-! # Directions on their own

A direction is written as its name, or as a table with its name as the only key and nothing as its
value.
-/

namespace Wiretap

/-- The direction that a value stands for. -/
def Direction.ofJson : Json.Value → Except ShapeFault Direction
  | .string name => CaptureRecord.directionOf name
  | .table [(name, value)] => do
    let direction ← CaptureRecord.directionOf name
    match value with
    | .null => return direction
    | v => throw (.wrongType v.found "unit")
  | .table _ => .error (.wrongValue .map "map with a single key")
  | v => .error (.wrongType v.found "string or map")

end Wiretap
