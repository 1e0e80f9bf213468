import Wiretap.Lane.Basic
import Wiretap.Number.Word
import Wiretap.Time.Span
/-! # Reports of sessions

What a session came to: one report for each lane, and what the journal says of the whole.
-/

namespace Wiretap

def LaneReport.aborted (direction : Direction) (reason : String) : LaneReport :=
  ⟨direction, 0, 0, 0, .aborted reason⟩

/-- The summary of a session. -/
structure SessionReport where
  sessionId : String
  localPort : UInt16
  clientAddress : SocketAddress
  targetAddress : SocketAddress
  duration : Span
  /-- From the client to the server. -/
  up : LaneReport
  /-- From the server to the client. -/
  down : LaneReport
  deriving Repr, DecidableEq, BEq

namespace SessionReport

def total (r : SessionReport) : UInt64 := r.up.bytes + r.down.bytes

/-- The text with which the program breaks down over a report whose sums do not fit a word. -/
def breakdown? (r : SessionReport) : Option String :=
  if Word.addsUp r.up.bytes r.down.bytes
      && Word.addsUp r.up.inspectionFailures r.down.inspectionFailures then none
  else some "attempt to add with overflow"

/-- What the journal says of a session that has ended. -/
def entry (r : SessionReport) : Entry :=
  .info .session "Relay session completed"
    [("session_id", .text r.sessionId), ("port", .number r.localPort.toNat),
     ("client_addr", .text r.clientAddress.toText), ("upstream_addr", .text r.targetAddress.toText),
     ("duration_ms", .number (r.duration.wholeMilliseconds % Word.count64)),
     ("bytes_up", .number r.up.bytes.toNat), ("bytes_down", .number r.down.bytes.toNat),
     ("chunks_up", .number r.up.chunks.toNat), ("chunks_down", .number r.down.chunks.toNat),
     ("inspection_failures",
       .number (r.up.inspectionFailures + r.down.inspectionFailures).toNat)]

end SessionReport

end Wiretap
