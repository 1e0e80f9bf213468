import Wiretap.Counters.Basic
import Wiretap.Journal
import Wiretap.Number.Word
import Wiretap.Poll
import Wiretap.Relay.Fault
/-! # Lanes

A lane is one direction of a session. It reads a chunk, has it inspected, and writes it unchanged,
over and over, until the source ends, a read or write fails, or the session is stopped. Then it
stops the session, so that the other lane ends too, and shuts its destination down.

The devices of a lane are whatever it reads from, writes to and shows its chunks to. One step of a
lane is one attempt at a read, one inspection, one attempt to get the rest of a chunk written and
flushed, or one attempt at a shutdown. The stop signal is looked at before each read and each write.
-/

namespace Wiretap

/-- How a device responds: a value, whether the stop signal was fired meanwhile, and the devices'
state from then on. -/
structure Reply (ω α : Type) where
  value : α
  stops : Bool
  world : ω

/-- The devices of a lane. -/
structure Devices (ω : Type) where
  /-- Read at most so many octets. None means that the source has ended. -/
  read : Nat → ω → Reply ω (Poll (Except IoFault Bytes))
  /-- Write some octets; the number that was accepted is the result. An attempt that is interrupted
  is made again before anything is reported. -/
  write : Bytes → ω → Reply ω (Poll (Except IoFault Nat))
  flush : ω → Reply ω (Poll (Except IoFault Unit))
  shutdown : ω → Reply ω (Poll (Except IoFault Unit))
  inspect : Event → ω → Reply ω Verdict

/-- The same response of devices that have no hold on the stop signal. -/
def Reply.muted (r : Reply ω α) : Reply ω α := { r with stops := false }

/-- The same devices without a hold on the stop signal. -/
def Devices.muted (d : Devices ω) : Devices ω where
  read limit world := (d.read limit world).muted
  write bytes world := (d.write bytes world).muted
  flush world := (d.flush world).muted
  shutdown world := (d.shutdown world).muted
  inspect event world := (d.inspect event world).muted

/-- Why a lane ended. -/
inductive Termination where
  /-- The source ended. -/
  | peerClosed
  | failed (fault : RelayFault)
  /-- The session was stopped. -/
  | tornDown
  /-- The lane was given up from outside. -/
  | aborted (reason : String)
  deriving Repr, DecidableEq, BEq

/-- What a lane achieved. -/
structure LaneReport where
  direction : Direction
  bytes : UInt64
  chunks : UInt64
  inspectionFailures : UInt64
  termination : Termination
  deriving Repr, DecidableEq, BEq

/-- What a lane is set up with. -/
structure LaneSetup where
  sessionId : String
  localPort : UInt16
  direction : Direction
  bufferSize : Nat
  deriving Repr, DecidableEq, BEq

/-- The text with which a lane breaks down at once: a buffer takes less than half of the memory that
can be addressed. -/
def LaneSetup.breakdown? (s : LaneSetup) : Option String :=
  if s.bufferSize < Word.half64 then none else some "capacity overflow"

/-- Where a lane is. -/
inductive Phase where
  | reading
  /-- The chunk was read and is to be shown to the inspector. -/
  | inspecting (chunk : Bytes)
  /-- The rest of the chunk is to be written, and the whole to be flushed. -/
  | writing (chunk rest : Bytes)
  /-- The destination is to be shut down. -/
  | closing (termination : Termination)
  | finished (termination : Termination)
  deriving Repr, DecidableEq, BEq

/-- A lane. -/
structure Lane where
  setup : LaneSetup
  phase : Phase
  bytes : UInt64
  chunks : UInt64
  inspectionFailures : UInt64
  deriving Repr, DecidableEq, BEq

/-- What a lane did in a step, as far as others can tell. -/
inductive Act where
  /-- Read a chunk, which is not empty. -/
  | read (chunk : Bytes)
  | inspected (event : Event) (verdict : Verdict)
  /-- The destination accepted some octets. -/
  | wrote (accepted : Bytes)
  | flushed
  /-- A chunk was written and flushed in full. -/
  | forwarded (size : Nat)
  /-- The lane fired the stop signal. -/
  | stopped
  | shutDown
  | ended (termination : Termination)
  deriving Repr, DecidableEq, BEq

namespace Lane

def start (setup : LaneSetup) : Lane := ⟨setup, .reading, 0, 0, 0⟩

/-- The most that the lane reads at once. A size of zero stands for a small buffer. -/
def capacity (lane : Lane) : Nat :=
  if lane.setup.bufferSize = 0 then 64 else lane.setup.bufferSize

def event (lane : Lane) (chunk : Bytes) : Event where
  sessionId := lane.setup.sessionId
  localPort := lane.setup.localPort
  direction := lane.setup.direction
  chunk

def readFault (lane : Lane) (fault : IoFault) : RelayFault :=
  .read lane.setup.localPort lane.setup.direction fault

def writeFault (lane : Lane) (fault : IoFault) : RelayFault :=
  .write lane.setup.localPort lane.setup.direction fault

def termination? (lane : Lane) : Option Termination :=
  match lane.phase with
  | .finished t => some t
  | _ => none

def report? (lane : Lane) : Option LaneReport :=
  lane.termination?.map fun termination =>
    ⟨lane.setup.direction, lane.bytes, lane.chunks, lane.inspectionFailures, termination⟩

/-- What a step leaves behind. -/
structure Step (ω : Type) where
  lane : Lane
  /-- Whether the stop signal has been fired. -/
  stopped : Bool
  world : ω
  acts : List Act
  /-- Whether the lane has to wait for a device. -/
  isBlocked : Bool := false

/-- Decide to end: the stop signal is fired. -/
def finish (lane : Lane) (termination : Termination) (world : ω) (acts : List Act) : Step ω where
  lane := { lane with phase := .closing termination }
  stopped := true
  world
  acts := acts ++ [.stopped]

/-- How far a chunk's delivery got. -/
inductive Progress where
  | done
  | waiting (rest : Bytes)
  | failed (fault : IoFault)
  deriving Repr, DecidableEq, BEq

/-- A delivery, as far as it got. -/
structure Delivery (ω : Type) where
  progress : Progress
  stops : Bool
  world : ω
  acts : List Act

def flush (devices : Devices ω) (world : ω) : Delivery ω :=
  let r := devices.flush world
  match r.value with
  | .pending => ⟨.waiting [], r.stops, r.world, []⟩
  | .ready (.error fault) => ⟨.failed fault, r.stops, r.world, []⟩
  | .ready (.ok ()) => ⟨.done, r.stops, r.world, [.flushed]⟩

/-- Write the rest of a chunk as long as the destination keeps accepting, then flush. A write that
accepts nothing fails. -/
def deliver (devices : Devices ω) (rest : Bytes) (world : ω) : Delivery ω :=
  if rest = [] then flush devices world
  else
    let r := devices.write rest world
    match r.value with
    | .pending => ⟨.waiting rest, r.stops, r.world, []⟩
    | .ready (.error fault) => ⟨.failed fault, r.stops, r.world, []⟩
    | .ready (.ok n) =>
      if n = 0 then ⟨.failed .wroteNothing, r.stops, r.world, [.wrote []]⟩
      else
        let more := deliver devices (rest.drop n) r.world
        ⟨more.progress, r.stops || more.stops, more.world, .wrote (rest.take n) :: more.acts⟩
termination_by rest.length
decreasing_by
  have : rest.length ≠ 0 := by simpa using ‹rest ≠ []›
  simp only [List.length_drop]
  omega

/-- A chunk was delivered: count it. -/
def countForwarded (lane : Lane) (chunk : Bytes) : Lane :=
  { lane with
    phase := .reading
    bytes := lane.bytes + chunk.length.toUInt64
    chunks := lane.chunks + 1 }

/-- One step of a lane. -/
def step (devices : Devices ω) (lane : Lane) (stopped : Bool) (world : ω) : Step ω :=
  match lane.phase with
  | .reading =>
    if stopped then lane.finish .tornDown world []
    else
      let r := devices.read lane.capacity world
      match r.value with
      | .pending => { lane, stopped := r.stops, world := r.world, acts := [], isBlocked := true }
      | .ready (.error fault) => lane.finish (.failed (lane.readFault fault)) r.world []
      | .ready (.ok []) => lane.finish .peerClosed r.world []
      | .ready (.ok chunk) =>
        { lane := { lane with phase := .inspecting chunk }, stopped := r.stops, world := r.world
          acts := [.read chunk] }
  | .inspecting chunk =>
    let event := lane.event chunk
    let r := devices.inspect event world
    let failures := if r.value = .accepted then 0 else 1
    { lane :=
        { lane with
          phase := .writing chunk chunk
          inspectionFailures := lane.inspectionFailures + failures }
      stopped := stopped || r.stops, world := r.world
      acts := [.inspected event r.value] }
  | .writing chunk rest =>
    if stopped then lane.finish .tornDown world []
    else
      let d := deliver devices rest world
      match d.progress with
      | .waiting rest =>
        { lane := { lane with phase := .writing chunk rest }, stopped := d.stops, world := d.world
          acts := d.acts, isBlocked := true }
      | .failed fault => lane.finish (.failed (lane.writeFault fault)) d.world d.acts
      | .done =>
        { lane := lane.countForwarded chunk, stopped := d.stops, world := d.world
          acts := d.acts ++ [.forwarded chunk.length] }
  | .closing termination =>
    let r := devices.shutdown world
    match r.value with
    | .pending =>
      { lane, stopped := stopped || r.stops, world := r.world, acts := [], isBlocked := true }
    | .ready _ =>
      { lane := { lane with phase := .finished termination }
        stopped := stopped || r.stops, world := r.world
        acts := [.shutDown, .ended termination] }
  | .finished _ => { lane, stopped, world, acts := [], isBlocked := true }

end Lane

/-! ## What acts mean to others -/

def Act.count (setup : LaneSetup) (counters : Counters) : Act → Counters
  | .inspected _ (.failed _) => counters.recordInspectionFailure setup.localPort
  | .forwarded size => counters.recordChunk setup.localPort setup.direction size
  | _ => counters

/-- What the journal says of an act of a lane. -/
def Act.entry? (setup : LaneSetup) : Act → Option Entry
  | .inspected _ (.failed fault) =>
    let fields :=
      [("session_id", .text setup.sessionId), ("port", .number setup.localPort.toNat),
       ("direction", .text setup.direction.name),
       ("error", FieldValue.text (RelayFault.inspection fault).message)]
    match fault with
    | .panicked _ => some (.error .lane "Inspector panicked, chunk forwarded anyway" fields)
    | _ => some (.warn .lane "Inspector failed, chunk forwarded anyway" fields)
  | .ended (.failed fault) =>
    some (.warn .lane "Forwarding stopped"
      [("session_id", .text setup.sessionId), ("direction", .text setup.direction.name),
       ("error", .text fault.message)])
  | _ => none

end Wiretap
