import Wiretap.Capture.Record
import Wiretap.Disk
import Wiretap.Inspect.Inspector
import Wiretap.Journal
import Wiretap.Text.Hex
/-! # The station where traffic is inspected

One inspector is installed at a time. An inspection picks up the installed inspector and runs it;
another one that is installed meanwhile is for later chunks. The station also holds what inspectors
touch: the disk, the journal, and the notes of custom inspectors.
-/

namespace Wiretap

/-- An inspector that was installed, with its number among all installed ones. -/
structure Installed where
  inspector : Inspector
  serial : Nat

/-- What a custom inspector noted of a chunk. -/
structure Note where
  label : String
  localPort : UInt16
  direction : Direction
  chunk : Bytes
  /-- How many octets the destination had accepted at that moment. -/
  delivered : Nat
  deriving Repr, DecidableEq, BEq

/-- The station. -/
structure Station where
  current : Installed
  /-- The number of calls of each inspector, by its serial number. -/
  calls : List Nat
  disk : Disk
  /-- What the journal says, the newest entry first. -/
  newestEntries : List Entry
  /-- What custom inspectors noted, the newest note first. -/
  newestNotes : List Note
  /-- The time, for records. -/
  now : String

namespace Inspector

/-- Build the inspector of a choice, which opens the file of a capture. -/
def build (disk : Disk) : InspectorChoice → Except Failure (Inspector × Disk)
  | .noop => .ok (.noop, disk)
  | .log n => .ok (.preview n, disk)
  | .capture path =>
    match disk.openToAppend path with
    | .ok disk => .ok (.capture path, disk)
    | .error fault => .error ⟨[.openingCapture path], .io fault⟩

def ofPlan (disk : Disk) : Plan Inspector → Except Failure (Inspector × Disk)
  | .ready inspector => .ok (inspector, disk)
  | .chosen choice => build disk choice

end Inspector

namespace Station

def start (inspector : Inspector) (disk : Disk) (now : String) : Station where
  current := ⟨inspector, 0⟩
  calls := [0]
  disk
  newestEntries := []
  newestNotes := []
  now

def journal (s : Station) : Journal := s.newestEntries.reverse

def notes (s : Station) : List Note := s.newestNotes.reverse

def silenced (s : Station) : Station := { s with newestEntries := [] }

def name (s : Station) : String := s.current.inspector.name

def summary (s : Station) : String :=
  "InspectorHandle \x7b current: " ++ Text.quoted s.name ++ " \x7d"

def log (s : Station) (entry : Entry) : Station :=
  { s with newestEntries := entry :: s.newestEntries }

/-- Put another inspector in the place of the installed one. -/
def install (s : Station) (inspector : Inspector) : Station :=
  let entry : Entry :=
    .info .station "Inspector swapped"
      [("previous", .quoted s.name), ("current", .text inspector.name)]
  { s with current := ⟨inspector, s.calls.length⟩, calls := s.calls ++ [0] }.log entry

/-- Build an inspector and install it. When it cannot be built the installed one stays. -/
def installPlan (s : Station) (plan : Plan Inspector) : Except Failure Station := do
  let (inspector, disk) ← Inspector.ofPlan s.disk plan
  return { s with disk }.install inspector

def previewEntry (limit : Nat) (e : Event) : Entry :=
  let shown := min e.chunk.length limit
  let seen := e.chunk.first shown (Nat.min_le_left ..)
  .debug .inspectors s!"[{e.direction.name}] {Text.hexPreview seen}"
    [("session_id", .text e.sessionId), ("port", .number e.localPort.toNat),
     ("direction", .text e.direction.name), ("len", .number e.chunk.length),
     ("truncated", .flag (shown < e.chunk.length))]

def captureLine (now : String) (e : Event) : Bytes :=
  (CaptureRecord.ofEvent now e).toLine ++ [10]

/-- What running an inspector came to. -/
structure Run where
  outcome : Outcome
  stopsSession : Bool
  station : Station

/-- Run an inspector that was picked up before on an event. -/
def run (s : Station) (picked : Installed) (e : Event) (delivered : Nat) : Run :=
  match picked.inspector with
  | .noop => ⟨.returned .accepted, false, s⟩
  | .preview limit => ⟨.returned .accepted, false, s.log (previewEntry limit e)⟩
  | .capture path =>
    match s.disk.append path (captureLine s.now e) with
    | .ok disk => ⟨.returned .accepted, false, { s with disk }⟩
    | .error fault => ⟨.returned (.failed (.io fault)), false, s⟩
  | .custom _ label react =>
    let number := s.calls.getD picked.serial 0 + 1
    let note : Note := ⟨label, e.localPort, e.direction, e.chunk, delivered⟩
    let s := { s with calls := s.calls.set picked.serial number, newestNotes := note :: s.newestNotes }
    let reaction := react number e
    let s := match reaction.installs with
      | none => s
      | some plan => (s.installPlan plan).toOption.getD s
    ⟨reaction.outcome, reaction.stopsSession, s⟩

def inspect (s : Station) (e : Event) (delivered : Nat) : Run := s.run s.current e delivered

end Station

/-! ## Scripts -/

/-- When a rule of a script applies. -/
structure Condition where
  /-- The number of the call, from one. -/
  nth : Option Nat := none
  chunk : Option Bytes := none
  direction : Option Direction := none
  deriving Inhabited

def Condition.holds (c : Condition) (number : Nat) (e : Event) : Bool :=
  c.nth.all (· == number) && c.chunk.all (· == e.chunk) && c.direction.all (· == e.direction)

/-- A custom inspector that reacts by the first of its rules that applies, and accepts every chunk
that none applies to. -/
def Inspector.scripted (name label : String) (rules : List (Condition × Reaction Inspector)) :
    Inspector :=
  .custom name label fun number e =>
    match rules.find? (·.1.holds number e) with
    | some rule => rule.2
    | none => {}

end Wiretap
