import Mathlib.Data.List.Forall2
import Wiretap.Inspect.Station
import Wiretap.Proofs.Capture.Records
import Wiretap.Proofs.Console.Lines
import Wiretap.Proofs.Disk
/-! # Files of captured traffic

Inspectors that capture to one file add a line for each chunk. The lines stay apart, and each is read back
as a record of its chunk.
-/

namespace Wiretap

/-- What inspectors of one file do in order, as long as nothing fails: they open the file at the end of this
way, by whatever path, and inspect events. -/
inductive Captured (way : Route) : Disk → List Event → Disk → Prop where
  | nothing {d : Disk} : Captured way d [] d
  | opens {d e f : Disk} {events : List Event} {path : String} {inspector : Inspector} :
      d.wayTo path = .ok way → Inspector.build d (.capture path) = .ok (inspector, e) →
        Captured way e events f → Captured way d events f
  | inspects {s : Station} {f : Disk} {event : Event} {events : List Event} {path : String}
      {picked : Installed} {delivered : Nat} :
      picked.inspector = .capture path → s.disk.wayTo path = .ok way →
        (s.run picked event delivered).outcome = .returned .accepted →
        Captured way (s.run picked event delivered).station.disk events f →
        Captured way s.disk (event :: events) f

namespace Captured

variable {way : Route} {d e : Disk} {old : Bytes} {events : List Event}

/-- A record of an event, at whatever time. -/
def IsRecord (r : CaptureRecord) (event : Event) : Prop := ∃ now, r = CaptureRecord.ofEvent now event

theorem build_of_opens {path : String} (opens : d.openToAppend path = .ok e) :
    Inspector.build d (.capture path) = .ok (.capture path, e) := by
  rw [Inspector.build, opens]

theorem run_of_appends {s : Station} {picked : Installed} {path : String} {event : Event}
    (capture : picked.inspector = .capture path)
    (appends : s.disk.append path (Station.captureLine s.now event) = .ok d) (delivered : Nat) :
    s.run picked event delivered = ⟨.returned .accepted, false, { s with disk := d }⟩ := by
  simp only [Station.run, capture, appends]

theorem holds_run {s : Station} {picked : Installed} {path : String} {event : Event} {delivered : Nat}
    (capture : picked.inspector = .capture path) (leads : s.disk.wayTo path = .ok way)
    (accepted : (s.run picked event delivered).outcome = .returned .accepted) (holds : s.disk.Holds way old) :
    (s.run picked event delivered).station.disk.Holds way (old ++ Station.captureLine s.now event) := by
  cases appends : s.disk.append path (Station.captureLine s.now event) with
  | error fault => simp [Station.run, capture, appends] at accepted
  | ok disk =>
      rw [run_of_appends capture appends]
      exact Disk.holds_append leads holds appends

/-- The file gets the line of one record for each event. -/
theorem holds (captured : Captured way d events e) (holds : d.Holds way old) :
    ∃ records : List CaptureRecord, List.Forall₂ IsRecord records events ∧
      e.Holds way (old ++ (records.map (·.toLine)).flatMap (· ++ [Console.newline])) := by
  induction captured generalizing old with
  | nothing => exact ⟨[], .nil, by simpa using holds⟩
  | @opens d e f events path inspector leads built _ ih =>
      cases opened : d.openToAppend path with
      | error fault => simp [Inspector.build, opened] at built
      | ok disk =>
          cases (build_of_opens opened).symm.trans built
          exact ih (Disk.holds_openToAppend leads holds opened)
  | @inspects s f event events path picked delivered capture leads accepted _ ih =>
      obtain ⟨records, all, final⟩ := ih (holds_run capture leads accepted holds)
      refine ⟨.ofEvent s.now event :: records, .cons ⟨s.now, rfl⟩ all, ?_⟩
      simpa [Station.captureLine, Console.newline] using final

/-- A line holds a record of an event: it is read back with all that the event says. -/
structure Tells (line : Bytes) (event : Event) : Prop where
  fresh : Console.newline ∉ line
  read : ∃ r, CaptureRecord.ofLine line = .ok r ∧ r.sessionId = event.sessionId ∧
    r.localPort = event.localPort ∧ r.direction = event.direction ∧ r.length = event.chunk.length ∧
    r.decode = .ok event.chunk

theorem tells_toLine {r : CaptureRecord} {event : Event} (small : event.chunk.length < Word.count64)
    (record : IsRecord r event) : Tells r.toLine event := by
  obtain ⟨now, rfl⟩ := record
  exact ⟨CaptureRecord.newline_notin_toLine _, _,
    CaptureRecord.ofLine_toLine (Nat.le_pred_of_lt small), rfl, rfl, rfl, rfl,
    CaptureRecord.decode_eq_ok_iff.mpr rfl⟩

theorem tells_map_toLine {records : List CaptureRecord} (all : List.Forall₂ IsRecord records events)
    (small : ∀ event ∈ events, event.chunk.length < Word.count64) :
    List.Forall₂ Tells (records.map (·.toLine)) events := by
  induction all with
  | nil => exact .nil
  | cons record _ ih =>
      obtain ⟨first, others⟩ := List.forall_mem_cons.mp small
      exact .cons (tells_toLine first record) (ih others)

/-- Capturing adds one line for each event to what the file held, in order. There is no newline within a line,
and it is read back as a record that says what the event was and is decoded to its chunk. And wherever a
record is decoded, its data are the written form of the result. The length of a chunk fits a word. -/
theorem captured_decodes (captured : Captured way d events e) (holds : d.Holds way old)
    (closed : old = [] ∨ old.getLast? = some Console.newline)
    (small : ∀ event ∈ events, event.chunk.length < Word.count64) :
    (∃ written : List Bytes, List.Forall₂ Tells written events ∧
      e.Holds way (old ++ written.flatMap (· ++ [Console.newline])) ∧
      Console.lines (old ++ written.flatMap (· ++ [Console.newline])) =
        Console.lines old ++ written.map (· ++ [Console.newline])) ∧
      ∀ (r : CaptureRecord) (chunk : Bytes), r.decode = .ok chunk → Text.Base64.encode chunk = r.data := by
  refine ⟨?_, fun r chunk => CaptureRecord.decode_eq_ok_iff.mp⟩
  obtain ⟨records, all, final⟩ := captured.holds holds
  have ends : Console.Closed old := by
    rcases closed with rfl | last
    · exact nofun
    · exact fun b final => Option.some.inj (final.symm.trans last)
  have fresh : ∀ line ∈ records.map (·.toLine), Console.newline ∉ line := by
    rintro _ member
    obtain ⟨r, _, rfl⟩ := List.mem_map.mp member
    exact r.newline_notin_toLine
  exact ⟨_, tells_map_toLine all small, final, by
    rw [Console.lines_append ends, Console.lines_flatMap fresh]⟩

/-- A chunk that is no text, of a session whose name needs escapes. -/
def oddEvent : Event := ⟨"a\"b\n\u0001", 3001, .server, [0xff, 0x00]⟩

/-- The file is made, gets the chunk, and is opened again. -/
theorem captured_decodes_odd : ∃ (e : Disk) (line : Bytes), Captured ["r"] Disk.blank [oddEvent] e ∧
    e.Holds ["r"] (line ++ [Console.newline]) ∧ Tells line oddEvent := by
  let made := Disk.blank.put ["r"] (.file [])
  let s := Station.start (.capture "r") made "now"
  let last := made.put ["r"] (.file ([] ++ Station.captureLine s.now oddEvent))
  have name := Route.isName_r
  have opens := Disk.openToAppend_of_missing name.insistsOnFolder (name.wayTo Disk.blank) (by decide +kernel)
  have appends : s.disk.append "r" (Station.captureLine s.now oddEvent) = .ok last :=
    Disk.append_of_file (name.wayTo _) (Disk.at?_put rfl _ _) _
  have again : last.openToAppend "r" = .ok last :=
    Disk.openToAppend_of_file name.insistsOnFolder (name.wayTo _) (Disk.at?_put rfl _ _)
  have capture : s.current.inspector = .capture "r" := rfl
  have runs := run_of_appends capture appends 0
  have captured : Captured ["r"] Disk.blank [oddEvent] last := by
    refine .opens (name.wayTo _) (build_of_opens opens)
      (.inspects capture (name.wayTo _) (by rw [runs]) ?_)
    rw [runs]
    exact .opens (name.wayTo _) (build_of_opens again) .nothing
  have empty : Disk.blank.Holds ["r"] [] := rfl
  obtain ⟨⟨written, tells, file, _⟩, _⟩ := captured_decodes captured empty (.inl rfl) (by decide)
  obtain ⟨line, _, first, others, rfl⟩ := List.forall₂_cons_right_iff.mp tells
  obtain rfl := List.forall₂_nil_right_iff.mp others
  exact ⟨last, line, captured, by simpa using file, first⟩

end Captured

end Wiretap
