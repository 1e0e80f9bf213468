import Wiretap.Proofs.Lane.Delivery
/-! # When a lane has its chunks inspected

Every chunk is inspected once, in order, after the chunks before it were accepted and before any of
its own octets is. A lane that ends over a chunk has had one more chunk inspected than it has
forwarded; that happens when a write fails, or when the lane is stopped while a chunk waits to be
written.
-/

namespace Wiretap

variable {ω : Type}

/-- Every inspection in a trace was of the chunk that had just been read, when all chunks before it
had been inspected and accepted, and nothing else had. -/
def Trace.Timely (setup : LaneSetup) (t : Trace) : Prop :=
  ∀ (before : Trace) event verdict after, t = before ++ .inspect event verdict :: after →
    ∃ earlier chunk, before.chunks = earlier ++ [chunk] ∧
      event = ⟨setup.sessionId, setup.localPort, setup.direction, chunk⟩ ∧
      before.shown = earlier.map (⟨setup.sessionId, setup.localPort, setup.direction, ·⟩) ∧
      before.accepted = earlier.flatten

namespace Trace

theorem not_mem_of_inspections {t : Trace} (h : t.inspections = []) (event : Event)
    (verdict : Verdict) : .inspect event verdict ∉ t := by
  intro member
  have := List.filterMap_eq_nil_iff.mp h _ member
  simp [Contact.inspection?] at this

theorem Timely.nil (setup : LaneSetup) : Timely setup [] := by
  intro before event verdict after eq
  simp at eq

theorem Timely.append {setup : LaneSetup} {t contacts : Trace} (h : Timely setup t)
    (none : contacts.inspections = []) : Timely setup (t ++ contacts) := by
  intro before event verdict after whole
  have absent := not_mem_of_inspections none event verdict
  rcases List.append_eq_append_iff.mp whole with ⟨more, _, eq⟩ | ⟨more, eq, rest⟩
  · exact absurd (eq ▸ List.mem_append_right more List.mem_cons_self) absent
  · cases more with
    | nil =>
        rw [List.nil_append] at rest
        exact absurd (rest ▸ List.mem_cons_self) absent
    | cons c more =>
        obtain ⟨rfl, _⟩ := List.cons.inj rest
        exact h before event verdict more eq

theorem Timely.concat {setup : LaneSetup} {t : Trace} {earlier : List Bytes} {chunk : Bytes}
    (h : Timely setup t) (verdict : Verdict) (chunks : t.chunks = earlier ++ [chunk])
    (shown : t.shown = earlier.map (⟨setup.sessionId, setup.localPort, setup.direction, ·⟩))
    (accepted : t.accepted = earlier.flatten) :
    Timely setup
      (t ++ [.inspect ⟨setup.sessionId, setup.localPort, setup.direction, chunk⟩ verdict]) := by
  intro before event verdict' after whole
  rcases List.eq_nil_or_concat after with rfl | ⟨after, last, rfl⟩
  · obtain ⟨rfl, eq⟩ := List.append_inj' whole rfl
    simp only [List.cons.injEq, Contact.inspect.injEq, and_true] at eq
    exact ⟨earlier, chunk, chunks, eq.1.symm, shown, accepted⟩
  · rw [List.concat_eq_append, ← List.cons_append, ← List.append_assoc] at whole
    obtain ⟨eq, _⟩ := List.append_inj' whole rfl
    exact h before event verdict' after eq

end Trace

namespace Lane

theorem Moves.timely {lane : Lane} {t contacts : Trace} {forwarded : List Bytes} {stopped : Bool}
    {s : Step ω} (h : t.Timely lane.setup) (books : Books lane t forwarded)
    (moves : Moves lane stopped contacts s) : (t ++ contacts).Timely lane.setup := by
  cases moves with
  | inspects here stopped verdict fires w =>
      obtain ⟨chunks, shown, accepted⟩ := books.balance.of_inspecting here
      exact h.concat verdict chunks shown accepted
  | writeWaits here delivers | writeFails here delivers | forwards here delivers =>
      exact h.append delivers.inspections_eq
  | _ => exact h.append rfl

theorem Settled.inspections_length {lane : Lane} {t : Trace} {forwarded : List Bytes}
    (h : Settled lane t forwarded) : t.inspections.length = forwarded.length := by
  rw [← t.inspections.length_map (f := Prod.fst)]
  exact (congrArg List.length h.shown).trans (List.length_map _)

theorem UnderWay.inspections_length {lane : Lane} {t : Trace} {forwarded : List Bytes}
    {chunk part : Bytes} (h : UnderWay lane t forwarded chunk part) :
    t.inspections.length = forwarded.length + 1 := by
  rw [← t.inspections.length_map (f := Prod.fst)]
  exact (congrArg List.length h.shown).trans (by simp)

/-- At most one chunk more was inspected than was forwarded. -/
theorem Books.inspections_length {lane : Lane} {t : Trace} {forwarded : List Bytes}
    (h : Books lane t forwarded) :
    t.inspections.length = forwarded.length ∨ t.inspections.length = forwarded.length + 1 := by
  cases h.balance with
  | reading _ settled | ended _ settled => exact .inl settled.inspections_length
  | inspecting _ _ shown =>
      refine .inl ?_
      rw [← t.inspections.length_map (f := Prod.fst)]
      exact (congrArg List.length shown).trans (List.length_map _)
  | writing _ _ underWay | cutOff _ _ underWay => exact .inr underWay.inspections_length

/-- Whether one more chunk was inspected than the lane counts as forwarded. -/
def IsAhead (lane : Lane) (t : Trace) : Prop :=
  UInt64.ofNat t.inspections.length = lane.chunks + 1

theorem Books.isAhead_iff {lane : Lane} {t : Trace} {forwarded : List Bytes}
    (h : Books lane t forwarded) :
    lane.IsAhead t ↔ t.inspections.length = forwarded.length + 1 := by
  rw [IsAhead, h.chunks]
  constructor
  · intro ahead
    rcases h.inspections_length with level | level
    · rw [level] at ahead
      exact absurd (UInt64.add_eq_left.mp ahead.symm) (by decide)
    · exact level
  · intro level
    rw [level]
    exact UInt64.ofNat_add _ 1

theorem Moves.isAhead_of_ending {lane : Lane} {t contacts : Trace} {stopped : Bool} {s : Step ω}
    {termination : Termination} (moves : Moves lane stopped contacts s)
    (here : lane.phase.ending? = some termination) :
    s.lane.IsAhead (t ++ contacts) ↔ lane.IsAhead t := by
  obtain ⟨_, same, shutdowns⟩ := moves.of_ending here
  have level : s.lane.chunks = lane.chunks := by rw [same]
  rw [IsAhead, IsAhead, level, Trace.inspections_append, Trace.inspections_of_shutdowns shutdowns,
    List.append_nil]

/-- A lane that a step takes out of its loop because it was stopped has a chunk left over exactly
when it was about to write one. -/
theorem Moves.isAhead_of_torn {lane : Lane} {t contacts : Trace} {forwarded : List Bytes}
    {stopped : Bool} {s : Step ω} (moves : Moves lane stopped contacts s)
    (books : Books lane t forwarded) (inside : lane.phase.ending? = none)
    (torn : s.lane.phase.ending? = some .tornDown) :
    s.lane.IsAhead (t ++ contacts) ↔
      (∃ chunk rest, lane.phase = .writing chunk rest) ∧ stopped = true := by
  cases moves with
  | stopsReading here w =>
      have level : ¬lane.IsAhead t := by
        rw [books.isAhead_iff, (books.balance.of_reading here).inspections_length]
        omega
      rw [List.append_nil]
      refine iff_of_false level ?_
      rintro ⟨⟨chunk, rest, there⟩, _⟩
      simp [here] at there
  | @stopsWriting chunk rest here w =>
      obtain ⟨part, whole, underWay⟩ := books.balance.of_writing here
      have ahead : lane.IsAhead t := books.isAhead_iff.mpr underWay.inspections_length
      rw [List.append_nil]
      exact iff_of_true ahead ⟨⟨chunk, rest, here⟩, rfl⟩
  | _ => simp_all [finish, Phase.ending?, countForwarded]

end Lane

namespace LaneRun

variable (d : Devices ω) (setup : LaneSetup) (stopped : Bool) (world : ω)

/-- The lane was stopped while a chunk waited to be written: it took a step there after the stop
signal had been fired. -/
def StoppedWriting (turns : List (Turn ω)) : Prop :=
  ∃ before chunk rest, before ++ [.step] <+: turns ∧
    (traced d setup stopped world before).lane.phase = .writing chunk rest ∧
    (traced d setup stopped world before).stopped = true

variable {d setup stopped world}

theorem stoppedWriting_concat {turns : List (Turn ω)} {t : Turn ω} :
    StoppedWriting d setup stopped world (turns ++ [t]) ↔
      StoppedWriting d setup stopped world turns ∨
        t = .step ∧ (∃ chunk rest,
          (traced d setup stopped world turns).lane.phase = .writing chunk rest) ∧
        (traced d setup stopped world turns).stopped = true := by
  constructor
  · rintro ⟨before, chunk, rest, within, phase, fired⟩
    rcases List.prefix_concat_iff.mp within with eq | within
    · obtain ⟨rfl, last⟩ := List.append_inj' eq rfl
      exact .inr ⟨(List.cons.inj last).1.symm, ⟨chunk, rest, phase⟩, fired⟩
    · exact .inl ⟨before, chunk, rest, within, phase, fired⟩
  · rintro (⟨before, chunk, rest, within, phase, fired⟩ | ⟨rfl, ⟨chunk, rest, phase⟩, fired⟩)
    · exact ⟨before, chunk, rest, within.trans (List.prefix_append _ _), phase, fired⟩
    · exact ⟨turns, chunk, rest, List.prefix_rfl, phase, fired⟩

theorem StoppedWriting.ending {turns : List (Turn ω)}
    (h : StoppedWriting d setup stopped world turns) :
    (traced d setup stopped world turns).lane.phase.ending? = some .tornDown := by
  induction turns using List.reverseRecOn with
  | nil =>
      obtain ⟨before, chunk, rest, within, _⟩ := h
      simp at within
  | append_singleton turns t ih =>
      rw [traced_concat]
      rcases stoppedWriting_concat.mp h with earlier | ⟨rfl, ⟨chunk, rest, phase⟩, fired⟩
      · exact ending_turn t (ih earlier)
      · simp [turn, Turn.traced, advance, Lane.step, phase, fired, Lane.finish, Phase.ending?]

/-- A lane that was stopped has inspected a chunk that it did not forward exactly when it was
stopped while the chunk waited to be written. -/
theorem isAhead_iff_stoppedWriting {turns : List (Turn ω)}
    (torn : (traced d setup stopped world turns).lane.phase.ending? = some .tornDown) :
    (traced d setup stopped world turns).lane.IsAhead
        (traced d setup stopped world turns).world.trace ↔
      StoppedWriting d setup stopped world turns := by
  induction turns using List.reverseRecOn with
  | nil => simp [traced_nil, start, Lane.start, Phase.ending?] at torn
  | append_singleton turns t ih =>
      rw [traced_concat] at torn ⊢
      rw [stoppedWriting_concat]
      cases t with
      | meanwhile fires change => exact (ih torn).trans (by simp)
      | step =>
          obtain ⟨contacts, s, moves, eq⟩ := advance_moves d (traced d setup stopped world turns)
          obtain ⟨forwarded, books⟩ := traced_books d setup stopped world turns
          simp only [turn, Turn.traced, eq, true_and] at torn ⊢
          cases here : (traced d setup stopped world turns).lane.phase.ending? with
          | some termination =>
              -- The lane had ended before, so this step adds nothing on either side.
              obtain rfl := Option.some.inj ((moves.of_ending here).1.symm.trans torn)
              rw [moves.isAhead_of_ending here, ih here, iff_self_or]
              rintro ⟨⟨chunk, rest, there⟩, _⟩
              simp [there, Phase.ending?] at here
          | none =>
              have never : ¬StoppedWriting d setup stopped world turns := by
                intro earlier
                simp [earlier.ending] at here
              rw [moves.isAhead_of_torn books here torn, or_iff_right never]

variable (d setup stopped world)

theorem traced_timely (turns : List (Turn ω)) :
    (traced d setup stopped world turns).world.trace.Timely setup := by
  induction turns using List.reverseRecOn with
  | nil => exact .nil setup
  | append_singleton turns t ih =>
      rw [traced_concat]
      cases t with
      | meanwhile fires change => exact ih
      | step =>
          obtain ⟨forwarded, books⟩ := traced_books d setup stopped world turns
          obtain ⟨contacts, s, moves, eq⟩ := advance_moves d (traced d setup stopped world turns)
          have kept := moves.timely (by rwa [traced_setup]) books
          rw [traced_setup] at kept
          simp only [turn, Turn.traced, eq]
          exact kept

/-- How the chunks that inspectors have seen compare with those that were read, at every moment. -/
theorem shown_eq (turns : List (Turn ω)) :
    let r := traced d setup stopped world turns
    let event : Bytes → Event := (⟨setup.sessionId, setup.localPort, setup.direction, ·⟩)
    (∀ chunk, r.lane.phase = .inspecting chunk →
      r.world.trace.chunks.map event = r.world.trace.shown ++ [event chunk]) ∧
    ((∀ chunk, r.lane.phase ≠ .inspecting chunk) →
      r.world.trace.shown = r.world.trace.chunks.map event) := by
  intro r event
  obtain ⟨forwarded, books⟩ := traced_books d setup stopped world turns
  have same : r.lane.event = event := by
    funext chunk
    simp only [Lane.event, r, traced_setup, event]
  rw [← same]
  constructor
  · intro chunk here
    obtain ⟨chunks, shown, _⟩ := books.balance.of_inspecting here
    rw [chunks, shown, List.map_append]
    rfl
  · intro elsewhere
    cases books.balance with
    | inspecting here => exact absurd here (elsewhere _)
    | reading _ settled | ended _ settled => rw [settled.shown, settled.chunks]
    | writing _ _ underWay | cutOff _ _ underWay => rw [underWay.shown, underWay.chunks]

variable {d setup stopped world}

/-- When a lane has ended, the chunks that were inspected are those that it reports, and one more
exactly when a write failed or the lane was stopped while a chunk waited to be written. -/
theorem inspections_of_report (turns : List (Turn ω)) {report : LaneReport}
    (ended : (traced d setup stopped world turns).lane.report? = some report) :
    let t := (traced d setup stopped world turns).world.trace
    ∃ k, report.chunks = UInt64.ofNat k ∧ k ≤ t.chunks.length ∧
      (t.inspections.length = k ∨ t.inspections.length = k + 1) ∧
      (t.inspections.length = k + 1 ↔
        (∃ p direction fault, report.termination = .failed (.write p direction fault)) ∨
          StoppedWriting d setup stopped world turns) := by
  intro t
  obtain ⟨forwarded, books⟩ := traced_books d setup stopped world turns
  obtain ⟨phase, eq⟩ := Lane.report?_eq_some ended
  have counted : report.chunks = UInt64.ofNat forwarded.length := by rw [eq]; exact books.chunks
  have here : (traced d setup stopped world turns).lane.phase.ending? = some report.termination := by
    rw [phase]
    rfl
  refine ⟨forwarded.length, counted, ?_, books.inspections_length, ?_⟩
  · obtain ⟨rest, _, chunks, _⟩ := books.left_over here
    change t.chunks = _ at chunks
    rw [chunks, List.length_append]
    exact Nat.le_add_right _ _
  · rw [← books.isAhead_iff]
    rcases books.of_ending here with ⟨settled, clean⟩ | ⟨chunk, part, _, underWay, broken⟩
    · constructor
      · intro ahead
        rw [books.isAhead_iff, settled.inspections_length] at ahead
        omega
      · rintro (⟨p, direction, fault, failed⟩ | cut)
        · exact absurd failed (clean p direction fault)
        · exact (isAhead_iff_stoppedWriting cut.ending).mpr cut
    · have ahead := books.isAhead_iff.mpr underWay.inspections_length
      refine iff_of_true ahead ?_
      rcases broken with torn | ⟨fault, failed⟩
      · exact .inr ((isAhead_iff_stoppedWriting (here.trans (congrArg some torn))).mp ahead)
      · exact .inl ⟨_, _, fault, failed⟩

variable (d setup stopped world)

/-- Every chunk is inspected once, in the order of the reads, when what the destination has accepted
is all chunks before it and nothing of it. -/
theorem inspected_once_before_forwarding (turns : List (Turn ω)) :
    let r := traced d setup stopped world turns
    let t := r.world.trace
    let event : Bytes → Event := (⟨setup.sessionId, setup.localPort, setup.direction, ·⟩)
    (∀ chunk, r.lane.phase = .inspecting chunk → t.chunks.map event = t.shown ++ [event chunk]) ∧
    ((∀ chunk, r.lane.phase ≠ .inspecting chunk) → t.shown = t.chunks.map event) ∧
    (∀ (before : Trace) e verdict after, t = before ++ .inspect e verdict :: after →
      ∃ earlier chunk, before.chunks = earlier ++ [chunk] ∧ e = event chunk ∧
        before.shown = earlier.map event ∧ before.accepted = earlier.flatten) ∧
    (∀ report, r.lane.report? = some report →
      ∃ k, report.chunks = UInt64.ofNat k ∧ (t.chunks.length < 2 ^ 64 → report.chunks.toNat = k) ∧
        t.shown = t.chunks.map event ∧
        (t.inspections.length = k ∨ t.inspections.length = k + 1) ∧
        (t.inspections.length = k + 1 ↔
          (∃ p direction fault, report.termination = .failed (.write p direction fault)) ∨
            StoppedWriting d setup stopped world turns)) := by
  intro r t event
  obtain ⟨pending, level⟩ := shown_eq d setup stopped world turns
  refine ⟨pending, level, traced_timely d setup stopped world turns, ?_⟩
  intro report ended
  obtain ⟨k, counted, fewer, close, ahead⟩ := inspections_of_report turns ended
  have elsewhere : ∀ chunk, r.lane.phase ≠ .inspecting chunk := by
    simp [r, (Lane.report?_eq_some ended).1]
  refine ⟨k, counted, ?_, level elsewhere, close, ahead⟩
  intro small
  rw [counted]
  exact UInt64.toNat_ofNat_of_lt' (Nat.lt_of_le_of_lt fewer small)

/-- An inspector stops the session over the first chunk, which is then not written. -/
theorem inspected_once_stopping :
    let stopping : Inspector := .custom "stop" "s" fun _ _ => ⟨.panicked .other, none, true⟩
    let bench : Bench := ⟨[.data [1, 2]], [], [], none, .start stopping ⟨[]⟩ "", 0⟩
    let turns : List (Turn Bench) := List.replicate 4 .step
    let r := traced Bench.devices ⟨"s", 1, .server, 8⟩ false bench turns
    r.lane.report? = some ⟨.server, 0, 0, 1, .tornDown⟩ ∧
      r.world.trace.shown = [⟨"s", 1, .server, [1, 2]⟩] ∧
      StoppedWriting Bench.devices ⟨"s", 1, .server, 8⟩ false bench turns := by
  intro stopping bench turns r
  have ended : r.lane.report? = some ⟨.server, 0, 0, 1, .tornDown⟩ := by decide +kernel
  have chunks : r.world.trace.chunks = [[1, 2]] := by decide +kernel
  have one : r.world.trace.inspections.length = 1 := by decide +kernel
  obtain ⟨_, _, _, reports⟩ := inspected_once_before_forwarding Bench.devices
    ⟨"s", 1, .server, 8⟩ false bench turns
  obtain ⟨k, _, exact_, shown, _, ahead⟩ := reports _ ended
  change r.world.trace.chunks.length < _ → _ at exact_
  rw [chunks] at exact_
  obtain rfl := exact_ (by decide)
  refine ⟨ended, ?_, (ahead.mp one).resolve_left (by simp)⟩
  change r.world.trace.shown = r.world.trace.chunks.map _ at shown
  rw [shown, chunks]
  rfl

end LaneRun

end Wiretap
