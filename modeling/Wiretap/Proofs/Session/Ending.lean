import Wiretap.Proofs.Lane.Delivery
import Wiretap.Proofs.Session.Course
/-! # How a session ends

The first lane that leaves its loop does so of its own accord and fires the stop signal; the other
one then cannot wait for its peer any more. So a session that is over has lanes of which each has
fired the signal and shut its destination down, and not both were torn down.
-/

namespace Wiretap

variable {ω : Type}

def SessionReport.lane (r : SessionReport) : Direction → LaneReport
  | .client => r.up
  | .server => r.down

theorem Session.report?_eq_some {s : Session} {later : Span} {report : SessionReport}
    (h : s.report? later = some report) :
    (∀ direction, (s.lane direction).report? = some (report.lane direction)) ∧
      report = ⟨s.sessionId, s.localPort, s.clientAddress, s.targetAddress, later - s.began,
        report.up, report.down⟩ := by
  simp only [report?, bind, Option.bind_eq_some_iff, pure, Option.some.injEq] at h
  obtain ⟨up, upEnded, down, downEnded, rfl⟩ := h
  refine ⟨?_, rfl⟩
  intro direction
  cases direction with
  | client => exact upEnded
  | server => exact downEnded

namespace Course

variable (devices : Direction → Devices ω)

/-! ## Who fires the stop signal -/

/-- The stop signal was fired by a lane that left its loop of its own accord, unless no lane has
left it. -/
structure Signals (c : Course ω) : Prop where
  silent : c.session.stopped = false → ∀ direction, (c.session.lane direction).phase.ending? = none
  fired : c.session.stopped = true → ∃ direction termination,
    (c.session.lane direction).phase.ending? = some termination ∧ termination.IsOwn
  endings : ∀ direction termination, (c.session.lane direction).phase.ending? = some termination →
    termination.IsOwn ∨ termination = .tornDown

theorem Signals.move {c : Course ω} (h : c.Signals) (m : Move ω) : (c.move devices m).Signals := by
  cases m with
  | others change => exact ⟨h.silent, h.fired, h.endings⟩
  | lane direction =>
      have others (other : Direction) (ne : other ≠ direction) :=
        c.lane_move_of_ne devices ne
      have signal := c.stopped_move_lane devices direction
      have own := c.lane_move devices direction
      have leaves := c.step_leaves devices direction
      generalize flag : c.session.stopped = stopped at leaves
      cases leaves with
      | stays same phase =>
          have phases (other : Direction) :
              ((c.move devices (.lane direction)).session.lane other).phase.ending? =
                (c.session.lane other).phase.ending? := by
            by_cases ne : other = direction
            · rw [ne, own, phase]
            · rw [others other ne]
          constructor
          · rw [signal, same, ← flag]
            simpa only [phases] using h.silent
          · rw [signal, same, ← flag]
            simpa only [phases] using h.fired
          · simpa only [phases] using h.endings
      | tornDown inside fires phase =>
          constructor
          · rw [signal, fires]
            simp
          · intro _
            obtain ⟨first, termination, here, isOwn⟩ := h.fired flag
            -- The lane that fired the signal has left its loop, so it is not the one that steps.
            have ne : first ≠ direction := by
              rintro rfl
              simp [inside] at here
            exact ⟨first, termination, by rw [others first ne]; exact here, isOwn⟩
          · intro other termination there
            by_cases ne : other = direction
            · rw [ne, own, phase] at there
              exact .inr (Option.some.inj there).symm
            · rw [others other ne] at there
              exact h.endings other termination there
      | ofItself inside isOwn fires phase =>
          constructor
          · rw [signal, fires]
            simp
          · intro _
            exact ⟨direction, _, by rw [own, phase]; rfl, isOwn⟩
          · intro other termination there
            by_cases ne : other = direction
            · rw [ne, own, phase] at there
              exact .inl (Option.some.inj there ▸ isOwn)
            · rw [others other ne] at there
              exact h.endings other termination there

theorem Signals.run {c : Course ω} (h : c.Signals) (moves : List (Move ω)) :
    (c.run devices moves).Signals := by
  induction moves generalizing c with
  | nil => exact h
  | cons m rest ih => exact ih (h.move devices m)

/-! ## The lane that is left -/

/-- What becomes of a lane in its loop when the stop signal has been fired. -/
structure WindsUp (c : Course ω) (direction : Direction) : Prop where
  /-- It moves no octet any more, and has at most the chunk inspected that it had read. -/
  calls (more : List (Move ω)) : ∃ calls, (c.run devices more).trace direction =
      c.trace direction ++ calls ∧ (∀ call ∈ calls, call.movesOctets = false) ∧
    (calls.inspections = [] ∨ ∃ chunk verdict,
      (c.session.lane direction).phase = .inspecting chunk ∧
        calls.inspections = [((c.session.lane direction).event chunk, verdict)])
  /-- It need not wait. -/
  goesOn : (c.step devices direction).2.isBlocked = false
  /-- It ends at its next look at the signal. -/
  select : (∀ chunk, (c.session.lane direction).phase ≠ .inspecting chunk) →
    (c.step devices direction).2.lane.phase = .closing .tornDown
  /-- It ends whatever happens meanwhile, provided that it is given two steps, or one when there is
  no chunk to be inspected. -/
  ends (more : List (Move ω))
    (enough : 2 ≤ more.countP (Move.isOf direction) ∨
      1 ≤ more.countP (Move.isOf direction) ∧
        ∀ chunk, (c.session.lane direction).phase ≠ .inspecting chunk) :
    ((c.run devices more).session.lane direction).phase.ending? = some .tornDown

theorem windsUp {c : Course ω} (fired : c.session.stopped = true) {direction : Direction}
    (inside : (c.session.lane direction).phase.ending? = none) : c.WindsUp devices direction := by
  have ceases (more : List (Move ω)) := (c.laneRun direction).follow_ceases
    (devices direction).muted fired inside (c.turnsOf devices direction more)
  simp only [← laneRun_run, countP_turnsOf] at ceases
  constructor
  · intro more
    obtain ⟨_, calls, trace, ceased⟩ := ceases more
    exact ⟨calls, trace, ceased.movesOctets_eq, ceased.inspections_eq⟩
  · simp only [step, Session.stepOver, Lane.step, fired]
    cases here : (c.session.lane direction).phase with
    | reading | inspecting | writing => rfl
    | closing | finished => simp [here, Phase.ending?] at inside
  · intro elsewhere
    simp only [step, Session.stepOver, Lane.step, fired]
    cases here : (c.session.lane direction).phase with
    | reading | writing => rfl
    | inspecting chunk => exact absurd here (elsewhere chunk)
    | closing | finished => simp [here, Phase.ending?] at inside
  · intro more enough
    obtain ⟨_, calls, _, ceased⟩ := ceases more
    exact ceased.ending enough

/-! ## The end -/

/-- What the report of a session tells of one direction. -/
structure Concludes (c : Course ω) (report : LaneReport) (direction : Direction) : Prop where
  direction_eq : report.direction = direction
  fired : .stopped ∈ c.acts direction
  /-- The destination was shut down once, at the very end. -/
  shutDown : ∃ (before : Trace) (result : Except IoFault Unit),
    c.trace direction = before ++ [.shutdown (.ready result)] ∧ before.IsOpen
  accounts : report.AccountsFor (c.trace direction)
  termination : report.termination.IsOwn ∨ report.termination = .tornDown

variable (sessionId : String) (localPort : UInt16) (bufferSize : Nat) (client target : Session.Party)
  (now : Span) (world : ω)

theorem signals_start :
    (start (.start sessionId localPort bufferSize client target now) world).Signals where
  silent _ direction := by cases direction <;> rfl
  fired h := by simp [start, Session.start] at h
  endings direction termination h := by
    cases direction <;> simp [start, Session.start, Session.lane, Lane.start, Phase.ending?] at h

/-- The part of a lane in a session is a run of the lane from its start. -/
theorem laneRun_traced (direction : Direction) (moves : List (Move ω)) :
    let c := start (.start sessionId localPort bufferSize client target now) world
    (c.run devices moves).laneRun direction =
      LaneRun.traced (devices direction).muted ⟨sessionId, localPort, direction, bufferSize⟩ false
        world (c.turnsOf devices direction moves) := by
  intro c
  rw [laneRun_run]
  cases direction <;> rfl

/-- A session keeps its name and its parties. -/
theorem session_run (c : Course ω) (moves : List (Move ω)) :
    let s := (c.run devices moves).session
    s = { c.session with up := s.up, down := s.down, stopped := s.stopped } := by
  induction moves generalizing c with
  | nil => rfl
  | cons m rest ih =>
      refine (ih (c.move devices m)).trans ?_
      cases m with
      | others change => rfl
      | lane direction => cases direction <;> rfl

theorem concludes (moves : List (Move ω)) {later : Span} {report : SessionReport} :
    let c := (start (.start sessionId localPort bufferSize client target now) world).run devices moves
    c.session.report? later = some report →
      ∀ direction, c.Concludes (report.lane direction) direction := by
  intro c isOver direction
  have ended := (Session.report?_eq_some isOver).1 direction
  have part := laneRun_traced devices sessionId localPort bufferSize client target now world direction
    moves
  obtain ⟨phase, eq⟩ := Lane.report?_eq_some ended
  have setup : (c.laneRun direction).lane.setup = ⟨sessionId, localPort, direction, bufferSize⟩ := by
    rw [part, LaneRun.traced_setup]
  have leave : (c.laneRun direction).lane.TakesLeave (c.trace direction) (c.acts direction) := by
    have run := LaneRun.traced_takesLeave (devices direction).muted
      ⟨sessionId, localPort, direction, bufferSize⟩ false world
    exact (congrArg (fun r => r.lane.TakesLeave r.world.trace r.acts) part).mpr (run _)
  obtain ⟨forwarded, books⟩ := LaneRun.traced_books (devices direction).muted
    ⟨sessionId, localPort, direction, bufferSize⟩ false world
    ((start (.start sessionId localPort bufferSize client target now) world).turnsOf devices direction
      moves)
  rw [← part] at books
  obtain ⟨fired, shutDown⟩ := leave.of_finished phase
  have signals :=
    (signals_start sessionId localPort bufferSize client target now world).run devices moves
  refine ⟨?_, fired, shutDown, books.accountsFor ended, ?_⟩
  · rw [eq]
    exact congrArg LaneSetup.direction setup
  · exact signals.endings direction _ (by rw [phase]; rfl)

/-- How a session ends, whatever its peers and its inspector do and in whatever order the lanes take
their steps. Once fired, the stop signal stays fired. It has been fired when a lane has left its
loop, and then a lane that is still in its own winds up and need not wait. When the session reports,
both lanes have concluded, and one of them had ended of its own accord. -/
theorem session_ends (moves : List (Move ω)) :
    let c := (start (.start sessionId localPort bufferSize client target now) world).run devices moves
    (c.session.stopped = true → ∀ more, (c.run devices more).session.stopped = true) ∧
    (c.session.stopped = true → ∀ direction,
      (c.session.lane direction).phase.ending? = none → c.WindsUp devices direction) ∧
    (∀ first termination, (c.session.lane first).phase.ending? = some termination →
      c.session.stopped = true ∧ ∀ other,
        (c.session.lane other).phase.ending? = none → (c.step devices other).2.isBlocked = false) ∧
    (∀ later report, c.session.report? later = some report →
      (∀ direction, c.Concludes (report.lane direction) direction) ∧
      (∃ direction, (report.lane direction).termination.IsOwn) ∧
      report = ⟨sessionId, localPort, client.address, target.address, later - now, report.up,
        report.down⟩) := by
  intro c
  have signals : c.Signals :=
    (signals_start sessionId localPort bufferSize client target now world).run devices moves
  have fired (first : Direction) (termination : Termination)
      (left : (c.session.lane first).phase.ending? = some termination) : c.session.stopped = true := by
    cases flag : c.session.stopped with
    | true => rfl
    | false => simp [signals.silent flag first] at left
  refine ⟨fun flag more => c.stopped_run devices more flag,
    fun flag direction inside => windsUp devices flag inside, ?_, ?_⟩
  · intro first termination left
    exact ⟨fired first termination left, fun other inside =>
      (windsUp devices (fired first termination left) inside).goesOn⟩
  · intro later report isOver
    obtain ⟨ended, eq⟩ := Session.report?_eq_some isOver
    have ending (direction : Direction) : (c.session.lane direction).phase.ending? =
        some (report.lane direction).termination := by
      rw [(Lane.report?_eq_some (ended direction)).1]
      rfl
    refine ⟨concludes devices sessionId localPort bufferSize client target now world moves isOver,
      ?_, ?_⟩
    · obtain ⟨first, termination, here, own⟩ := signals.fired (fired .client _ (ending .client))
      obtain rfl := Option.some.inj (here.symm.trans (ending first))
      exact ⟨first, own⟩
    · rw [session_run] at eq
      exact eq

/-- The client closes its side while the target sends nothing and holds its socket open. -/
theorem session_ends_held_open :
    let devices (direction : Direction) : Devices Unit :=
      { read := fun _ _ => ⟨if direction = .client then .ready (.ok []) else .pending, false, ()⟩
        write := fun bytes _ => ⟨.ready (.ok bytes.length), false, ()⟩
        flush := fun _ => ⟨.ready (.ok ()), false, ()⟩
        shutdown := fun _ => ⟨.ready (.ok ()), false, ()⟩
        inspect := fun _ _ => ⟨.accepted, false, ()⟩ }
    let client : Session.Party := ⟨⟨0, .accepted⟩, ⟨.anyV4, 2, 0⟩⟩
    let target : Session.Party := ⟨⟨1, .dialled⟩, ⟨.anyV4, 3, 0⟩⟩
    let c := (start (.start "s" 1 8 client target .zero) ()).run devices
      [.lane .server, .lane .client, .lane .server, .lane .client, .lane .server]
    ∃ report, c.session.report? .zero = some report ∧ report.up.termination = .peerClosed ∧
      report.down.termination = .tornDown ∧
      ∀ direction, c.Concludes (report.lane direction) direction := by
  intro devices client target c
  have isOver : c.session.report? .zero = some ⟨"s", 1, ⟨.anyV4, 2, 0⟩, ⟨.anyV4, 3, 0⟩, .zero,
      ⟨.client, 0, 0, 0, .peerClosed⟩, ⟨.server, 0, 0, 0, .tornDown⟩⟩ := by decide +kernel
  obtain ⟨_, _, _, reports⟩ := session_ends devices "s" 1 8 client target .zero ()
    [.lane .server, .lane .client, .lane .server, .lane .client, .lane .server]
  exact ⟨_, isOver, rfl, rfl, (reports _ _ isOver).1⟩

end Course

end Wiretap
