import Wiretap.Proofs.Lane.Trace
/-! # How a lane stops

A lane leaves its loop in one way only: it fires the stop signal, and then shuts its destination
down once. When the signal has been fired by others, the lane ends at its next look at it, which is
the step after next at the latest, and moves no octet before.
-/

namespace Wiretap

variable {ω : Type}

/-- Whether a lane ended of its own accord. -/
def Termination.IsOwn (t : Termination) : Prop := t = .peerClosed ∨ ∃ fault, t = .failed fault

namespace Lane

/-! ## Leaving the loop -/

theorem stops_deliver_muted (d : Devices ω) (rest : Bytes) (w : ω) :
    (deliver d.muted rest w).stops = false := by
  fun_induction deliver d.muted rest w with
  | case1 w =>
      simp only [flush]
      split <;> rfl
  | case5 rest w nonempty r n accepts positive more ih =>
      rw [ih]
      rfl
  | _ => rfl

/-- A step over devices without a hold on the stop signal: it leaves the signal as it is, or the
lane leaves its loop. -/
inductive Leaves (lane : Lane) : Bool → Step ω → Prop where
  | stays {stopped : Bool} {s : Step ω} (signal : s.stopped = stopped)
      (phase : s.lane.phase.ending? = lane.phase.ending?) : Leaves lane stopped s
  | tornDown {s : Step ω} (inside : lane.phase.ending? = none) (signal : s.stopped = true)
      (phase : s.lane.phase = .closing .tornDown) : Leaves lane true s
  | ofItself {s : Step ω} {termination : Termination} (inside : lane.phase.ending? = none)
      (own : termination.IsOwn) (signal : s.stopped = true)
      (phase : s.lane.phase = .closing termination) : Leaves lane false s

theorem step_leaves (d : Devices ω) (lane : Lane) (stopped : Bool) (w : ω) :
    Leaves lane stopped (lane.step d.muted stopped w) := by
  unfold step
  cases here : lane.phase with
  | reading =>
      have inside : lane.phase.ending? = none := by rw [here]; rfl
      cases stopped with
      | true => exact .tornDown inside rfl rfl
      | false =>
          simp only [Bool.false_eq_true, if_false]
          split
          · exact .stays rfl rfl
          · exact .ofItself inside (.inr ⟨_, rfl⟩) rfl rfl
          · exact .ofItself inside (.inl rfl) rfl rfl
          · exact .stays rfl inside.symm
  | inspecting chunk =>
      exact .stays (Bool.or_false stopped) (by rw [here]; rfl)
  | writing chunk rest =>
      have inside : lane.phase.ending? = none := by rw [here]; rfl
      cases stopped with
      | true => exact .tornDown inside rfl rfl
      | false =>
          have silent := stops_deliver_muted d rest w
          simp only [Bool.false_eq_true, if_false]
          split
          · exact .stays silent inside.symm
          · exact .ofItself inside (.inr ⟨_, rfl⟩) rfl rfl
          · exact .stays silent inside.symm
  | closing termination =>
      dsimp only
      split
      · exact .stays (Bool.or_false stopped) rfl
      · exact .stays (Bool.or_false stopped) (by rw [here]; rfl)
  | finished termination => exact .stays rfl rfl

theorem Moves.stays_stopped {lane : Lane} {contacts : Trace} {s : Step ω}
    (h : Moves lane true contacts s) : s.stopped = true := by
  cases h <;> rfl

/-! ## The end of a trace -/

end Lane

/-- The destination has not been shut down. -/
def Trace.IsOpen (t : Trace) : Prop := ∀ result, .shutdown (.ready result) ∉ t

theorem Trace.IsOpen.append {s t : Trace} (left : s.IsOpen) (right : t.IsOpen) : IsOpen (s ++ t) := by
  intro result member
  rcases List.mem_append.mp member with early | late
  · exact left result early
  · exact right result late

namespace Lane

theorem Delivers.isOpen {rest : Bytes} {contacts : Trace} {acts : List Act} {progress : Progress}
    (h : Delivers rest contacts acts progress) : contacts.IsOpen := by
  induction h with
  | accepts n more ih =>
      intro result member
      rcases List.mem_cons.mp member with first | later
      · cases first
      · exact ih result later
  | _ =>
      intro result member
      simp at member

/-- How far a lane has come in taking its leave: whether it has fired the stop signal, and whether
it has shut its destination down, which is the last that it does. -/
inductive TakesLeave (lane : Lane) (t : Trace) (acts : List Act) : Prop where
  | inside (here : lane.phase.ending? = none) (isOpen : t.IsOpen)
  | closing {termination : Termination} (here : lane.phase = .closing termination)
      (fired : .stopped ∈ acts) (isOpen : t.IsOpen)
  | finished {termination : Termination} {before : Trace} {result : Except IoFault Unit}
      (here : lane.phase = .finished termination) (fired : .stopped ∈ acts)
      (shutDown : t = before ++ [.shutdown (.ready result)]) (isOpen : before.IsOpen)

theorem TakesLeave.of_finished {lane : Lane} {t : Trace} {acts : List Act} {termination : Termination}
    (h : TakesLeave lane t acts) (here : lane.phase = .finished termination) :
    .stopped ∈ acts ∧ ∃ (before : Trace) (result : Except IoFault Unit),
      t = before ++ [.shutdown (.ready result)] ∧ before.IsOpen := by
  cases h with
  | inside at_ => simp [here, Phase.ending?] at at_
  | closing at_ => simp [here] at at_
  | finished at_ fired shutDown isOpen => exact ⟨fired, _, _, shutDown, isOpen⟩

theorem TakesLeave.moves {lane : Lane} {t contacts : Trace} {acts : List Act} {stopped : Bool}
    {s : Step ω} (h : TakesLeave lane t acts) (moves : Moves lane stopped contacts s) :
    TakesLeave s.lane (t ++ contacts) (s.acts.reverse ++ acts) := by
  have before : lane.phase.ending? = none → t.IsOpen := by
    intro inside
    cases h with
    | inside _ isOpen => exact isOpen
    | closing at_ | finished at_ => simp [at_, Phase.ending?] at inside
  cases moves with
  | stopsReading here w | stopsWriting here w =>
      refine .closing rfl (by simp [finish]) ?_
      rw [List.append_nil]
      exact before (by rw [here]; rfl)
  | readWaits here fires w =>
      exact .inside (by rw [here]; rfl) ((before (by rw [here]; rfl)).append (by simp [Trace.IsOpen]))
  | readFails here fault w | sourceEnds here w =>
      exact .closing rfl (by simp [finish])
        ((before (by rw [here]; rfl)).append (by simp [Trace.IsOpen]))
  | reads here octet more fires w =>
      exact .inside rfl ((before (by rw [here]; rfl)).append (by simp [Trace.IsOpen]))
  | inspects here stopped verdict fires w =>
      exact .inside rfl ((before (by rw [here]; rfl)).append (by simp [Trace.IsOpen]))
  | writeWaits here delivers fires w | forwards here delivers fires w =>
      exact .inside rfl ((before (by rw [here]; rfl)).append delivers.isOpen)
  | writeFails here delivers w =>
      exact .closing rfl (by simp [finish]) ((before (by rw [here]; rfl)).append delivers.isOpen)
  | shutdownWaits here stopped fires w =>
      cases h with
      | inside at_ => simp [here, Phase.ending?] at at_
      | finished at_ => simp [here] at at_
      | closing _ fired isOpen =>
          exact .closing here fired (isOpen.append (by simp [Trace.IsOpen]))
  | shutsDown here stopped fires result w =>
      cases h with
      | inside at_ => simp [here, Phase.ending?] at at_
      | finished at_ => simp [here] at at_
      | closing _ fired isOpen =>
          exact .finished rfl (List.mem_append_right _ fired) rfl isOpen
  | rests here stopped w =>
      rw [List.append_nil]
      exact h

/-! ## After the stop signal -/

/-- What becomes of a lane in its loop once the stop signal has been fired: by the number of steps
that it has taken since, the calls that it has made, and the lane after them. -/
inductive Ceases (lane : Lane) : Nat → Trace → Lane → Prop where
  | idle : Ceases lane 0 [] lane
  /-- The chunk that was read before was inspected. -/
  | inspected {chunk : Bytes} {next : Lane} (here : lane.phase = .inspecting chunk) (verdict : Verdict)
      (there : next.phase = .writing chunk chunk) :
      Ceases lane 1 [.inspect (lane.event chunk) verdict] next
  | ended {n : Nat} {calls : Trace} {next : Lane} (there : next.phase.ending? = some .tornDown)
      (still : ∀ c ∈ calls, c.movesOctets = false)
      (inspections : calls.inspections = [] ∨ ∃ chunk verdict, lane.phase = .inspecting chunk ∧
        calls.inspections = [(lane.event chunk, verdict)]) :
      Ceases lane (n + 1) calls next

theorem Ceases.moves {lane next : Lane} {n : Nat} {calls contacts : Trace} {s : Step ω}
    (inside : lane.phase.ending? = none) (h : Ceases lane n calls next)
    (moves : Moves next true contacts s) : Ceases lane (n + 1) (calls ++ contacts) s.lane := by
  cases h with
  | idle =>
      rw [List.nil_append]
      cases moves with
      | stopsReading | stopsWriting => exact .ended rfl (by simp) (.inl rfl)
      | inspects here stopped verdict => exact .inspected here verdict rfl
      | shutdownWaits here | shutsDown here | rests here => simp [here, Phase.ending?] at inside
  | inspected here verdict there =>
      cases moves with
      | stopsWriting =>
          rw [List.append_nil]
          exact .ended rfl (by simp [Contact.movesOctets]) (.inr ⟨_, verdict, here, rfl⟩)
      | _ at_ => simp [there] at at_
  | ended there still inspections =>
      obtain ⟨stays, _, shutdowns⟩ := moves.of_ending there
      have silent := Trace.inspections_of_shutdowns shutdowns
      refine .ended stays ?_ (by rwa [Trace.inspections_append, silent, List.append_nil])
      intro c member
      rcases List.mem_append.mp member with early | late
      · exact still c early
      · obtain ⟨answer, rfl⟩ := shutdowns c late
        rfl

theorem Ceases.ending {lane next : Lane} {n : Nat} {calls : Trace} (h : Ceases lane n calls next)
    (enough : 2 ≤ n ∨ 1 ≤ n ∧ ∀ chunk, lane.phase ≠ .inspecting chunk) :
    next.phase.ending? = some .tornDown := by
  cases h with
  | idle => omega
  | ended there => exact there
  | inspected here =>
      rcases enough with two | ⟨_, elsewhere⟩
      · omega
      · exact absurd here (elsewhere _)

theorem Ceases.movesOctets_eq {lane next : Lane} {n : Nat} {calls : Trace}
    (h : Ceases lane n calls next) : ∀ c ∈ calls, c.movesOctets = false := by
  cases h with
  | idle => simp
  | inspected => simp [Contact.movesOctets]
  | ended _ still => exact still

theorem Ceases.inspections_eq {lane next : Lane} {n : Nat} {calls : Trace}
    (h : Ceases lane n calls next) :
    calls.inspections = [] ∨ ∃ chunk verdict, lane.phase = .inspecting chunk ∧
      calls.inspections = [(lane.event chunk, verdict)] := by
  cases h with
  | idle => exact .inl rfl
  | inspected here verdict => exact .inr ⟨_, verdict, here, rfl⟩
  | ended _ _ inspections => exact inspections

end Lane

def Turn.isStep : Turn ω → Bool
  | .step => true
  | .meanwhile .. => false

namespace LaneRun

theorem traced_takesLeave (d : Devices ω) (setup : LaneSetup) (stopped : Bool) (world : ω)
    (turns : List (Turn ω)) :
    let r := traced d setup stopped world turns
    r.lane.TakesLeave r.world.trace r.acts := by
  refine traced_invariant (P := fun r => r.lane.TakesLeave r.world.trace r.acts)
    (.inside rfl (by simp [Trace.IsOpen, start])) ?_ (fun _ _ _ h => h) turns
  intro r h
  obtain ⟨contacts, s, moves, eq⟩ := advance_moves d r
  rw [eq]
  exact h.moves moves

/-- Once the stop signal has been fired a lane in its loop ceases, whatever else happens. -/
theorem follow_ceases (d : Devices ω) {r : LaneRun (Traced ω)} (fired : r.stopped = true)
    (inside : r.lane.phase.ending? = none) (turns : List (Turn ω)) :
    let after := r.follow d.traced (turns.map Turn.traced)
    after.stopped = true ∧ ∃ calls, after.world.trace = r.world.trace ++ calls ∧
      r.lane.Ceases (turns.countP Turn.isStep) calls after.lane := by
  induction turns using List.reverseRecOn with
  | nil => exact ⟨fired, [], (List.append_nil _).symm, .idle⟩
  | append_singleton turns t ih =>
      obtain ⟨signal, calls, trace, ceases⟩ := ih
      simp only [List.map_append, List.map_singleton, follow_concat, List.countP_append]
      cases t with
      | meanwhile fires change => exact ⟨by simp [turn, Turn.traced, signal], calls, trace, ceases⟩
      | step =>
          obtain ⟨contacts, s, moves, eq⟩ :=
            advance_moves d (r.follow d.traced (turns.map Turn.traced))
          rw [signal] at moves
          simp only [turn, Turn.traced, eq]
          refine ⟨moves.stays_stopped, calls ++ contacts, ?_, ceases.moves inside moves⟩
          rw [trace, List.append_assoc]

end LaneRun

end Wiretap
