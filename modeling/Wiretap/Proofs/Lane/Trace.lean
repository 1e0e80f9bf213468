import Mathlib.Data.List.Induction
import Wiretap.Lane.Script
/-! # Traces of a lane

What a lane does to its devices, as the devices see it: every call with its answer, in order. The
devices keep the trace, not the lane, so a lane cannot embellish it. Keeping one changes nothing
else (`step_traced`).

`Moves` says once what a step of a lane can do. All invariants of lanes go by its cases.
-/

namespace Wiretap

variable {ω : Type}

/-- A call of a device, with what came of it. -/
inductive Contact where
  | read (limit : Nat) (answer : Poll (Except IoFault Bytes))
  | write (offer : Bytes) (answer : Poll (Except IoFault Nat))
  | flush (answer : Poll (Except IoFault Unit))
  | shutdown (answer : Poll (Except IoFault Unit))
  | inspect (event : Event) (verdict : Verdict)

namespace Contact

def chunk? : Contact → Option Bytes
  | .read _ (.ready (.ok (octet :: more))) => some (octet :: more)
  | _ => none

/-- What the destination accepted in a call. -/
def accepted : Contact → Bytes
  | .write offer (.ready (.ok n)) => offer.take n
  | _ => []

/-- What an inspector was shown in a call, and what it made of it. -/
def inspection? : Contact → Option (Event × Verdict)
  | .inspect event verdict => some (event, verdict)
  | _ => none

/-- Whether the destination let all that it was given go on in a call. -/
def isFlushed : Contact → Bool
  | .flush (.ready (.ok ())) => true
  | _ => false

/-- Whether a call reads from the source or hands something to the destination. -/
def movesOctets : Contact → Bool
  | .read .. | .write .. | .flush _ => true
  | .shutdown _ | .inspect .. => false

end Contact

/-- The calls of a lane's devices, in order. -/
abbrev Trace := List Contact

namespace Trace

def chunks (t : Trace) : List Bytes := t.filterMap Contact.chunk?

def accepted (t : Trace) : Bytes := t.flatMap Contact.accepted

def inspections (t : Trace) : List (Event × Verdict) := t.filterMap Contact.inspection?

def shown (t : Trace) : List Event := t.inspections.map Prod.fst

def failures (t : Trace) : Nat := t.inspections.countP (·.2 ≠ .accepted)

/-- How many chunks the destination has let go on. -/
def flushes (t : Trace) : Nat := t.countP Contact.isFlushed

/-- The chunks that were forwarded in full: the destination is flushed once after each. -/
def forwarded (t : Trace) : List Bytes := t.chunks.take t.flushes

@[simp] theorem chunks_append (s t : Trace) : chunks (s ++ t) = s.chunks ++ t.chunks :=
  List.filterMap_append

@[simp] theorem accepted_append (s t : Trace) : accepted (s ++ t) = s.accepted ++ t.accepted :=
  List.flatMap_append

@[simp] theorem inspections_append (s t : Trace) :
    inspections (s ++ t) = s.inspections ++ t.inspections :=
  List.filterMap_append

@[simp] theorem shown_append (s t : Trace) : shown (s ++ t) = s.shown ++ t.shown := by
  simp only [shown, inspections_append, List.map_append]

@[simp] theorem failures_append (s t : Trace) : failures (s ++ t) = s.failures + t.failures := by
  simp only [failures, inspections_append, List.countP_append]

@[simp] theorem flushes_append (s t : Trace) : flushes (s ++ t) = s.flushes + t.flushes :=
  List.countP_append

/-- A destination that is shut down is shown to nobody. -/
theorem inspections_of_shutdowns {t : Trace} (h : ∀ c ∈ t, ∃ answer, c = .shutdown answer) :
    t.inspections = [] := by
  refine List.filterMap_eq_nil_iff.mpr fun c member => ?_
  obtain ⟨answer, rfl⟩ := h c member
  rfl

end Trace

/-- How a lane ends that has left its loop. -/
def Phase.ending? : Phase → Option Termination
  | .closing termination | .finished termination => some termination
  | _ => none

/-- The same response, with the devices' state seen from elsewhere. -/
def Reply.map {α β γ : Type} (f : α → β) (r : Reply α γ) : Reply β γ := ⟨r.value, r.stops, f r.world⟩

/-! ## Devices that keep a trace -/

/-- A state of devices together with the trace that they keep. -/
structure Traced (ω : Type) where
  world : ω
  trace : Trace

/-- The response of a device that keeps a trace. -/
def Reply.traced (r : Reply ω α) (trace : Trace) (contact : α → Contact) : Reply (Traced ω) α :=
  ⟨r.value, r.stops, ⟨r.world, trace ++ [contact r.value]⟩⟩

/-- The same devices, which also keep a trace. -/
def Devices.traced (d : Devices ω) : Devices (Traced ω) where
  read limit w := (d.read limit w.world).traced w.trace (.read limit)
  write bytes w := (d.write bytes w.world).traced w.trace (.write bytes)
  flush w := (d.flush w.world).traced w.trace .flush
  shutdown w := (d.shutdown w.world).traced w.trace .shutdown
  inspect event w := (d.inspect event w.world).traced w.trace (.inspect event)

namespace Lane

/-- What a step leaves behind when the trace is forgotten. -/
def Step.untraced (s : Step (Traced ω)) : Step ω := { s with world := s.world.world }

/-- A delivery over devices whose state is seen from elsewhere. -/
def Delivery.map {α β : Type} (f : α → β) (d : Delivery α) : Delivery β :=
  ⟨d.progress, d.stops, f d.world, d.acts⟩

/-- A delivery looks at nothing but how the devices respond to writes and flushes. -/
theorem deliver_map {α β : Type} {e : Devices α} {d : Devices β} {f : α → β}
    (writes : ∀ bytes w, (e.write bytes w).map f = d.write bytes (f w))
    (flushes : ∀ w, (e.flush w).map f = d.flush (f w)) (rest : Bytes) (w : α) :
    (deliver e rest w).map f = deliver d rest (f w) := by
  fun_induction deliver e rest w with
  | case1 w =>
      rw [deliver, if_pos rfl]
      simp only [flush, ← flushes, Reply.map]
      split <;> rfl
  | case2 rest w nonempty r waits =>
      rw [deliver, if_neg nonempty]
      simp only [← writes, Reply.map, r, waits]
      rfl
  | case3 rest w nonempty r fault fails =>
      rw [deliver, if_neg nonempty]
      simp only [← writes, Reply.map, r, fails]
      rfl
  | case4 rest w nonempty r nothing =>
      rw [deliver, if_neg nonempty]
      simp only [← writes, Reply.map, r, nothing]
      rfl
  | case5 rest w nonempty r n accepts positive more ih =>
      rw [deliver, if_neg nonempty]
      simp only [← writes, Reply.map, r, accepts, if_neg positive, ← ih]
      rfl

/-- Devices that keep a trace behave like those that do not. -/
theorem step_traced (d : Devices ω) (lane : Lane) (stopped : Bool) (w : Traced ω) :
    (lane.step d.traced stopped w).untraced = lane.step d stopped w.world := by
  unfold step
  cases here : lane.phase with
  | reading =>
      simp only [Devices.traced, Reply.traced]
      split
      · rfl
      · split <;> simp_all [Step.untraced, finish]
  | inspecting chunk => rfl
  | writing chunk rest =>
      have delivered : (deliver d.traced rest w).map Traced.world = deliver d rest w.world :=
        deliver_map (f := Traced.world) (fun _ _ => rfl) (fun _ => rfl) rest w
      simp only [← delivered]
      split
      · rfl
      · simp only [Delivery.map]
        split <;> rfl
  | closing termination =>
      simp only [Devices.traced, Reply.traced]
      split <;> rfl
  | finished termination => rfl

/-! ## What a step can do -/

/-- How an attempt to get the rest of a chunk out can go: the calls that it makes, what it shows of
them, and how far it gets. -/
inductive Delivers : Bytes → Trace → List Act → Progress → Prop where
  | flushWaits : Delivers [] [.flush .pending] [] (.waiting [])
  | flushFails (fault : IoFault) :
      Delivers [] [.flush (.ready (.error fault))] [] (.failed fault)
  | flushed : Delivers [] [.flush (.ready (.ok ()))] [.flushed] .done
  | writeWaits {rest : Bytes} : Delivers rest [.write rest .pending] [] (.waiting rest)
  | writeFails {rest : Bytes} (fault : IoFault) :
      Delivers rest [.write rest (.ready (.error fault))] [] (.failed fault)
  | acceptsNothing {rest : Bytes} :
      Delivers rest [.write rest (.ready (.ok 0))] [.wrote []] (.failed .wroteNothing)
  | accepts {rest : Bytes} {contacts : Trace} {acts : List Act} {progress : Progress} (n : Nat)
      (more : Delivers (rest.drop n) contacts acts progress) :
      Delivers rest (.write rest (.ready (.ok n)) :: contacts) (.wrote (rest.take n) :: acts)
        progress

theorem deliver_delivers (d : Devices ω) (rest : Bytes) (w : Traced ω) :
    ∃ contacts, (deliver d.traced rest w).world.trace = w.trace ++ contacts ∧
      Delivers rest contacts (deliver d.traced rest w).acts (deliver d.traced rest w).progress := by
  fun_induction deliver d.traced rest w with
  | case1 w =>
      refine ⟨[.flush (d.flush w.world).value], ?_⟩
      simp only [flush, Devices.traced, Reply.traced]
      cases (d.flush w.world).value with
      | pending => exact ⟨rfl, .flushWaits⟩
      | ready result =>
          cases result with
          | error fault => exact ⟨rfl, .flushFails fault⟩
          | ok => exact ⟨rfl, .flushed⟩
  | case2 rest w nonempty r waits =>
      change (d.write rest w.world).value = _ at waits
      exact ⟨[.write rest .pending], by simp only [r, Devices.traced, Reply.traced, waits],
        .writeWaits⟩
  | case3 rest w nonempty r fault fails =>
      change (d.write rest w.world).value = _ at fails
      exact ⟨[.write rest (.ready (.error fault))],
        by simp only [r, Devices.traced, Reply.traced, fails], .writeFails fault⟩
  | case4 rest w nonempty r nothing =>
      change (d.write rest w.world).value = _ at nothing
      exact ⟨[.write rest (.ready (.ok 0))], by simp only [r, Devices.traced, Reply.traced, nothing],
        .acceptsNothing⟩
  | case5 rest w nonempty r n accepts positive more ih =>
      change (d.write rest w.world).value = _ at accepts
      obtain ⟨contacts, trace, delivers⟩ := ih
      refine ⟨.write rest (.ready (.ok n)) :: contacts, ?_, .accepts n delivers⟩
      rw [trace]
      simp only [r, Devices.traced, Reply.traced, accepts, List.append_assoc, List.singleton_append]

/-- What a step of a lane can do, by the phase that it is in: whether the stop signal has been
fired, the calls that the step makes, and what it leaves behind. -/
inductive Moves (lane : Lane) : Bool → Trace → Step ω → Prop where
  | stopsReading (here : lane.phase = .reading) (w : ω) :
      Moves lane true [] (lane.finish .tornDown w [])
  | readWaits (here : lane.phase = .reading) (fires : Bool) (w : ω) :
      Moves lane false [.read lane.capacity .pending] ⟨lane, fires, w, [], true⟩
  | readFails (here : lane.phase = .reading) (fault : IoFault) (w : ω) :
      Moves lane false [.read lane.capacity (.ready (.error fault))]
        (lane.finish (.failed (lane.readFault fault)) w [])
  | sourceEnds (here : lane.phase = .reading) (w : ω) :
      Moves lane false [.read lane.capacity (.ready (.ok []))] (lane.finish .peerClosed w [])
  | reads (here : lane.phase = .reading) (octet : UInt8) (more : Bytes) (fires : Bool) (w : ω) :
      Moves lane false [.read lane.capacity (.ready (.ok (octet :: more)))]
        ⟨{ lane with phase := .inspecting (octet :: more) }, fires, w, [.read (octet :: more)], false⟩
  | inspects {chunk : Bytes} (here : lane.phase = .inspecting chunk) (stopped : Bool)
      (verdict : Verdict) (fires : Bool) (w : ω) :
      Moves lane stopped [.inspect (lane.event chunk) verdict]
        ⟨{ lane with
            phase := .writing chunk chunk
            inspectionFailures :=
              lane.inspectionFailures + if verdict = .accepted then 0 else 1 },
          stopped || fires, w, [.inspected (lane.event chunk) verdict], false⟩
  | stopsWriting {chunk rest : Bytes} (here : lane.phase = .writing chunk rest) (w : ω) :
      Moves lane true [] (lane.finish .tornDown w [])
  | writeWaits {chunk rest left : Bytes} {contacts : Trace} {acts : List Act}
      (here : lane.phase = .writing chunk rest)
      (delivers : Delivers rest contacts acts (.waiting left))
      (fires : Bool) (w : ω) :
      Moves lane false contacts ⟨{ lane with phase := .writing chunk left }, fires, w, acts, true⟩
  | writeFails {chunk rest : Bytes} {contacts : Trace} {acts : List Act} {fault : IoFault}
      (here : lane.phase = .writing chunk rest)
      (delivers : Delivers rest contacts acts (.failed fault))
      (w : ω) :
      Moves lane false contacts (lane.finish (.failed (lane.writeFault fault)) w acts)
  | forwards {chunk rest : Bytes} {contacts : Trace} {acts : List Act}
      (here : lane.phase = .writing chunk rest) (delivers : Delivers rest contacts acts .done)
      (fires : Bool) (w : ω) :
      Moves lane false contacts
        ⟨lane.countForwarded chunk, fires, w, acts ++ [.forwarded chunk.length], false⟩
  | shutdownWaits {termination : Termination} (here : lane.phase = .closing termination)
      (stopped fires : Bool) (w : ω) :
      Moves lane stopped [.shutdown .pending] ⟨lane, stopped || fires, w, [], true⟩
  | shutsDown {termination : Termination} (here : lane.phase = .closing termination)
      (stopped fires : Bool) (result : Except IoFault Unit) (w : ω) :
      Moves lane stopped [.shutdown (.ready result)]
        ⟨{ lane with phase := .finished termination }, stopped || fires, w,
          [.shutDown, .ended termination], false⟩
  | rests {termination : Termination} (here : lane.phase = .finished termination) (stopped : Bool)
      (w : ω) :
      Moves lane stopped [] ⟨lane, stopped, w, [], true⟩

theorem step_moves (d : Devices ω) (lane : Lane) (stopped : Bool) (w : Traced ω) :
    ∃ contacts, (lane.step d.traced stopped w).world.trace = w.trace ++ contacts ∧
      Moves lane stopped contacts (lane.step d.traced stopped w) := by
  unfold step
  cases here : lane.phase with
  | reading =>
      cases stopped with
      | true => exact ⟨[], (List.append_nil _).symm, .stopsReading here w⟩
      | false =>
          refine ⟨[.read lane.capacity (d.read lane.capacity w.world).value], ?_⟩
          simp only [Devices.traced, Reply.traced, Bool.false_eq_true, if_false]
          cases (d.read lane.capacity w.world).value with
          | pending => exact ⟨rfl, .readWaits here _ _⟩
          | ready result =>
              cases result with
              | error fault => exact ⟨rfl, .readFails here fault _⟩
              | ok octets =>
                  cases octets with
                  | nil => exact ⟨rfl, .sourceEnds here _⟩
                  | cons octet more => exact ⟨rfl, .reads here octet more _ _⟩
  | inspecting chunk =>
      exact ⟨_, rfl, .inspects here stopped _ _ _⟩
  | writing chunk rest =>
      cases stopped with
      | true => exact ⟨[], (List.append_nil _).symm, .stopsWriting here w⟩
      | false =>
          obtain ⟨contacts, trace, delivers⟩ := deliver_delivers d rest w
          refine ⟨contacts, ?_⟩
          simp only [Bool.false_eq_true, if_false]
          cases progress : (deliver d.traced rest w).progress with
          | done => exact ⟨trace, .forwards here (progress ▸ delivers) _ _⟩
          | waiting left => exact ⟨trace, .writeWaits here (progress ▸ delivers) _ _⟩
          | failed fault => exact ⟨trace, .writeFails here (progress ▸ delivers) _⟩
  | closing termination =>
      refine ⟨[.shutdown (d.shutdown w.world).value], ?_⟩
      simp only [Devices.traced, Reply.traced]
      cases (d.shutdown w.world).value with
      | pending => exact ⟨rfl, .shutdownWaits here stopped _ _⟩
      | ready result => exact ⟨rfl, .shutsDown here stopped _ result _⟩
  | finished termination => exact ⟨[], (List.append_nil _).symm, .rests here stopped w⟩

theorem Moves.setup_eq {lane : Lane} {stopped : Bool} {contacts : Trace} {s : Step ω}
    (h : Moves lane stopped contacts s) : s.lane.setup = lane.setup := by
  cases h <;> rfl

/-- A lane that has left its loop only shuts its destination down. -/
theorem Moves.of_ending {lane : Lane} {stopped : Bool} {contacts : Trace} {s : Step ω}
    {termination : Termination} (h : Moves lane stopped contacts s)
    (here : lane.phase.ending? = some termination) :
    s.lane.phase.ending? = some termination ∧ s.lane = { lane with phase := s.lane.phase } ∧
      ∀ c ∈ contacts, ∃ answer, c = .shutdown answer := by
  cases h with
  | shutdownWaits at_ stopped fires w => exact ⟨here, rfl, by simp⟩
  | shutsDown at_ stopped fires result w => exact ⟨by rw [← here, at_]; rfl, rfl, by simp⟩
  | rests at_ stopped w => exact ⟨here, rfl, by simp⟩
  | _ at_ => simp [at_, Phase.ending?] at here

end Lane

/-! ## Runs -/

/-- What happens next to a lane. -/
inductive Turn (ω : Type) where
  /-- The lane takes a step. -/
  | step
  /-- Others act: the devices change, and the stop signal may be fired. -/
  | meanwhile (fires : Bool) (change : ω → ω)

/-- The same for devices that keep a trace. -/
def Turn.traced : Turn ω → Turn (Traced ω)
  | .step => .step
  | .meanwhile fires change => .meanwhile fires fun w => { w with world := change w.world }

namespace LaneRun

/-- A run after a turn. -/
def turn (d : Devices ω) (r : LaneRun ω) : Turn ω → LaneRun ω
  | .step => r.advance d
  | .meanwhile fires change =>
    { r with stopped := r.stopped || fires, world := change r.world }

def follow (d : Devices ω) (r : LaneRun ω) (turns : List (Turn ω)) : LaneRun ω :=
  turns.foldl (turn d) r

theorem follow_concat (d : Devices ω) (r : LaneRun ω) (turns : List (Turn ω)) (t : Turn ω) :
    r.follow d (turns ++ [t]) = (r.follow d turns).turn d t := by
  rw [follow, List.foldl_append]
  rfl

/-- The runner of scripts makes runs in which only the lane acts. -/
theorem runFor_eq_follow (d : Devices ω) (n : Nat) (r : LaneRun ω) :
    ∃ m ≤ n, Lane.runFor d n r = r.follow d (List.replicate m .step) := by
  induction n generalizing r with
  | zero => exact ⟨0, Nat.le_refl 0, rfl⟩
  | succ n ih =>
      rw [Lane.runFor]
      split
      · exact ⟨0, Nat.zero_le _, rfl⟩
      · obtain ⟨m, le, eq⟩ := ih (r.advance d)
        exact ⟨m + 1, Nat.succ_le_succ le, eq⟩

def untraced (r : LaneRun (Traced ω)) : LaneRun ω := { r with world := r.world.world }

theorem turn_traced (d : Devices ω) (r : LaneRun (Traced ω)) (t : Turn ω) :
    (r.turn d.traced t.traced).untraced = r.untraced.turn d t := by
  cases t with
  | step =>
      simp only [turn, Turn.traced, advance, untraced, ← Lane.step_traced]
      rfl
  | meanwhile fires change => rfl

/-- What holds of runs over devices that keep a trace holds of all runs. -/
theorem follow_traced (d : Devices ω) (r : LaneRun (Traced ω)) (turns : List (Turn ω)) :
    (r.follow d.traced (turns.map Turn.traced)).untraced = r.untraced.follow d turns := by
  induction turns generalizing r with
  | nil => rfl
  | cons t rest ih =>
      simp only [follow, List.map_cons, List.foldl_cons] at ih ⊢
      rw [ih, turn_traced]

variable (d : Devices ω) (setup : LaneSetup) (stopped : Bool) (world : ω)

/-- The run of a lane from its start, with a trace. -/
def traced (turns : List (Turn ω)) : LaneRun (Traced ω) :=
  (start setup stopped ⟨world, []⟩).follow d.traced (turns.map Turn.traced)

theorem traced_nil : traced d setup stopped world [] = start setup stopped ⟨world, []⟩ := rfl

theorem traced_concat (turns : List (Turn ω)) (t : Turn ω) :
    traced d setup stopped world (turns ++ [t]) =
      (traced d setup stopped world turns).turn d.traced t.traced := by
  rw [traced, List.map_append, List.map_singleton, follow_concat]
  rfl

theorem advance_moves (r : LaneRun (Traced ω)) :
    ∃ (contacts : Trace) (s : Lane.Step (Traced ω)), Lane.Moves r.lane r.stopped contacts s ∧
      r.advance d.traced =
        ⟨s.lane, s.stopped, ⟨s.world.world, r.world.trace ++ contacts⟩, s.acts.reverse ++ r.acts⟩ := by
  obtain ⟨contacts, trace, moves⟩ := Lane.step_moves d r.lane r.stopped r.world
  refine ⟨contacts, _, moves, ?_⟩
  simp only [advance, ← trace]

variable {d setup stopped world}

/-- What the start of a run has, and every turn keeps, holds of every run. -/
theorem traced_invariant {P : LaneRun (Traced ω) → Prop}
    (begins : P (start setup stopped ⟨world, []⟩))
    (steps : ∀ r, P r → P (r.advance d.traced))
    (others : ∀ r fires (change : ω → ω), P r →
      P { r with
        stopped := r.stopped || fires, world := { r.world with world := change r.world.world } })
    (turns : List (Turn ω)) : P (traced d setup stopped world turns) := by
  induction turns using List.reverseRecOn with
  | nil => exact begins
  | append_singleton turns t ih =>
      rw [traced_concat]
      cases t with
      | step => exact steps _ ih
      | meanwhile fires change => exact others _ fires change ih

/-- A lane that has left its loop stays out of it. -/
theorem ending_turn {r : LaneRun (Traced ω)} {termination : Termination} (t : Turn ω)
    (here : r.lane.phase.ending? = some termination) :
    (r.turn d.traced t.traced).lane.phase.ending? = some termination := by
  cases t with
  | step =>
      obtain ⟨contacts, s, moves, eq⟩ := advance_moves d r
      simp only [turn, Turn.traced, eq]
      exact (moves.of_ending here).1
  | meanwhile fires change => exact here

theorem traced_setup (turns : List (Turn ω)) :
    (traced d setup stopped world turns).lane.setup = setup := by
  refine traced_invariant (P := fun r => r.lane.setup = setup) rfl ?_ (fun _ _ _ h => h) turns
  intro r h
  obtain ⟨contacts, s, moves, eq⟩ := advance_moves d r
  rw [eq]
  exact moves.setup_eq.trans h

end LaneRun

end Wiretap
