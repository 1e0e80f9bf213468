import Wiretap.Lane.Task
import Wiretap.Proofs.Lane.Delivery
/-! # Inspectors do not interfere

What a lane forwards does not depend on what inspectors make of its chunks. A run is compared with
the one over blind devices, which accept every chunk unseen: step by step the two differ in verdicts
and in the count of failed inspections, and in nothing else. Hence any two runs over the same
streams agree, whatever their inspectors do short of stopping the session.

Only the task that a lane runs as can be broken off, by what an inspector hands out. Until then it has
done what the lane would have done.
-/

namespace Wiretap

variable {α β σ : Type}

/-! ## Leaving out the verdicts -/

/-- The same call if the chunk had been accepted. -/
def Contact.blind : Contact → Contact
  | .inspect event _ => .inspect event .accepted
  | c => c

/-- The same act if the chunk had been accepted. -/
def Act.blind : Act → Act
  | .inspected event _ => .inspected event .accepted
  | a => a

def Trace.blind (t : Trace) : Trace := t.map Contact.blind

/-- A state of devices without the verdicts in its trace, with the rest seen from elsewhere. -/
def Traced.blind (f : α → β) (w : Traced α) : Traced β := ⟨f w.world, w.trace.blind⟩

/-- A report without the count of failed inspections. -/
def LaneReport.blind (r : LaneReport) : LaneReport := { r with inspectionFailures := 0 }

/-- A lane without the count of failed inspections. -/
def Lane.blind (lane : Lane) : Lane := { lane with inspectionFailures := 0 }

/-- What a step leaves behind, without verdicts. -/
def Lane.Step.blind (f : α → β) (s : Step α) : Step β :=
  ⟨s.lane.blind, s.stopped, f s.world, s.acts.map Act.blind, s.isBlocked⟩

def LaneRun.blind (f : α → β) (r : LaneRun α) : LaneRun β :=
  ⟨r.lane.blind, r.stopped, f r.world, r.acts.map Act.blind⟩

theorem Trace.accepted_blind (t : Trace) : t.blind.accepted = t.accepted := by
  rw [Trace.accepted, Trace.blind, List.flatMap_map]
  refine List.flatMap_congr fun c _ => ?_
  cases c <;> rfl

theorem Lane.report?_blind (lane : Lane) : lane.blind.report? = lane.report?.map LaneReport.blind := by
  rw [report?, report?, Option.map_map]
  rfl

theorem Lane.acts_deliver_blind (d : Devices α) (rest : Bytes) (w : α) :
    (deliver d rest w).acts.map Act.blind = (deliver d rest w).acts := by
  fun_induction deliver d rest w with
  | case1 w =>
      simp only [flush]
      split <;> rfl
  | case5 rest w nonempty r n accepts positive more ih =>
      rw [List.map_cons, ih]
      rfl
  | _ => rfl

/-! ## Blind devices -/

/-- Some devices are blind and respond like others do; the state of those is seen through a map. -/
structure Devices.BlindTo (d : Devices β) (e : Devices α) (f : α → β) : Prop where
  read (limit : Nat) (w : α) : d.read limit (f w) = (e.read limit w).map f
  write (bytes : Bytes) (w : α) : d.write bytes (f w) = (e.write bytes w).map f
  flush (w : α) : d.flush (f w) = (e.flush w).map f
  shutdown (w : α) : d.shutdown (f w) = (e.shutdown w).map f
  inspect (event : Event) (w : α) :
    d.inspect event (f w) = ⟨.accepted, (e.inspect event w).stops, f (e.inspect event w).world⟩

namespace Devices.BlindTo

variable {e : Devices α} {d : Devices β} {f : α → β}

theorem traced (h : d.BlindTo e f) : d.traced.BlindTo e.traced (Traced.blind f) where
  read limit w := by
    simp [Devices.traced, Reply.traced, Traced.blind, h.read, Reply.map, Trace.blind, Contact.blind]
  write bytes w := by
    simp [Devices.traced, Reply.traced, Traced.blind, h.write, Reply.map, Trace.blind, Contact.blind]
  flush w := by
    simp [Devices.traced, Reply.traced, Traced.blind, h.flush, Reply.map, Trace.blind, Contact.blind]
  shutdown w := by
    simp [Devices.traced, Reply.traced, Traced.blind, h.shutdown, Reply.map, Trace.blind,
      Contact.blind]
  inspect event w := by
    simp [Devices.traced, Reply.traced, Traced.blind, h.inspect, Trace.blind, Contact.blind]

theorem deliver (h : d.BlindTo e f) (rest : Bytes) (w : α) :
    Lane.deliver d rest (f w) = (Lane.deliver e rest w).map f :=
  (Lane.deliver_map (fun bytes w => (h.write bytes w).symm) (fun w => (h.flush w).symm) rest w).symm

/-- A step over blind devices is the step of a lane without its verdicts. -/
theorem step (h : d.BlindTo e f) (lane : Lane) (stopped : Bool) (w : α) :
    lane.blind.step d stopped (f w) = (lane.step e stopped w).blind f := by
  unfold Lane.step
  rw [show lane.blind.phase = lane.phase from rfl]
  cases here : lane.phase with
  | reading =>
      cases stopped with
      | true => rfl
      | false =>
          simp only [Bool.false_eq_true, if_false, show lane.blind.capacity = lane.capacity from rfl,
            h.read, Reply.map]
          split <;> rfl
  | inspecting chunk =>
      simp only [show lane.blind.event chunk = lane.event chunk from rfl, h.inspect]
      rfl
  | writing chunk rest =>
      cases stopped with
      | true => rfl
      | false =>
          simp only [Bool.false_eq_true, if_false, h.deliver, Lane.Delivery.map]
          split <;>
            simp only [Lane.Step.blind, Lane.finish, List.map_append, Lane.acts_deliver_blind] <;> rfl
  | closing termination =>
      simp only [h.shutdown, Reply.map]
      split <;> rfl
  | finished termination => rfl

end Devices.BlindTo

/-! ## Stations whose inspectors leave the session running -/

/-- The inspector does not stop the session, nor does any that it installs. Otherwise it may do
whatever it likes. -/
inductive Inspector.Passive : Inspector → Prop where
  | noop : Passive .noop
  | preview (bytes : Nat) : Passive (.preview bytes)
  | capture (path : String) : Passive (.capture path)
  | custom {name label : String} {react : Nat → Event → Reaction Inspector}
      (goesOn : ∀ number event, (react number event).stopsSession = false)
      (installs : ∀ number event inspector,
        (react number event).installs = some (.ready inspector) → Passive inspector) :
      Passive (.custom name label react)

/-- The inspector that is installed is passive. -/
def Station.IsPassive (s : Station) : Prop := s.current.inspector.Passive

theorem Inspector.passive_of_build {disk left : Disk} {choice : InspectorChoice}
    {inspector : Inspector} (built : build disk choice = .ok (inspector, left)) : inspector.Passive := by
  cases choice with
  | noop =>
      cases built
      exact .noop
  | log bytes =>
      cases built
      exact .preview bytes
  | capture path =>
      simp only [build] at built
      split at built
      · cases built
        exact .capture path
      · cases built

theorem Station.IsPassive.installPlan {s next : Station} {plan : Plan Inspector}
    (ready : ∀ inspector, plan = .ready inspector → inspector.Passive)
    (installed : s.installPlan plan = .ok next) : next.IsPassive := by
  simp only [Station.installPlan, bind, Except.bind] at installed
  split at installed
  · cases installed
  · next built =>
      cases installed
      cases plan with
      | ready inspector =>
          cases built
          exact ready inspector rfl
      | chosen choice => exact Inspector.passive_of_build built

/-- A passive inspector leaves the session running and a passive one in its place. -/
theorem Station.IsPassive.inspect {s : Station} (h : s.IsPassive) (event : Event) (delivered : Nat) :
    (s.inspect event delivered).stopsSession = false ∧
      (s.inspect event delivered).station.IsPassive := by
  unfold Station.inspect Station.run
  unfold IsPassive at h
  cases here : s.current.inspector with
  | noop | preview bytes => exact ⟨rfl, h⟩
  | capture path =>
      dsimp only
      split <;> exact ⟨rfl, h⟩
  | custom name label react =>
      rw [here] at h
      cases h with
      | custom goesOn installs =>
          refine ⟨goesOn _ _, ?_⟩
          dsimp only
          split
          · rw [IsPassive, here]
            exact .custom goesOn installs
          · next plan planned =>
              cases installed : Station.installPlan _ plan with
              | error fault =>
                  rw [IsPassive, Except.toOption, Option.getD_none, here]
                  exact .custom goesOn installs
              | ok next =>
                  refine Station.IsPassive.installPlan ?_ installed
                  rintro inspector rfl
                  exact installs _ _ inspector planned

/-! ## Inspectors that do what they like -/

/-- Whatever is shown chunks: it may look at the streams, and its own state changes as it likes, by which
it may also have itself replaced. -/
abbrev Hook (σ η : Type) := Event → σ → η → CallEnd × η

/-- Streams of which every chunk is shown to a hook. -/
def Devices.hooked (d : Devices σ) (hook : Hook σ η) : Devices (σ × η) where
  read limit w := (d.read limit w.1).map (·, w.2)
  write bytes w := (d.write bytes w.1).map (·, w.2)
  flush w := (d.flush w.1).map (·, w.2)
  shutdown w := (d.shutdown w.1).map (·, w.2)
  inspect event w :=
    let (ends, next) := hook event w.1 w.2
    ⟨ends.outcome.verdict, false, (w.1, next)⟩

/-- Whether showing a chunk to a hook breaks a task off. -/
def Hook.breaks (hook : Hook σ η) (event : Event) (w : σ × η) : Bool :=
  !(hook event w.1 w.2).1.isHarmless

def Devices.blind (d : Devices σ) : Devices σ :=
  { d with inspect := fun _ w => ⟨.accepted, false, w⟩ }

theorem Devices.blind_blindTo_hooked (d : Devices σ) (hook : Hook σ η) :
    d.blind.BlindTo (d.hooked hook) Prod.fst :=
  ⟨fun _ _ => rfl, fun _ _ => rfl, fun _ => rfl, fun _ => rfl, fun _ _ => rfl⟩

/-- The inspectors of a station that leave the session running. It is told how much was delivered. -/
def Station.hook (delivered : σ → Nat) : Hook σ { s : Station // s.IsPassive } :=
  fun event streams s =>
    let r := s.1.inspect event (delivered streams)
    (.harmless r.outcome, ⟨r.station, (s.2.inspect event (delivered streams)).2⟩)

/-- The station stops nothing by what it is shown. -/
theorem Station.inspect_hook (delivered : σ → Nat) (d : Devices σ) (event : Event)
    (w : σ × { s : Station // s.IsPassive }) :
    let r := w.2.1.inspect event (delivered w.1)
    let reply := (d.hooked (hook delivered)).inspect event w
    reply.value = r.outcome.verdict ∧ reply.stops = r.stopsSession ∧ reply.world.2.1 = r.station :=
  ⟨rfl, (w.2.2.inspect event (delivered w.1)).1.symm, rfl⟩

/-! ## Runs -/

/-- The same turn, with the devices' state seen through a map. -/
inductive Turn.Over (f : α → β) : Turn α → Turn β → Prop where
  | step : Over f .step .step
  | meanwhile (fires : Bool) {change : α → α} {seen : β → β} (same : ∀ w, f (change w) = seen (f w)) :
      Over f (.meanwhile fires change) (.meanwhile fires seen)

theorem Turn.over_steps (f : α → β) (n : Nat) :
    List.Forall₂ (Over f) (List.replicate n .step) (List.replicate n .step) := by
  induction n with
  | zero => exact .nil
  | succ n ih => exact .cons .step ih

namespace LaneRun

theorem turn_blind {e : Devices α} {d : Devices β} {f : α → β} (h : d.BlindTo e f)
    (r : LaneRun (Traced α)) {t : Turn α} {seen : Turn β} (alike : t.Over f seen) :
    (r.turn e.traced t.traced).blind (Traced.blind f) =
      (r.blind (Traced.blind f)).turn d.traced seen.traced := by
  cases alike with
  | step =>
      have same := h.traced.step r.lane r.stopped r.world
      simp only [turn, Turn.traced, advance, blind, same, Lane.Step.blind, List.map_append,
        List.map_reverse]
  | meanwhile fires same => simp only [turn, Turn.traced, blind, Traced.blind, same]

/-- A run without its verdicts is the run over blind devices. -/
theorem traced_blind {e : Devices α} {d : Devices β} {f : α → β} (h : d.BlindTo e f)
    (setup : LaneSetup) (stopped : Bool) (world : α) {turns : List (Turn α)} {seen : List (Turn β)}
    (alike : List.Forall₂ (Turn.Over f) turns seen) :
    (traced e setup stopped world turns).blind (Traced.blind f) =
      traced d setup stopped (f world) seen := by
  have follows (r : LaneRun (Traced α)) :
      (r.follow e.traced (turns.map Turn.traced)).blind (Traced.blind f) =
        (r.blind (Traced.blind f)).follow d.traced (seen.map Turn.traced) := by
    induction alike generalizing r with
    | nil => rfl
    | cons first _ ih =>
        simp only [follow, List.map_cons, List.foldl_cons] at ih ⊢
        rw [ih, turn_blind h r first]
  exact follows _

/-- Two runs over the same streams, with any two hooks. -/
theorem traced_agree (d : Devices σ) (hookA : Hook σ η) (hookB : Hook σ κ) (setup : LaneSetup)
    (stopped : Bool) (streams : σ) (a : η) (b : κ) {turns : List (Turn σ)}
    {turnsA : List (Turn (σ × η))} {turnsB : List (Turn (σ × κ))}
    (overA : List.Forall₂ (Turn.Over Prod.fst) turnsA turns)
    (overB : List.Forall₂ (Turn.Over Prod.fst) turnsB turns) :
    (traced (d.hooked hookA) setup stopped (streams, a) turnsA).blind (Traced.blind Prod.fst) =
      (traced (d.hooked hookB) setup stopped (streams, b) turnsB).blind (Traced.blind Prod.fst) :=
  (traced_blind (d.blind_blindTo_hooked hookA) setup stopped (streams, a) overA).trans
    (traced_blind (d.blind_blindTo_hooked hookB) setup stopped (streams, b) overB).symm

end LaneRun

/-! ## Tasks -/

theorem Trace.accepted_prefix {s t : Trace} (h : s.blind <+: t.blind) : s.accepted <+: t.accepted := by
  obtain ⟨more, eq⟩ := h
  refine ⟨Trace.accepted more, ?_⟩
  rw [← accepted_blind s, ← accepted_append, eq, accepted_blind]

namespace LaneTask

def turn (d : Devices ω) (breaks : Event → ω → Bool) (t : LaneTask ω) : Turn ω → LaneTask ω
  | .step => t.advance d breaks
  | .meanwhile fires change => { t with run := t.run.turn d (.meanwhile fires change) }

def follow (d : Devices ω) (breaks : Event → ω → Bool) (t : LaneTask ω) (turns : List (Turn ω)) :
    LaneTask ω :=
  turns.foldl (turn d breaks) t

/-- A task from its start, with a trace. -/
def traced (d : Devices ω) (breaks : Event → ω → Bool) (setup : LaneSetup) (stopped : Bool) (world : ω)
    (turns : List (Turn ω)) : LaneTask (Traced ω) :=
  follow d.traced (fun event w => breaks event w.world) (start setup stopped ⟨world, []⟩)
    (turns.map Turn.traced)

variable {ω : Type} {d : Devices ω} {breaks : Event → ω → Bool}

/-- A task has done what its lane does, or it was broken off on the way. -/
def KeepsTo (r : LaneRun (Traced ω)) (t : LaneTask (Traced ω)) : Prop :=
  if t.isBrokenOff then t.run.world.trace <+: r.world.trace else t.run = r

theorem KeepsTo.advance {r : LaneRun (Traced ω)} {t : LaneTask (Traced ω)} (h : t.KeepsTo r) :
    (t.advance d.traced fun event w => breaks event w.world).KeepsTo (r.advance d.traced) := by
  obtain ⟨run, isBrokenOff⟩ := t
  cases isBrokenOff with
  | true =>
      obtain ⟨contacts, s, _, eq⟩ := LaneRun.advance_moves d r
      have before : run.world.trace <+: r.world.trace := h
      rw [eq]
      exact before.trans (List.prefix_append _ _)
  | false =>
      obtain rfl : run = r := h
      simp only [LaneTask.advance, Bool.false_eq_true, if_false]
      cases here : run.lane.phase with
      | inspecting chunk =>
          dsimp only
          split
          · -- the broken task has shown the chunk too
            simp only [KeepsTo, if_true, LaneRun.advance, Lane.step, here]
            exact List.prefix_rfl
          · rfl
      | reading | writing | closing | finished => rfl

theorem KeepsTo.turn {r : LaneRun (Traced ω)} {t : LaneTask (Traced ω)} (h : t.KeepsTo r)
    (next : Turn ω) :
    (t.turn d.traced (fun event w => breaks event w.world) next.traced).KeepsTo
      (r.turn d.traced next.traced) := by
  cases next with
  | step => exact h.advance
  | meanwhile fires change =>
      obtain ⟨run, isBrokenOff⟩ := t
      cases isBrokenOff with
      | true => exact h
      | false =>
          obtain rfl : run = r := h
          rfl

theorem keepsTo_traced (d : Devices ω) (breaks : Event → ω → Bool) (setup : LaneSetup) (stopped : Bool)
    (world : ω) (turns : List (Turn ω)) :
    (traced d breaks setup stopped world turns).KeepsTo
      (LaneRun.traced d setup stopped world turns) := by
  induction turns using List.reverseRecOn with
  | nil => exact rfl
  | append_singleton turns next ih =>
      simp only [traced, follow, List.map_append, List.foldl_append] at ih ⊢
      rw [LaneRun.traced_concat]
      exact ih.turn next

theorem isBrokenOff_advance (harmless : ∀ event w, breaks event w = false) {t : LaneTask ω}
    (whole : t.isBrokenOff = false) : (t.advance d breaks).isBrokenOff = false := by
  simp only [LaneTask.advance, whole, harmless, Bool.false_eq_true, if_false]
  split <;> rfl

theorem isBrokenOff_follow (harmless : ∀ event w, breaks event w = false) {t : LaneTask ω}
    (whole : t.isBrokenOff = false) (turns : List (Turn ω)) :
    (t.follow d breaks turns).isBrokenOff = false := by
  induction turns generalizing t with
  | nil => exact whole
  | cons next rest ih =>
      cases next with
      | step => exact ih (isBrokenOff_advance harmless whole)
      | meanwhile fires change => exact ih (t := t.turn d breaks (.meanwhile fires change)) whole

/-- Two tasks over the same streams, with any two hooks. If neither is broken off, the same calls are
made of the streams with the same answers, the same octets are accepted, and the reports agree on
everything but the failed inspections, of which each counts its own. What others do to the inspectors
does not matter. A task that is broken off has nothing to report, and has delivered the beginning of what
the other delivers. It is never broken off if all that its hook hands out is harmless. -/
theorem inspectors_do_not_interfere (d : Devices σ) (hookA : Hook σ η) (hookB : Hook σ κ)
    (setup : LaneSetup) (stopped : Bool) (streams : σ) (a : η) (b : κ) {turns : List (Turn σ)}
    {turnsA : List (Turn (σ × η))} {turnsB : List (Turn (σ × κ))}
    (overA : List.Forall₂ (Turn.Over Prod.fst) turnsA turns)
    (overB : List.Forall₂ (Turn.Over Prod.fst) turnsB turns) :
    let taskA := traced (d.hooked hookA) hookA.breaks setup stopped (streams, a) turnsA
    let taskB := traced (d.hooked hookB) hookB.breaks setup stopped (streams, b) turnsB
    (taskA.isBrokenOff = false → taskB.isBrokenOff = false →
      taskA.run.world.world.1 = taskB.run.world.world.1 ∧
      taskA.run.world.trace.blind = taskB.run.world.trace.blind ∧
      taskA.run.world.trace.accepted = taskB.run.world.trace.accepted ∧
      taskA.run.stopped = taskB.run.stopped ∧ taskA.run.lane.phase = taskB.run.lane.phase ∧
      taskA.report?.map LaneReport.blind = taskB.report?.map LaneReport.blind ∧
      (∀ report, taskA.report? = some report →
        report.inspectionFailures = UInt64.ofNat taskA.run.world.trace.failures) ∧
      (∀ report, taskB.report? = some report →
        report.inspectionFailures = UInt64.ofNat taskB.run.world.trace.failures)) ∧
    (taskA.isBrokenOff = true → taskA.report? = none ∧
      (taskB.isBrokenOff = false →
        taskA.run.world.trace.blind <+: taskB.run.world.trace.blind ∧
        taskA.run.world.trace.accepted <+: taskB.run.world.trace.accepted)) ∧
    ((∀ event w x, (hookA event w x).1.isHarmless = true) → taskA.isBrokenOff = false) := by
  intro taskA taskB
  have keepsA : taskA.KeepsTo (.traced (d.hooked hookA) setup stopped (streams, a) turnsA) :=
    keepsTo_traced ..
  have keepsB : taskB.KeepsTo (.traced (d.hooked hookB) setup stopped (streams, b) turnsB) :=
    keepsTo_traced ..
  have same := LaneRun.traced_agree d hookA hookB setup stopped streams a b overA overB
  obtain ⟨lane, stop, world, _⟩ := LaneRun.mk.inj same
  obtain ⟨seen, calls⟩ := Traced.mk.inj world
  refine ⟨fun wholeA wholeB => ?_, fun broken => ⟨by rw [report?, if_pos broken], fun wholeB => ?_⟩,
    fun harmless => isBrokenOff_follow (fun event w => by simp [Hook.breaks, harmless]) rfl _⟩
  · simp only [KeepsTo, wholeA, wholeB, Bool.false_eq_true, if_false] at keepsA keepsB
    simp only [report?, wholeA, wholeB, Bool.false_eq_true, if_false, keepsA, keepsB]
    have phase := congrArg Lane.phase lane
    refine ⟨seen, calls, ?_, stop, phase, ?_, ?_, ?_⟩
    · rw [← Trace.accepted_blind, calls, Trace.accepted_blind]
    · rw [← Lane.report?_blind, lane, Lane.report?_blind]
    · exact fun report ended => LaneRun.inspectionFailures_of_report turnsA ended
    · exact fun report ended => LaneRun.inspectionFailures_of_report turnsB ended
  · simp only [KeepsTo, broken, if_true] at keepsA
    simp only [KeepsTo, wholeB, Bool.false_eq_true, if_false] at keepsB
    have started : taskA.run.world.trace.blind <+: taskB.run.world.trace.blind := by
      rw [keepsB, ← calls]
      exact keepsA.map Contact.blind
    exact ⟨started, Trace.accepted_prefix started⟩

/-- Two reads and then the end, and a destination that accepts one octet at first. -/
def bench : Bench :=
  ⟨[.data [1, 2], .data [3]], [.accept (some 1) false], [], none, .start .noop ⟨[]⟩ "", 0⟩

/-- The task over this bench, whose own station is not asked. -/
def ofHook (hook : Hook Bench η) (x : η) : LaneTask (Traced (Bench × η)) :=
  traced (Bench.devices.hooked hook) hook.breaks ⟨"s", 1, .client, 8⟩ false (bench, x)
    (List.replicate 8 .step)

/-- Panics at every chunk, and has an inspector installed that finds fault with every chunk. -/
def panicking : Inspector :=
  let faulty : Inspector :=
    .custom "faulty" "f" fun _ _ => ⟨.returned (.failed (.message "no")), none, false⟩
  .custom "panicking" "p" fun _ _ => ⟨.panicked .other, some (.ready faulty), false⟩

theorem passive_panicking : panicking.Passive := by
  refine .custom (fun _ _ => rfl) fun _ _ inspector installed => ?_
  cases installed
  exact .custom (fun _ _ => rfl) fun _ _ _ installed => nomatch installed

/-- An inspector that panics and has one installed that finds fault, against one that looks away. -/
theorem inspectors_do_not_interfere_swapping :
    let taskA := ofHook (Station.hook Bench.delivered) ⟨.start panicking ⟨[]⟩ "", passive_panicking⟩
    let taskB := ofHook (Station.hook Bench.delivered) ⟨.start .noop ⟨[]⟩ "", .noop⟩
    taskA.report? = some ⟨.client, 3, 2, 2, .peerClosed⟩ ∧
      taskB.report? = some ⟨.client, 3, 2, 0, .peerClosed⟩ ∧
      taskA.run.world.trace.accepted = taskB.run.world.trace.accepted := by
  let hook : Hook Bench { s : Station // s.IsPassive } := Station.hook Bench.delivered
  have steps := Turn.over_steps (α := Bench × { s : Station // s.IsPassive }) Prod.fst 8
  have either (a b : { s : Station // s.IsPassive }) :=
    inspectors_do_not_interfere Bench.devices hook hook ⟨"s", 1, .client, 8⟩ false bench a b steps steps
  have whole (a : { s : Station // s.IsPassive }) : (ofHook hook a).isBrokenOff = false :=
    (either a a).2.2 fun _ _ _ => rfl
  refine ⟨?_, ?_, ((either _ _).1 (whole _) (whole _)).2.2.1⟩
  · decide +kernel
  · decide +kernel

/-- An inspector panics with something that panics when it is thrown away. Its chunk is never forwarded,
and the task reports nothing. -/
theorem bursting_payload_interferes :
    ¬∀ hookA hookB : Hook Bench Unit,
      (ofHook hookA ()).run.world.trace.accepted = (ofHook hookB ()).run.world.trace.accepted ∧
        (ofHook hookA ()).report?.map LaneReport.blind =
          (ofHook hookB ()).report?.map LaneReport.blind := by
  intro claimed
  have same := (claimed (fun _ _ x => (.burstingPayload .other, x))
    (fun _ _ x => (.harmless (.returned .accepted), x))).1
  revert same
  decide +kernel

end LaneTask

end Wiretap
