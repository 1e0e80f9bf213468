import Wiretap.Proofs.Lane.Delivery
import Wiretap.Proofs.Lane.Stopping
/-! # How a lane leaves its loop

The calls of a lane tell why it ended: its last read or its last attempt to hand something on says
that the source ended or what failed, and otherwise the lane was stopped, which it sees when it looks
at the stop signal. It always leaves in the same way: it fires the stop signal, shuts the destination
down once, and reports what it had reached before.
-/

namespace Wiretap

variable {ω : Type}

/-! ## What calls tell -/

namespace Contact

def readAnswer? : Contact → Option (Poll (Except IoFault Bytes))
  | .read _ answer => some answer
  | _ => none

/-- How it went to hand something to the destination: the fault when it failed. A write of which
nothing is accepted fails. -/
def handing? : Contact → Option (Option IoFault)
  | .write _ (.ready (.error fault)) | .flush (.ready (.error fault)) => some (some fault)
  | .write _ (.ready (.ok 0)) => some (some .wroteNothing)
  | .write .. | .flush _ => some none
  | _ => none

end Contact

namespace Trace

def lastRead? (t : Trace) : Option (Poll (Except IoFault Bytes)) :=
  (t.filterMap Contact.readAnswer?).getLast?

/-- How it went the last time that something was handed to the destination. -/
def lastHanding? (t : Trace) : Option (Option IoFault) := (t.filterMap Contact.handing?).getLast?

@[simp] theorem lastRead?_append (s t : Trace) :
    lastRead? (s ++ t) = t.lastRead?.or s.lastRead? := by
  rw [lastRead?, List.filterMap_append, List.getLast?_append]
  rfl

@[simp] theorem lastHanding?_append (s t : Trace) :
    lastHanding? (s ++ t) = t.lastHanding?.or s.lastHanding? := by
  rw [lastHanding?, List.filterMap_append, List.getLast?_append]
  rfl

@[simp] theorem lastRead?_singleton (c : Contact) : lastRead? [c] = c.readAnswer? := by
  cases h : c.readAnswer? <;> simp [lastRead?, h]

@[simp] theorem lastHanding?_singleton (c : Contact) : lastHanding? [c] = c.handing? := by
  cases h : c.handing? <;> simp [lastHanding?, h]

@[simp] theorem lastRead?_nil : lastRead? [] = none := rfl

@[simp] theorem lastHanding?_nil : lastHanding? [] = none := rfl

def ReadsOn (t : Trace) : Prop :=
  t.lastRead? ≠ some (.ready (.ok [])) ∧ ∀ fault, t.lastRead? ≠ some (.ready (.error fault))

/-- What was handed on last was no reason to end. -/
def HandsOn (t : Trace) : Prop := ∀ fault, t.lastHanding? ≠ some (some fault)

theorem ReadsOn.congr {s t : Trace} (h : s.ReadsOn) (same : t.lastRead? = s.lastRead?) : t.ReadsOn := by
  rw [ReadsOn, same]
  exact h

theorem HandsOn.congr {s t : Trace} (h : s.HandsOn) (same : t.lastHanding? = s.lastHanding?) :
    t.HandsOn := by
  rw [HandsOn, same]
  exact h

end Trace

namespace Lane

def Progress.fault? : Progress → Option IoFault
  | .failed fault => some fault
  | _ => none

theorem Delivers.lastRead?_eq {rest : Bytes} {contacts : Trace} {acts : List Act}
    {progress : Progress} (h : Delivers rest contacts acts progress) : contacts.lastRead? = none := by
  induction h with
  | accepts n more ih => exact ih
  | _ => rfl

theorem Delivers.lastHanding?_eq {rest : Bytes} {contacts : Trace} {acts : List Act}
    {progress : Progress} (h : Delivers rest contacts acts progress) :
    contacts.lastHanding? = some progress.fault? := by
  induction h with
  | @accepts rest contacts acts progress n more ih =>
      rw [← List.singleton_append, Trace.lastHanding?_append, ih]
      rfl
  | _ => rfl

/-- Why a lane ended, if it has, as its calls tell it. -/
inductive Tells (setup : LaneSetup) (t : Trace) : Option Termination → Prop where
  | goesOn (reads : t.ReadsOn) (hands : t.HandsOn) : Tells setup t none
  | sourceEnded (read : t.lastRead? = some (.ready (.ok []))) (hands : t.HandsOn) :
      Tells setup t (some .peerClosed)
  | readFailed {fault : IoFault} (read : t.lastRead? = some (.ready (.error fault)))
      (hands : t.HandsOn) :
      Tells setup t (some (.failed (.read setup.localPort setup.direction fault)))
  | handingFailed {fault : IoFault} (reads : t.ReadsOn)
      (handing : t.lastHanding? = some (some fault)) :
      Tells setup t (some (.failed (.write setup.localPort setup.direction fault)))
  | stopped (reads : t.ReadsOn) (hands : t.HandsOn) : Tells setup t (some .tornDown)

/-- Calls that neither read nor hand anything on tell nothing new. -/
theorem Tells.extend {setup : LaneSetup} {t contacts : Trace} {termination? : Option Termination}
    (h : Tells setup t termination?) (read : contacts.lastRead? = none)
    (handing : contacts.lastHanding? = none) : Tells setup (t ++ contacts) termination? := by
  have sameRead : (t ++ contacts).lastRead? = t.lastRead? := by
    rw [Trace.lastRead?_append, read, Option.none_or]
  have sameHanding : (t ++ contacts).lastHanding? = t.lastHanding? := by
    rw [Trace.lastHanding?_append, handing, Option.none_or]
  cases h with
  | goesOn reads hands => exact .goesOn (reads.congr sameRead) (hands.congr sameHanding)
  | sourceEnded read hands => exact .sourceEnded (sameRead.trans read) (hands.congr sameHanding)
  | readFailed read hands => exact .readFailed (sameRead.trans read) (hands.congr sameHanding)
  | handingFailed reads handing =>
      exact .handingFailed (reads.congr sameRead) (sameHanding.trans handing)
  | stopped reads hands => exact .stopped (reads.congr sameRead) (hands.congr sameHanding)

theorem Tells.inside {setup : LaneSetup} {t : Trace} (h : Tells setup t none) :
    t.ReadsOn ∧ t.HandsOn := by
  cases h with
  | goesOn reads hands => exact ⟨reads, hands⟩

section

variable {setup : LaneSetup} {t : Trace} {termination : Termination}
  (h : Tells setup t (some termination))

include h

theorem Tells.peerClosed_iff :
    termination = .peerClosed ↔ t.lastRead? = some (.ready (.ok [])) := by
  cases h with
  | sourceEnded read => simp [read]
  | readFailed read => simp [read]
  | handingFailed reads | stopped reads => simp [reads.1]

theorem Tells.readFailed_iff (fault : IoFault) :
    termination = .failed (.read setup.localPort setup.direction fault) ↔
      t.lastRead? = some (.ready (.error fault)) := by
  cases h with
  | sourceEnded read => simp [read]
  | readFailed read => simp [read]
  | handingFailed reads | stopped reads => simp [reads.2]

theorem Tells.handingFailed_iff (fault : IoFault) :
    termination = .failed (.write setup.localPort setup.direction fault) ↔
      t.lastHanding? = some (some fault) := by
  cases h with
  | handingFailed _ handing => simp [handing]
  | sourceEnded _ hands | readFailed _ hands | stopped _ hands => simp [hands fault]

theorem Tells.exhaustive :
    termination = .peerClosed ∨ termination = .tornDown ∨
      ∃ fault, termination = .failed (.read setup.localPort setup.direction fault) ∨
        termination = .failed (.write setup.localPort setup.direction fault) := by
  cases h with
  | sourceEnded => exact .inl rfl
  | stopped => exact .inr (.inl rfl)
  | readFailed => exact .inr (.inr ⟨_, .inl rfl⟩)
  | handingFailed => exact .inr (.inr ⟨_, .inr rfl⟩)

end

theorem Tells.moves {lane : Lane} {t contacts : Trace} {stopped : Bool} {s : Step ω}
    (h : Tells lane.setup t lane.phase.ending?) (moves : Moves lane stopped contacts s) :
    Tells lane.setup (t ++ contacts) s.lane.phase.ending? := by
  cases moves with
  | stopsReading here w | stopsWriting here w =>
      rw [here] at h
      rw [List.append_nil]
      exact .stopped h.inside.1 h.inside.2
  | readWaits here fires w =>
      rw [here] at h
      rw [here]
      refine .goesOn ?_ (h.inside.2.congr (by simp [Contact.handing?]))
      simp [Trace.ReadsOn, Contact.readAnswer?]
  | readFails here fault w =>
      rw [here] at h
      exact .readFailed (by simp [Contact.readAnswer?])
        (h.inside.2.congr (by simp [Contact.handing?]))
  | sourceEnds here w =>
      rw [here] at h
      exact .sourceEnded (by simp [Contact.readAnswer?])
        (h.inside.2.congr (by simp [Contact.handing?]))
  | reads here octet more fires w =>
      rw [here] at h
      refine .goesOn ?_ (h.inside.2.congr (by simp [Contact.handing?]))
      simp [Trace.ReadsOn, Contact.readAnswer?]
  | inspects here stopped verdict fires w =>
      rw [here] at h
      exact h.extend (by simp [Contact.readAnswer?]) (by simp [Contact.handing?])
  | writeWaits here delivers fires w | forwards here delivers fires w =>
      rw [here] at h
      refine .goesOn (h.inside.1.congr (by simp [delivers.lastRead?_eq])) ?_
      simp [Trace.HandsOn, delivers.lastHanding?_eq, Progress.fault?]
  | writeFails here delivers w =>
      rw [here] at h
      refine .handingFailed (h.inside.1.congr (by simp [delivers.lastRead?_eq])) ?_
      simp [delivers.lastHanding?_eq, Progress.fault?]
  | shutdownWaits here stopped fires w =>
      exact h.extend (by simp [Contact.readAnswer?]) (by simp [Contact.handing?])
  | shutsDown here stopped fires result w =>
      rw [here] at h
      exact h.extend (by simp [Contact.readAnswer?]) (by simp [Contact.handing?])
  | rests here stopped w => exact h.extend rfl rfl

end Lane

/-! ## The way out -/

/-- Whether an act belongs to a lane's way out of its loop. -/
def Act.takesLeave : Act → Bool
  | .stopped | .shutDown | .ended _ => true
  | _ => false

/-- A lane that goes on looks at the stop signal first. -/
def Phase.IsLook (phase : Phase) : Prop := phase = .reading ∨ ∃ chunk rest, phase = .writing chunk rest

theorem Phase.IsLook.inside {phase : Phase} (h : phase.IsLook) : phase.ending? = none := by
  rcases h with rfl | ⟨chunk, rest, rfl⟩ <;> rfl

/-- Nothing has been done about shutting the destination down. -/
def Trace.IsUntouched (t : Trace) : Prop := ∀ answer, .shutdown answer ∉ t

theorem Trace.IsUntouched.append {s t : Trace} (left : s.IsUntouched) (right : t.IsUntouched) :
    IsUntouched (s ++ t) := by
  intro answer member
  rcases List.mem_append.mp member with early | late
  · exact left answer early
  · exact right answer late

namespace Lane

theorem Delivers.isUntouched {rest : Bytes} {contacts : Trace} {acts : List Act}
    {progress : Progress} (h : Delivers rest contacts acts progress) : contacts.IsUntouched := by
  induction h with
  | accepts n more ih => simpa [Trace.IsUntouched] using ih
  | _ => simp [Trace.IsUntouched]

theorem Delivers.takesLeave_eq {rest : Bytes} {contacts : Trace} {acts : List Act}
    {progress : Progress} (h : Delivers rest contacts acts progress) :
    ∀ a ∈ acts, a.takesLeave = false := by
  induction h with
  | accepts n more ih => simpa [Act.takesLeave] using ih
  | _ => simp [Act.takesLeave]

/-- A lane that is still in its loop has done nothing about leaving. -/
structure Stays (t : Trace) (acts : List Act) : Prop where
  calls : t.IsUntouched
  acts : ∀ a ∈ acts, a.takesLeave = false

theorem Moves.stays {lane : Lane} {t contacts : Trace} {acts : List Act} {stopped : Bool} {s : Step ω}
    (h : Stays t acts) (moves : Moves lane stopped contacts s)
    (there : s.lane.phase.ending? = none) : Stays (t ++ contacts) (s.acts.reverse ++ acts) := by
  suffices step : contacts.IsUntouched ∧ ∀ a ∈ s.acts, a.takesLeave = false by
    refine ⟨h.calls.append step.1, fun a member => ?_⟩
    rcases List.mem_append.mp member with late | early
    · exact step.2 a (List.mem_reverse.mp late)
    · exact h.acts a early
  cases moves with
  | readWaits | reads | inspects => simp [Trace.IsUntouched, Act.takesLeave]
  | writeWaits here delivers => exact ⟨delivers.isUntouched, delivers.takesLeave_eq⟩
  | forwards here delivers =>
      refine ⟨delivers.isUntouched, fun a member => ?_⟩
      rcases List.mem_append.mp member with given | last
      · exact delivers.takesLeave_eq a given
      · rw [List.mem_singleton.mp last]
        rfl
  | stopsReading | stopsWriting | readFails | sourceEnds | writeFails =>
      simp [finish, Phase.ending?] at there
  | shutdownWaits here | rests here => simp [here, Phase.ending?] at there
  | shutsDown => simp [Phase.ending?] at there

/-- The step with which a lane leaves its loop. -/
structure Departs (lane : Lane) (stopped : Bool) (contacts : Trace) (s : Step ω)
    (termination : Termination) : Prop where
  lane_eq : s.lane = { lane with phase := .closing termination }
  fires : s.stopped = true
  calls : contacts.IsUntouched
  acts : ∃ before, s.acts = before ++ [.stopped] ∧ ∀ a ∈ before, a.takesLeave = false
  /-- It has looked at the stop signal, and this has gone before everything else. -/
  looks : lane.phase.IsLook
  torn_iff : termination = .tornDown ↔ stopped = true
  silent : stopped = true → contacts = []

theorem Moves.departs {lane : Lane} {contacts : Trace} {stopped : Bool} {s : Step ω}
    {termination : Termination} (moves : Moves lane stopped contacts s)
    (inside : lane.phase.ending? = none) (there : s.lane.phase.ending? = some termination) :
    Departs lane stopped contacts s termination := by
  cases moves with
  | stopsReading here w =>
      cases there
      exact ⟨rfl, rfl, by simp [Trace.IsUntouched], ⟨[], rfl, by simp⟩, .inl here, by simp, by simp⟩
  | stopsWriting here w =>
      cases there
      exact ⟨rfl, rfl, by simp [Trace.IsUntouched], ⟨[], rfl, by simp⟩, .inr ⟨_, _, here⟩, by simp,
        by simp⟩
  | readFails here fault w | sourceEnds here w =>
      cases there
      exact ⟨rfl, rfl, by simp [Trace.IsUntouched], ⟨[], rfl, by simp⟩, .inl here, by simp, by simp⟩
  | writeFails here delivers w =>
      cases there
      exact ⟨rfl, rfl, delivers.isUntouched, ⟨_, rfl, delivers.takesLeave_eq⟩, .inr ⟨_, _, here⟩,
        by simp, by simp⟩
  | readWaits here | writeWaits here | shutdownWaits here | rests here =>
      simp_all [Phase.ending?]
  | reads | inspects | forwards => simp [Phase.ending?, countForwarded] at there
  | shutsDown here => simp [here, Phase.ending?] at inside

/-- A look at a stop signal that has been fired takes a lane out of its loop. -/
theorem Moves.torn_of_look {lane : Lane} {contacts : Trace} {s : Step ω}
    (moves : Moves lane true contacts s) (look : lane.phase.IsLook) :
    s.lane.phase.ending? = some .tornDown := by
  cases moves with
  | stopsReading | stopsWriting => rfl
  | inspects here | shutdownWaits here | shutsDown here | rests here => simp [here, Phase.IsLook] at look

end Lane

namespace LaneRun

/-- What a lane has done since it left its loop: it waits for its destination to be shut down, or
that has been done and the lane has ended. -/
inductive Closing (left : LaneRun (Traced ω)) (termination : Termination) (r : LaneRun (Traced ω)) :
    Prop where
  | waits (polls : Nat) (lane : r.lane = left.lane)
      (calls : r.world.trace = left.world.trace ++ List.replicate polls (.shutdown .pending))
      (acts : r.acts = left.acts)
  | done (polls : Nat) (result : Except IoFault Unit)
      (lane : r.lane = { left.lane with phase := .finished termination })
      (calls : r.world.trace =
        left.world.trace ++ List.replicate polls (.shutdown .pending) ++
          [.shutdown (.ready result)])
      (acts : r.acts = .ended termination :: .shutDown :: left.acts)

theorem Closing.moves {left r : LaneRun (Traced ω)} {termination : Termination} {contacts : Trace}
    {stopped : Bool} {s : Lane.Step (Traced ω)} {w : Traced ω}
    (here : left.lane.phase = .closing termination) (h : Closing left termination r)
    (moves : Lane.Moves r.lane stopped contacts s) (trace : w.trace = r.world.trace ++ contacts) :
    Closing left termination ⟨s.lane, s.stopped, w, s.acts.reverse ++ r.acts⟩ := by
  cases h with
  | waits polls lane calls acts =>
      rw [← lane] at here
      cases moves with
      | shutdownWaits at_ stopped fires w =>
          refine .waits (polls + 1) lane ?_ acts
          rw [trace, calls, List.replicate_succ', List.append_assoc]
      | shutsDown at_ stopped fires result w =>
          obtain rfl : _ = termination := by simpa using at_.symm.trans here
          refine .done polls result (by rw [lane]) (by rw [trace, calls]) ?_
          rw [acts]
          rfl
      | _ at_ => simp [at_] at here
  | done polls result lane calls acts =>
      cases moves with
      | rests at_ stopped w =>
          refine .done polls result lane ?_ acts
          rw [trace, calls, List.append_nil]
      | _ at_ => simp [lane] at at_

theorem follow_closing (d : Devices ω) {left : LaneRun (Traced ω)} {termination : Termination}
    (here : left.lane.phase = .closing termination) (turns : List (Turn ω)) :
    Closing left termination (left.follow d.traced (turns.map Turn.traced)) := by
  induction turns using List.reverseRecOn with
  | nil => exact .waits 0 rfl (List.append_nil _).symm rfl
  | append_singleton turns t ih =>
      rw [List.map_append, List.map_singleton, follow_concat]
      cases t with
      | meanwhile fires change =>
          cases ih with
          | waits polls lane calls acts => exact .waits polls lane calls acts
          | done polls result lane calls acts => exact .done polls result lane calls acts
      | step =>
          obtain ⟨contacts, s, moves, eq⟩ :=
            advance_moves d (left.follow d.traced (turns.map Turn.traced))
          simp only [turn, Turn.traced, eq]
          exact ih.moves here moves rfl

theorem Closing.of_finished {left r : LaneRun (Traced ω)} {termination ending : Termination}
    (here : left.lane.phase = .closing termination) (h : Closing left termination r)
    (there : r.lane.phase = .finished ending) :
    (∃ polls result, r.world.trace = left.world.trace ++
      List.replicate polls (.shutdown .pending) ++ [.shutdown (.ready result)]) ∧
      r.acts = .ended termination :: .shutDown :: left.acts := by
  cases h with
  | waits polls lane =>
      rw [lane, here] at there
      cases there
  | done polls result lane calls acts => exact ⟨⟨polls, result, calls⟩, acts⟩

/-- The report of a lane tells what it had reached when it left its loop. -/
theorem Closing.report_eq {left r : LaneRun (Traced ω)} {termination : Termination}
    {report : LaneReport} (here : left.lane.phase = .closing termination)
    (h : Closing left termination r) (ended : r.lane.report? = some report) :
    report = ⟨left.lane.setup.direction, left.lane.bytes, left.lane.chunks,
      left.lane.inspectionFailures, termination⟩ := by
  cases h with
  | waits polls lane => simp [Lane.report?, Lane.termination?, lane, here] at ended
  | done polls result lane =>
      rw [lane] at ended
      exact (Option.some.inj ended).symm

variable (d : Devices ω) (setup : LaneSetup) (stopped : Bool) (world : ω)

theorem traced_append (early late : List (Turn ω)) :
    traced d setup stopped world (early ++ late) =
      (traced d setup stopped world early).follow d.traced (late.map Turn.traced) := by
  rw [traced, List.map_append, follow, List.foldl_append]
  rfl

theorem traced_tells (turns : List (Turn ω)) :
    let r := traced d setup stopped world turns
    Lane.Tells setup r.world.trace r.lane.phase.ending? := by
  refine (traced_invariant
    (P := fun r => r.lane.setup = setup ∧ Lane.Tells setup r.world.trace r.lane.phase.ending?)
    ⟨rfl, .goesOn (by simp [start, Trace.ReadsOn]) (by simp [start, Trace.HandsOn])⟩ ?_
    (fun _ _ _ h => h) turns).2
  rintro r ⟨rfl, tells⟩
  obtain ⟨contacts, s, moves, eq⟩ := advance_moves d r
  rw [eq]
  exact ⟨moves.setup_eq, tells.moves moves⟩

variable {d setup stopped world} in
theorem inside_of_concat {turns : List (Turn ω)} {t : Turn ω}
    (inside : (traced d setup stopped world (turns ++ [t])).lane.phase.ending? = none) :
    (traced d setup stopped world turns).lane.phase.ending? = none := by
  cases here : (traced d setup stopped world turns).lane.phase.ending? with
  | none => rfl
  | some termination =>
      rw [traced_concat, ending_turn t here] at inside
      cases inside

theorem traced_stays (turns : List (Turn ω)) :
    let r := traced d setup stopped world turns
    r.lane.phase.ending? = none → Lane.Stays r.world.trace r.acts := by
  intro r inside
  induction turns using List.reverseRecOn with
  | nil => exact ⟨by simp [r, traced_nil, start, Trace.IsUntouched], by simp [r, traced_nil, start]⟩
  | append_singleton turns t ih =>
      have earlier := inside_of_concat inside
      simp only [r, traced_concat] at inside ⊢
      cases t with
      | meanwhile fires change => exact ih earlier
      | step =>
          obtain ⟨contacts, s, moves, eq⟩ := advance_moves d (traced d setup stopped world turns)
          simp only [turn, Turn.traced, eq] at inside ⊢
          exact moves.stays (ih earlier) inside

/-- The lane has looked at the stop signal after it had been fired. -/
def SawStop (turns : List (Turn ω)) : Prop :=
  ∃ before, before ++ [.step] <+: turns ∧
    (traced d setup stopped world before).lane.phase.IsLook ∧
    (traced d setup stopped world before).stopped = true

variable {d setup stopped world}

/-- A lane that has ended left its loop with one of its steps. -/
theorem exists_departs {turns : List (Turn ω)} {termination : Termination}
    (ending : (traced d setup stopped world turns).lane.phase.ending? = some termination) :
    ∃ early late, turns = early ++ .step :: late ∧
      ∃ (contacts : Trace) (s : Lane.Step (Traced ω)), Lane.Departs (traced d setup stopped world early).lane
        (traced d setup stopped world early).stopped contacts s termination ∧
      Lane.Stays (traced d setup stopped world early).world.trace
        (traced d setup stopped world early).acts ∧
      traced d setup stopped world (early ++ [.step]) =
        ⟨s.lane, s.stopped,
          ⟨s.world.world, (traced d setup stopped world early).world.trace ++ contacts⟩,
          s.acts.reverse ++ (traced d setup stopped world early).acts⟩ := by
  induction turns using List.reverseRecOn with
  | nil => simp [traced_nil, start, Lane.start, Phase.ending?] at ending
  | append_singleton turns t ih =>
      cases here : (traced d setup stopped world turns).lane.phase.ending? with
      | some earlier =>
          have same := ending_turn (d := d) t here
          rw [← traced_concat, ending] at same
          obtain rfl := Option.some.inj same
          obtain ⟨early, late, eq, rest⟩ := ih here
          exact ⟨early, late ++ [t], by rw [eq, List.append_assoc, List.cons_append], rest⟩
      | none =>
          cases t with
          | meanwhile fires change =>
              rw [traced_concat] at ending
              cases here.symm.trans ending
          | step =>
              obtain ⟨contacts, s, moves, eq⟩ := advance_moves d (traced d setup stopped world turns)
              have step : traced d setup stopped world (turns ++ [.step]) = _ :=
                (traced_concat d setup stopped world turns .step).trans eq
              rw [step] at ending
              exact ⟨turns, [], rfl, contacts, s, moves.departs here ending,
                traced_stays d setup stopped world turns here, step⟩

theorem ending_append {early : List (Turn ω)} {termination : Termination}
    (here : (traced d setup stopped world early).lane.phase.ending? = some termination)
    (late : List (Turn ω)) :
    (traced d setup stopped world (early ++ late)).lane.phase.ending? = some termination := by
  induction late using List.reverseRecOn with
  | nil => rwa [List.append_nil]
  | append_singleton late t ih =>
      rw [← List.append_assoc, traced_concat]
      exact ending_turn t ih

/-- A lane has been stopped exactly when it saw the stop signal. -/
theorem sawStop_iff {turns : List (Turn ω)} :
    SawStop d setup stopped world turns ↔
      (traced d setup stopped world turns).lane.phase.ending? = some .tornDown := by
  constructor
  · rintro ⟨before, ⟨after, rfl⟩, look, fired⟩
    refine ending_append ?_ after
    obtain ⟨contacts, s, moves, eq⟩ := advance_moves d (traced d setup stopped world before)
    rw [fired] at moves
    have step : traced d setup stopped world (before ++ [.step]) = _ :=
      (traced_concat d setup stopped world before .step).trans eq
    rw [step]
    exact moves.torn_of_look look
  · intro torn
    obtain ⟨early, late, rfl, contacts, s, departs, _⟩ := exists_departs torn
    exact ⟨early, ⟨late, by simp⟩, departs.looks, departs.torn_iff.mp rfl⟩

end LaneRun

/-! ## Shutting down -/

/-- The same devices, shut down in another way. -/
def Devices.shuttingDown (d : Devices ω) (shutdown : ω → Reply ω (Poll (Except IoFault Unit))) :
    Devices ω :=
  { d with shutdown }

/-- How the destination is shut down plays no part in the loop. -/
theorem Lane.step_shuttingDown (d : Devices ω) (shutdown : ω → Reply ω (Poll (Except IoFault Unit)))
    (lane : Lane) (stopped : Bool) (w : Traced ω) (inside : lane.phase.ending? = none) :
    lane.step (d.shuttingDown shutdown).traced stopped w = lane.step d.traced stopped w := by
  unfold step
  cases here : lane.phase with
  | reading | inspecting chunk => rfl
  | writing chunk rest =>
      have same : deliver (d.shuttingDown shutdown).traced rest w = deliver d.traced rest w :=
        deliver_map (e := (d.shuttingDown shutdown).traced) (f := id) (fun _ _ => rfl)
          (fun _ => rfl) rest w
      simp only [same]
  | closing termination | finished termination => simp [here, Phase.ending?] at inside

namespace LaneRun

variable {d : Devices ω} {setup : LaneSetup} {stopped : Bool} {world : ω}

theorem turn_shuttingDown (shutdown : ω → Reply ω (Poll (Except IoFault Unit)))
    {r : LaneRun (Traced ω)} (inside : r.lane.phase.ending? = none) (t : Turn ω) :
    r.turn (d.shuttingDown shutdown).traced t.traced = r.turn d.traced t.traced := by
  cases t with
  | meanwhile fires change => rfl
  | step => simp only [turn, Turn.traced, advance, Lane.step_shuttingDown d shutdown _ _ _ inside]

theorem traced_shuttingDown (shutdown : ω → Reply ω (Poll (Except IoFault Unit)))
    {turns : List (Turn ω)}
    (inside : (traced d setup stopped world turns).lane.phase.ending? = none) :
    traced (d.shuttingDown shutdown) setup stopped world turns =
      traced d setup stopped world turns := by
  induction turns using List.reverseRecOn with
  | nil => rfl
  | append_singleton turns t ih =>
      have earlier := inside_of_concat inside
      rw [traced_concat, traced_concat, ih earlier, turn_shuttingDown shutdown earlier]

/-- Why a lane ended, and how it left. The source ended or a read failed exactly when the last read
says so, a write failed exactly when the last attempt to hand something on did, and the lane was
stopped exactly when it looked at the stop signal after that had been fired, whatever its devices
would have said. In each case the lane fired the signal and then shut the destination down, once, and
did nothing else; how the destination took that does not matter to the report. -/
theorem leaves_cleanly (turns : List (Turn ω)) {report : LaneReport}
    (ended : (traced d setup stopped world turns).lane.report? = some report) :
    let r := traced d setup stopped world turns
    let t := r.world.trace
    ((report.termination = .peerClosed ↔ t.lastRead? = some (.ready (.ok []))) ∧
      (∀ fault, report.termination = .failed (.read setup.localPort setup.direction fault) ↔
        t.lastRead? = some (.ready (.error fault))) ∧
      (∀ fault, report.termination = .failed (.write setup.localPort setup.direction fault) ↔
        t.lastHanding? = some (some fault)) ∧
      (report.termination = .tornDown ↔ SawStop d setup stopped world turns) ∧
      (report.termination = .peerClosed ∨ report.termination = .tornDown ∨
        ∃ fault, report.termination = .failed (.read setup.localPort setup.direction fault) ∨
          report.termination = .failed (.write setup.localPort setup.direction fault))) ∧
    ∃ early late, turns = early ++ .step :: late ∧
      let before := traced d setup stopped world early
      let left := traced d setup stopped world (early ++ [.step])
      (before.stopped = true →
        report.termination = .tornDown ∧ left.world.trace = before.world.trace) ∧
      left.stopped = true ∧ left.world.trace.IsUntouched ∧
      (∃ polls result, t = left.world.trace ++ List.replicate polls (.shutdown .pending) ++
        [.shutdown (.ready result)]) ∧
      (∃ acts, r.acts = .ended report.termination :: .shutDown :: .stopped :: acts ∧
        ∀ a ∈ acts, a.takesLeave = false) ∧
      ∀ shutdown late' report',
        (traced (d.shuttingDown shutdown) setup stopped world
          (early ++ .step :: late')).lane.report? = some report' → report' = report := by
  intro r t
  obtain ⟨phase, _⟩ := Lane.report?_eq_some ended
  have ending : r.lane.phase.ending? = some report.termination := by rw [phase]; rfl
  have tells := traced_tells d setup stopped world turns
  simp only [show (traced d setup stopped world turns).lane.phase.ending? = _ from ending] at tells
  obtain ⟨early, late, rfl, contacts, s, departs, stays, step⟩ := exists_departs ending
  refine ⟨⟨tells.peerClosed_iff, tells.readFailed_iff, tells.handingFailed_iff, ?_,
    tells.exhaustive⟩, early, late, rfl, ?_⟩
  · rw [sawStop_iff, ending, Option.some.injEq]
  intro before left
  have here : left.lane.phase = .closing report.termination := by
    simp only [left, step, departs.lane_eq]
  obtain ⟨acts, last, inside⟩ := departs.acts
  have fires : left.acts = .stopped :: (acts.reverse ++ before.acts) := by
    simp only [left, step, last, List.reverse_concat]
    rfl
  -- The rest of the run is a run from the moment at which the lane left.
  have closing : Closing left report.termination r := by
    simp only [r]
    rw [List.append_cons, traced_append]
    exact follow_closing d here late
  obtain ⟨calls, ends⟩ := closing.of_finished here phase
  refine ⟨fun fired => ⟨departs.torn_iff.mpr fired, ?_⟩, ?_, ?_, calls, ⟨_, by rw [ends, fires], ?_⟩,
    ?_⟩
  · simp only [left, step, departs.silent fired, List.append_nil, before]
  · simp only [left, step, departs.fires]
  · simp only [left, step]
    exact stays.calls.append departs.calls
  · intro a member
    rcases List.mem_append.mp member with new | old
    · exact inside a (List.mem_reverse.mp new)
    · exact stays.acts a old
  · intro shutdown late' report' ended'
    have within := departs.looks.inside
    have same : traced (d.shuttingDown shutdown) setup stopped world (early ++ [.step]) = left := by
      rw [traced_concat, traced_shuttingDown shutdown within, turn_shuttingDown shutdown within,
        ← traced_concat]
    rw [List.append_cons, traced_append, same] at ended'
    exact ((follow_closing _ here late').report_eq here ended').trans
      (closing.report_eq here ended).symm

/-- A destination that accepts nothing of a chunk and fails to be shut down, while nobody stops the
lane. -/
theorem leaves_cleanly_writing_nothing :
    let bench : Bench :=
      ⟨[.data [1, 2]], [.accept (some 0) false], [], some (.system Errno.brokenPipe),
        .start .noop ⟨[]⟩ "", 0⟩
    let turns : List (Turn Bench) := List.replicate 4 .step
    let setup : LaneSetup := ⟨"s", 1, .client, 4⟩
    let r := traced Bench.devices setup false bench turns
    r.lane.report? = some ⟨.client, 0, 0, 0, .failed (.write 1 .client .wroteNothing)⟩ ∧
      r.world.trace.lastHanding? = some (some .wroteNothing) ∧
      ¬SawStop Bench.devices setup false bench turns ∧
      ∃ acts, r.acts =
        .ended (.failed (.write 1 .client .wroteNothing)) :: .shutDown :: .stopped :: acts := by
  intro bench turns setup r
  have ended :
      r.lane.report? = some ⟨.client, 0, 0, 0, .failed (.write 1 .client .wroteNothing)⟩ := by
    decide +kernel
  obtain ⟨⟨_, _, handing, torn, _⟩, _, _, _, _, _, _, _, ⟨acts, ends, _⟩, _⟩ :=
    leaves_cleanly turns ended
  refine ⟨ended, (handing .wroteNothing).mp rfl, fun saw => ?_, acts, ends⟩
  exact absurd (torn.mpr saw) nofun

end LaneRun

end Wiretap
