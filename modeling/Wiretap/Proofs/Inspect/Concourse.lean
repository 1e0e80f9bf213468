import Mathlib.Data.List.Basic
import Wiretap.Inspect.Station
/-! # Everybody who uses a station

Any number of users inspect traffic at a station and install inspectors there. All of them take
their steps in any order. An inspection picks up the installed inspector and then runs it, which may
install another one before the inspection ends. An installation first builds its inspector, then puts
it in the place of the installed one, and then reports so.
-/

namespace Wiretap

/-! ## Installations and inspections in steps -/

namespace Station

/-- Put another inspector in the place of the installed one, and say nothing yet. -/
def exchange (s : Station) (inspector : Inspector) : Station :=
  { s with current := ⟨inspector, s.calls.length⟩, calls := s.calls ++ [0] }

/-- The entry about an inspector that was replaced by another one. -/
def swapEntry (replaced now : Installed) : Entry :=
  .info .station "Inspector swapped"
    [("previous", .quoted replaced.inspector.name), ("current", .text now.inspector.name)]

theorem install_eq (s : Station) (inspector : Inspector) :
    s.install inspector =
      (s.exchange inspector).log (swapEntry s.current ⟨inspector, s.calls.length⟩) :=
  rfl

/-- What an inspector has come to by itself, and what it is yet to install. -/
structure Reacted where
  outcome : Outcome
  stopsSession : Bool
  installs : Option (Plan Inspector)
  station : Station

/-- Run an inspector up to where it installs another one. -/
def react (s : Station) (picked : Installed) (e : Event) (delivered : Nat) : Reacted :=
  match picked.inspector with
  | .custom _ label react =>
    let number := s.calls.getD picked.serial 0 + 1
    let note : Note := ⟨label, e.localPort, e.direction, e.chunk, delivered⟩
    let reaction := react number e
    ⟨reaction.outcome, reaction.stopsSession, reaction.installs,
      { s with
        calls := s.calls.set picked.serial number
        newestNotes := note :: s.newestNotes }⟩
  | .noop | .preview _ | .capture _ =>
    let r := s.run picked e delivered
    ⟨r.outcome, r.stopsSession, none, r.station⟩

theorem run_eq_react (s : Station) (picked : Installed) (e : Event) (delivered : Nat) :
    s.run picked e delivered =
      let r := s.react picked e delivered
      ⟨r.outcome, r.stopsSession,
        match r.installs with
        | none => r.station
        | some plan => (r.station.installPlan plan).toOption.getD r.station⟩ := by
  obtain ⟨inspector, serial⟩ := picked
  cases inspector with
  | noop | preview | capture => rfl
  | custom name label react =>
      cases installs : (react (s.calls.getD serial 0 + 1) e).installs <;>
        simp only [run, Station.react, installs]

end Station

/-! ## Users -/

/-- Where an installation is. -/
inductive Swap where
  | planned (plan : Plan Inspector)
  | built (inspector : Inspector)
  /-- The other inspector is in its place, which is yet to be reported. -/
  | installed (replaced now : Installed)

inductive Usage where
  /-- An inspection was asked for. -/
  | arrived (e : Event) (delivered : Nat)
  /-- It has picked up the installed inspector. -/
  | holding (picked : Installed) (e : Event) (delivered : Nat)
  /-- An inspector is being installed, in the middle of an inspection with a verdict or by itself. -/
  | swapping (verdict : Option Verdict) (swap : Swap)
  | leaving (verdict : Verdict)
  | gone

/-- What a user does that others can see. -/
inductive Mark where
  | begins
  | picks (picked : Installed)
  | runs (picked : Installed) (outcome : Outcome)
  /-- An inspector takes the place of another one. -/
  | installs (replaced now : Installed)
  /-- An installation is reported, and over. -/
  | tells (replaced now : Installed)
  | ends (verdict : Verdict)

/-- What a user is about after an installation. -/
def Usage.after : Option Verdict → Usage
  | some verdict => .leaving verdict
  | none => .gone

structure Stride where
  usage : Usage
  station : Station
  mark : Option Mark := none

def Usage.step (s : Station) : Usage → Stride
  | .arrived e delivered => ⟨.holding s.current e delivered, s, some (.picks s.current)⟩
  | .holding picked e delivered =>
    let r := s.react picked e delivered
    let next : Usage := match r.installs with
      | some plan => .swapping (some r.outcome.verdict) (.planned plan)
      | none => .leaving r.outcome.verdict
    ⟨next, r.station, some (.runs picked r.outcome)⟩
  | .swapping verdict (.planned plan) =>
    match Inspector.ofPlan s.disk plan with
    | .error _ => ⟨.after verdict, s, none⟩
    | .ok (inspector, disk) => ⟨.swapping verdict (.built inspector), { s with disk }, none⟩
  | .swapping verdict (.built inspector) =>
    let t := s.exchange inspector
    ⟨.swapping verdict (.installed s.current t.current), t, some (.installs s.current t.current)⟩
  | .swapping verdict (.installed replaced now) =>
    ⟨.after verdict, s.log (Station.swapEntry replaced now), some (.tells replaced now)⟩
  | .leaving verdict => ⟨.gone, s, some (.ends verdict)⟩
  | .gone => ⟨.gone, s, none⟩

/-- What a step of a user can be. -/
inductive Usage.Steps (s : Station) : Usage → Stride → Prop where
  | picks {e : Event} {delivered : Nat} :
      Steps s (.arrived e delivered) ⟨.holding s.current e delivered, s, some (.picks s.current)⟩
  | runs {picked : Installed} {e : Event} {delivered : Nat} {r : Station.Reacted}
      (reacted : s.react picked e delivered = r) :
      Steps s (.holding picked e delivered)
        ⟨.leaving r.outcome.verdict, r.station, some (.runs picked r.outcome)⟩
  | runsTo {picked : Installed} {e : Event} {delivered : Nat} {r : Station.Reacted}
      {plan : Plan Inspector} (reacted : s.react picked e delivered = r) :
      Steps s (.holding picked e delivered)
        ⟨.swapping (some r.outcome.verdict) (.planned plan), r.station, some (.runs picked r.outcome)⟩
  | fails {verdict : Option Verdict} {plan : Plan Inspector} :
      Steps s (.swapping verdict (.planned plan)) ⟨.after verdict, s, none⟩
  | builds {verdict : Option Verdict} {plan : Plan Inspector} {inspector : Inspector} {disk : Disk} :
      Steps s (.swapping verdict (.planned plan))
        ⟨.swapping verdict (.built inspector), { s with disk }, none⟩
  | installs {verdict : Option Verdict} {inspector : Inspector} {t : Station}
      (exchanged : s.exchange inspector = t) :
      Steps s (.swapping verdict (.built inspector))
        ⟨.swapping verdict (.installed s.current t.current), t, some (.installs s.current t.current)⟩
  | tells {verdict : Option Verdict} {replaced now : Installed} :
      Steps s (.swapping verdict (.installed replaced now))
        ⟨.after verdict, s.log (Station.swapEntry replaced now), some (.tells replaced now)⟩
  | ends {verdict : Verdict} : Steps s (.leaving verdict) ⟨.gone, s, some (.ends verdict)⟩
  | rests : Steps s .gone ⟨.gone, s, none⟩

theorem Usage.step_steps (s : Station) (v : Usage) : v.Steps s (v.step s) := by
  cases v with
  | arrived => exact .picks
  | holding picked e delivered =>
      simp only [step]
      split
      · exact .runsTo rfl
      · exact .runs rfl
  | swapping verdict swap =>
      cases swap with
      | planned plan =>
          simp only [step]
          split
          · exact .fails
          · exact .builds
      | built inspector => exact .installs rfl
      | installed => exact .tells
  | leaving => exact .ends
  | gone => exact .rests

abbrev Diary := List (Nat × Mark)

/-- A station with its users, by their numbers, and what they did so far. -/
structure Concourse where
  station : Station
  usages : List Usage
  diary : Diary

namespace Concourse

def start (inspector : Inspector) (disk : Disk) (now : String) : Concourse :=
  ⟨.start inspector disk now, [], []⟩

inductive Move where
  | inspects (e : Event) (delivered : Nat)
  | swaps (plan : Plan Inspector)
  | steps (user : Nat)
  /-- Time passes, and others change the disk. -/
  | besides (disk : Disk) (now : String)

def move (c : Concourse) : Move → Concourse
  | .inspects e delivered =>
    { c with
      usages := c.usages ++ [.arrived e delivered]
      diary := c.diary ++ [(c.usages.length, .begins)] }
  | .swaps plan => { c with usages := c.usages ++ [.swapping none (.planned plan)] }
  | .steps user =>
    match c.usages[user]? with
    | some v =>
      let t := v.step c.station
      ⟨t.station, c.usages.set user t.usage, c.diary ++ t.mark.toList.map (user, ·)⟩
    | none => c
  | .besides disk now => { c with station := { c.station with disk, now } }

def run (c : Concourse) (moves : List Move) : Concourse := moves.foldl move c

end Concourse

/-! ## A user who is left alone -/

/-- What a user comes to in some steps that nobody gets in between, and what others see of it. -/
def Usage.follow (s : Station) (v : Usage) : Nat → Station × Usage × List Mark
  | 0 => (s, v, [])
  | n + 1 =>
    let t := v.step s
    let (s, v, marks) := t.usage.follow t.station n
    (s, v, t.mark.toList ++ marks)

theorem Concourse.move_steps {c : Concourse} {user : Nat} {v : Usage}
    (here : c.usages[user]? = some v) :
    c.move (.steps user) =
      ⟨(v.step c.station).station, c.usages.set user (v.step c.station).usage,
        c.diary ++ (v.step c.station).mark.toList.map (user, ·)⟩ := by
  simp only [move, here]

theorem Concourse.run_steps {c : Concourse} {user : Nat} {v : Usage}
    (here : c.usages[user]? = some v) (n : Nat) :
    c.run (.replicate n (.steps user)) =
      ⟨(v.follow c.station n).1, c.usages.set user (v.follow c.station n).2.1,
        c.diary ++ (v.follow c.station n).2.2.map (user, ·)⟩ := by
  induction n generalizing c v with
  | zero =>
      obtain ⟨within, rfl⟩ := List.getElem?_eq_some_iff.mp here
      simp [run, Usage.follow]
  | succ n ih =>
      have within := (List.getElem?_eq_some_iff.mp here).1
      change run (c.move (.steps user)) _ = _
      rw [move_steps here, ih (List.getElem?_set_self within)]
      simp [Usage.follow]

namespace Usage

variable (s : Station) (n : Nat)

theorem follow_gone : gone.follow s n = (s, gone, []) := by
  induction n with
  | zero => rfl
  | succ n ih => simp [follow, step, ih]

theorem follow_after (verdict : Option Verdict) :
    (after verdict).follow s (n + 1) = (s, gone, verdict.toList.map .ends) := by
  cases verdict <;> simp [after, follow, step, follow_gone]

theorem follow_installed (verdict : Option Verdict) (replaced now : Installed) :
    (swapping verdict (.installed replaced now)).follow s (n + 2) =
      (s.log (Station.swapEntry replaced now), gone,
        .tells replaced now :: verdict.toList.map .ends) := by
  rw [follow]
  simp only [step, follow_after]
  rfl

theorem follow_built (verdict : Option Verdict) (inspector : Inspector) :
    (swapping verdict (.built inspector)).follow s (n + 3) =
      (s.install inspector, gone, .installs s.current (s.exchange inspector).current ::
        .tells s.current (s.exchange inspector).current :: verdict.toList.map .ends) := by
  rw [follow]
  simp only [step, follow_installed]
  rfl

/-- An installation that nobody disturbs. -/
theorem follow_planned (verdict : Option Verdict) (plan : Plan Inspector) : ∃ own,
    (swapping verdict (.planned plan)).follow s (n + 4) =
      ((s.installPlan plan).toOption.getD s, gone, own ++ verdict.toList.map .ends) := by
  rw [follow]
  simp only [step, Station.installPlan, bind, Except.bind]
  cases built : Inspector.ofPlan s.disk plan with
  | error fault =>
      simp only [follow_after]
      exact ⟨[], rfl⟩
  | ok made =>
      simp only [follow_built]
      exact ⟨[_, _], rfl⟩

theorem follow_holding (picked : Installed) (e : Event) (delivered : Nat) : ∃ own,
    (holding picked e delivered).follow s (n + 5) =
      ((s.run picked e delivered).station, gone,
        own ++ [.ends (s.run picked e delivered).outcome.verdict]) := by
  rw [follow]
  simp only [step, Station.run_eq_react]
  generalize s.react picked e delivered = r
  cases r.installs with
  | none =>
      have leaves := follow_after r.station (n + 3) (some r.outcome.verdict)
      simp only [after] at leaves
      simp only [leaves]
      exact ⟨[_], rfl⟩
  | some plan =>
      obtain ⟨own, swaps⟩ := follow_planned r.station n (some r.outcome.verdict) plan
      simp only [swaps]
      exact ⟨_ :: own, rfl⟩

/-- An inspection that nobody disturbs. -/
theorem follow_arrived (e : Event) (delivered : Nat) : ∃ own,
    (arrived e delivered).follow s (n + 6) =
      ((s.inspect e delivered).station, gone,
        own ++ [.ends (s.inspect e delivered).outcome.verdict]) := by
  obtain ⟨own, follows⟩ := follow_holding s n s.current e delivered
  rw [follow]
  simp only [step, follows]
  exact ⟨_ :: own, rfl⟩

/-- Six steps are enough for every user. -/
theorem follow_six (v : Usage) : (v.follow s 6).2.1 = gone := by
  cases v with
  | arrived e delivered =>
      obtain ⟨own, follows⟩ := follow_arrived s 0 e delivered
      rw [follows]
  | holding picked e delivered =>
      obtain ⟨own, follows⟩ := follow_holding s 1 picked e delivered
      rw [follows]
  | swapping verdict swap =>
      cases swap with
      | planned plan =>
          obtain ⟨own, follows⟩ := follow_planned s 2 verdict plan
          rw [follows]
      | built inspector => rw [follow_built s 3]
      | installed replaced now => rw [follow_installed s 4]
  | leaving verdict => exact congrArg (·.2.1) (follow_after s 5 (some verdict))
  | gone => rw [follow_gone]

end Usage

namespace Concourse

theorem gone_of_steps {c : Concourse} {user : Nat} {v : Usage} (here : c.usages[user]? = some v) :
    (c.run (.replicate 6 (.steps user))).usages[user]? = some .gone := by
  have within := (List.getElem?_eq_some_iff.mp here).1
  rw [run_steps here, v.follow_six c.station, List.getElem?_set_self within]

/-- An inspection that nobody disturbs does what inspecting at once does. -/
theorem inspects_alone (c : Concourse) (e : Event) (delivered : Nat) : ∃ own : List Mark,
    let r := c.station.inspect e delivered
    let user := c.usages.length
    (c.move (.inspects e delivered)).run (.replicate 6 (.steps user)) =
      ⟨r.station, c.usages ++ [.gone],
        c.diary ++ [(user, .begins)] ++ own.map (user, ·) ++ [(user, .ends r.outcome.verdict)]⟩ := by
  obtain ⟨own, follows⟩ := Usage.follow_arrived c.station 0 e delivered
  refine ⟨own, ?_⟩
  have here : (c.move (.inspects e delivered)).usages[c.usages.length]? =
      some (.arrived e delivered) := by simp [move]
  dsimp only
  rw [run_steps here]
  simp only [move, Nat.zero_add] at follows ⊢
  rw [follows]
  simp

end Concourse

end Wiretap
