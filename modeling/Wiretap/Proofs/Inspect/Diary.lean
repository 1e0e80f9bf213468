import Mathlib.Data.List.Induction
import Wiretap.Proofs.Inspect.Concourse
/-! # What the users of a station do

A diary says who did what at a station. Each mark fits to those before it: an inspector that is picked
up is the one that was installed last, and inspectors are numbered in the order in which they are
installed. Each user does things in one of a few orders, and leaves a mark with all that others see.
-/

namespace Wiretap

/-! ## What a diary says -/

def Mark.installed? : Mark → Option Installed
  | .installs _ now => some now
  | .begins | .picks _ | .runs .. | .tells .. | .ends _ => none

def Mark.told? : Mark → Option (Installed × Installed)
  | .tells replaced now => some (replaced, now)
  | .begins | .picks _ | .runs .. | .installs .. | .ends _ => none

/-- Whether a custom inspector is called that has a serial number. -/
def Mark.isCallOf (serial : Nat) : Mark → Bool
  | .runs ⟨.custom .., number⟩ _ => number == serial
  | .runs .. | .begins | .picks _ | .installs .. | .tells .. | .ends _ => false

namespace Diary

def marks (user : Nat) (d : Diary) : List Mark := (d.filter (·.1 = user)).map (·.2)

def lastInstalled (first : Installed) (d : Diary) : Installed :=
  d.foldl (fun current entry => entry.2.installed?.getD current) first

def swaps (d : Diary) : Nat := d.countP (·.2.installed?.isSome)

def told (d : Diary) : List (Installed × Installed) := d.filterMap (·.2.told?)

/-- How many times a custom inspector was called. -/
def callsOf (serial : Nat) (d : Diary) : Nat := d.countP (·.2.isCallOf serial)

variable {d before : Diary} {first : Installed} {user : Nat}

theorem mem_marks {m : Mark} : m ∈ marks user d ↔ (user, m) ∈ d := by
  simp [marks]

end Diary

/-- Whether a mark of a user fits to what was done before. -/
inductive Mark.Fits (first : Installed) (user : Nat) (before : Diary) : Mark → Prop where
  | begins (new : before.marks user = []) : Fits first user before .begins
  | picks (called : before.marks user = [.begins]) :
      Fits first user before (.picks (before.lastInstalled first))
  | runs {picked : Installed} {outcome : Outcome}
      (holds : before.marks user = [.begins, .picks picked]) :
      Fits first user before (.runs picked outcome)
  | installs {now : Installed} (serial : now.serial = before.swaps + 1) :
      Fits first user before (.installs (before.lastInstalled first) now)
  | tells {replaced now : Installed} (installed : .installs replaced now ∈ before.marks user) :
      Fits first user before (.tells replaced now)
  | ends {verdict : Verdict} : Fits first user before (.ends verdict)

/-- Everything that was done fits to what was done before. -/
def Diary.Fits (first : Installed) (d : Diary) : Prop :=
  ∀ before user m after, d = before ++ (user, m) :: after → m.Fits first user before

namespace Diary

variable {d : Diary} {first : Installed} {user : Nat} (mark : Option Mark)

theorem lastInstalled_note : lastInstalled first (d ++ mark.toList.map (user, ·)) =
    (mark.bind Mark.installed?).getD (d.lastInstalled first) := by
  cases mark <;> simp [lastInstalled]

theorem lastInstalled_concat (m : Mark) : lastInstalled first (d ++ [(user, m)]) =
    m.installed?.getD (d.lastInstalled first) :=
  lastInstalled_note (some m)

theorem swaps_note : swaps (d ++ mark.toList.map (user, ·)) =
    d.swaps + if (mark.bind Mark.installed?).isSome then 1 else 0 := by
  cases mark <;> simp [swaps, List.countP_append, List.countP_singleton]

theorem swaps_split (before after : Diary) (m : Mark) : swaps (before ++ (user, m) :: after) =
    before.swaps + (if m.installed?.isSome then 1 else 0) + after.swaps := by
  simp only [swaps, List.countP_append, List.countP_cons]
  omega

theorem callsOf_note (serial : Nat) : callsOf serial (d ++ mark.toList.map (user, ·)) =
    d.callsOf serial + if mark.any (Mark.isCallOf serial) then 1 else 0 := by
  cases mark <;> simp [callsOf, List.countP_append, List.countP_singleton]

theorem told_note : told (d ++ mark.toList.map (user, ·)) =
    d.told ++ (mark.bind Mark.told?).toList := by
  cases mark with
  | none => simp
  | some m => cases asked : m.told? <;> simp [told, asked]

theorem marks_note (other : Nat) : marks other (d ++ mark.toList.map (user, ·)) =
    d.marks other ++ if user = other then mark.toList else [] := by
  cases mark <;> by_cases same : user = other <;> simp [marks, same]

theorem Fits.note (h : d.Fits first) (fits : ∀ m ∈ mark, m.Fits first user d) :
    Fits first (d ++ mark.toList.map (user, ·)) := by
  cases mark with
  | none => simpa using h
  | some m =>
      intro before other n after eq
      rcases List.eq_nil_or_concat after with rfl | ⟨after, last, rfl⟩
      · obtain ⟨rfl, same⟩ := List.append_inj' eq rfl
        cases same
        exact fits m rfl
      · rw [List.concat_eq_append, ← List.cons_append, ← List.append_assoc] at eq
        exact h before other n after (List.append_inj' eq rfl).1

theorem Fits.of_append {before after : Diary} (h : Fits first (before ++ after)) :
    before.Fits first := by
  intro earlier user m later eq
  exact h earlier user m (later ++ after) (by rw [eq, List.append_assoc, List.cons_append])

/-- Inspectors are numbered in the order in which they were installed. -/
theorem Fits.serial_lastInstalled (h : d.Fits first) (zero : first.serial = 0) :
    (d.lastInstalled first).serial = d.swaps := by
  induction d using List.reverseRecOn with
  | nil => exact zero
  | append_singleton d entry ih =>
      obtain ⟨user, m⟩ := entry
      have before := ih h.of_append
      rw [lastInstalled_concat, swaps_split]
      cases m with
      | installs replaced now =>
          cases h d user (.installs replaced now) [] rfl with
          | installs serial => exact serial
      | begins | picks | runs | tells | ends => exact before

/-- The numbers of an inspector that was replaced and of the one that took its place. -/
theorem Fits.serial_installed {replaced now : Installed} (h : d.Fits first) (zero : first.serial = 0)
    (installs : (user, .installs replaced now) ∈ d) :
    replaced.serial < now.serial ∧ now.serial ≤ d.swaps := by
  obtain ⟨before, after, rfl⟩ := List.append_of_mem installs
  cases h before user _ after rfl with
  | installs serial =>
      rw [h.of_append.serial_lastInstalled zero, serial, swaps_split]
      simp only [Mark.installed?, Option.isSome_some, if_true]
      omega

theorem Fits.picks_of_runs {picked : Installed} {outcome : Outcome} (h : d.Fits first)
    (runs : (user, .runs picked outcome) ∈ d) : (user, .picks picked) ∈ d := by
  obtain ⟨before, after, rfl⟩ := List.append_of_mem runs
  cases h before user _ after rfl with
  | runs holds => exact List.mem_append_left _ (mem_marks.mp (by simp [holds]))

theorem Fits.swaps_le_of_picks {picked : Installed} {before later : Diary}
    (h : Fits first (before ++ later)) (zero : first.serial = 0)
    (picks : (user, .picks picked) ∈ later) : before.swaps ≤ picked.serial := by
  obtain ⟨between, after, rfl⟩ := List.append_of_mem picks
  rw [← List.append_assoc] at h
  cases h _ user _ after rfl with
  | picks called =>
      rw [h.of_append.serial_lastInstalled zero, swaps, swaps, List.countP_append]
      exact Nat.le_add_right _ _

/-- The number of an inspector that was picked up. -/
theorem Fits.serial_picked {picked : Installed} (h : d.Fits first) (zero : first.serial = 0)
    (picks : (user, .picks picked) ∈ d) : picked.serial ≤ d.swaps := by
  obtain ⟨before, after, rfl⟩ := List.append_of_mem picks
  cases h before user _ after rfl with
  | picks called =>
      rw [h.of_append.serial_lastInstalled zero]
      simp [swaps]

end Diary

/-! ## What a user has done -/

/-- What is done in an inspection before anything is installed. -/
inductive Ran : Option Verdict → List Mark → Prop where
  | bySelf : Ran none []
  | inspecting (picked : Installed) (outcome : Outcome) :
      Ran (some outcome.verdict) [.begins, .picks picked, .runs picked outcome]

/-- What is done in an installation. -/
inductive Swapped : List Mark → Prop where
  | nothing : Swapped []
  | swapped (replaced now : Installed) : Swapped [.installs replaced now, .tells replaced now]

/-- What is done in a whole inspection. -/
def Mark.course (picked : Installed) (outcome : Outcome) (own : List Mark) : List Mark :=
  [.begins, .picks picked, .runs picked outcome] ++ own ++ [.ends outcome.verdict]

/-- What a user has done so far. -/
inductive Usage.Did : Usage → List Mark → Prop where
  | arrived {e : Event} {delivered : Nat} : Did (.arrived e delivered) [.begins]
  | holding {picked : Installed} {e : Event} {delivered : Nat} :
      Did (.holding picked e delivered) [.begins, .picks picked]
  | planned {verdict : Option Verdict} {plan : Plan Inspector} {marks : List Mark}
      (ran : Ran verdict marks) : Did (.swapping verdict (.planned plan)) marks
  | built {verdict : Option Verdict} {inspector : Inspector} {marks : List Mark}
      (ran : Ran verdict marks) : Did (.swapping verdict (.built inspector)) marks
  | installed {verdict : Option Verdict} {replaced now : Installed} {marks : List Mark}
      (ran : Ran verdict marks) :
      Did (.swapping verdict (.installed replaced now)) (marks ++ [.installs replaced now])
  | leaving {verdict : Verdict} {marks own : List Mark} (ran : Ran (some verdict) marks)
      (swapped : Swapped own) : Did (.leaving verdict) (marks ++ own)
  | gone {verdict : Option Verdict} {marks own : List Mark} (ran : Ran verdict marks)
      (swapped : Swapped own) : Did .gone (marks ++ own ++ verdict.toList.map .ends)

namespace Usage

variable {v : Usage} {marks own : List Mark} {verdict : Option Verdict}

theorem Did.after (ran : Ran verdict marks) (swapped : Swapped own) :
    (Usage.after verdict).Did (marks ++ own) := by
  cases verdict with
  | none =>
      have goes := Did.gone ran swapped
      rwa [Option.toList_none, List.map_nil, List.append_nil] at goes
  | some verdict => exact .leaving ran swapped

theorem Did.step {s : Station} {t : Stride} (h : v.Did marks) (steps : v.Steps s t) :
    t.usage.Did (marks ++ t.mark.toList) := by
  cases steps with
  | picks =>
      cases h with
      | arrived => exact .holding
  | @runs picked _ _ r =>
      cases h with
      | holding =>
          have leaves := Did.leaving (.inspecting picked r.outcome) .nothing
          exact leaves
  | @runsTo picked _ _ r =>
      cases h with
      | holding => exact .planned (.inspecting picked r.outcome)
  | fails =>
      cases h with
      | planned ran => exact .after ran .nothing
  | builds =>
      cases h with
      | planned ran => exact (List.append_nil _).symm ▸ .built ran
  | installs =>
      cases h with
      | built ran => exact .installed ran
  | tells =>
      cases h with
      | installed ran =>
          rw [List.append_assoc]
          exact .after ran (.swapped _ _)
  | ends =>
      cases h with
      | leaving ran swapped => exact .gone ran swapped
  | rests => exact (List.append_nil _).symm ▸ h

theorem Did.course (h : v.Did marks) (begun : .begins ∈ marks) : ∃ picked outcome own, Swapped own ∧
    marks <+: Mark.course picked outcome own ∧
    ∀ verdict, .ends verdict ∈ marks →
      verdict = outcome.verdict ∧ marks = Mark.course picked outcome own := by
  cases h with
  | arrived =>
      exact ⟨⟨.noop, 0⟩, .returned .accepted, [], .nothing, ⟨_, rfl⟩, fun _ ends => by simp at ends⟩
  | @holding picked =>
      exact ⟨picked, .returned .accepted, [], .nothing, ⟨_, rfl⟩, fun _ ends => by simp at ends⟩
  | planned ran | built ran =>
      cases ran with
      | bySelf => cases begun
      | inspecting picked outcome =>
          exact ⟨picked, outcome, [], .nothing, ⟨_, rfl⟩, fun _ ends => by simp at ends⟩
  | @installed _ replaced now _ ran =>
      cases ran with
      | bySelf => simp at begun
      | inspecting picked outcome =>
          exact ⟨picked, outcome, _, .swapped replaced now, ⟨[_, _], rfl⟩, fun _ ends => by simp at ends⟩
  | leaving ran swapped =>
      cases ran with
      | inspecting picked outcome =>
          refine ⟨picked, outcome, _, swapped, ⟨_, rfl⟩, fun _ ends => ?_⟩
          cases swapped <;> simp at ends
  | gone ran swapped =>
      cases ran with
      | bySelf => cases swapped <;> simp at begun
      | inspecting picked outcome =>
          refine ⟨picked, outcome, _, swapped, List.prefix_rfl, fun _ ends => ⟨?_, rfl⟩⟩
          cases swapped <;> simpa using ends

end Usage

/-! ## What a step does to the station -/

namespace Station

/-- What the journal says about installations. -/
def swapReports (s : Station) : Journal := s.journal.filter (·.part = .station)

theorem swapReports_log (s : Station) (entry : Entry) :
    (s.log entry).swapReports = s.swapReports ++ [entry].filter (·.part = .station) := by
  simp [swapReports, journal, log]

/-- Running an inspector up to where it installs another one leaves the installed one in its place. -/
theorem react_eq (s : Station) (picked : Installed) (e : Event) (delivered : Nat) :
    let r := s.react picked e delivered
    r.station.current = s.current ∧ r.station.calls.length = s.calls.length ∧
      r.station.swapReports = s.swapReports := by
  obtain ⟨inspector, serial⟩ := picked
  cases inspector with
  | noop => exact ⟨rfl, rfl, rfl⟩
  | preview limit => exact ⟨rfl, rfl, (s.swapReports_log _).trans (List.append_nil _)⟩
  | capture path =>
      simp only [react, run]
      split <;> exact ⟨rfl, rfl, rfl⟩
  | custom => exact ⟨rfl, List.length_set, rfl⟩

theorem calls_exchange (s : Station) (inspector : Inspector) (serial : Nat) :
    (s.exchange inspector).calls.getD serial 0 = s.calls.getD serial 0 := by
  simp only [exchange, List.getD_eq_getElem?_getD, List.getElem?_append]
  split
  · rfl
  · rename_i beyond
    rw [List.getElem?_eq_none (Nat.le_of_not_lt beyond)]
    cases serial - s.calls.length <;> rfl

theorem calls_react (s : Station) (picked : Installed) (e : Event) (delivered serial : Nat)
    (known : picked.serial < s.calls.length) :
    (s.react picked e delivered).station.calls.getD serial 0 = s.calls.getD serial 0 +
      if (Mark.runs picked (s.react picked e delivered).outcome).isCallOf serial then 1 else 0 := by
  obtain ⟨inspector, number⟩ := picked
  cases inspector with
  | noop | preview => rfl
  | capture path =>
      simp only [react, run, Mark.isCallOf]
      split <;> rfl
  | custom name label react =>
      simp only [Station.react, Mark.isCallOf, beq_iff_eq, List.getD_eq_getElem?_getD,
        List.getElem?_set]
      by_cases same : number = serial
      · subst same
        simp [known]
      · simp [same]

end Station

/-- What a step does to the station, by its mark. -/
theorem Usage.Steps.station_eq {s : Station} {v : Usage} {t : Stride} (h : v.Steps s t) :
    t.station.current = (t.mark.bind Mark.installed?).getD s.current ∧
      t.station.calls.length =
        s.calls.length + (if (t.mark.bind Mark.installed?).isSome then 1 else 0) ∧
      t.station.swapReports = s.swapReports ++
        (t.mark.bind Mark.told?).toList.map fun (replaced, now) => Station.swapEntry replaced now := by
  cases h with
  | picks | fails | builds | ends | rests => exact ⟨rfl, rfl, (List.append_nil _).symm⟩
  | runs reacted | runsTo reacted =>
      obtain ⟨current, calls, reports⟩ := s.react_eq _ _ _
      rw [reacted] at current calls reports
      exact ⟨current, calls, reports.trans (List.append_nil _).symm⟩
  | installs exchanged =>
      cases exchanged
      exact ⟨rfl, by simp [Station.exchange, Mark.installed?], (List.append_nil _).symm⟩
  | tells => exact ⟨rfl, rfl, s.swapReports_log _⟩

/-- A step of an inspection counts as a call of the inspector that it runs. -/
theorem Usage.Steps.calls_eq {s : Station} {v : Usage} {t : Stride} (h : v.Steps s t) (serial : Nat)
    (known : ∀ picked e delivered, v = .holding picked e delivered →
      picked.serial < s.calls.length) :
    t.station.calls.getD serial 0 =
      s.calls.getD serial 0 + if t.mark.any (Mark.isCallOf serial) then 1 else 0 := by
  cases h with
  | picks | fails | builds | tells | ends | rests => rfl
  | runs reacted | runsTo reacted =>
      cases reacted
      exact s.calls_react _ _ _ serial (known _ _ _ rfl)
  | @installs _ inspector _ exchanged =>
      cases exchanged
      exact s.calls_exchange inspector serial

end Wiretap
