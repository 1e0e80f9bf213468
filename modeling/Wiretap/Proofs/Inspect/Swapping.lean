import Wiretap.Proofs.Inspect.Diary
/-! # Which inspector an inspection runs

Whatever the order in which users take their steps: an inspection runs the inspector that was
installed last before it picked one up, and no other one. An inspection that begins when a replacement
has been reported runs a later inspector than the replaced one. Installations that do not overlap are
reported in the order in which they were made.
-/

namespace Wiretap

/-! ## Everybody's steps -/

namespace Concourse

/-- The station is as the diary says, and everybody did what they can have done. -/
structure Sound (first : Installed) (c : Concourse) : Prop where
  zero : first.serial = 0
  current : c.station.current = c.diary.lastInstalled first
  installed : c.station.calls.length = c.diary.swaps + 1
  calls : ∀ serial, c.station.calls.getD serial 0 = c.diary.callsOf serial
  reports : c.station.swapReports =
    c.diary.told.map fun (replaced, now) => Station.swapEntry replaced now
  did : ∀ (user : Nat) (v : Usage), c.usages[user]? = some v → v.Did (c.diary.marks user)
  absent : ∀ user, c.usages.length ≤ user → c.diary.marks user = []
  fits : c.diary.Fits first

variable {c : Concourse} {first : Installed}

theorem sound_start (inspector : Inspector) (disk : Disk) (now : String) :
    (start inspector disk now).Sound ⟨inspector, 0⟩ where
  zero := rfl
  current := rfl
  installed := rfl
  calls serial := by cases serial <;> rfl
  reports := rfl
  did user v here := by simp [start] at here
  absent user _ := rfl
  fits before user m after eq := by simp [start] at eq

/-- What a user marks fits to what was done before. -/
theorem Sound.fits_step (h : c.Sound first) {user : Nat} {v : Usage} {t : Stride}
    (did : v.Did (c.diary.marks user)) (steps : v.Steps c.station t) :
    ∀ m ∈ t.mark, m.Fits first user c.diary := by
  generalize made : c.diary.marks user = marks at did
  intro m mark
  cases steps with
  | fails | builds | rests => cases mark
  | picks =>
      cases did
      cases mark
      rw [h.current]
      exact .picks made
  | runs | runsTo =>
      cases did
      cases mark
      exact .runs made
  | installs exchanged =>
      cases mark
      rw [h.current]
      refine .installs ?_
      rw [← exchanged, ← h.installed]
      rfl
  | tells =>
      cases did
      cases mark
      exact .tells (by simp [made])
  | ends =>
      cases mark
      exact .ends

/-- A user leaves a mark, and the station changes accordingly. -/
theorem Sound.marks (h : c.Sound first) {user : Nat} (mark : Option Mark) {station : Station}
    {usages : List Usage}
    (current : station.current = (mark.bind Mark.installed?).getD c.station.current)
    (installed : station.calls.length =
      c.station.calls.length + if (mark.bind Mark.installed?).isSome then 1 else 0)
    (calls : ∀ serial, station.calls.getD serial 0 =
      c.station.calls.getD serial 0 + if mark.any (Mark.isCallOf serial) then 1 else 0)
    (reports : station.swapReports = c.station.swapReports ++
      (mark.bind Mark.told?).toList.map fun (replaced, now) => Station.swapEntry replaced now)
    (fits : ∀ m ∈ mark, m.Fits first user c.diary)
    (own : ∀ v : Usage, usages[user]? = some v → v.Did (c.diary.marks user ++ mark.toList))
    (others : ∀ other, other ≠ user → usages[other]? = c.usages[other]?)
    (length : c.usages.length ≤ usages.length) (within : user < usages.length) :
    Sound first ⟨station, usages, c.diary ++ mark.toList.map (user, ·)⟩ := by
  refine ⟨h.zero, ?_, ?_, fun serial => ?_, ?_, fun other v here => ?_, fun other beyond => ?_, ?_⟩
  · rw [current, h.current, Diary.lastInstalled_note]
  · rw [installed, h.installed, Diary.swaps_note, Nat.add_right_comm]
  · rw [calls, h.calls, Diary.callsOf_note]
  · rw [reports, h.reports, Diary.told_note, List.map_append]
  · rw [Diary.marks_note]
    split
    · rename_i same
      cases same
      exact own v here
    · rename_i ne
      rw [List.append_nil]
      exact h.did other v ((others other (Ne.symm ne)).symm.trans here)
  · have ne : user ≠ other := Nat.ne_of_lt (Nat.lt_of_lt_of_le within beyond)
    rw [Diary.marks_note, if_neg ne, List.append_nil]
    exact h.absent other (Nat.le_trans length beyond)
  · exact h.fits.note mark fits

theorem Sound.steps (h : c.Sound first) {user : Nat} {v : Usage} (here : c.usages[user]? = some v) :
    (c.move (.steps user)).Sound first := by
  rw [move_steps here]
  have steps := v.step_steps c.station
  have did := h.did user v here
  have within := (List.getElem?_eq_some_iff.mp here).1
  generalize v.step c.station = t at steps
  obtain ⟨current, installed, reports⟩ := steps.station_eq
  refine h.marks t.mark current installed (fun serial => steps.calls_eq serial ?_) reports
    (h.fits_step did steps) (fun w now => ?_) (fun other ne => List.getElem?_set_ne ne.symm)
    (Nat.le_of_eq List.length_set.symm) (by rwa [List.length_set])
  · rintro picked e delivered rfl
    generalize made : c.diary.marks user = marks at did
    cases did
    have picks : (user, .picks picked) ∈ c.diary := Diary.mem_marks.mp (by simp [made])
    rw [h.installed]
    exact Nat.lt_succ_of_le (h.fits.serial_picked h.zero picks)
  · rw [List.getElem?_set_self within] at now
    cases now
    exact did.step steps

theorem Sound.joins (h : c.Sound first) (v : Usage) (mark : Option Mark) (did : v.Did mark.toList)
    (silent : ∀ m ∈ mark, m = .begins) :
    Sound first ⟨c.station, c.usages ++ [v],
      c.diary ++ mark.toList.map (c.usages.length, ·)⟩ := by
  have unknown := h.absent c.usages.length (Nat.le_refl _)
  obtain ⟨quiet, called, reported⟩ : mark.bind Mark.installed? = none ∧
      (∀ serial, mark.any (Mark.isCallOf serial) = false) ∧ mark.bind Mark.told? = none := by
    cases mark with
    | none => exact ⟨rfl, fun _ => rfl, rfl⟩
    | some m =>
        cases silent m rfl
        exact ⟨rfl, fun _ => rfl, rfl⟩
  refine h.marks mark (by rw [quiet]; rfl) (by rw [quiet]; rfl) (fun serial => by rw [called]; rfl)
    (by rw [reported]; exact (List.append_nil _).symm) (fun m isMark => ?_) (fun w here => ?_)
    (fun other ne => ?_) ?_ ?_
  · cases silent m isMark
    exact .begins unknown
  · rw [unknown, List.nil_append]
    rw [List.getElem?_concat_length] at here
    cases here
    exact did
  · rcases Nat.lt_or_gt_of_ne ne with within | beyond
    · exact List.getElem?_append_left within
    · rw [List.getElem?_eq_none (Nat.le_of_lt beyond), List.getElem?_eq_none]
      rw [List.length_append]
      exact beyond
  · simp
  · simp

theorem Sound.move (h : c.Sound first) (m : Move) : (c.move m).Sound first := by
  cases m with
  | inspects e delivered =>
      exact h.joins (.arrived e delivered) (some .begins) .arrived fun m isMark =>
        (Option.mem_some.mp isMark).symm
  | swaps plan =>
      have joined := h.joins (.swapping none (.planned plan)) none (.planned .bySelf) nofun
      rwa [Option.toList_none, List.map_nil, List.append_nil] at joined
  | steps user =>
      cases here : c.usages[user]? with
      | some v => exact h.steps here
      | none => simpa only [Concourse.move, here] using h
  | besides disk now =>
      exact ⟨h.zero, h.current, h.installed, h.calls, h.reports, h.did, h.absent, h.fits⟩

theorem Sound.run (h : c.Sound first) (moves : List Move) : (c.run moves).Sound first := by
  induction moves generalizing c with
  | nil => exact h
  | cons m moves ih => exact ih (h.move m)

end Concourse

/-! ## Installations that do not overlap -/

/-- The installation that a user is yet to report. -/
def Usage.unreported? : Usage → Option (Installed × Installed)
  | .swapping _ (.installed replaced now) => some (replaced, now)
  | .swapping _ (.planned _) | .swapping _ (.built _) => none
  | .arrived .. | .holding .. | .leaving _ | .gone => none

/-- Whether a user is about to put an inspector in its place. -/
def Usage.isBuilt : Usage → Bool
  | .swapping _ (.built _) => true
  | .swapping _ (.planned _) | .swapping _ (.installed ..) => false
  | .arrived .. | .holding .. | .leaving _ | .gone => false

theorem Usage.Steps.quiet {s : Station} {v : Usage} {t : Stride} (h : v.Steps s t)
    (unbuilt : v.isBuilt = false) (reported : v.unreported? = none) :
    t.mark.bind Mark.installed? = none ∧ t.mark.bind Mark.told? = none ∧
      t.usage.unreported? = none := by
  cases h with
  | picks | runs | runsTo | builds | ends | rests => exact ⟨rfl, rfl, rfl⟩
  | @fails verdict => cases verdict <;> exact ⟨rfl, rfl, rfl⟩
  | installs => cases unbuilt
  | tells => cases reported

/-- Every replaced inspector is the one that took the place of the one before. -/
def Chained : Installed → List (Installed × Installed) → Prop
  | _, [] => True
  | current, (replaced, now) :: rest => replaced = current ∧ Chained now rest

theorem chained_concat (first : Installed) (l : List (Installed × Installed))
    (replaced now : Installed) : Chained first (l ++ [(replaced, now)]) ↔
      Chained first l ∧ replaced = (l.getLast?.map (·.2)).getD first := by
  induction l generalizing first with
  | nil => simp [Chained]
  | cons entry l ih =>
      obtain ⟨earlier, later⟩ := entry
      simp only [List.cons_append, Chained, ih, and_assoc]
      cases l with
      | nil => simp
      | cons => simp [List.getLast?_cons]

def Diary.lastTold (first : Installed) (d : Diary) : Installed :=
  (d.told.getLast?.map (·.2)).getD first

namespace Concourse

/-- The installation that a user is yet to report. -/
def unreported? (c : Concourse) (user : Nat) : Option (Installed × Installed) :=
  c.usages[user]?.bind Usage.unreported?

/-- No inspector takes its place while another installation is yet to be reported. -/
def OneByOne : Concourse → List Move → Prop
  | _, [] => True
  | c, m :: rest =>
    (∀ user v, m = .steps user → c.usages[user]? = some v → v.isBuilt = true →
      ∀ other, c.unreported? other = none) ∧
    OneByOne (c.move m) rest

/-- What was reported is a chain, and at most one installation is yet to be added to it. -/
structure InLine (first : Installed) (c : Concourse) : Prop where
  chained : Chained first c.diary.told
  told : (∀ user, c.unreported? user = none) → c.diary.lastTold first = c.station.current
  unreported : ∀ user replaced now, c.unreported? user = some (replaced, now) →
    replaced = c.diary.lastTold first ∧ now = c.station.current ∧
      ∀ other, other ≠ user → c.unreported? other = none

variable {c d : Concourse} {first : Installed}

theorem InLine.congr (h : c.InLine first) (told : d.diary.told = c.diary.told)
    (current : d.station.current = c.station.current)
    (unreported : ∀ user, d.unreported? user = c.unreported? user) : d.InLine first := by
  refine ⟨told ▸ h.chained, fun nobody => ?_, fun user replaced now somebody => ?_⟩
  · rw [current, ← h.told fun user => (unreported user).symm.trans (nobody user), Diary.lastTold, told]
    rfl
  · rw [current, Diary.lastTold, told]
    obtain ⟨its, last, others⟩ := h.unreported user replaced now ((unreported user).symm.trans somebody)
    exact ⟨its, last, fun other ne => (unreported other).trans (others other ne)⟩

theorem unreported?_move_steps {user : Nat} {v : Usage} (here : c.usages[user]? = some v)
    (other : Nat) : (c.move (.steps user)).unreported? other =
      if other = user then (v.step c.station).usage.unreported? else c.unreported? other := by
  have within := (List.getElem?_eq_some_iff.mp here).1
  rw [move_steps here]
  split
  · rename_i same
    rw [same, unreported?, List.getElem?_set_self within]
    rfl
  · rename_i ne
    simp only [unreported?, List.getElem?_set_ne (Ne.symm ne)]

theorem unreported?_join {v : Usage} {station : Station} {diary : Diary}
    (quiet : v.unreported? = none) (user : Nat) :
    unreported? ⟨station, c.usages ++ [v], diary⟩ user = c.unreported? user := by
  simp only [unreported?, List.getElem?_append]
  split
  · rfl
  · rename_i beyond
    rw [List.getElem?_eq_none (Nat.le_of_not_lt beyond)]
    cases user - c.usages.length with
    | zero => exact quiet
    | succ => rfl

/-- A step that neither installs nor reports. -/
theorem InLine.quiet (h : c.InLine first) {user : Nat} {v : Usage} (here : c.usages[user]? = some v)
    (unbuilt : v.isBuilt = false) (before : v.unreported? = none) :
    (c.move (.steps user)).InLine first := by
  have steps := v.step_steps c.station
  obtain ⟨current, _, _⟩ := steps.station_eq
  obtain ⟨installed, told, after⟩ := steps.quiet unbuilt before
  refine h.congr ?_ ?_ fun other => ?_
  · rw [move_steps here, Diary.told_note, told]
    exact List.append_nil _
  · rw [move_steps here]
    rw [installed] at current
    exact current
  · rw [unreported?_move_steps here, after]
    split
    · rename_i same
      rw [same, unreported?, here]
      exact before.symm
    · rfl

theorem InLine.installs (h : c.InLine first) {user : Nat} {verdict : Option Verdict}
    {inspector : Inspector} (here : c.usages[user]? = some (.swapping verdict (.built inspector)))
    (apart : ∀ other, c.unreported? other = none) : (c.move (.steps user)).InLine first := by
  have told : (c.move (.steps user)).diary.told = c.diary.told := by
    rw [move_steps here, Diary.told_note]
    exact List.append_nil _
  have unreported := unreported?_move_steps here
  refine ⟨told ▸ h.chained, fun nobody => ?_, fun other replaced now somebody => ?_⟩
  · have its := nobody user
    rw [unreported, if_pos rfl] at its
    cases its
  · rw [unreported] at somebody
    split at somebody
    · rename_i same
      cases somebody
      refine ⟨?_, ?_, fun another ne => ?_⟩
      · rw [Diary.lastTold, told]
        exact (h.told apart).symm
      · rw [move_steps here]
        rfl
      · rw [unreported, if_neg (same ▸ ne)]
        exact apart another
    · rw [apart] at somebody
      cases somebody

theorem InLine.tells (h : c.InLine first) {user : Nat} {verdict : Option Verdict}
    {replaced now : Installed}
    (here : c.usages[user]? = some (.swapping verdict (.installed replaced now))) :
    (c.move (.steps user)).InLine first := by
  obtain ⟨its, last, others⟩ := h.unreported user replaced now (by rw [unreported?, here]; rfl)
  have told : (c.move (.steps user)).diary.told = c.diary.told ++ [(replaced, now)] := by
    rw [move_steps here, Diary.told_note]
    rfl
  have nobody (other : Nat) : (c.move (.steps user)).unreported? other = none := by
    rw [unreported?_move_steps here]
    split
    · cases verdict <;> rfl
    · rename_i ne
      exact others other ne
  refine ⟨?_, fun _ => ?_, fun other earlier later somebody => ?_⟩
  · rw [told]
    exact (chained_concat first _ replaced now).mpr ⟨h.chained, its⟩
  · rw [Diary.lastTold, told, move_steps here, List.getLast?_concat]
    exact last
  · rw [nobody] at somebody
    cases somebody

theorem InLine.move (h : c.InLine first) (m : Move)
    (apart : ∀ user v, m = .steps user → c.usages[user]? = some v → v.isBuilt = true →
      ∀ other, c.unreported? other = none) : (c.move m).InLine first := by
  cases m with
  | besides => exact h.congr rfl rfl fun _ => rfl
  | inspects e delivered =>
      refine h.congr ?_ rfl (unreported?_join rfl)
      simp [Concourse.move, Diary.told, Mark.told?]
  | swaps plan => exact h.congr rfl rfl (unreported?_join rfl)
  | steps user =>
      cases here : c.usages[user]? with
      | none => simpa only [Concourse.move, here] using h
      | some v =>
          cases v with
          | arrived | holding | leaving | gone => exact h.quiet here rfl rfl
          | swapping verdict swap =>
              cases swap with
              | planned plan => exact h.quiet here rfl rfl
              | built inspector => exact h.installs here (apart user _ rfl here rfl)
              | installed replaced now => exact h.tells here

theorem InLine.run (h : c.InLine first) (moves : List Move) (apart : c.OneByOne moves) :
    (c.run moves).InLine first := by
  induction moves generalizing c with
  | nil => exact h
  | cons m moves ih => exact ih (h.move m apart.1) apart.2

theorem inLine_start (inspector : Inspector) (disk : Disk) (now : String) :
    (start inspector disk now).InLine ⟨inspector, 0⟩ :=
  ⟨trivial, fun _ => rfl, fun _ _ _ somebody => by cases somebody⟩

theorem Sound.exists_usage (h : c.Sound first) {user : Nat} {m : Mark} (did : (user, m) ∈ c.diary) :
    ∃ v, c.usages[user]? = some v := by
  cases here : c.usages[user]? with
  | some v => exact ⟨v, rfl⟩
  | none =>
      rw [← Diary.mem_marks, h.absent user (List.getElem?_eq_none_iff.mp here)] at did
      cases did

theorem Sound.course (h : c.Sound first) {user : Nat} (begun : (user, .begins) ∈ c.diary) :
    ∃ picked outcome own, Swapped own ∧ c.diary.marks user <+: Mark.course picked outcome own ∧
      ∀ verdict, (user, .ends verdict) ∈ c.diary →
        verdict = outcome.verdict ∧ c.diary.marks user = Mark.course picked outcome own := by
  obtain ⟨v, here⟩ := h.exists_usage begun
  simp only [← Diary.mem_marks] at begun ⊢
  exact (h.did user v here).course begun

/-- An inspection ends when it is given some steps. -/
theorem Sound.gets_done (h : c.Sound first) {user : Nat} (begun : (user, .begins) ∈ c.diary) :
    ∃ verdict, (user, .ends verdict) ∈ (c.run (.replicate 6 (.steps user))).diary := by
  obtain ⟨v, here⟩ := h.exists_usage begun
  have did := (h.run (.replicate 6 (.steps user))).did user _ (gone_of_steps here)
  have still : .begins ∈ (c.run (.replicate 6 (.steps user))).diary.marks user := by
    rw [Diary.mem_marks, run_steps here]
    exact List.mem_append_left _ begun
  simp only [← Diary.mem_marks]
  generalize Diary.marks user _ = marks at did still
  cases did with
  | gone ran swapped =>
      cases ran with
      | bySelf => cases swapped <;> simp at still
      | inspecting picked outcome => exact ⟨_, List.mem_append_right _ (List.mem_singleton_self _)⟩

/-- An inspection that begins when a replacement has been reported runs a later inspector. -/
theorem Sound.later (h : c.Sound first) {before mid rest : Diary} {user other : Nat}
    {replaced now picked : Installed} {outcome : Outcome}
    (eq : c.diary = before ++ (other, .tells replaced now) :: mid ++ (user, .begins) :: rest)
    (runs : (user, .runs picked outcome) ∈ c.diary) :
    replaced.serial < now.serial ∧ now.serial ≤ picked.serial := by
  have fits := h.fits
  have picks := fits.picks_of_runs runs
  rw [eq] at fits picks
  -- It had done nothing before it began, so it picked up its inspector after that.
  have later : (user, .picks picked) ∈ rest := by
    cases fits _ user _ rest rfl with
    | begins new =>
        rcases List.mem_append.mp picks with earlier | here
        · rw [← Diary.mem_marks, new] at earlier
          cases earlier
        · rcases List.mem_cons.mp here with same | later
          · cases same
          · exact later
  rw [List.append_assoc, List.cons_append] at fits
  cases fits before other _ _ rfl with
  | tells installed =>
      obtain ⟨less, counted⟩ :=
        fits.of_append.serial_installed h.zero (Diary.mem_marks.mp installed)
      have beyond := fits.swaps_le_of_picks h.zero
        (List.mem_cons_of_mem _ (List.mem_append_right _ (List.mem_cons_of_mem _ later)))
      exact ⟨less, Nat.le_trans counted beyond⟩

/-- Only an installation changes which inspector is installed, and not how an inspector ends. -/
theorem Sound.current_move (h : c.Sound first) {m : Move} {user : Nat} {mark : Mark}
    (marked : (c.move m).diary = c.diary ++ [(user, mark)]) (quiet : mark.installed? = none) :
    (c.move m).station.current = c.station.current := by
  rw [(h.move m).current, marked, Diary.lastInstalled_concat, quiet, h.current]
  rfl

/-- Which inspector an inspection runs, whatever the order of everybody's steps. It is one and only
one: that which was installed last before the inspection picked one up. After a replacement has been
reported, inspections that begin run later inspectors than the replaced one. What is installed is what
was installed last, however inspections end. And installations that do not overlap are reported as a
chain. -/
theorem linearizes (inspector : Inspector) (disk : Disk) (now : String) (moves : List Move) :
    let first : Installed := ⟨inspector, 0⟩
    let begun := start inspector disk now
    let c := begun.run moves
    (∀ user, (user, .begins) ∈ c.diary →
      (∃ picked outcome own, Swapped own ∧
        c.diary.marks user <+: Mark.course picked outcome own ∧
        ∀ verdict, (user, .ends verdict) ∈ c.diary →
          verdict = outcome.verdict ∧ c.diary.marks user = Mark.course picked outcome own) ∧
      ∃ verdict, (user, .ends verdict) ∈ (c.run (.replicate 6 (.steps user))).diary) ∧
    (∀ (before : Diary) user picked after, c.diary = before ++ (user, .picks picked) :: after →
      picked = before.lastInstalled first) ∧
    (∀ before other replaced now mid user rest picked outcome,
      c.diary = before ++ (other, .tells replaced now) :: mid ++ (user, .begins) :: rest →
      (user, .runs picked outcome) ∈ c.diary →
      replaced.serial < now.serial ∧ now.serial ≤ picked.serial) ∧
    c.station.current = c.diary.lastInstalled first ∧
    (∀ m user mark, (c.move m).diary = c.diary ++ [(user, mark)] → mark.installed? = none →
      (c.move m).station.current = c.station.current) ∧
    (∀ serial, c.station.calls.getD serial 0 = c.diary.callsOf serial) ∧
    c.station.swapReports =
      (c.diary.told.map fun (replaced, now) => Station.swapEntry replaced now) ∧
    (begun.OneByOne moves → Chained first c.diary.told) := by
  intro first begun c
  have sound : c.Sound first := (sound_start inspector disk now).run moves
  refine ⟨fun user begins => ⟨sound.course begins, sound.gets_done begins⟩,
    fun before user picked after eq => ?_, fun _ _ _ _ _ _ _ _ _ eq runs => sound.later eq runs,
    sound.current, fun _ _ _ => sound.current_move, sound.calls, sound.reports,
    fun apart => ((inLine_start inspector disk now).run moves apart).chained⟩
  cases sound.fits before user _ after eq
  rfl

/-- Another inspector is installed while an inspection holds the first one, which it then runs. The
next inspection runs the other one. -/
theorem linearizes_midway :
    let e : Event := ⟨"s", 1, .client, [0]⟩
    let first : Installed := ⟨.preview 4, 0⟩
    let other : Installed := ⟨.noop, 1⟩
    let moves : List Move := [.inspects e 0, .steps 0, .swaps (.ready .noop), .steps 1, .steps 1,
      .steps 1, .steps 0, .inspects e 1, .steps 2, .steps 2]
    ∃ c, c = (start (.preview 4) .blank "").run moves ∧
      c.diary = [(0, .begins), (0, .picks first), (1, .installs first other),
        (1, .tells first other), (0, .runs first (.returned .accepted)), (2, .begins),
        (2, .picks other), (2, .runs other (.returned .accepted))] ∧
      first.serial < other.serial ∧
      ∃ verdict, (2, .ends verdict) ∈ (c.run (.replicate 6 (.steps 2))).diary := by
  intro e first other moves
  obtain ⟨c, eq⟩ : ∃ c, c = (start (.preview 4) .blank "").run moves := ⟨_, rfl⟩
  have wrote : c.diary = [(0, .begins), (0, .picks first), (1, .installs first other)] ++
      (1, .tells first other) :: [(0, .runs first (.returned .accepted))] ++
      (2, .begins) :: [(2, .picks other), (2, .runs other (.returned .accepted))] := by
    simp [eq, moves, run, move, start, Usage.step, Station.start, Station.react, Station.run,
      Station.exchange, Station.log, Inspector.ofPlan, first, other]
  obtain ⟨courses, _, later, _⟩ := linearizes (.preview 4) .blank "" moves
  rw [← eq] at courses later
  have begun : (2, .begins) ∈ c.diary := by simp [wrote]
  have ran : (2, .runs other (.returned .accepted)) ∈ c.diary := by simp [wrote]
  exact ⟨c, eq, wrote, (later _ _ _ _ _ _ _ _ _ wrote ran).1, (courses 2 begun).2⟩

end Concourse

end Wiretap
