import Mathlib.Algebra.BigOperators.Group.List.Basic
import Mathlib.Algebra.GroupWithZero.Nat
import Wiretap.Proofs.Session.Counting
import Wiretap.Proofs.Supervise.Steps
/-! # What a supervisor's status accounts for

The figures that a supervisor publishes are changed one at a time, at different places of its loop.
`Tally` reads off what the supervisor has done, from its moments alone. `Fits` says how the figures
and the counters stand to the tally; that is kept from each moment to the next, not only at the end
of a turn.
-/

namespace Wiretap

/-- Where a supervisor's state may go next. -/
inductive RelayState.LeadsTo : RelayState → RelayState → Prop where
  | stays (state : RelayState) : LeadsTo state state
  | setsOut : LeadsTo .idle .connecting
  | givesUp : LeadsTo .connecting .idle
  | pairs : LeadsTo .connecting .relaying
  | ends : LeadsTo .relaying .tearingDown
  | rests : LeadsTo .tearingDown .idle

theorem RelayFault.sum_countP_kinds (faults : List RelayFault) :
    (kinds.map fun kind => faults.countP (·.kind = kind)).sum = faults.length := by
  induction faults with
  | nil => rfl
  | cons fault rest ih =>
      have once : (kinds.map fun kind => if fault.kind = kind then 1 else 0).sum = 1 := by
        cases fault <;> simp [kinds, kind]
      simp only [List.countP_cons, decide_eq_true_eq, List.sum_map_add, ih, once, List.length_cons]

/-- Supervisors of other ports count neither for this one. -/
theorem Supervisor.spares_step {p : UInt16} {s : Supervisor} (h : s.relay.localPort ≠ p)
    (first : Glance) (scene : Scene) :
    scene.counters.Spares p (s.step first scene).scene.counters := by
  have does := s.step_does first scene
  generalize s.step first scene = r at does
  cases does with
  | waits | begins | misses | connects | holds | opens | completes => exact .refl _
  | givesUp | cannotOpen | cannotAdmit | targetGoes =>
      exact Counters.spares_recordSetupFailure h _ _
  | admits => exact Counters.spares_recordSession h _

namespace Supervisor

/-- What a supervisor has done so far. -/
structure Tally where
  /-- The turns of the loop that have begun. -/
  turns : Nat := 0
  /-- The attempts that were recorded as completed sessions. -/
  completed : Nat := 0
  /-- The faults of the attempts that were recorded as failed. -/
  failures : List RelayFault := []
  /-- Whether an attempt is in progress: its turn has begun and its outcome was not recorded. -/
  underWay : Bool := false
  /-- The fault of the attempt that was finished last, when that one failed. -/
  last : Option RelayFault := none
  /-- The state that was published last. -/
  state : RelayState := .idle

namespace Tally

def note (t : Tally) : Act → Tally
  | .began => { t with turns := t.turns + 1, underWay := true }
  | .published status => { t with state := status.state }
  | .failed fault =>
    { t with failures := t.failures ++ [fault], underWay := false, last := some fault }
  | .completed _ => { t with completed := t.completed + 1, underWay := false, last := none }

def follow (t : Tally) (moments : List Moment) : Tally := moments.foldl (fun t m => t.note m.act) t

/-- The tally of a supervisor's first moments. -/
def of (moments : List Moment) : Tally := follow {} moments

theorem of_append (moments more : List Moment) : of (moments ++ more) = (of moments).follow more :=
  List.foldl_append

/-- One session more is counted than was recorded while one is relayed or torn down. -/
def inSession (t : Tally) (state : RelayState) : Nat :=
  if t.underWay ∧ (state = .relaying ∨ state = .tearingDown) then 1 else 0

/-- A status and the counters of a port fit a tally. The counters do when nobody else counts for the
port. -/
structure Fits (t : Tally) (sole : Prop) (p : UInt16) (status : Status) (cs : Counters) : Prop where
  attempt : status.attempt = UInt64.ofNat t.turns
  completed : status.sessionsCompleted = UInt64.ofNat t.completed
  lastError : status.lastError = t.last.map RelayFault.message
  turns : t.turns = t.completed + t.failures.length + if t.underWay then 1 else 0
  setup : ∀ fault ∈ t.failures, fault.isSetupFailure = true
  sessions : sole → cs.sessionsAt p = UInt64.ofNat (t.completed + t.inSession status.state)
  setupFailures : sole → ∀ kind ∈ RelayFault.kinds,
    cs.setupFailuresAt p kind = UInt64.ofNat (t.failures.countP (·.kind = kind))

variable {t : Tally} {sole : Prop} {p : UInt16} {status : Status} {cs : Counters}

theorem Fits.spares {after : Counters} (h : t.Fits sole p status cs) (spares : sole → cs.Spares p after) :
    t.Fits sole p status after where
  attempt := h.attempt
  completed := h.completed
  lastError := h.lastError
  turns := h.turns
  setup := h.setup
  sessions alone := (spares alone).sessions.trans (h.sessions alone)
  setupFailures alone kind named :=
    ((spares alone).setupFailures kind named).trans (h.setupFailures alone kind named)

theorem Fits.published (h : t.Fits sole p status cs) (told : Status) :
    (t.note (.published told)).Fits sole p status cs :=
  ⟨h.attempt, h.completed, h.lastError, h.turns, h.setup, h.sessions, h.setupFailures⟩

theorem Fits.goesTo (h : t.Fits sole p status cs) (state : RelayState)
    (same : t.inSession state = t.inSession status.state) : t.Fits sole p { status with state } cs :=
  ⟨h.attempt, h.completed, h.lastError, h.turns, h.setup, fun alone => same ▸ h.sessions alone, h.setupFailures⟩

theorem Fits.begins (h : t.Fits sole p status cs) (resting : status.state = .idle)
    (finished : t.underWay = false) :
    (t.note .began).Fits sole p { status with attempt := status.attempt + 1 } cs where
  attempt := by rw [h.attempt]; exact (UInt64.ofNat_add _ 1).symm
  completed := h.completed
  lastError := h.lastError
  turns := by
    have turns := h.turns
    simp only [finished, Bool.false_eq_true, if_false] at turns
    simp only [note, if_true, turns]
  setup := h.setup
  sessions alone := by
    have sessions := h.sessions alone
    simp only [inSession, resting] at sessions ⊢
    simpa [note] using sessions
  setupFailures := h.setupFailures

theorem Fits.fails (h : t.Fits sole p status cs) (connecting : status.state = .connecting)
    (underWay : t.underWay = true) {fault : RelayFault} (setup : fault.isSetupFailure = true) :
    (t.note (.failed fault)).Fits sole p { status with lastError := some fault.message }
      (cs.recordSetupFailure p fault.kind) where
  attempt := h.attempt
  completed := h.completed
  lastError := rfl
  turns := by
    have turns := h.turns
    simp only [underWay, if_true] at turns
    simp only [note, turns, List.length_append, List.length_singleton, Nat.add_assoc]
    rfl
  setup := by
    intro f member
    rcases List.mem_append.mp member with earlier | now
    · exact h.setup f earlier
    · exact List.mem_singleton.mp now ▸ setup
  sessions alone := by
    have sessions := h.sessions alone
    simp only [inSession, connecting] at sessions ⊢
    rw [Counters.sessionsAt_recordSetupFailure]
    simpa [note] using sessions
  setupFailures alone kind named := by
    rw [Counters.setupFailuresAt_recordSetupFailure, h.setupFailures alone kind named]
    simp only [note, List.countP_append, List.countP_singleton, decide_eq_true_eq]
    rw [UInt64.ofNat_add]
    split <;> rfl

theorem Fits.pairs (h : t.Fits sole p status cs) (connecting : status.state = .connecting)
    (underWay : t.underWay = true) :
    t.Fits sole p { status with state := .relaying } (cs.recordSession p) where
  attempt := h.attempt
  completed := h.completed
  lastError := h.lastError
  turns := h.turns
  setup := h.setup
  sessions alone := by
    have sessions := h.sessions alone
    simp only [inSession, connecting, underWay] at sessions ⊢
    rw [Counters.sessionsAt_recordSession, sessions]
    simp
  setupFailures alone kind named := by
    rw [Counters.setupFailuresAt_recordSession, h.setupFailures alone kind named]

theorem Fits.completes (h : t.Fits sole p status cs) (tearingDown : status.state = .tearingDown)
    (underWay : t.underWay = true) (report : SessionReport) :
    (t.note (.completed report)).Fits sole p
      { status with sessionsCompleted := status.sessionsCompleted + 1, lastError := none } cs where
  attempt := h.attempt
  completed := by rw [h.completed]; exact (UInt64.ofNat_add _ 1).symm
  lastError := rfl
  turns := by
    have turns := h.turns
    simp only [underWay, if_true] at turns
    simp only [note, turns, Bool.false_eq_true, if_false]
    omega
  setup := h.setup
  sessions alone := by
    have sessions := h.sessions alone
    simp only [inSession, tearingDown, underWay] at sessions ⊢
    simpa [note] using sessions
  setupFailures := h.setupFailures

/-- Each status that is published in some moments fits the tally at that moment, and its state comes
after the one that was published before. -/
def FitsAlong (sole : Prop) (p : UInt16) : Tally → List Moment → Prop
  | _, [] => True
  | t, m :: rest =>
    (∀ status, m.act = .published status →
      t.state.LeadsTo status.state ∧ t.Fits sole p status m.scene.counters) ∧
    FitsAlong sole p (t.note m.act) rest

theorem fitsAlong_append {moments more : List Moment} :
    t.FitsAlong sole p (moments ++ more) ↔
      t.FitsAlong sole p moments ∧ (t.follow moments).FitsAlong sole p more := by
  induction moments generalizing t with
  | nil => exact (and_iff_right trivial).symm
  | cons m rest ih =>
      simp only [List.cons_append, FitsAlong, ih, and_assoc]
      rfl

theorem FitsAlong.published {scene : Scene} {rest : List Moment}
    (leads : t.state.LeadsTo status.state) (fits : t.Fits sole p status scene.counters)
    (along : (t.note (.published status)).FitsAlong sole p rest) :
    t.FitsAlong sole p (⟨.published status, scene⟩ :: rest) := by
  refine ⟨?_, along⟩
  rintro told ⟨⟩
  exact ⟨leads, fits⟩

theorem FitsAlong.unpublished {m : Moment} {rest : List Moment}
    (silent : ∀ status, m.act ≠ .published status) (along : (t.note m.act).FitsAlong sole p rest) :
    t.FitsAlong sole p (m :: rest) :=
  ⟨fun status told => absurd told (silent status), along⟩

/-- Where the state of a supervisor and its attempt are in a stage. -/
def Stands (t : Tally) (state : RelayState) : Stage → Prop
  | .resting _ => state = .idle ∧ t.underWay = false
  | .dialling _ | .binding _ | .awaiting .. => state = .connecting ∧ t.underWay = true
  | .relaying _ => state = .relaying ∧ t.underWay = true

end Tally

end Supervisor

namespace Supervision

open Supervisor

/-- A supervisor's accounts are in order. -/
structure Accounted (sole : Prop) (p : UInt16) (v : Supervision) : Prop where
  localPort : v.supervisor.relay.localPort = p
  told : Tally.FitsAlong sole p {} v.moments
  fits : (Tally.of v.moments).Fits sole p v.supervisor.status v.scene.counters
  state : (Tally.of v.moments).state = v.supervisor.status.state
  stands : (Tally.of v.moments).Stands v.supervisor.status.state v.supervisor.stage

variable {v : Supervision} {sole : Prop} {p : UInt16}

/-- A step that publishes nothing and after which the state stands for the stage. -/
theorem Accounted.quiet (h : v.Accounted sole p) {stage : Stage} {scene : Scene} {isBlocked : Bool}
    (spares : sole → v.scene.counters.Spares p scene.counters)
    (stands : (Tally.of v.moments).Stands v.supervisor.status.state stage) :
    (v.after { supervisor := { v.supervisor with stage }, scene, isBlocked }).Accounted sole p := by
  simp only [after, List.append_nil]
  exact ⟨h.localPort, h.told, h.fits.spares spares, h.state, stands⟩

theorem Accounted.begins (h : v.Accounted sole p) {wakes : Span}
    (here : v.supervisor.stage = .resting wakes) :
    (v.after (v.supervisor.begin v.scene)).Accounted sole p := by
  have stands := h.stands
  rw [here] at stands
  obtain ⟨idle, finished⟩ := stands
  have counted := h.fits.begins idle finished
  have connecting := counted.goesTo .connecting (by simp [Tally.inSession, idle])
  rw [begin_eq]
  refine ⟨h.localPort, ?_, ?_, ?_, ?_⟩
  · refine Tally.fitsAlong_append.mpr ⟨h.told, .unpublished nofun ?_⟩
    refine .published ?_ counted (.published ?_ (connecting.published _) trivial)
    · exact h.state ▸ .stays _
    · exact idle ▸ .setsOut
  · rw [after, Tally.of_append]
    exact (connecting.published _).published _
  · rw [after, Tally.of_append]
    rfl
  · rw [after, Tally.of_append]
    exact ⟨rfl, rfl⟩

theorem Accounted.fails (h : v.Accounted sole p) (connecting : v.supervisor.status.state = .connecting)
    (underWay : (Tally.of v.moments).underWay = true) {scene : Scene}
    (same : scene.counters = v.scene.counters) {fault : RelayFault}
    (setup : fault.isSetupFailure = true) : (v.after (v.supervisor.fail scene fault)).Accounted sole p := by
  obtain rfl := h.localPort
  have told := h.fits.fails connecting underWay setup
  rw [← same] at told
  have idle := told.goesTo .idle (by simp [Tally.inSession, connecting])
  rw [fail_eq]
  refine ⟨rfl, ?_, ?_, ?_, ?_⟩
  · refine Tally.fitsAlong_append.mpr ⟨h.told, .unpublished nofun ?_⟩
    refine .published ?_ told (.published ?_ (idle.published _) trivial)
    · exact h.state ▸ .stays _
    · change RelayState.LeadsTo v.supervisor.status.state _
      rw [connecting]
      exact .givesUp
  · rw [after, Tally.of_append]
    exact (idle.published _).published _
  · rw [after, Tally.of_append]
    rfl
  · rw [after, Tally.of_append]
    exact ⟨rfl, rfl⟩

theorem Accounted.pairs (h : v.Accounted sole p) (connecting : v.supervisor.status.state = .connecting)
    (underWay : (Tally.of v.moments).underWay = true) {scene : Scene}
    (same : scene.counters = v.scene.counters) (target : Session.Party) (doorway : Doorway)
    (client : Socket) : (v.after (v.supervisor.pair scene target doorway client)).Accounted sole p := by
  obtain rfl := h.localPort
  have paired := h.fits.pairs connecting underWay
  rw [← same] at paired
  rw [pair_eq]
  refine ⟨rfl, ?_, ?_, ?_, ?_⟩
  · refine Tally.fitsAlong_append.mpr ⟨h.told, .published ?_ paired trivial⟩
    exact h.state ▸ connecting ▸ .pairs
  · rw [after, Tally.of_append]
    exact paired.published _
  · rw [after, Tally.of_append]
    rfl
  · rw [after, Tally.of_append]
    exact ⟨rfl, underWay⟩

theorem Accounted.completes (h : v.Accounted sole p) {session : Session}
    (here : v.supervisor.stage = .relaying session) (report : SessionReport) :
    (v.after (v.supervisor.complete v.scene session report)).Accounted sole p := by
  have stands := h.stands
  rw [here] at stands
  obtain ⟨relaying, underWay⟩ := stands
  have torn := h.fits.goesTo .tearingDown (by simp [Tally.inSession, relaying])
  have counted := (torn.published { v.supervisor.status with state := .tearingDown }).completes rfl
    underWay report
  have idle := counted.goesTo .idle (by simp [Tally.inSession, Tally.note])
  rw [complete_eq]
  refine ⟨h.localPort, ?_, ?_, ?_, ?_⟩
  · refine Tally.fitsAlong_append.mpr ⟨h.told, .published ?_ torn (.unpublished nofun ?_)⟩
    · exact h.state ▸ relaying ▸ .ends
    · exact .published (.stays _) counted (.published .rests (idle.published _) trivial)
  · rw [after, Tally.of_append]
    exact (idle.published _).published _
  · rw [after, Tally.of_append]
    rfl
  · rw [after, Tally.of_append]
    exact ⟨rfl, rfl⟩

theorem Accounted.step (h : v.Accounted sole p) (first : Glance) : (v.move (.step first)).Accounted sole p := by
  have does := v.supervisor.step_does first v.scene
  have stands := h.stands
  rw [move]
  generalize v.supervisor.step first v.scene = s at does
  cases does with
  | waits => exact h.quiet (fun _ => .refl _) h.stands
  | begins here => exact h.begins here
  | misses here | connects here | holds here | opens here =>
      rw [here] at stands
      exact h.quiet (fun _ => .refl _) stands
  | givesUp here | cannotOpen here | cannotAdmit here | targetGoes here =>
      rw [here] at stands
      refine h.fails stands.1 stands.2 ?_ ?_ <;> rfl
  | admits here =>
      rw [here] at stands
      refine h.pairs stands.1 stands.2 ?_ _ _ _
      rfl
  | completes here => exact h.completes here _

theorem Accounted.lane (h : v.Accounted sole p) (direction : Direction) :
    (v.move (.lane direction)).Accounted sole p := by
  rw [move]
  rcases v.supervisor.stepLane_cases direction v.scene with ⟨session, here, eq⟩ | eq
  · have stands := h.stands
    rw [here] at stands
    rw [eq]
    exact h.quiet (fun _ => session.spares_stepLane direction v.scene p) stands
  · rw [eq]
    exact h.quiet (fun _ => .refl _) h.stands

theorem Accounted.others (h : v.Accounted sole p) {change : Scene → Scene}
    (spares : sole → v.scene.counters.Spares p (change v.scene).counters) :
    (v.move (.others change)).Accounted sole p :=
  ⟨h.localPort, h.told, h.fits.spares spares, h.state, h.stands⟩

variable (relay : Relay) (scene : Scene) (happenings : List Happening)

/-- Nothing has been counted for a port, and nobody but the supervisor ever counts anything for it. -/
def CountsAlone : Prop :=
  scene.counters.sessionsAt relay.localPort = 0 ∧
  (∀ kind ∈ RelayFault.kinds, scene.counters.setupFailuresAt relay.localPort kind = 0) ∧
  ∀ change, .others change ∈ happenings → ∀ s : Scene,
    s.counters.Spares relay.localPort (change s).counters

theorem accounted_start (sole : Prop)
    (unused : sole → scene.counters.sessionsAt relay.localPort = 0 ∧
      ∀ kind ∈ RelayFault.kinds, scene.counters.setupFailuresAt relay.localPort kind = 0) :
    (start relay scene).Accounted sole relay.localPort where
  localPort := rfl
  told := trivial
  fits := {
    attempt := rfl
    completed := rfl
    lastError := rfl
    turns := rfl
    setup := by simp [start, Tally.of, Tally.follow]
    sessions := fun alone => (unused alone).1
    setupFailures := fun alone => (unused alone).2 }
  state := rfl
  stands := ⟨rfl, rfl⟩

theorem run_accounted :
    ((start relay scene).run happenings).Accounted (CountsAlone relay scene happenings)
      relay.localPort := by
  -- Whether the counters are looked at is settled by the whole run, so that is fixed beforehand.
  suffices follows : ∀ sole : Prop, (sole → CountsAlone relay scene happenings) →
      ((start relay scene).run happenings).Accounted sole relay.localPort from follows _ id
  intro sole
  induction happenings using List.reverseRecOn with
  | nil => exact fun alone => accounted_start relay scene sole fun h => ⟨(alone h).1, (alone h).2.1⟩
  | append_singleton happenings happening ih =>
      intro alone
      have earlier := ih fun h => ⟨(alone h).1, (alone h).2.1,
        fun change member => (alone h).2.2 change (List.mem_append_left _ member)⟩
      rw [run_concat]
      cases happening with
      | step first => exact earlier.step first
      | lane direction => exact earlier.lane direction
      | others change =>
          exact earlier.others fun h => (alone h).2.2 change (List.mem_append_right _ (.head _)) _

/-- At every status that a supervisor publishes: its state comes after the one that it published
before; it has begun as many attempts as it has completed sessions and recorded failures, and one
more while an attempt is in progress; its last error is that of the attempt that was finished last;
and every failure ended an attempt before it relayed. The counters agree when nobody else counts for
the port. -/
theorem published_accounts {before after : List Moment} {status : Status} {now : Scene}
    (told : ((start relay scene).run happenings).moments =
      before ++ ⟨.published status, now⟩ :: after) :
    let t := Tally.of before
    let failed := t.failures.length
    t.state.LeadsTo status.state ∧
      status.lastError = t.last.map RelayFault.message ∧
      (∀ fault ∈ t.failures, fault.isSetupFailure = true) ∧
      (t.turns < 2 ^ 64 →
        status.attempt.toNat = t.turns ∧ status.sessionsCompleted.toNat = t.completed ∧
        status.sessionsCompleted.toNat + failed ≤ status.attempt.toNat ∧
        status.attempt.toNat ≤ status.sessionsCompleted.toNat + failed + 1 ∧
        (t.underWay = false → status.attempt.toNat = status.sessionsCompleted.toNat + failed) ∧
        (CountsAlone relay scene happenings →
          (RelayFault.kinds.map fun kind =>
            (now.counters.setupFailuresAt relay.localPort kind).toNat).sum = failed ∧
          (now.counters.sessionsAt relay.localPort).toNat = status.sessionsCompleted.toNat +
            if t.underWay ∧ (status.state = .relaying ∨ status.state = .tearingDown) then 1 else 0)) := by
  intro t failed
  have along := (run_accounted relay scene happenings).told
  rw [told] at along
  obtain ⟨leads, fits⟩ : t.state.LeadsTo status.state ∧ t.Fits _ _ status now.counters :=
    (Tally.fitsAlong_append.mp along).2.1 status rfl
  refine ⟨leads, fits.lastError, fits.setup, fun bounded => ?_⟩
  have turns := fits.turns
  have small {n : Nat} (le : n ≤ t.turns) : (UInt64.ofNat n).toNat = n :=
    UInt64.toNat_ofNat_of_lt' (Nat.lt_of_le_of_lt le bounded)
  change t.turns = t.completed + failed + _ at turns
  have attempt : status.attempt.toNat = t.turns := by rw [fits.attempt]; exact small (Nat.le_refl _)
  have completed : status.sessionsCompleted.toNat = t.completed := by
    rw [fits.completed]
    exact small (by omega)
  refine ⟨attempt, completed, by omega, ?_, ?_, fun alone => ⟨?_, ?_⟩⟩
  · split at turns <;> omega
  · intro finished
    simp only [finished, Bool.false_eq_true, if_false] at turns
    omega
  · have each : ∀ kind ∈ RelayFault.kinds, (now.counters.setupFailuresAt relay.localPort kind).toNat =
        t.failures.countP (·.kind = kind) := by
      intro kind named
      rw [fits.setupFailures alone kind named]
      have atMost : t.failures.countP (·.kind = kind) ≤ failed := List.countP_le_length
      exact small (by omega)
    rw [List.map_congr_left each, RelayFault.sum_countP_kinds]
  · have most : t.completed + t.inSession status.state ≤ t.turns := by
      simp only [Tally.inSession]
      split
      next inside => simp only [inside.1, if_true] at turns; omega
      next => omega
    rw [fits.sessions alone, completed]
    exact small most

/-- The first attempt finds nobody listening at the target. The second one relays a session, whose
end has not been recorded when the connections are torn down. -/
theorem published_accounts_second_attempt :
    let relay := { Relay.atPort 9 with targetPort := some 7 }
    let scene := Scene.start {} (.start .noop ⟨[]⟩ "") fun _ => ""
    let onNetwork (f : Network → Network) : Happening :=
      .others fun s => { s with network := f s.network }
    let happenings : List Happening :=
      [.step .client, .step .client, .step .client,
        onNetwork fun n => (n.listen ⟨.loopbackV4, 7, 0⟩).2,
        .step .client, .step .client, .step .client,
        onNetwork fun n => (n.dial ⟨.loopbackV4, 9, 0⟩).2.shutdown ⟨1, .dialled⟩,
        .step .client, .lane .client, .lane .client, .lane .server, .lane .server, .step .client]
    let moments := ((start relay scene).run happenings).moments
    CountsAlone relay scene happenings ∧ (Tally.of (moments.take 10)).turns = 2 ∧
      ∃ status now after, moments = moments.take 10 ++ ⟨.published status, now⟩ :: after ∧
        status.state = .tearingDown ∧ status.attempt.toNat = 2 ∧
        (RelayFault.kinds.map fun kind => (now.counters.setupFailuresAt 9 kind).toNat).sum = 1 ∧
        (now.counters.sessionsAt 9).toNat = status.sessionsCompleted.toNat + 1 := by
  intro relay scene onNetwork happenings moments
  have alone : CountsAlone relay scene happenings := by
    refine ⟨rfl, fun _ _ => rfl, fun change member s => ?_⟩
    simp only [happenings, onNetwork, List.mem_cons, Happening.others.injEq, reduceCtorEq, false_or,
      List.not_mem_nil, or_false] at member
    rcases member with rfl | rfl <;> exact .refl _
  have act : moments[10]?.map (·.act) = some (.published ⟨9, .tearingDown, 2, 0, some
      "failed to connect to upstream 127.0.0.1:7: Connection refused (os error 111)"⟩) := by
    decide +kernel
  have turns : (Tally.of (moments.take 10)).turns = 2 := by decide +kernel
  have failed : (Tally.of (moments.take 10)).failures.length = 1 := by decide +kernel
  have underWay : (Tally.of (moments.take 10)).underWay = true := by decide +kernel
  obtain ⟨⟨_, now⟩, there, rfl⟩ := Option.map_eq_some_iff.mp act
  obtain ⟨within, eq⟩ := List.getElem?_eq_some_iff.mp there
  have told := (List.take_append_drop 10 moments).symm
  rw [List.drop_eq_getElem_cons within, eq] at told
  obtain ⟨_, _, _, accounts⟩ := published_accounts relay scene happenings told
  obtain ⟨attempt, _, _, _, _, counted⟩ := accounts (by rw [turns]; decide)
  obtain ⟨failures, sessions⟩ := counted alone
  rw [if_pos ⟨underWay, .inr rfl⟩] at sessions
  exact ⟨alone, turns, _, now, _, told, rfl, attempt.trans turns, failures.trans failed, sessions⟩

end Supervision

end Wiretap
