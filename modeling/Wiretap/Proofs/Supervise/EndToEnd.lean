import Wiretap.Proofs.Supervise.Holdings
/-! # Streams from end to end

Each session of a supervisor carries the streams of its own two connections and nothing else. The
connections of its sessions are numbered upwards, so no two sessions share one; what is sent into a
connection is what the session's lane read from the other one; and over a connection that no session
got nothing is ever sent or received.
-/

namespace Wiretap

open Network

namespace Session

/-- The ends of connections that a session has. -/
def sockets (p : Session) : List Socket := [p.target, p.client]

def connections (p : Session) : List Nat := p.sockets.map (·.connection)

theorem source_mem (p : Session) (direction : Direction) : p.source direction ∈ p.sockets := by
  cases direction <;> simp [source, sockets]

theorem destination_mem (p : Session) (direction : Direction) : p.destination direction ∈ p.sockets := by
  cases direction <;> simp [destination, sockets]

theorem source_ne_source (p : Session) (apart : p.target ≠ p.client) {direction other : Direction}
    (h : other ≠ direction) : p.source other ≠ p.source direction := by
  cases direction <;> cases other <;> simp_all [source, ne_comm]

theorem destination_ne_destination (p : Session) (apart : p.target ≠ p.client)
    {direction other : Direction} (h : other ≠ direction) :
    p.destination other ≠ p.destination direction := by
  cases direction <;> cases other <;> simp_all [destination, ne_comm]

end Session

/-- The session that is under way in a stage. -/
def Stage.session? : Stage → Option Session
  | .relaying p => some p
  | _ => none

theorem Stage.IsResting.session?_eq {stage : Stage} (h : stage.IsResting) : stage.session? = none := by
  cases stage with
  | resting wakes => rfl
  | _ => cases h

/-! ## The ledger over a step -/

/-- A step of a supervisor sends and receives nothing. -/
theorem Supervisor.Does.conserves {s : Supervisor} {scene : Scene} {r : Supervisor.Step}
    (h : s.Does scene r) (b : Ledger) : b.Conserves scene.network b r.scene.network := by
  cases h with
  | waits | begins | holds | givesUp => exact .refl _ _
  | @misses address _ _ _ _ here dialled =>
      have dials := b.conserves_dial scene.network address
      rw [dialled] at dials
      exact dials
  | @connects address _ _ _ _ here dialled =>
      have dials := b.conserves_dial scene.network address
      rw [dialled] at dials
      exact dials.trans (b.conserves_fades (fades_tryNoDelay ..))
  | opens here opened =>
      have listens := fades_listen scene.network s.relay.listenAddress
      rw [opened] at listens
      exact b.conserves_fades listens
  | cannotOpen here refused =>
      have listens := fades_listen scene.network s.relay.listenAddress
      rw [refused] at listens
      exact b.conserves_fades (listens.trans (fades_close ..))
  | @admits _ doorway _ _ here comes =>
      have accepts := fades_accept scene.network doorway.listener
      rw [comes] at accepts
      exact b.conserves_fades ((accepts.trans (fades_unlisten ..)).trans (fades_tryNoDelay ..))
  | @cannotAdmit _ doorway _ _ here comes =>
      have accepts := fades_accept scene.network doorway.listener
      rw [comes] at accepts
      exact b.conserves_fades ((accepts.trans (fades_unlisten ..)).trans (fades_close ..))
  | targetGoes here => exact b.conserves_fades ((fades_unlisten ..).trans (fades_close ..))
  | completes here => exact b.conserves_fades ((fades_close ..).trans (fades_close ..))

namespace World

variable {w : World}

/-- What others do shows in the ledger, and only at the ends that they got. -/
theorem conserves_act {d : Deed} (allowed : w.allows d = true) :
    w.ledger.Conserves w.network (w.act d).ledger (w.act d).network ∧
      ∀ s ∉ w.theirs, (w.act d).ledger.sent s = w.ledger.sent s ∧
        (w.act d).ledger.received s = w.ledger.received s := by
  have still {v : World} (ledger : v.ledger = w.ledger) (fades : w.network.Fades v.network) :
      w.ledger.Conserves w.network v.ledger v.network ∧
        ∀ s ∉ w.theirs, v.ledger.sent s = w.ledger.sent s ∧ v.ledger.received s = w.ledger.received s := by
    rw [ledger]
    exact ⟨w.ledger.conserves_fades fades, fun _ _ => ⟨rfl, rfl⟩⟩
  cases d with
  | listen address => exact still rfl (fades_listen ..)
  | unlisten l => exact still rfl (fades_unlisten ..)
  | dial address => exact ⟨w.ledger.conserves_dial .., fun _ _ => ⟨rfl, rfl⟩⟩
  | accept l =>
      have accepts := fades_accept w.network l
      simp only [act]
      split
      next accepted => rw [accepted] at accepts; exact still rfl accepts
      next accepted => rw [accepted] at accepts; exact still rfl accepts
  | send s bytes =>
      have member : s ∈ w.theirs := by simpa [allows] using allowed
      simp only [act]
      split
      next sent =>
        refine ⟨Ledger.conserves_send sent, fun t foreign => ⟨?_, rfl⟩⟩
        exact Ledger.sent_send_of_ne _ _ fun eq => foreign (eq ▸ member)
      next result network other sent =>
        cases result with
        | ok => exact absurd rfl other
        | error fault => exact still rfl (send_eq_of_error sent ▸ .refl _)
  | receive s limit =>
      have member : s ∈ w.theirs := by simpa [allows] using allowed
      simp only [act]
      split
      next received =>
        refine ⟨Ledger.conserves_receive received, fun t foreign => ⟨rfl, ?_⟩⟩
        exact Ledger.received_receive_of_ne _ _ fun eq => foreign (eq ▸ member)
      next value network other received =>
        have same := receive_eq_of_not_ok received other
        exact still rfl (same ▸ .refl _)
  | shutdown s => exact still rfl (fades_shutdown ..)
  | close s => exact still rfl (fades_close ..)
  | reset s => exact still rfl (fades_reset ..)
  | arrange names failures isOpen => exact still rfl (fades_of_connections rfl)

/-! ## The sessions of a supervisor -/

/-- The sessions so far, in the order in which they began. -/
def sessions (w : World) : List Session :=
  w.past.map Prod.fst ++ w.supervisor.stage.session?.toList

/-- What becomes of the sessions in a step. -/
inductive Succeeds (w v : World) : Prop where
  | same (past : v.past = w.past)
      (session : v.supervisor.stage.session? = w.supervisor.stage.session?)
      (opening : v.supervisor.stage.IsResting ∨ v.opening.size = w.network.size ∨
        ¬ w.supervisor.stage.IsResting ∧ v.opening = w.opening)
  | begins (past : v.past = w.past) (none : w.supervisor.stage.session? = none)
      (busy : ¬ w.supervisor.stage.IsResting) (opening : v.opening = w.opening) {p : Session}
      (here : v.supervisor.stage = .relaying p)
      (lanes : ∀ direction, ∃ setup, p.lane direction = .start setup)
  | completes {p : Session} {report : SessionReport} (here : w.supervisor.stage = .relaying p)
      (reported : p.report? w.scene.now = some report) (past : v.past = w.past ++ [(p, report)])
      (rests : v.supervisor.stage.IsResting)

theorem step_succeeds (w : World) (first : Glance) : w.Succeeds (w.move (.step first)) := by
  have does := w.supervisor.step_does first w.scene
  simp only [move, Supervision.move, concluded]
  generalize w.supervisor.step first w.scene = r at does
  cases does with
  | waits =>
      refine .same ?_ rfl ?_
      · cases w.supervisor.stage <;> exact List.append_nil _
      · by_cases resting : w.supervisor.stage.IsResting
        · exact .inl resting
        · exact .inr (.inr ⟨resting, Supervision.opening_after ..⟩)
  | begins here =>
      refine .same ?_ ?_ (.inr (.inl ?_))
      · simp only [here]
        exact List.append_nil _
      · rw [here]
        rfl
      · exact congrArg size (Supervision.opening_after ..)
  | misses here | connects here | holds here | opens here =>
      refine .same ?_ ?_ (.inr (.inr ⟨?_, Supervision.opening_after ..⟩))
      · simp only [here]
        exact List.append_nil _
      · rw [here]
        rfl
      · rw [here]
        exact id
  | givesUp here | cannotOpen here | cannotAdmit here | targetGoes here =>
      refine .same ?_ ?_ (.inl trivial)
      · simp only [here]
        exact List.append_nil _
      · rw [here]
        rfl
  | admits here comes =>
      refine .begins ?_ ?_ ?_ (Supervision.opening_after ..) rfl ?_
      · simp only [here]
        exact List.append_nil _
      · rw [here]
        rfl
      · rw [here]
        exact id
      · intro direction
        cases direction <;> exact ⟨_, rfl⟩
  | completes here reported =>
      refine .completes here reported ?_ trivial
      simp only [here]
      rfl

/-! ## What a ledger says of sessions -/

/-- The ledger tells the streams of the sessions, and nothing is told of other ends that are not
those of others. -/
structure Faithful (w : World) : Prop where
  orderly : w.Orderly
  records : w.ledger.Records w.network
  withheld : ∀ q ∈ w.past, ∀ s ∈ q.1.sockets, w.network.Withheld w.theirs s
  apart : ((w.past.map Prod.fst).flatMap Session.connections).Pairwise (· < ·)
  earlier : ¬ w.supervisor.stage.IsResting →
    ∀ q ∈ w.past, ∀ s ∈ q.1.sockets, s.connection < w.opening.size
  reported : ∀ q ∈ w.past, ∀ direction, (q.1.lane direction).report? = some (q.2.lane direction)
  carries : ∀ p ∈ w.sessions, ∀ direction, p.Carries direction w.ledger w.network
  idle : ∀ s ∉ w.theirs, (∀ p ∈ w.sessions, s ∉ p.sockets) →
    w.ledger.sent s = [] ∧ w.ledger.received s = []

theorem faithful_start (relay : Relay) (scene : Scene) : (start relay scene).Faithful := by
  have past : (start relay scene).past = [] := rfl
  have none : (start relay scene).sessions = [] := rfl
  constructor
  · exact orderly_start relay scene
  · refine ⟨fun s e there => ?_, fun _ _ => ⟨rfl, rfl⟩⟩
    simp [start, Supervision.start, network, endpoint?] at there
  · simp [past]
  · simp [past]
  · simp [past]
  · simp [past]
  · simp [none]
  · exact fun _ _ _ => ⟨rfl, rfl⟩

/-- The session that is under way. -/
theorem Orderly.under_way (h : w.Orderly) {p : Session} (here : w.supervisor.stage = .relaying p) :
    (∀ s ∈ p.sockets, w.Has s ∧ w.opening.size ≤ s.connection) ∧ p.target ≠ p.client ∧
      p.connections.Pairwise (· < ·) := by
  have ours (s : Socket) (member : s ∈ p.sockets) : w.Has s := (h.ours s).mpr (here ▸ member)
  have recent := h.recent
  rw [here] at recent
  obtain ⟨⟨dialled, _⟩, accepted, later⟩ := recent
  refine ⟨fun s member => ⟨ours s member, h.since (ours s member)⟩, fun same => ?_, ?_⟩
  · simp [same, accepted] at dialled
  · simpa [Session.connections, Session.sockets] using later

theorem mem_sessions {p : Session} :
    p ∈ w.sessions ↔ (∃ q ∈ w.past, q.1 = p) ∨ w.supervisor.stage = .relaying p := by
  simp only [sessions, List.mem_append, List.mem_map, Option.mem_toList]
  cases w.supervisor.stage <;> simp [Stage.session?]

theorem Faithful.withheld_sessions (h : w.Faithful) {p : Session} (member : p ∈ w.sessions)
    {s : Socket} (ends : s ∈ p.sockets) : w.network.Withheld w.theirs s := by
  rcases mem_sessions.mp member with ⟨q, past, rfl⟩ | here
  · exact h.withheld q past s ends
  · exact ((h.orderly.under_way here).1 s ends).1.withheld

/-- The connections of the sessions are numbered upwards. -/
theorem Faithful.apart_sessions (h : w.Faithful) :
    (w.sessions.flatMap Session.connections).Pairwise (· < ·) := by
  rw [sessions, List.flatMap_append]
  cases here : w.supervisor.stage with
  | relaying p =>
      obtain ⟨ours, _, upwards⟩ := h.orderly.under_way here
      have earlier := h.earlier (by simp [here, Stage.IsResting])
      have one : (Stage.relaying p).session?.toList.flatMap Session.connections = p.connections :=
        List.append_nil _
      rw [one]
      refine List.pairwise_append.mpr ⟨h.apart, upwards, fun c old d new => ?_⟩
      obtain ⟨_, first, old⟩ := List.mem_flatMap.mp old
      obtain ⟨q, member, rfl⟩ := List.mem_map.mp first
      obtain ⟨s, first, rfl⟩ := List.mem_map.mp old
      obtain ⟨t, second, rfl⟩ := List.mem_map.mp new
      exact Nat.lt_of_lt_of_le (earlier q member s first) (ours t second).2
  | _ => simpa [Stage.session?] using h.apart

/-! ## What a ledger tells after a happening -/

theorem past_act (w : World) (d : Deed) : (w.act d).past = w.past := by
  cases d with
  | accept | send | receive => simp only [act]; split <;> rfl
  | _ => rfl

theorem theirs_act (w : World) (d : Deed) : w.theirs ⊆ (w.act d).theirs := by
  cases d with
  | accept =>
      simp only [act]
      split
      · exact List.subset_append_left _ _
      · exact List.Subset.refl _
  | send | receive => simp only [act]; split <;> exact List.Subset.refl _
  | dial => exact List.subset_append_left _ _
  | _ => exact List.Subset.refl _

theorem Faithful.act (h : w.Faithful) {d : Deed} (allowed : w.allows d = true) :
    (w.act d).Faithful := by
  obtain ⟨conserves, untouched⟩ := conserves_act allowed
  have others := undisturbed_act h.orderly.shared allowed
  obtain ⟨supervisor, moments⟩ := w.supervisor_act d
  have past := w.past_act d
  have sessions : (w.act d).sessions = w.sessions := by simp only [World.sessions, past, supervisor]
  have opening : (w.act d).opening = w.opening := by simp only [Supervision.opening, moments]
  constructor
  · exact h.orderly.act allowed
  · exact conserves.records h.records
  · rw [past]
    exact fun q member s ends => others.withholds.socket s (h.withheld q member s ends)
  · rw [past]
    exact h.apart
  · rw [past, supervisor, opening]
    exact h.earlier
  · rw [past]
    exact h.reported
  · rw [sessions]
    intro p member direction
    have own (s : Socket) (ends : s ∈ p.sockets) := untouched s (h.withheld_sessions member ends).2.1
    exact (h.carries p member direction).elsewhere h.records conserves rfl rfl rfl
      (own _ (p.source_mem direction)).2 (own _ (p.destination_mem direction)).1
  · rw [sessions]
    intro s foreign none
    have before : s ∉ w.theirs := fun member => foreign (w.theirs_act d member)
    obtain ⟨sent, received⟩ := untouched s before
    rw [sent, received]
    exact h.idle s before none

/-- Nothing was sent or received, and what others could not get they still cannot get. -/
structure Silent (w v : World) : Prop where
  orderly : v.Orderly
  withholds : w.network.Withholds w.theirs w.theirDoors v.network v.theirs v.theirDoors
  conserves : w.ledger.Conserves w.network v.ledger v.network
  ledger : v.ledger = w.ledger
  theirs : v.theirs = w.theirs

theorem Orderly.silent_step (h : w.Orderly) (first : Glance) : w.Silent (w.move (.step first)) where
  orderly := h.step first
  withholds := h.withholds_move (.step first)
  conserves := (w.supervisor.step_does first w.scene).conserves w.ledger
  ledger := rfl
  theirs := rfl

section Silent

variable {v : World} {p : Session}

theorem Faithful.carries_silent (h : w.Faithful) (silent : w.Silent v) (member : p ∈ w.sessions)
    (direction : Direction) : p.Carries direction v.ledger v.network := by
  apply (h.carries p member direction).elsewhere h.records silent.conserves rfl rfl rfl
  · rw [silent.ledger]
  · rw [silent.ledger]

theorem Faithful.withheld_silent (h : w.Faithful) (silent : w.Silent v) (member : p ∈ w.sessions)
    {s : Socket} (ends : s ∈ p.sockets) : v.network.Withheld v.theirs s :=
  silent.withholds.socket s (h.withheld_sessions member ends)

theorem Faithful.same (h : w.Faithful) (silent : w.Silent v) (past : v.past = w.past)
    (session : v.supervisor.stage.session? = w.supervisor.stage.session?)
    (opening : v.supervisor.stage.IsResting ∨ v.opening.size = w.network.size ∨
      ¬ w.supervisor.stage.IsResting ∧ v.opening = w.opening) : v.Faithful := by
  have sessions : v.sessions = w.sessions := by simp only [World.sessions, past, session]
  constructor
  · exact silent.orderly
  · exact silent.conserves.records h.records
  · rw [past]
    intro q member s ends
    exact h.withheld_silent silent (mem_sessions.mpr (.inl ⟨q, member, rfl⟩)) ends
  · rw [past]
    exact h.apart
  · rw [past]
    intro busy q member s ends
    rcases opening with rests | begun | ⟨before, same⟩
    · exact absurd rests busy
    · rw [begun]
      exact (h.withheld q member s ends).1
    · rw [same]
      exact h.earlier before q member s ends
  · rw [past]
    exact h.reported
  · rw [sessions]
    exact fun p member => h.carries_silent silent member
  · rw [sessions, silent.ledger, silent.theirs]
    exact h.idle

/-- The ends of a session that begins are none that were ever used. -/
theorem Faithful.blank (h : w.Faithful) (silent : w.Silent v) (none : w.supervisor.stage.session? = none)
    (busy : ¬ w.supervisor.stage.IsResting) (opening : v.opening = w.opening)
    (here : v.supervisor.stage = .relaying p) {s : Socket} (ends : s ∈ p.sockets) :
    v.ledger.sent s = [] ∧ v.ledger.received s = [] := by
  obtain ⟨has, since⟩ := (silent.orderly.under_way here).1 s ends
  rw [silent.ledger]
  apply h.idle s
  · rw [← silent.theirs]
    exact has.2.1
  · intro q member elsewhere
    rcases mem_sessions.mp member with ⟨q, ended, rfl⟩ | relaying
    · exact Nat.not_lt_of_le since (opening ▸ h.earlier busy q ended s elsewhere)
    · simp [relaying, Stage.session?] at none

theorem Faithful.begins (h : w.Faithful) (silent : w.Silent v) (past : v.past = w.past)
    (none : w.supervisor.stage.session? = none) (busy : ¬ w.supervisor.stage.IsResting)
    (opening : v.opening = w.opening) (here : v.supervisor.stage = .relaying p)
    (lanes : ∀ direction, ∃ setup, p.lane direction = .start setup) : v.Faithful := by
  have known (q : Session × SessionReport) (ended : q ∈ w.past) : q.1 ∈ w.sessions :=
    mem_sessions.mpr (.inl ⟨q, ended, rfl⟩)
  constructor
  · exact silent.orderly
  · exact silent.conserves.records h.records
  · rw [past]
    exact fun q member s ends => h.withheld_silent silent (known q member) ends
  · rw [past]
    exact h.apart
  · rw [past, opening]
    exact fun _ => h.earlier busy
  · rw [past]
    exact h.reported
  · intro q member direction
    rcases mem_sessions.mp member with ⟨q, ended, rfl⟩ | relaying
    · exact h.carries_silent silent (known q (past ▸ ended)) direction
    · cases here.symm.trans relaying
      obtain ⟨setup, begins⟩ := lanes direction
      have blank (s : Socket) (ends : s ∈ p.sockets) := h.blank silent none busy opening here ends
      exact Session.carries_start begins (blank _ (p.source_mem direction)).2
        (blank _ (p.destination_mem direction)).1
  · intro s foreign elsewhere
    rw [silent.ledger]
    apply h.idle s (silent.theirs ▸ foreign)
    intro q member
    rcases mem_sessions.mp member with ⟨q, ended, rfl⟩ | relaying
    · exact elsewhere q.1 (mem_sessions.mpr (.inl ⟨q, past ▸ ended, rfl⟩))
    · simp [relaying, Stage.session?] at none

theorem Faithful.completes (h : w.Faithful) (silent : w.Silent v) {report : SessionReport}
    (here : w.supervisor.stage = .relaying p) (reported : p.report? w.scene.now = some report)
    (past : v.past = w.past ++ [(p, report)]) (rests : v.supervisor.stage.IsResting) : v.Faithful := by
  have names : v.past.map Prod.fst = w.sessions := by
    simp [World.sessions, past, here, Stage.session?]
  have sessions : v.sessions = w.sessions := by
    rw [World.sessions, names, rests.session?_eq]
    exact List.append_nil _
  have known (q : Session × SessionReport) (member : q ∈ v.past) : q.1 ∈ w.sessions :=
    names ▸ List.mem_map_of_mem member
  constructor
  · exact silent.orderly
  · exact silent.conserves.records h.records
  · exact fun q member s ends => h.withheld_silent silent (known q member) ends
  · rw [names]
    exact h.apart_sessions
  · exact fun busy => absurd rests busy
  · intro q member
    rw [past, List.mem_append, List.mem_singleton] at member
    rcases member with earlier | rfl
    · exact h.reported q earlier
    · exact (Session.report?_eq_some reported).1
  · rw [sessions]
    exact fun p member => h.carries_silent silent member
  · rw [sessions, silent.ledger, silent.theirs]
    exact h.idle

end Silent

theorem Faithful.step (h : w.Faithful) (first : Glance) : (w.move (.step first)).Faithful := by
  have silent := h.orderly.silent_step first
  cases w.step_succeeds first with
  | same past session opening => exact h.same silent past session opening
  | begins past none busy opening here lanes =>
      exact h.begins silent past none busy opening here lanes
  | completes here reported past rests => exact h.completes silent here reported past rests

section Lane

variable {p : Session} (direction : Direction)

theorem Faithful.conserves_lane (h : w.Faithful) (here : w.supervisor.stage = .relaying p) :
    w.ledger.Conserves w.network (p.ledgerAfter direction w.scene w.ledger)
      (p.stepLane direction w.scene).scene.network := by
  have held := ((h.orderly.under_way here).1 _ (p.source_mem direction)).1.1
  exact (Session.stepLane_carries h.records held).1

/-- The sessions that are over have other connections. -/
theorem Faithful.carries_lane_of_past (h : w.Faithful) (here : w.supervisor.stage = .relaying p)
    {q : Session × SessionReport} (ended : q ∈ w.past) (other : Direction) :
    q.1.Carries other (p.ledgerAfter direction w.scene w.ledger)
      (p.stepLane direction w.scene).scene.network := by
  have ne (s t : Socket) (old : s ∈ q.1.sockets) (new : t ∈ p.sockets) : s ≠ t := by
    rintro rfl
    have since := ((h.orderly.under_way here).1 s new).2
    have before := h.earlier (by simp [here, Stage.IsResting]) q ended s old
    exact Nat.not_lt_of_le since before
  have carries := h.carries q.1 (mem_sessions.mpr (.inl ⟨q, ended, rfl⟩)) other
  apply carries.elsewhere h.records (h.conserves_lane direction here) rfl rfl rfl
  · exact Session.received_ledgerAfter_of_ne (ne _ _ (q.1.source_mem other) (p.source_mem direction))
  · exact Session.sent_ledgerAfter_of_ne
      (ne _ _ (q.1.destination_mem other) (p.destination_mem direction))

theorem Faithful.carries_lane (h : w.Faithful) (here : w.supervisor.stage = .relaying p)
    (other : Direction) :
    (p.stepLane direction w.scene).session.Carries other (p.ledgerAfter direction w.scene w.ledger)
      (p.stepLane direction w.scene).scene.network := by
  obtain ⟨ours, apart, _⟩ := h.orderly.under_way here
  have carries := h.carries p (mem_sessions.mpr (.inr here)) other
  by_cases same : other = direction
  · subst same
    exact (Session.stepLane_carries h.records (ours _ (p.source_mem other)).1.1).2 carries
  · obtain ⟨source, destination⟩ := p.ends_stepLane direction other w.scene
    apply carries.elsewhere h.records (h.conserves_lane direction here)
      (p.lane_stepOver_of_ne _ _ same) source destination
    · exact Session.received_ledgerAfter_of_ne (p.source_ne_source apart same)
    · exact Session.sent_ledgerAfter_of_ne (p.destination_ne_destination apart same)

theorem Faithful.idle_lane (h : w.Faithful) (here : w.supervisor.stage = .relaying p) {s : Socket}
    (foreign : s ∉ w.theirs) (elsewhere : s ∉ p.sockets) (none : ∀ q ∈ w.past, s ∉ q.1.sockets) :
    (p.ledgerAfter direction w.scene w.ledger).sent s = [] ∧
      (p.ledgerAfter direction w.scene w.ledger).received s = [] := by
  have ne (t : Socket) (member : t ∈ p.sockets) : s ≠ t := fun eq => elsewhere (eq ▸ member)
  rw [Session.sent_ledgerAfter_of_ne (ne _ (p.destination_mem direction)),
    Session.received_ledgerAfter_of_ne (ne _ (p.source_mem direction))]
  apply h.idle s foreign
  intro q member
  rcases mem_sessions.mp member with ⟨q, ended, rfl⟩ | relaying
  · exact none q ended
  · cases here.symm.trans relaying
    exact elsewhere

theorem Faithful.lane (h : w.Faithful) : (w.move (.lane direction)).Faithful := by
  have orderly := h.orderly.lane direction
  have withholds := h.orderly.withholds_move (.lane direction)
  rcases w.move_lane_cases direction with ⟨p, here, eq⟩ | eq
  · obtain ⟨client, target⟩ := p.sockets_stepLane direction w.scene
    have sockets : (p.stepLane direction w.scene).session.sockets = p.sockets := by
      rw [Session.sockets, Session.sockets, client, target]
    rw [eq] at orderly withholds ⊢
    constructor
    · exact orderly
    · exact (h.conserves_lane direction here).records h.records
    · exact fun q ended s ends => withholds.socket s (h.withheld q ended s ends)
    · exact h.apart
    · exact fun _ => h.earlier (by simp [here, Stage.IsResting])
    · exact h.reported
    · intro q member other
      rcases mem_sessions.mp member with ⟨q, ended, rfl⟩ | relaying
      · exact h.carries_lane_of_past direction here ended other
      · cases relaying
        exact h.carries_lane direction here other
    · intro s foreign none
      apply h.idle_lane direction here foreign
      · exact sockets ▸ none _ (mem_sessions.mpr (.inr rfl))
      · exact fun q ended => none q.1 (mem_sessions.mpr (.inl ⟨q, ended, rfl⟩))
  · rw [eq]
    exact h

end Lane

theorem Faithful.move (h : w.Faithful) (happening : Happening) : (w.move happening).Faithful := by
  cases happening with
  | step first => exact h.step first
  | lane direction => exact h.lane direction
  | deed d =>
      simp only [World.move]
      split
      next allowed => exact h.act allowed
      next => exact h
  | besides change => exact ⟨h.1, h.2, h.3, h.4, h.5, h.6, h.7, h.8⟩

theorem faithful_run (relay : Relay) (scene : Scene) (happenings : List Happening) :
    ((start relay scene).run happenings).Faithful :=
  run_invariant (faithful_start relay scene) (fun _ happening h => h.move happening) happenings

/-- The streams of a supervisor's sessions from end to end. Whatever is received anywhere begins what
was sent into the other end ever since there is that connection. What a session's lane sent into its
destination begins what it received from its source; and if it found the end of the source, that is
all that was ever sent there. No two sessions share a connection, others never got an end that a
session has, and over ends that neither others nor a session ever had nothing was sent or received. -/
theorem end_to_end (relay : Relay) (scene : Scene) (happenings : List Happening) :
    let w := (start relay scene).run happenings
    (∀ s, w.ledger.received s <+: w.ledger.sent s.opposite) ∧
    (∀ p ∈ w.sessions, ∀ direction,
      w.ledger.sent (p.destination direction) <+: w.ledger.received (p.source direction) ∧
      w.ledger.sent (p.destination direction) <+: w.ledger.sent (p.source direction).opposite ∧
      ((p.lane direction).phase.ending? = some .peerClosed →
        w.ledger.sent (p.destination direction) = w.ledger.sent (p.source direction).opposite)) ∧
    (∀ q ∈ w.past, ∀ direction, (q.2.lane direction).termination = .peerClosed →
      w.ledger.sent (q.1.destination direction) = w.ledger.sent (q.1.source direction).opposite) ∧
    (w.sessions.flatMap Session.connections).Pairwise (· < ·) ∧
    (∀ p ∈ w.sessions, ∀ s ∈ p.sockets, s ∉ w.theirs) ∧
    (∀ s ∉ w.theirs, w.ledger.sent s ≠ [] ∨ w.ledger.received s ≠ [] → ∃ p ∈ w.sessions, s ∈ p.sockets) ∧
    ∀ s, w.network.size ≤ s.connection → w.ledger.sent s = [] ∧ w.ledger.received s = [] := by
  intro w
  have faithful : w.Faithful := faithful_run relay scene happenings
  have arrives (s : Socket) : w.ledger.received s <+: w.ledger.sent s.opposite :=
    faithful.records.received_prefix s
  refine ⟨arrives, ?_, ?_, faithful.apart_sessions, ?_, ?_, faithful.records.fresh⟩
  · intro p member direction
    have carries := faithful.carries p member direction
    exact ⟨carries.sent_prefix, carries.sent_prefix.trans (arrives _), carries.sent_eq⟩
  · intro q member direction closed
    obtain ⟨phase, _⟩ := Lane.report?_eq_some (faithful.reported q member direction)
    rw [closed] at phase
    apply (faithful.carries q.1 (mem_sessions.mpr (.inl ⟨q, member, rfl⟩)) direction).sent_eq
    rw [phase]
    rfl
  · intro p member s ends
    exact (faithful.withheld_sessions member ends).2.1
  · intro s foreign used
    by_contra none
    obtain ⟨sent, received⟩ := faithful.idle s foreign fun p member ends => none ⟨p, member, ends⟩
    exact used.elim (absurd sent) (absurd received)

/-- The target greets and finishes before there is a client. -/
theorem end_to_end_greeting :
    let relay := { Relay.atPort 9 with targetPort := some 7 }
    let scene := Scene.start {} (.start .noop ⟨[]⟩ "") fun _ => ""
    let happenings : List Happening :=
      [.deed (.listen ⟨.loopbackV4, 7, 0⟩), .step .client, .step .client, .deed (.accept 0),
        .deed (.send ⟨0, .accepted⟩ [72, 105]), .deed (.shutdown ⟨0, .accepted⟩), .step .client,
        .deed (.dial ⟨.loopbackV4, 9, 0⟩), .step .client, .lane .server, .lane .server, .lane .server,
        .lane .server]
    let w := (start relay scene).run happenings
    w.ledger.sent ⟨0, .accepted⟩ = [72, 105] ∧
      ∃ p ∈ w.sessions, (p.lane .server).phase.ending? = some .peerClosed ∧
        p.destination .server = ⟨1, .accepted⟩ ∧
        w.ledger.sent ⟨1, .accepted⟩ = w.ledger.sent ⟨0, .accepted⟩ := by
  intro relay scene happenings w
  have greeting : w.ledger.sent ⟨0, .accepted⟩ = [72, 105] := by decide +kernel
  have running : w.sessions.map (fun p =>
        ((p.lane .server).phase.ending?, p.source .server, p.destination .server)) =
      [(some .peerClosed, ⟨0, .dialled⟩, ⟨1, .accepted⟩)] := by decide +kernel
  obtain ⟨_, streams, _⟩ := end_to_end relay scene happenings
  clear_value happenings
  obtain ⟨p, rest, eq, ends, _⟩ := List.map_eq_cons_iff.mp running
  obtain ⟨closed, source, destination⟩ : _ ∧ _ ∧ _ := by simpa using ends
  have member : p ∈ w.sessions := eq ▸ List.mem_cons_self
  have whole := (streams p member .server).2.2 closed
  rw [source, destination] at whole
  exact ⟨greeting, p, member, closed, destination, whole⟩

end World

end Wiretap
