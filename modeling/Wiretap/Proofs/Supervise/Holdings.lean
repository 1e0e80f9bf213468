import Wiretap.Proofs.Lane.Effects
import Wiretap.Proofs.Net.Shares
import Wiretap.Proofs.Supervise.World
/-! # What a supervisor holds

At every moment the stage that a supervisor is in names all that it holds: nothing between attempts,
then a connection to the target, then a listener besides, and in the listener's place a client.
Others can neither take any of it nor add to it.
-/

namespace Wiretap

open Network

namespace World

/-- Nothing of ours changes with what others do. -/
theorem undisturbed_act {w : World} (shared : w.network.Shared w.theirs w.theirDoors) {d : Deed}
    (allowed : w.allows d = true) :
    w.network.Undisturbed w.theirs w.theirDoors (w.act d).network (w.act d).theirs
      (w.act d).theirDoors := by
  cases d with
  | listen address =>
      simp only [act]
      cases listened : w.network.listen address with
      | mk result network =>
          rcases listen_cases listened with ⟨fault, failures, rfl, rfl⟩ | ⟨failures, rfl, rfl⟩
          · change w.network.Undisturbed _ _ _ w.theirs (w.theirDoors ++ [])
            rw [List.append_nil]
            exact (alike_failures w.network failures).undisturbed shared
          · exact (opens_listeners w.network failures address).undisturbed shared
  | unlisten l =>
      exact (shuts_unlisten w.network l).undisturbed shared (by simpa [allows] using allowed)
  | dial address =>
      simp only [act]
      cases dialled : w.network.dial address with
      | mk result network =>
          rcases dial_cases dialled with ⟨fault, failures, rfl, rfl⟩ | ⟨failures, l, within, rfl, rfl⟩
          · change w.network.Undisturbed _ _ _ (w.theirs ++ []) w.theirDoors
            rw [List.append_nil]
            exact (alike_failures w.network failures).undisturbed shared
          · exact (connects_connect failures address within).undisturbed shared
  | accept l =>
      simp only [act]
      cases accepted : w.network.accept l with
      | mk result network =>
          rcases accept_cases accepted with ⟨rfl, rfl⟩ | ⟨c, rest, failures, queued, taken | fails⟩
          · exact (Alike.refl w.network).undisturbed shared
          · obtain ⟨rfl, rfl⟩ := taken
            exact (leaves_listeners failures queued).undisturbed queued shared
          · obtain ⟨fault, rfl, rfl⟩ := fails
            exact (leaves_listeners failures queued).undisturbed_close queued shared (closing_close _ _)
  | send s bytes =>
      have same := (alike_send w.network s bytes).undisturbed shared
      simp only [act]
      split
      next sent => rw [sent] at same; exact same
      next sent => rw [sent] at same; exact same
  | receive s limit =>
      have same := (alike_receive w.network s limit).undisturbed shared
      simp only [act]
      split
      next received => rw [received] at same; exact same
      next received => rw [received] at same; exact same
  | shutdown s => exact (alike_shutdown w.network s).undisturbed shared
  | close s =>
      exact (closing_close w.network s).undisturbed shared (by simpa [allows] using allowed)
  | reset s =>
      exact (closing_reset w.network s).undisturbed shared (by simpa [allows] using allowed)
  | arrange names failures isOpen =>
      have same : Alike w.network { w.network with names, failures, isOpen } :=
        ⟨rfl, rfl, fun _ => (and_iff_left id).symm⟩
      exact same.undisturbed shared

end World

/-! ## Stages -/

namespace Stage

/-- The ends of connections that are held in a stage. -/
def sockets : Stage → List Socket
  | .resting _ | .dialling _ => []
  | .binding target | .awaiting target _ => [target.socket]
  | .relaying session => [session.target, session.client]

/-- The end of the connection to the target, where there is one. -/
def target? : Stage → Option Socket
  | .resting _ | .dialling _ => none
  | .binding target | .awaiting target _ => some target.socket
  | .relaying session => some session.target

/-- The listeners that are held in a stage. -/
def doors : Stage → List Nat
  | .awaiting _ doorway => [doorway.listener]
  | _ => []

/-- A connection was dialled since a host was as it is here. -/
def DialledSince (opening : Network) (s : Socket) : Prop :=
  s.side = .dialled ∧ opening.size ≤ s.connection

/-- What is held in a stage was got since the attempt began. -/
def Recent (opening n : Network) : Stage → Prop
  | .resting _ => True
  | .dialling d => ∀ socket address, d ≠ .connected socket address
  | .binding target => DialledSince opening target.socket
  | .awaiting target doorway => DialledSince opening target.socket ∧
      opening.doors ≤ doorway.listener ∧
      ∀ c ∈ n.queue doorway.listener, target.socket.connection < c
  | .relaying session => DialledSince opening session.target ∧
      session.client.side = .accepted ∧ session.target.connection < session.client.connection

/-- A stage names all that is ours on a host. -/
structure Names (theirs : List Socket) (theirDoors : List Nat) (opening n : Network) (stage : Stage) :
    Prop where
  shared : n.Shared theirs theirDoors
  size : opening.size ≤ n.size
  doors : opening.doors ≤ n.doors
  ours (s : Socket) : n.Ours theirs s ↔ s ∈ stage.sockets
  ourDoor (l : Nat) : n.OurDoor theirDoors l ↔ l ∈ stage.doors
  recent : stage.Recent opening n

variable {theirs theirs' : List Socket} {theirDoors theirDoors' : List Nat} {opening n m : Network}
  {stage : Stage}

theorem Names.undisturbed (h : stage.Names theirs theirDoors opening n)
    (others : n.Undisturbed theirs theirDoors m theirs' theirDoors') :
    stage.Names theirs' theirDoors' opening m where
  shared := others.shared
  size := Nat.le_trans h.size others.size
  doors := Nat.le_trans h.doors others.doors
  ours s := (others.ours s).trans (h.ours s)
  ourDoor l := (others.ourDoor l).trans (h.ourDoor l)
  recent := by
    have recent := h.recent
    cases stage with
    | awaiting target doorway =>
        obtain ⟨dialled, opened, queue⟩ := recent
        refine ⟨dialled, opened, fun c member => ?_⟩
        rcases others.queue _ c member with earlier | new
        · exact queue c earlier
        · have held := (h.ours target.socket).mpr (List.mem_singleton_self _)
          exact Nat.lt_of_lt_of_le held.1.lt_size new
    | _ => exact recent

theorem Names.alike (h : stage.Names theirs theirDoors opening n) (same : Alike n m) :
    stage.Names theirs theirDoors opening m :=
  h.undisturbed (same.undisturbed h.shared)

theorem Names.congr (h : stage.Names theirs theirDoors opening n) {next : Stage}
    (sockets : stage.sockets = next.sockets) (doors : stage.doors = next.doors)
    (recent : next.Recent opening n) : next.Names theirs theirDoors opening n :=
  ⟨h.shared, h.size, h.doors, fun s => by rw [h.ours, sockets], fun l => by rw [h.ourDoor, doors],
    recent⟩

theorem Names.connects {d : Dialling Socket} {l : Nat} {address : SocketAddress}
    (h : (Stage.dialling d).Names theirs theirDoors opening n) (connects : Connects n m l) :
    (Stage.binding ⟨⟨n.size, .dialled⟩, address⟩).Names theirs theirDoors opening m where
  shared := connects.shared h.shared
  size := by rw [connects.size]; exact Nat.le_succ_of_le h.size
  doors := by rw [connects.doors]; exact h.doors
  ours s := by
    rw [connects.ours h.shared, h.ours]
    simp [sockets]
  ourDoor k := connects.ourDoor.trans (h.ourDoor k)
  recent := ⟨rfl, h.size⟩

theorem Names.opens {target : Session.Party} {address : SocketAddress}
    (h : (Stage.binding target).Names theirs theirDoors opening n) (opens : Opens n m) :
    (Stage.awaiting target ⟨n.doors, address⟩).Names theirs theirDoors opening m where
  shared := opens.shared h.shared
  size := by rw [opens.size]; exact h.size
  doors := by rw [opens.doors]; exact Nat.le_succ_of_le h.doors
  ours s := opens.ours.trans (h.ours s)
  ourDoor l := by
    rw [opens.ourDoor h.shared, h.ourDoor]
    simp [Stage.doors]
  recent := by
    refine ⟨h.recent, h.doors, fun c member => ?_⟩
    rw [opens.queue] at member
    exact absurd (lt_doors_of_mem_queue member) (Nat.lt_irrefl _)

theorem Names.closes {target : Session.Party} {wakes : Span}
    (h : (Stage.binding target).Names theirs theirDoors opening n)
    (closes : Closing (· = target.socket) n m) :
    (Stage.resting wakes).Names theirs theirDoors opening m where
  shared := by
    refine closes.shared h.shared ?_
    rintro s rfl
    exact ((h.ours target.socket).mpr (by simp [sockets])).2.2
  size := by rw [closes.size]; exact h.size
  doors := by rw [closes.doors]; exact h.doors
  ours s := by
    rw [closes.ours, h.ours]
    simp [sockets]
  ourDoor l := closes.ourDoor.trans (h.ourDoor l)
  recent := trivial

theorem Names.shuts {target : Session.Party} {doorway : Doorway}
    (h : (Stage.awaiting target doorway).Names theirs theirDoors opening n)
    (shuts : Shuts n m doorway.listener) :
    (Stage.binding target).Names theirs theirDoors opening m where
  shared := shuts.shared h.shared
  size := by rw [shuts.size]; exact h.size
  doors := by rw [shuts.doors]; exact h.doors
  ours s := (shuts.ours h.shared).trans (h.ours s)
  ourDoor l := by
    rw [shuts.ourDoor, h.ourDoor]
    simp [Stage.doors]
  recent := h.recent.1

theorem Names.completes {session : Session} {wakes : Span} {k : Network}
    (h : (Stage.relaying session).Names theirs theirDoors opening n)
    (client : Closing (· = session.client) n m) (target : Closing (· = session.target) m k) :
    (Stage.resting wakes).Names theirs theirDoors opening k where
  shared := by
    have ours (s : Socket) (member : s = session.client ∨ s = session.target) : ¬ n.Waits s :=
      ((h.ours s).mpr (by simpa [sockets, or_comm] using member)).2.2
    refine target.shared (client.shared h.shared ?_) ?_
    · exact fun s gone => ours s (.inl gone)
    · exact fun s gone waits => ours s (.inr gone) (client.waits.mp waits)
  size := by rw [target.size, client.size]; exact h.size
  doors := by rw [target.doors, client.doors]; exact h.doors
  ours s := by
    rw [target.ours, client.ours, h.ours]
    simp only [sockets, List.mem_cons, List.not_mem_nil, or_false]
    grind
  ourDoor l := (target.ourDoor.trans client.ourDoor).trans (h.ourDoor l)
  recent := trivial

theorem Names.admits {target : Session.Party} {doorway : Doorway} {c : Nat} {rest : List Nat}
    {k : Network} {session : Session}
    (h : (Stage.awaiting target doorway).Names theirs theirDoors opening n)
    (queued : n.queue doorway.listener = c :: rest) (leaves : Leaves n m doorway.listener rest)
    (shuts : Shuts m k doorway.listener) (client : session.client = ⟨c, .accepted⟩)
    (same : session.target = target.socket) :
    (Stage.relaying session).Names theirs theirDoors opening k := by
  have shared := leaves.shared queued h.shared
  constructor
  · exact shuts.shared shared
  · rw [shuts.size, leaves.size]
    exact h.size
  · rw [shuts.doors, leaves.doors]
    exact h.doors
  · intro s
    rw [shuts.ours shared, leaves.ours queued h.shared, h.ours]
    simp [sockets, client, same]
  · intro l
    rw [shuts.ourDoor, leaves.ourDoor, h.ourDoor]
    simp [Stage.doors]
  · obtain ⟨dialled, _, queue⟩ := h.recent
    refine ⟨same ▸ dialled, by rw [client], ?_⟩
    rw [client, same]
    exact queue c (queued ▸ List.mem_cons_self)

end Stage

/-! ## Runs -/

namespace Supervision

/-- The host as it was when the last attempt of some moments began, or as it is given. -/
def openingAfter (opening : Network) (moments : List Supervisor.Moment) : Network :=
  moments.foldl (fun n m => match m.act with | .began => m.scene.network | _ => n) opening

/-- The host as it was when the current attempt began. -/
def opening (v : Supervision) : Network := openingAfter {} v.moments

theorem opening_after (v : Supervision) (s : Supervisor.Step) :
    (v.after s).opening = openingAfter v.opening s.moments :=
  List.foldl_append

def attempt (v : Supervision) : Nat := v.moments.countP (·.act = .began)

end Supervision

theorem Session.sockets_stepLane (session : Session) (direction : Direction) (scene : Scene) :
    (session.stepLane direction scene).session.client = session.client ∧
      (session.stepLane direction scene).session.target = session.target := by
  cases direction <;> exact ⟨rfl, rfl⟩

theorem Session.alike_stepLane (session : Session) (direction : Direction) (scene : Scene) :
    Alike scene.network (session.stepLane direction scene).scene.network := by
  have calls : (session.devices direction).Keeps fun s => Alike scene.network s.network := by
    cases direction with
    | client | server =>
        exact ⟨fun limit _ h => h.then (alike_receive _ _ limit),
          fun bytes _ h => h.then (alike_offer _ _ bytes), fun _ h => h,
          fun _ h => h.then (alike_shutdown _ _), fun _ _ h => h⟩
  have stepped := Lane.step_keeps calls.muted (session.lane direction) session.stopped scene (.refl _)
  simp only [stepLane, Scene.network_foldl_note]
  exact stepped

namespace World

/-- The stage that the supervisor is in names all that it holds. -/
def Orderly (w : World) : Prop :=
  w.supervisor.stage.Names w.theirs w.theirDoors w.opening w.network

theorem orderly_start (relay : Relay) (scene : Scene) : (start relay scene).Orderly where
  shared := by
    constructor <;> simp [start, Supervision.start, network, Waits, queue]
  size := Nat.zero_le _
  doors := Nat.zero_le _
  ours s := by
    simp [start, Supervision.start, Supervisor.start, network, Ours, Holds, endpoint?, Stage.sockets]
  ourDoor l := by
    simp [start, Supervision.start, Supervisor.start, network, OurDoor, Listens, Stage.doors]
  recent := trivial

variable {w : World}

theorem supervisor_act (w : World) (d : Deed) :
    (w.act d).supervisor = w.supervisor ∧ (w.act d).moments = w.moments := by
  cases d with
  | accept | send | receive => simp only [act]; split <;> exact ⟨rfl, rfl⟩
  | _ => exact ⟨rfl, rfl⟩

theorem Orderly.act (h : w.Orderly) {d : Deed} (allowed : w.allows d = true) :
    (w.act d).Orderly := by
  have others := undisturbed_act h.shared allowed
  simp only [Orderly, Supervision.opening, w.supervisor_act d]
  exact Stage.Names.undisturbed h others

theorem Orderly.step_names (h : w.Orderly) (first : Glance) :
    let s := w.supervisor.step first w.scene
    s.supervisor.stage.Names w.theirs w.theirDoors (Supervision.openingAfter w.opening s.moments) s.scene.network ∧
      w.network.Withholds w.theirs w.theirDoors s.scene.network w.theirs w.theirDoors := by
  have does := w.supervisor.step_does first w.scene
  intro s
  change w.supervisor.Does w.scene s at does
  clear_value s
  simp only [Orderly] at h
  have same {n m : Network} {gone : Socket → Prop} (closes : Closing gone n m) :=
    closes.withholds w.theirs w.theirDoors
  cases does with
  | waits => exact ⟨h, .refl ..⟩
  | begins here =>
      rw [here] at h
      refine ⟨⟨h.shared, Nat.le_refl _, Nat.le_refl _, h.ours, h.ourDoor, ?_⟩, .refl ..⟩
      intro socket address
      simp only [Dialling.start]
      split <;> exact fun eq => nomatch eq
  | misses here dialled =>
      rw [here] at h
      rcases dial_cases dialled with ⟨_, failures, _, rfl⟩ | ⟨_, _, _, eq, _⟩
      · have quiet := alike_failures w.network failures
        exact ⟨(h.alike quiet).congr rfl rfl fun _ _ => nofun, same quiet⟩
      · cases eq
  | @connects address _ _ _ _ here dialled entries =>
      rw [here] at h
      rcases dial_cases dialled with ⟨_, _, eq, _⟩ | ⟨failures, l, within, eq, rfl⟩
      · cases eq
      · cases eq
        have connects := connects_connect failures address within
        exact ⟨(h.connects connects).alike (alike_tryNoDelay _ _),
          (connects.withholds ..).trans (same (alike_tryNoDelay _ _))⟩
  | holds here =>
      rw [here] at h
      exact absurd rfl (h.recent _ _)
  | givesUp here =>
      rw [here] at h
      exact ⟨h.congr rfl rfl trivial, .refl ..⟩
  | opens here opened =>
      rw [here] at h
      rcases listen_cases opened with ⟨_, _, eq, _⟩ | ⟨failures, eq, rfl⟩
      · cases eq
      · cases eq
        have opens := opens_listeners w.network failures w.supervisor.relay.listenAddress
        exact ⟨h.opens opens, opens.withholds ..⟩
  | cannotOpen here refused =>
      rw [here] at h
      rcases listen_cases refused with ⟨_, failures, _, rfl⟩ | ⟨_, eq, _⟩
      · have quiet := alike_failures w.network failures
        exact ⟨(h.alike quiet).closes (closing_close _ _),
          (same quiet).trans (same (closing_close _ _))⟩
      · cases eq
  | admits here comes =>
      rw [here] at h
      rcases accept_cases comes with ⟨eq, _⟩ | ⟨c, rest, failures, queued, ⟨eq, rfl⟩ | ⟨_, eq, _⟩⟩
      · cases eq
      · cases eq
        have leaves := leaves_listeners failures queued
        have shared := leaves.shared queued h.shared
        exact ⟨(h.admits queued leaves (shuts_unlisten _ _) rfl rfl).alike (alike_tryNoDelay _ _),
          ((leaves.withholds queued h.shared).trans
            ((shuts_unlisten _ _).withholds shared)).trans (same (alike_tryNoDelay _ _))⟩
      · cases eq
  | cannotAdmit here comes =>
      rw [here] at h
      rcases accept_cases comes with ⟨eq, _⟩ | ⟨c, rest, failures, queued, ⟨eq, _⟩ | ⟨_, _, rfl⟩⟩
      · cases eq
      · cases eq
      · have dropped := (leaves_listeners failures queued).undisturbed_close queued h.shared
          (closing_close _ _)
        exact ⟨((h.undisturbed dropped).shuts (shuts_unlisten _ _)).closes (closing_close _ _),
          (dropped.withholds.trans ((shuts_unlisten _ _).withholds dropped.shared)).trans
            (same (closing_close _ _))⟩
  | targetGoes here =>
      rw [here] at h
      exact ⟨(h.shuts (shuts_unlisten _ _)).closes (closing_close _ _),
        ((shuts_unlisten _ _).withholds h.shared).trans (same (closing_close _ _))⟩
  | completes here reported =>
      rw [here] at h
      exact ⟨h.completes (closing_close _ _) (closing_close _ _),
        (same (closing_close _ _)).trans (same (closing_close _ _))⟩

theorem Orderly.step (h : w.Orderly) (first : Glance) : (w.move (.step first)).Orderly := by
  have names := (h.step_names first).1
  simp only [Orderly, move, Supervision.move, Supervision.opening_after]
  exact names

theorem Orderly.lane (h : w.Orderly) (direction : Direction) : (w.move (.lane direction)).Orderly := by
  rcases w.move_lane_cases direction with ⟨session, here, eq⟩ | eq
  · obtain ⟨client, target⟩ := session.sockets_stepLane direction w.scene
    have alike := session.alike_stepLane direction w.scene
    simp only [Orderly, here] at h
    rw [eq]
    refine (h.alike alike).congr ?_ rfl ?_
    · simp only [Stage.sockets, client, target]
    · have recent := h.recent
      simpa only [Stage.Recent, client, target] using recent
  · rw [eq]
    exact h

theorem Orderly.move (h : w.Orderly) (happening : Happening) : (w.move happening).Orderly := by
  cases happening with
  | step first => exact h.step first
  | lane direction => exact h.lane direction
  | deed d =>
      simp only [World.move]
      split
      next allowed => exact h.act allowed
      next => exact h
  | besides change => exact h

theorem Orderly.run (h : w.Orderly) (happenings : List Happening) : (w.run happenings).Orderly :=
  run_invariant h (fun _ happening h => h.move happening) happenings

/-! ## What does not change hands -/

theorem Orderly.withholds_move (h : w.Orderly) (happening : Happening) :
    w.network.Withholds w.theirs w.theirDoors (w.move happening).network (w.move happening).theirs
      (w.move happening).theirDoors := by
  cases happening with
  | step first => exact (h.step_names first).2
  | lane direction =>
      rcases w.move_lane_cases direction with ⟨session, _, eq⟩ | eq
      · rw [eq]
        exact (session.alike_stepLane direction w.scene).withholds ..
      · rw [eq]
        exact .refl ..
  | deed d =>
      simp only [World.move]
      split
      next allowed => exact (undisturbed_act h.shared allowed).withholds
      next => exact .refl ..
  | besides change => exact .refl ..

theorem Orderly.withholds_run (h : w.Orderly) (happenings : List Happening) :
    w.network.Withholds w.theirs w.theirDoors (w.run happenings).network (w.run happenings).theirs
      (w.run happenings).theirDoors := by
  have both := run_invariant (w := w)
    (P := fun v => v.Orderly ∧
      w.network.Withholds w.theirs w.theirDoors v.network v.theirs v.theirDoors)
    ⟨h, .refl ..⟩
    (fun v happening now => ⟨now.1.move happening, now.2.trans (now.1.withholds_move happening)⟩)
    happenings
  exact both.2

end World

/-! ## One attempt -/

def Stage.IsResting : Stage → Prop
  | .resting _ => True
  | _ => False

theorem Stage.IsResting.sockets_eq {stage : Stage} (h : stage.IsResting) : stage.sockets = [] := by
  cases stage with
  | resting wakes => rfl
  | _ => cases h

/-- Unless an attempt begins or ends, nothing is given up. -/
theorem Supervisor.step_goesOn (s : Supervisor) (first : Glance) (scene : Scene) :
    let r := s.step first scene
    (∃ m ∈ r.moments, m.act = .began) ∨ r.supervisor.stage.IsResting ∨
      ¬ s.stage.IsResting ∧ s.stage.sockets ⊆ r.supervisor.stage.sockets := by
  have does := s.step_does first scene
  intro r
  change s.Does scene r at does
  clear_value r
  cases does with
  | waits =>
      cases here : s.stage with
      | resting wakes => exact .inr (.inl (by simp only [Stage.IsResting]))
      | _ => exact .inr (.inr ⟨id, by simp⟩)
  | begins here => exact .inl ⟨_, List.mem_cons_self, rfl⟩
  | misses here | connects here | holds here =>
      exact .inr (.inr ⟨by simp [here, Stage.IsResting], by simp [here, Stage.sockets]⟩)
  | opens here =>
      refine .inr (.inr ⟨by simp [here, Stage.IsResting], ?_⟩)
      rw [here]
      exact List.Subset.refl _
  | @admits target doorway client network here comes =>
      refine .inr (.inr ⟨by simp [here, Stage.IsResting], ?_⟩)
      rw [here]
      change [target.socket] ⊆ [target.socket, client]
      exact List.cons_subset_cons _ (List.nil_subset _)
  | givesUp | cannotOpen | cannotAdmit | targetGoes | completes => exact .inr (.inl trivial)

namespace World

/-- Of one attempt nothing is given up until it ends. -/
def Precedes (u w : World) : Prop :=
  u.attempt ≤ w.attempt ∧ (w.attempt = u.attempt →
    w.supervisor.stage.IsResting ∨ u.supervisor.stage.sockets ⊆ w.supervisor.stage.sockets)

variable {u w : World}

theorem Precedes.step (h : u.Precedes w) (first : Glance) : u.Precedes (w.move (.step first)) := by
  have goesOn := w.supervisor.step_goesOn first w.scene
  have attempt : (w.move (.step first)).attempt = w.attempt +
      (w.supervisor.step first w.scene).moments.countP (·.act = .began) := List.countP_append
  have later := h.1
  refine ⟨by omega, fun same => ?_⟩
  have none : (w.supervisor.step first w.scene).moments.countP (·.act = .began) = 0 := by omega
  rcases goesOn with ⟨m, member, began⟩ | resting | ⟨busy, kept⟩
  · exact absurd (List.countP_eq_zero.mp none m member) (by simp [began])
  · exact .inl resting
  · rcases h.2 (by omega) with resting | before
    · exact absurd resting busy
    · exact .inr (List.Subset.trans before kept)

theorem Precedes.lane (h : u.Precedes w) (direction : Direction) :
    u.Precedes (w.move (.lane direction)) := by
  rcases w.move_lane_cases direction with ⟨session, here, eq⟩ | eq
  · obtain ⟨client, target⟩ := session.sockets_stepLane direction w.scene
    rw [eq]
    simpa [Precedes, here, Supervision.attempt, Stage.IsResting, Stage.sockets, client, target] using h
  · rw [eq]
    exact h

theorem Precedes.move (h : u.Precedes w) (happening : Happening) :
    u.Precedes (w.move happening) := by
  cases happening with
  | step first => exact h.step first
  | lane direction => exact h.lane direction
  | deed d =>
      simp only [World.move]
      split
      · simpa only [Precedes, Supervision.attempt, w.supervisor_act d] using h
      · exact h
  | besides change => exact h

theorem precedes_run (u : World) (happenings : List Happening) : u.Precedes (u.run happenings) :=
  run_invariant (P := u.Precedes) ⟨Nat.le_refl _, fun _ => .inr (List.Subset.refl _)⟩
    (fun _ happening h => h.move happening) happenings

/-! ## The life of what a supervisor holds -/

/-- The supervisor holds an end of a connection that it dialled or accepted. -/
def Has (w : World) (s : Socket) : Prop := w.network.Ours w.theirs s

def HasDoor (w : World) (l : Nat) : Prop := w.network.OurDoor w.theirDoors l

/-- What the supervisor holds is its connection to the target, or the client of a session with that. -/
theorem Orderly.of_has (h : w.Orderly) {s : Socket} (has : w.Has s) :
    (w.supervisor.stage.target? = some s ∧ Stage.DialledSince w.opening s) ∨
      ∃ session, w.supervisor.stage = .relaying session ∧ session.client = s ∧ s.side = .accepted ∧
        Stage.DialledSince w.opening session.target ∧ session.target.connection < s.connection := by
  have member := (h.ours s).mp has
  have recent := h.recent
  cases here : w.supervisor.stage with
  | resting | dialling => simp [here, Stage.sockets] at member
  | binding target =>
      rw [here] at member recent
      obtain rfl := List.mem_singleton.mp member
      exact .inl ⟨rfl, recent⟩
  | awaiting target doorway =>
      rw [here] at member recent
      obtain rfl := List.mem_singleton.mp member
      exact .inl ⟨rfl, recent.1⟩
  | relaying session =>
      rw [here] at member recent
      obtain ⟨dialled, accepted, later⟩ := recent
      rcases List.mem_cons.mp member with rfl | client
      · exact .inl ⟨rfl, dialled⟩
      · obtain rfl := List.mem_singleton.mp client
        exact .inr ⟨session, rfl, rfl, accepted, dialled, later⟩

theorem Orderly.eq_of_side (h : w.Orderly) {s t : Socket} (first : w.Has s) (second : w.Has t)
    (same : s.side = t.side) : s = t := by
  rcases h.of_has first with ⟨here, dialled, _⟩ | ⟨p, here, rfl, accepted, _⟩ <;>
    rcases h.of_has second with ⟨there, dialled', _⟩ | ⟨q, there, rfl, accepted', _⟩
  · exact Option.some.inj (here.symm.trans there)
  · simp [dialled, accepted'] at same
  · simp [accepted, dialled'] at same
  · cases here.symm.trans there
    rfl

theorem Orderly.since (h : w.Orderly) {s : Socket} (has : w.Has s) :
    w.opening.size ≤ s.connection := by
  rcases h.of_has has with ⟨_, _, since⟩ | ⟨p, _, _, _, ⟨_, since⟩, later⟩
  · exact since
  · exact Nat.le_of_lt (Nat.lt_of_le_of_lt since later)

theorem Orderly.of_door (h : w.Orderly) {l : Nat} (has : w.HasDoor l) :
    ∃ target doorway, w.supervisor.stage = .awaiting target doorway ∧ l = doorway.listener ∧
      w.opening.doors ≤ l ∧ w.Has target.socket ∧ target.socket.side = .dialled := by
  have member := (h.ourDoor l).mp has
  have recent := h.recent
  cases here : w.supervisor.stage with
  | awaiting target doorway =>
      simp only [here, Stage.doors, List.mem_singleton] at member
      rw [here] at recent
      obtain ⟨⟨dialled, _⟩, opened, _⟩ := recent
      refine ⟨target, doorway, rfl, member, member ▸ opened, (h.ours _).mpr ?_, dialled⟩
      rw [here]
      exact List.mem_singleton_self _
  | _ => simp [here, Stage.doors] at member

theorem Orderly.of_client (h : w.Orderly) {s : Socket} (has : w.Has s) (accepted : s.side = .accepted) :
    ∃ session, w.supervisor.stage = .relaying session ∧ session.client = s ∧ w.Has session.target ∧
      session.target.side = .dialled := by
  rcases h.of_has has with ⟨_, dialled, _⟩ | ⟨session, here, client, _, ⟨dialled, _⟩, _⟩
  · simp [dialled] at accepted
  · refine ⟨session, here, client, (h.ours _).mpr ?_, dialled⟩
    rw [here]
    exact List.mem_cons_self

/-- What can be seen at the moments of a step is what the step leaves behind. It holds nothing when
an outcome is recorded, and no listener when relaying begins. -/
theorem moments_step (s : Supervisor) (first : Glance) (scene : Scene) :
    let r := s.step first scene
    ∀ m ∈ r.moments, m.scene.network = r.scene.network ∧
      ((∃ fault, m.act = .failed fault) ∨ (∃ report, m.act = .completed report) →
        r.supervisor.stage.sockets = [] ∧ r.supervisor.stage.doors = []) ∧
      ∀ status, m.act = .published status → status.state = .relaying →
        r.supervisor.stage.doors = [] := by
  have does := s.step_does first scene
  intro r m member
  change s.Does scene r at does
  clear_value r
  cases does with
  | waits | misses | connects | holds | opens => cases member
  | begins =>
      simp only [Supervisor.begin_eq, List.mem_cons, List.not_mem_nil, or_false] at member
      rcases member with rfl | rfl | rfl <;> exact ⟨rfl, fun _ => ⟨rfl, rfl⟩, fun _ _ _ => rfl⟩
  | givesUp | cannotOpen | cannotAdmit | targetGoes =>
      simp only [Supervisor.fail_eq, List.mem_cons, List.not_mem_nil, or_false] at member
      rcases member with rfl | rfl | rfl <;> exact ⟨rfl, fun _ => ⟨rfl, rfl⟩, fun _ _ _ => rfl⟩
  | admits =>
      simp only [Supervisor.pair_eq, List.mem_singleton] at member
      subst member
      refine ⟨rfl, ?_, fun _ _ _ => rfl⟩
      rintro (⟨_, ⟨⟩⟩ | ⟨_, ⟨⟩⟩)
  | completes =>
      simp only [Supervisor.complete_eq, List.mem_cons, List.not_mem_nil, or_false] at member
      rcases member with rfl | rfl | rfl | rfl <;>
        exact ⟨rfl, fun _ => ⟨rfl, rfl⟩, fun _ _ _ => rfl⟩

/-- The life of what a supervisor holds. At every moment it holds at most one connection to the
target, one client and one listener, all of the current attempt; a listener only together with a
target, and a client only in a session with one. Whatever it held at an earlier moment is still its
own or closed, and it holds no second one of a kind in the same attempt. In a step in which an
outcome is recorded, all that it ever held is closed by then; and when it publishes that it relays it
listens no more. -/
theorem holdings (relay : Relay) (scene : Scene) (before more : List Happening) :
    let u := (start relay scene).run before
    let w := u.run more
    (∀ s t, w.Has s → w.Has t → s.side = t.side → s = t) ∧
    (∀ l k, w.HasDoor l → w.HasDoor k → l = k) ∧
    (∀ s, w.Has s → w.opening.size ≤ s.connection) ∧
    (∀ l, w.HasDoor l → w.opening.doors ≤ l ∧ ∃ s, w.Has s ∧ s.side = .dialled) ∧
    (∀ s, w.Has s → s.side = .accepted → ∃ session, w.supervisor.stage = .relaying session ∧
      session.client = s ∧ w.Has session.target ∧ session.target.side = .dialled) ∧
    (∀ s, u.Has s → w.Has s ∨ ¬ w.network.Holds s) ∧
    (∀ l, u.HasDoor l → w.HasDoor l ∨ ¬ w.network.Listens l) ∧
    (u.attempt = w.attempt → ∀ s t, u.Has s → w.Has t → s.side = t.side → s = t) ∧
    ∀ first, ∀ m ∈ (w.supervisor.step first w.scene).moments,
      ((∃ fault, m.act = .failed fault) ∨ (∃ report, m.act = .completed report) →
        (∀ s, u.Has s → ¬ m.scene.network.Holds s) ∧
        (∀ l, u.HasDoor l → ¬ m.scene.network.Listens l) ∧
        (∀ s, ¬ (w.move (.step first)).Has s) ∧ ∀ l, ¬ (w.move (.step first)).HasDoor l) ∧
      ∀ status, m.act = .published status → status.state = .relaying →
        ∀ l, ¬ m.scene.network.OurDoor w.theirDoors l := by
  intro u w
  have earlier : u.Orderly := (orderly_start relay scene).run before
  have orderly : w.Orderly := earlier.run more
  have withholds := earlier.withholds_run more
  have kept (s : Socket) (had : u.Has s) : w.Has s ∨ ¬ w.network.Holds s := by
    by_cases held : w.network.Holds s
    · exact .inl ⟨held, (withholds.socket s had.withheld).2⟩
    · exact .inr held
  have keptDoor (l : Nat) (had : u.HasDoor l) : w.HasDoor l ∨ ¬ w.network.Listens l := by
    by_cases listens : w.network.Listens l
    · exact .inl ⟨listens, (withholds.door l had.withheld).2⟩
    · exact .inr listens
  refine ⟨fun _ _ => orderly.eq_of_side, ?_, fun _ => orderly.since, ?_, fun _ => orderly.of_client,
    kept, keptDoor, ?_, ?_⟩
  · intro l k first second
    obtain ⟨_, doorway, here, rfl, _⟩ := orderly.of_door first
    obtain ⟨_, _, there, rfl, _⟩ := orderly.of_door second
    cases here.symm.trans there
    rfl
  · intro l has
    obtain ⟨target, _, _, _, since, hasTarget, dialled⟩ := orderly.of_door has
    exact ⟨since, target.socket, hasTarget, dialled⟩
  · intro sameAttempt s t had has same
    have there := (orderly.ours t).mp has
    rcases (precedes_run u more).2 sameAttempt.symm with resting | kept
    · rw [resting.sockets_eq] at there
      cases there
    · exact orderly.eq_of_side ((orderly.ours s).mpr (kept ((earlier.ours s).mp had))) has same
  · intro first m member
    obtain ⟨network, outcome, relaying⟩ := moments_step w.supervisor first w.scene m member
    have next := orderly.step first
    have lasting := withholds.trans (orderly.withholds_move (.step first))
    have sameNetwork : m.scene.network = (w.move (.step first)).network := network
    rw [sameNetwork]
    refine ⟨fun recorded => ?_, fun status told state l has => ?_⟩
    · obtain ⟨noSockets, noDoors⟩ := outcome recorded
      have nothing (s : Socket) : ¬ (w.move (.step first)).Has s := fun has => by
        have member := (next.ours s).mp has
        rw [show (w.move (.step first)).supervisor.stage.sockets = [] from noSockets] at member
        cases member
      have noDoor (l : Nat) : ¬ (w.move (.step first)).HasDoor l := fun has => by
        have member := (next.ourDoor l).mp has
        rw [show (w.move (.step first)).supervisor.stage.doors = [] from noDoors] at member
        cases member
      exact ⟨fun s had held => nothing s ⟨held, (lasting.socket s had.withheld).2⟩,
        fun l had listens => noDoor l ⟨listens, (lasting.door l had.withheld).2⟩, nothing, noDoor⟩
    · have member := (next.ourDoor l).mp has
      rw [show (w.move (.step first)).supervisor.stage.doors = [] from relaying status told state]
        at member
      cases member

/-- Two clients have come to the listener, of which one is let in. -/
theorem holdings_letting_in :
    let relay := { Relay.atPort 9 with targetPort := some 7 }
    let scene := Scene.start {} (.start .noop ⟨[]⟩ "") fun _ => ""
    let before : List Happening :=
      [.deed (.listen ⟨.loopbackV4, 7, 0⟩), .step .client, .step .client, .step .client,
        .deed (.dial ⟨.loopbackV4, 9, 0⟩), .deed (.dial ⟨.loopbackV4, 9, 0⟩)]
    let w := (start relay scene).run before
    w.HasDoor 1 ∧ (∃ s, w.Has s ∧ s.side = .dialled) ∧
      ∃ m ∈ (w.supervisor.step .client w.scene).moments, ∃ status, m.act = .published status ∧
        status.state = .relaying ∧ ¬ m.scene.network.OurDoor w.theirDoors 1 := by
  intro relay scene before w
  have door : w.HasDoor 1 := by
    constructor
    · rw [Listens]
      decide +kernel
    · decide +kernel
  have published : (w.supervisor.step .client w.scene).moments.map (·.act) =
      [.published ⟨9, .relaying, 1, 0, none⟩] := by decide +kernel
  obtain ⟨_, _, _, doors, _, _, _, _, steps⟩ := holdings relay scene before []
  rw [run_nil] at doors steps
  clear_value before
  obtain ⟨m, rest, eq, act, _⟩ := List.map_eq_cons_iff.mp published
  have member : m ∈ (w.supervisor.step .client w.scene).moments := eq ▸ List.mem_cons_self
  exact ⟨door, (doors 1 door).2, m, member, _, act, rfl, (steps .client m member).2 _ act rfl 1⟩

end World

end Wiretap
