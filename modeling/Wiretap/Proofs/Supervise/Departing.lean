import Wiretap.Proofs.Supervise.Abandoning
/-! # Targets that go before a client comes

A supervisor connects to its target first, and then waits for a client. Its target can go in the
meantime. When the target never sent anything, the supervisor finds that out at its next step, however
late that is, unless a client waits and is looked for first. What it has then given up it never uses
again.
-/

namespace Wiretap

/-! ## Ends to which nothing more comes -/

namespace Network

variable {n m : Network} {s t : Socket}

/-- Nothing more is sent to an end. -/
def Ended (n : Network) (s : Socket) : Prop :=
  ∃ e, n.endpoint? s = some e ∧ e.ending.isSome = true

theorem Fades.ended (fades : n.Fades m) (h : n.Ended s) : m.Ended s := by
  obtain ⟨e, here, ended⟩ := h
  obtain ⟨f, there, later⟩ := fades.ends s e here
  exact ⟨f, there, later.ended ended⟩

theorem ended_modify (there : s.connection < n.size) {f : Endpoint → Endpoint}
    (ends : ∀ e, (f e).ending.isSome = true) : (n.modify s f).Ended s := by
  obtain ⟨e, here⟩ := exists_endpoint? there
  refine ⟨f e, ?_, ends e⟩
  rw [endpoint?_modify, if_pos rfl, here]
  rfl

theorem ended_shutdown (there : s.connection < n.size) : (n.shutdown s).Ended s.opposite :=
  ended_modify (s := s.opposite) there fun e => by cases e.ending <;> rfl

theorem ended_close (there : s.connection < n.size) : (n.close s).Ended s.opposite := by
  simp only [close]
  split
  · exact (fades_drop _ s).ended (ended_shutdown there)
  · exact (fades_drop _ s).ended (ended_modify (s := s.opposite) there fun _ => rfl)

theorem ended_reset (there : s.connection < n.size) : (n.reset s).Ended s.opposite :=
  (fades_drop _ s).ended (ended_modify (s := s.opposite) there fun _ => rfl)

theorem ended_unlisten {l c : Nat} (waits : c ∈ n.queue l) (there : c < n.size) :
    (n.unlisten l).Ended ⟨c, .dialled⟩ := by
  simp only [queue] at waits
  simp only [unlisten]
  cases listens : n.listeners[l]? with
  | none => simp [listens] at waits
  | some x =>
      obtain ⟨before, after, queued⟩ := List.append_of_mem (show c ∈ x.queue by simpa [listens] using waits)
      have reached := (fades_foldl_close before n).size
      have closed : ((before.foldl (fun n c => n.close ⟨c, .accepted⟩) n).close ⟨c, .accepted⟩).Ended
          ⟨c, .dialled⟩ :=
        ended_close (s := ⟨c, .accepted⟩) (reached ▸ there)
      have all := (fades_foldl_close after _).ended closed
      simp only [queued, List.foldl_append, List.foldl_cons]
      exact (fades_of_connections rfl).ended all

end Network

open Network

/-- When all that is ever sent to an end was received there, the other side is seen to have gone. -/
theorem Ledger.Records.gone_of_drained {b : Ledger} {n : Network} {s : Socket} (h : b.Records n)
    (drained : b.Drained n s) : ∃ fault, n.presence s = .gone fault := by
  obtain ⟨all, e, here, ended⟩ := drained
  have nothing : e.inbox.octets = [] := by
    have short := (h.ends s e here).fits.length_le
    rw [← all, List.length_append] at short
    exact List.length_eq_zero_iff.mp (by omega)
  cases ending : e.ending with
  | none => simp [ending] at ended
  | some way =>
      simp only [presence, peek, Network.receive, here, nothing, ending]
      cases way with
      | finished => exact ⟨none, rfl⟩
      | reset => exact ⟨some _, rfl⟩

/-- The deeds after which nothing more is sent from an end. -/
inductive Deed.Finishes (n : Network) : Deed → Socket → Prop
  | shutdown (s : Socket) : Finishes n (.shutdown s) s
  | close (s : Socket) : Finishes n (.close s) s
  | reset (s : Socket) : Finishes n (.reset s) s
  | unlisten {l c : Nat} (waits : c ∈ n.queue l) : Finishes n (.unlisten l) ⟨c, .accepted⟩

namespace World

variable {w v : World} {d : Deed} {s : Socket}

theorem ended_act (finishes : d.Finishes w.network s) (there : s.connection < w.network.size) :
    (w.act d).network.Ended s.opposite := by
  cases finishes with
  | shutdown => exact ended_shutdown there
  | close => exact ended_close there
  | reset => exact ended_reset there
  | unlisten waits => exact ended_unlisten waits there

theorem ledger_act_of_finishes (finishes : d.Finishes w.network s) : (w.act d).ledger = w.ledger := by
  cases finishes <;> rfl

theorem Faithful.drained_move (h : w.Faithful) (happening : Happening)
    (drained : w.ledger.Drained w.network s) :
    (w.move happening).ledger.Drained (w.move happening).network s := by
  cases happening with
  | step first =>
      exact ((w.supervisor.step_does first w.scene).conserves w.ledger).drained s h.records drained
  | lane direction =>
      rcases w.move_lane_cases direction with ⟨p, here, eq⟩ | eq
      · rw [eq]
        exact (h.conserves_lane direction here).drained s h.records drained
      · rw [eq]
        exact drained
  | deed d =>
      simp only [World.move]
      split
      next allowed => exact (conserves_act allowed).1.drained s h.records drained
      next => exact drained
  | besides change => exact drained

/-! ## What is left behind -/

/-- An end is none that the supervisor has, and no session ever got it. -/
structure LeftBehind (w : World) (s : Socket) : Prop where
  withheld : w.network.Withheld w.theirs s
  stage : w.supervisor.stage.target? ≠ some s
  sessions : ∀ p ∈ w.sessions, p.target ≠ s

theorem mem_sessions_of_past {happening : Happening} {q : Session × SessionReport}
    (member : q ∈ (w.move happening).past) : q.1 ∈ w.sessions := by
  have still (same : (w.move happening).past = w.past) : q.1 ∈ w.sessions :=
    mem_sessions.mpr (.inl ⟨q, same ▸ member, rfl⟩)
  cases happening with
  | step first =>
      cases w.step_succeeds first with
      | same past | begins past => exact still past
      | completes here _ past =>
          rw [past, List.mem_append, List.mem_singleton] at member
          rcases member with earlier | rfl
          · exact mem_sessions.mpr (.inl ⟨q, earlier, rfl⟩)
          · exact mem_sessions.mpr (.inr here)
  | lane direction =>
      rcases w.move_lane_cases direction with ⟨_, _, eq⟩ | eq <;> exact still (by rw [eq])
  | deed d =>
      refine still ?_
      simp only [move]
      split
      · exact w.past_act d
      · rfl
  | besides change => exact still rfl

/-- A supervisor keeps to the target that it is connected to, or connects anew. -/
theorem Orderly.target?_move (h : w.Orderly) {happening : Happening} {t : Socket}
    (next : (w.move happening).supervisor.stage.target? = some t) :
    w.supervisor.stage.target? = some t ∨ t.connection = w.network.size := by
  cases happening with
  | step first =>
      have does := w.supervisor.step_does first w.scene
      simp only [World.move, Supervision.move, Supervision.after] at next
      generalize w.supervisor.step first w.scene = r at does next
      cases does with
      | waits => exact .inl next
      | begins | misses | givesUp | cannotOpen | cannotAdmit | targetGoes | completes => cases next
      | connects here dialled =>
          obtain rfl := Option.some.inj next
          rcases dial_cases dialled with ⟨_, _, eq, _⟩ | ⟨_, _, _, eq, _⟩
          · cases eq
          · cases eq
            exact .inr rfl
      | holds here =>
          have recent := h.recent
          rw [here] at recent
          exact absurd rfl (recent _ _)
      | opens here | admits here =>
          rw [here]
          exact .inl next
  | lane direction =>
      rcases w.move_lane_cases direction with ⟨p, here, eq⟩ | eq
      · rw [eq] at next
        obtain ⟨_, target⟩ := p.sockets_stepLane direction w.scene
        rw [here, ← next]
        exact .inl (congrArg some target.symm)
      · rw [eq] at next
        exact .inl next
  | deed d =>
      simp only [World.move] at next
      split at next
      · rw [(w.supervisor_act d).1] at next
        exact .inl next
      · exact .inl next
  | besides change => exact .inl next

theorem LeftBehind.move (h : w.LeftBehind s) (orderly : w.Orderly) (happening : Happening) :
    (w.move happening).LeftBehind s := by
  have stage : (w.move happening).supervisor.stage.target? ≠ some s := by
    intro next
    -- What is connected to anew has a number that nothing had before.
    rcases orderly.target?_move next with same | new
    · exact h.stage same
    · exact absurd h.withheld.1 (new ▸ Nat.lt_irrefl _)
  refine ⟨(orderly.withholds_move happening).socket s h.withheld, stage, fun p member => ?_⟩
  rcases mem_sessions.mp member with ⟨q, past, rfl⟩ | here
  · exact h.sessions q.1 (mem_sessions_of_past past)
  · rintro rfl
    exact stage (by rw [here]; rfl)

theorem Orderly.has_target (h : w.Orderly) (heads : w.supervisor.stage.target? = some s) : w.Has s := by
  refine (h.ours s).mpr ?_
  cases here : w.supervisor.stage <;> simp_all [Stage.sockets, Stage.target?]

/-- No session had the connection to the target before. -/
theorem Faithful.not_mem_past (h : w.Faithful) (heads : w.supervisor.stage.target? = some s)
    {q : Session × SessionReport} (past : q ∈ w.past) : s ∉ q.1.sockets := by
  intro member
  have busy : ¬ w.supervisor.stage.IsResting := by
    intro rests
    cases here : w.supervisor.stage <;> simp_all [Stage.IsResting, Stage.target?]
  have before := h.earlier busy q past s member
  exact Nat.not_lt_of_le (h.orderly.since (h.orderly.has_target heads)) before

end World

/-! ## The next step -/

theorem Network.accept_of_queue_nil {n : Network} {l : Nat} (nobody : n.queue l = []) :
    n.accept l = (.pending, n) := by
  simp only [queue] at nobody
  simp only [accept]
  cases listens : n.listeners[l]? with
  | none => rfl
  | some x => simp_all

/-- Once the target has gone, a step gives the attempt up, unless a client waits and is looked for
first. -/
theorem Supervisor.step_of_gone {s : Supervisor} {scene : Scene} {target : Session.Party}
    {doorway : Doorway} {fault : Option IoFault} {first : Glance}
    (here : s.stage = .awaiting target doorway)
    (gone : scene.network.presence target.socket = .gone fault)
    (inTime : first = .target ∨ scene.network.queue doorway.listener = []) :
    s.step first scene =
      s.fail { scene with network := (doorway.close scene.network).close target.socket }
        (.targetClosed target.address fault) := by
  have leaves : s.targetStep? scene target doorway = some
      (s.fail { scene with network := (doorway.close scene.network).close target.socket }
        (.targetClosed target.address fault)) := by
    simp only [targetStep?, gone]
  simp only [step, here, leaves]
  cases first with
  | target => rfl
  | client =>
      have nobody : s.clientStep? scene target doorway = none := by
        have none := inTime.resolve_left (by decide)
        simp only [clientStep?, Doorway.letIn, Network.accept_of_queue_nil none]
      rw [nobody]
      rfl

/-- There is a connection to a target, and no client yet. -/
def Stage.IsIdleWith (target : Session.Party) : Stage → Prop
  | .binding party | .awaiting party _ => party = target
  | .resting _ | .dialling _ | .relaying _ => False

instance (target : Session.Party) : (stage : Stage) → Decidable (stage.IsIdleWith target)
  | .binding party | .awaiting party _ => inferInstanceAs (Decidable (party = target))
  | .resting _ | .dialling _ | .relaying _ => inferInstanceAs (Decidable False)

theorem Stage.IsIdleWith.cases {stage : Stage} {target : Session.Party} (h : stage.IsIdleWith target) :
    stage = .binding target ∨ ∃ doorway, stage = .awaiting target doorway := by
  cases stage with
  | binding party => exact .inl (congrArg _ h)
  | awaiting party doorway => exact .inr ⟨doorway, congrArg (Stage.awaiting · doorway) h⟩
  | resting | dialling | relaying => exact h.elim

theorem Stage.IsIdleWith.target?_eq {stage : Stage} {target : Session.Party}
    (h : stage.IsIdleWith target) : stage.target? = some target.socket ∧ stage.session? = none := by
  rcases h.cases with rfl | ⟨doorway, rfl⟩ <;> exact ⟨rfl, rfl⟩

namespace World

variable {w v : World} {s : Socket} {target : Session.Party}

/-- A target that never sent anything goes while there is no client yet. -/
structure TargetGoes (w : World) (target : Session.Party) (d : Deed) : Prop where
  idle : w.supervisor.stage.IsIdleWith target
  allowed : w.allows d = true
  finishes : d.Finishes w.network target.socket.opposite
  silent : w.ledger.sent target.socket.opposite = []

/-- No client is found before it was seen whether the target has gone. -/
def LooksInTime (target : Session.Party) (w : World) : Happening → Prop
  | .step first => ∀ doorway, w.supervisor.stage = .awaiting target doorway →
      first = .target ∨ w.network.queue doorway.listener = []
  | _ => True

def AlwaysLooksInTime (target : Session.Party) : World → List Happening → Prop
  | _, [] => True
  | w, h :: rest => w.LooksInTime target h ∧ AlwaysLooksInTime target (w.move h) rest

/-- What becomes of an attempt whose target goes before a client comes. -/
inductive Sequel (target : Session.Party) (v w : World) : Prop
  /-- The supervisor does not listen yet. -/
  | binds (begun : v.supervisor.stage = .binding target)
      (here : w.supervisor.stage = .binding target) (same : w.moments = v.moments)
  /-- The supervisor has not looked yet. -/
  | awaits {doorway : Doorway} (here : w.supervisor.stage = .awaiting target doorway)
      (same : w.moments = v.moments)
  /-- It could not listen. -/
  | unbound (begun : v.supervisor.stage = .binding target) {address : SocketAddress}
      {fault : IoFault} {scene : Scene} {more : List Supervisor.Moment}
      (moments : w.moments = v.moments ++ ⟨.failed (.bind address fault), scene⟩ :: more)
      (left : w.LeftBehind target.socket)
  /-- It has seen that the target has gone. -/
  | closed {fault : Option IoFault} {scene : Scene} {more : List Supervisor.Moment}
      (moments : w.moments =
        v.moments ++ ⟨.failed (.targetClosed target.address fault), scene⟩ :: more)
      (left : w.LeftBehind target.socket)

theorem Faithful.not_mem_sockets (h : w.Faithful) (idle : w.supervisor.stage.IsIdleWith target)
    {p : Session} (member : p ∈ w.sessions) : target.socket ∉ p.sockets := by
  obtain ⟨heads, alone⟩ := idle.target?_eq
  rcases mem_sessions.mp member with ⟨q, past, rfl⟩ | here
  · exact h.not_mem_past heads past
  · rw [here] at alone
    cases alone

theorem Faithful.target_ne (h : w.Faithful) (idle : w.supervisor.stage.IsIdleWith target)
    {p : Session} (member : p ∈ w.sessions) : p.target ≠ target.socket :=
  fun same => h.not_mem_sockets idle member (same ▸ List.mem_cons_self)

theorem Faithful.received_eq_nil (h : w.Faithful) (idle : w.supervisor.stage.IsIdleWith target) :
    w.ledger.received target.socket = [] :=
  (h.idle _ (h.orderly.has_target idle.target?_eq.1).2.1 fun _ member => h.not_mem_sockets idle member).2

/-- A target that has ever sent anything to a supervisor without a client counts as there, whatever
becomes of it afterwards. -/
theorem Faithful.present_of_sent (h : w.Faithful) (idle : w.supervisor.stage.IsIdleWith target)
    (spoke : w.ledger.sent target.socket.opposite ≠ []) :
    w.network.presence target.socket = .present := by
  have ours := h.orderly.has_target idle.target?_eq.1
  obtain ⟨e, here⟩ := exists_endpoint? ours.1.lt_size
  have held : e.isOpen = true := by simpa [Network.Holds, here] using ours.1
  have waits := (h.records.ends _ e here).whole held
  rw [h.received_eq_nil idle, List.nil_append] at waits
  cases octets : e.inbox.octets with
  | nil => exact absurd (waits.symm.trans octets) spoke
  | cons => simp only [Network.presence, Network.peek, Network.receive, here, octets]; rfl

theorem Faithful.leftBehind (h : w.Faithful) (idle : w.supervisor.stage.IsIdleWith target)
    (first : Glance) (rests : (w.move (.step first)).supervisor.stage.IsResting) :
    (w.move (.step first)).LeftBehind target.socket := by
  have ours := h.orderly.has_target idle.target?_eq.1
  refine ⟨(h.orderly.withholds_move (.step first)).socket _ ours.withheld, ?_, fun p member => ?_⟩
  · intro next
    cases here : (w.move (.step first)).supervisor.stage <;>
      simp_all [Stage.IsResting, Stage.target?]
  · rcases mem_sessions.mp member with ⟨q, past, rfl⟩ | here
    · exact h.target_ne idle (mem_sessions_of_past past)
    · rw [here] at rests
      cases rests

theorem moments_move_of_others {happening : Happening} (others : happening.isStep = false) :
    (w.move happening).moments = w.moments := by
  cases happening with
  | step => cases others
  | lane direction =>
      rcases w.move_lane_cases direction with ⟨_, _, eq⟩ | eq <;> rw [eq]
  | deed d =>
      simp only [move]
      split
      · exact (w.supervisor_act d).2
      · rfl
  | besides change => rfl

theorem moments_move (w : World) (happening : Happening) :
    ∃ more, (w.move happening).moments = w.moments ++ more := by
  cases own : happening.isStep with
  | true =>
      cases happening with
      | step first => exact ⟨_, rfl⟩
      | lane | deed | besides => cases own
  | false => exact ⟨[], (moments_move_of_others own).trans (List.append_nil _).symm⟩

theorem stage_move_of_others (alone : w.supervisor.stage.session? = none) {happening : Happening}
    (others : happening.isStep = false) :
    (w.move happening).supervisor.stage = w.supervisor.stage := by
  rcases stage_move others with ⟨session, _, here, _⟩ | same
  · rw [here] at alone
    cases alone
  · exact same

theorem Sequel.step_of_binding (h : w.Faithful) (begun : v.supervisor.stage = .binding target)
    (here : w.supervisor.stage = .binding target) (same : w.moments = v.moments) (first : Glance) :
    Sequel target v (w.move (.step first)) := by
  have moments : (w.move (.step first)).moments =
      v.moments ++ (w.supervisor.step first w.scene).moments := by
    rw [← same]
    rfl
  have after : (w.move (.step first)).supervisor.stage =
      (w.supervisor.step first w.scene).supervisor.stage := rfl
  have idle : w.supervisor.stage.IsIdleWith target := by
    rw [here]
    rfl
  have left := h.leftBehind idle first
  rw [after] at left
  cases opened : w.scene.network.listen w.supervisor.relay.listenAddress with
  | mk result network =>
      simp only [Supervisor.step, here, Doorway.openAt, opened] at after moments left
      cases result with
      | ok listener => exact .awaits after (moments.trans (List.append_nil _))
      | error fault => exact .unbound begun moments (left trivial)

theorem Sequel.step_of_awaiting (h : w.Faithful)
    (drained : w.ledger.Drained w.network target.socket) {doorway : Doorway}
    (here : w.supervisor.stage = .awaiting target doorway) (same : w.moments = v.moments)
    {first : Glance} (inTime : first = .target ∨ w.network.queue doorway.listener = []) :
    Sequel target v (w.move (.step first)) := by
  obtain ⟨fault, gone⟩ := h.records.gone_of_drained drained
  have gives := Supervisor.step_of_gone here gone inTime
  have moments : (w.move (.step first)).moments =
      v.moments ++ (w.supervisor.step first w.scene).moments := by
    rw [← same]
    rfl
  have after : (w.move (.step first)).supervisor.stage =
      (w.supervisor.step first w.scene).supervisor.stage := rfl
  rw [gives] at moments after
  exact .closed moments (h.leftBehind (by rw [here]; rfl) first (by rw [after]; trivial))

theorem Sequel.move (h : Sequel target v w) (faithful : w.Faithful)
    (drained : w.ledger.Drained w.network target.socket) {happening : Happening}
    (inTime : w.LooksInTime target happening) : Sequel target v (w.move happening) := by
  -- Others cannot end the attempt; a step ends it, or it begins to listen.
  cases h with
  | binds begun here same =>
      cases own : happening.isStep with
      | true =>
          cases happening with
          | step first => exact .step_of_binding faithful begun here same first
          | lane | deed | besides => cases own
      | false =>
          have stage := stage_move_of_others (by rw [here]; rfl) own
          exact .binds begun (stage.trans here) ((moments_move_of_others own).trans same)
  | awaits here same =>
      cases own : happening.isStep with
      | true =>
          cases happening with
          | step first => exact .step_of_awaiting faithful drained here same (inTime _ here)
          | lane | deed | besides => cases own
      | false =>
          have stage := stage_move_of_others (by rw [here]; rfl) own
          exact .awaits (stage.trans here) ((moments_move_of_others own).trans same)
  | unbound begun moments left =>
      obtain ⟨more, later⟩ := w.moments_move happening
      rw [moments, List.append_assoc, List.cons_append] at later
      exact .unbound begun later (left.move faithful.orderly happening)
  | closed moments left =>
      obtain ⟨more, later⟩ := w.moments_move happening
      rw [moments, List.append_assoc, List.cons_append] at later
      exact .closed later (left.move faithful.orderly happening)

theorem Sequel.run (h : Sequel target v w) (faithful : w.Faithful)
    (drained : w.ledger.Drained w.network target.socket) {happenings : List Happening}
    (inTime : AlwaysLooksInTime target w happenings) :
    Sequel target v (w.run happenings) ∧ (w.run happenings).Faithful ∧
      (w.run happenings).ledger.Drained (w.run happenings).network target.socket := by
  induction happenings generalizing w with
  | nil => exact ⟨h, faithful, drained⟩
  | cons happening rest ih =>
      exact ih (h.move faithful drained inTime.1) (faithful.move happening)
        (faithful.drained_move happening drained) inTime.2

theorem Sequel.target_ne (h : Sequel target v w) (faithful : w.Faithful) {p : Session}
    (member : p ∈ w.sessions) : p.target ≠ target.socket := by
  cases h with
  | binds _ here _ => exact faithful.target_ne (by rw [here]; rfl) member
  | awaits here _ => exact faithful.target_ne (by rw [here]; rfl) member
  | unbound _ _ left | closed _ left => exact left.sessions p member

theorem TargetGoes.drained {d : Deed} (goes : w.TargetGoes target d) (faithful : w.Faithful) :
    (w.move (.deed d)).ledger.Drained (w.move (.deed d)).network target.socket := by
  have ours := faithful.orderly.has_target goes.idle.target?_eq.1
  have acts : w.move (.deed d) = w.act d := if_pos goes.allowed
  have ended := ended_act goes.finishes ours.1.lt_size
  rw [Socket.opposite_opposite] at ended
  rw [acts, Ledger.Drained, ledger_act_of_finishes goes.finishes, faithful.received_eq_nil goes.idle,
    goes.silent]
  exact ⟨rfl, ended⟩

theorem TargetGoes.sequel {d : Deed} (goes : w.TargetGoes target d) :
    Sequel target (w.move (.deed d)) (w.move (.deed d)) := by
  have stage : (w.move (.deed d)).supervisor.stage = w.supervisor.stage :=
    stage_move_of_others goes.idle.target?_eq.2 rfl
  rcases goes.idle.cases with here | ⟨doorway, here⟩
  · exact .binds (stage.trans here) (stage.trans here) rfl
  · exact .awaits (stage.trans here) rfl

/-- A target goes before a client comes, and never sent anything. The attempt ends at its next step,
however late, when it is told that the target has closed; only a supervisor that does not listen yet may
end it because it cannot. No session ever gets that target. It is left open what happens when a client
waits and is looked for first. -/
theorem target_gone_ends_attempt (relay : Relay) (scene : Scene) (before after : List Happening)
    (target : Session.Party) (d : Deed) :
    let w := (start relay scene).run before
    let v := w.move (.deed d)
    let x := v.run after
    w.TargetGoes target d → AlwaysLooksInTime target v after →
    Sequel target v x ∧ (∀ p ∈ x.sessions, p.target ≠ target.socket) ∧
      ∀ doorway first, x.supervisor.stage = .awaiting target doorway →
        first = .target ∨ x.network.queue doorway.listener = [] →
        ∃ fault network, x.supervisor.step first x.scene =
          x.supervisor.fail { x.scene with network } (.targetClosed target.address fault) := by
  intro w v x goes inTime
  have faithful : w.Faithful := faithful_run relay scene before
  obtain ⟨sequel, later, still⟩ :=
    goes.sequel.run (faithful.move (.deed d)) (goes.drained faithful) inTime
  refine ⟨sequel, fun p => sequel.target_ne later, fun doorway first here looks => ?_⟩
  obtain ⟨fault, gone⟩ := later.records.gone_of_drained still
  exact ⟨fault, _, Supervisor.step_of_gone here gone looks⟩

/-! ## A target that goes while nobody comes -/

/-- The supervisor is connected to the target, and waits for a client. -/
def awaitingClient : List Happening :=
  [.deed (.listen ⟨.loopbackV4, 7, 0⟩), .step .client, .step .client, .deed (.accept 0), .step .client]

/-- Somebody else listens where the supervisor is to listen. -/
def listeningThere : List Happening :=
  [.deed (.listen ⟨.loopbackV4, 7, 0⟩), .deed (.listen ⟨.anyV4, 9, 0⟩), .step .client, .step .client,
    .deed (.accept 0)]

/-- A client comes, and the supervisor takes a step. -/
def comingThen (first : Glance) : List Happening :=
  [.deed (.dial ⟨.loopbackV4, 9, 0⟩), .step first]

def nearTarget : Session.Party := ⟨⟨0, .dialled⟩, ⟨.loopbackV4, 7, 0⟩⟩

theorem targetGoes_awaitingClient :
    ((start besideTarget quietScene).run awaitingClient).TargetGoes nearTarget (.close ⟨0, .accepted⟩) :=
  ⟨by decide +kernel, by decide +kernel, .close _, by decide +kernel⟩

theorem targetGoes_listeningThere :
    ((start besideTarget quietScene).run listeningThere).TargetGoes nearTarget (.close ⟨0, .accepted⟩) :=
  ⟨by decide +kernel, by decide +kernel, .close _, by decide +kernel⟩

/-- The supervisor waits for a client, and its target has gone. -/
def forsaken : World :=
  ((start besideTarget quietScene).run awaitingClient).move (.deed (.close ⟨0, .accepted⟩))

theorem doors_forsaken : forsaken.supervisor.stage.doors = [1] := by decide +kernel

theorem target?_comingThen : (forsaken.run (comingThen .target)).supervisor.stage.target? = none := by
  decide +kernel

/-- A client comes after the target has gone, and the supervisor looks at its target first. -/
theorem target_gone_ends_attempt_looking_first :
    ∃ fault scene more, (forsaken.run (comingThen .target)).moments =
      forsaken.moments ++ ⟨.failed (.targetClosed nearTarget.address fault), scene⟩ :: more := by
  obtain ⟨sequel, _⟩ := target_gone_ends_attempt besideTarget quietScene awaitingClient
    (comingThen .target) nearTarget (.close ⟨0, .accepted⟩) targetGoes_awaitingClient
    ⟨trivial, fun _ _ => .inl rfl, trivial⟩
  have rests := target?_comingThen
  have door := doors_forsaken
  cases sequel with
  | binds _ here _ | awaits here _ =>
      rw [forsaken, here] at rests
      cases rests
  | unbound begun =>
      rw [forsaken, begun] at door
      cases door
  | closed moments _ => exact ⟨_, _, _, moments⟩

/-- Whether it is told that the target has gone. -/
def tellsGone (m : Supervisor.Moment) : Bool :=
  match m.act with
  | .failed (.targetClosed ..) => true
  | _ => false

theorem any_tellsGone {moments : List Supervisor.Moment} {address : SocketAddress}
    (told : ∃ m ∈ moments, ∃ fault, m.act = .failed (.targetClosed address fault)) :
    moments.any tellsGone = true := by
  obtain ⟨m, member, fault, act⟩ := told
  exact List.any_eq_true.mpr ⟨m, member, by simp only [tellsGone, act]⟩

theorem moments_letGo (w : World) : w.letGo.moments = w.moments := by
  unfold letGo
  split
  · split <;> rfl
  · rfl

/-- A supervisor that was stopped tells nothing any more. -/
theorem moments_stop_goOnWith (w : World) (happenings : List Happening) :
    (w.stop.goOnWith happenings).moments = w.moments := by
  induction happenings using List.reverseRecOn with
  | nil => exact moments_letGo _
  | append_singleton happenings h ih =>
      rw [goOnWith_concat, ← ih]
      generalize w.stop.goOnWith happenings = v
      unfold goOn
      split
      next => rfl
      next others => exact (moments_letGo _).trans (moments_move_of_others (by simpa using others))

/-- A client that comes after the target has gone is let in all the same, when it is looked for first.
And where the supervisor is stopped after the target has gone, or cannot listen, nobody is told that the
target has gone. -/
theorem client_paired_with_gone_target :
    (¬∀ (relay : Relay) (scene : Scene) (before after : List Happening) (target : Session.Party)
      (d : Deed),
      let w := (start relay scene).run before
      w.TargetGoes target d → (∀ l ∈ w.supervisor.stage.doors, w.network.queue l = []) →
      ∀ p ∈ ((w.move (.deed d)).run after).sessions, p.target ≠ target.socket) ∧
    (¬∀ (relay : Relay) (scene : Scene) (before : List Happening) (target : Session.Party) (d : Deed),
      let w := (start relay scene).run before
      w.TargetGoes target d → (∀ l ∈ w.supervisor.stage.doors, w.network.queue l = []) →
      ∃ after, ∃ m ∈ ((w.move (.deed d)).stop.goOnWith after).moments,
        ∃ fault, m.act = .failed (.targetClosed target.address fault)) ∧
    ¬∀ (relay : Relay) (scene : Scene) (before after : List Happening) (target : Session.Party)
      (d : Deed),
      let w := (start relay scene).run before
      let x := (w.move (.deed d)).run after
      w.TargetGoes target d → (∀ l ∈ w.supervisor.stage.doors, w.network.queue l = []) →
      x.supervisor.stage.target? = none →
      ∃ m ∈ x.moments, ∃ fault, m.act = .failed (.targetClosed target.address fault) := by
  refine ⟨fun claimed => ?_, fun claimed => ?_, fun claimed => ?_⟩
  · have paired : (forsaken.run (comingThen .client)).sessions.map (·.target) = [nearTarget.socket] := by
      decide +kernel
    obtain ⟨p, member, same⟩ := List.mem_map.mp (paired ▸ List.mem_singleton_self _)
    exact claimed besideTarget quietScene awaitingClient (comingThen .client) nearTarget _
      targetGoes_awaitingClient (by decide +kernel) p member same
  · obtain ⟨after, told⟩ := claimed besideTarget quietScene awaitingClient nearTarget _
      targetGoes_awaitingClient (by decide +kernel)
    rw [moments_stop_goOnWith] at told
    have any := any_tellsGone told
    revert any
    decide +kernel
  · have any := any_tellsGone (claimed besideTarget quietScene listeningThere [.step .client]
      nearTarget _ targetGoes_listeningThere (by decide +kernel) (by decide +kernel))
    revert any
    decide +kernel

end World

end Wiretap
