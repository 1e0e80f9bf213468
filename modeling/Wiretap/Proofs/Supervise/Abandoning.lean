import Wiretap.Proofs.Supervise.EndToEnd
import Wiretap.Supervise.Run
/-! # What a supervisor leaves behind

A supervisor can be stopped at any moment. It closes what its attempt holds, except that the lanes of
a session are on their own: nobody tells them, and they go on as if nothing had happened until both
have ended. Only then the ends of the session's connections are closed.
-/

namespace Wiretap

open Network

/-- What is left of an attempt that was given up, as a stage that no supervisor goes on from: a session
whose lanes are on their own, or nothing. -/
def Stage.left (now : Span) : Option Session → Stage
  | some session => .relaying session
  | none => .resting now

theorem Lane.phase_of_termination? {lane : Lane} (ended : lane.termination?.isSome = true) :
    ∃ t, lane.phase = .finished t := by
  unfold termination? at ended
  split at ended
  · rename_i t finished
    exact ⟨t, finished⟩
  · cases ended

theorem Session.stepLane_of_isOver {session : Session} (ended : session.isOver = true)
    (direction : Direction) (scene : Scene) :
    session.stepLane direction scene = ⟨session, scene, [], true⟩ := by
  obtain ⟨up, down⟩ := Bool.and_eq_true_iff.mp ended
  obtain ⟨termination, finished⟩ : ∃ t, (session.lane direction).phase = .finished t := by
    cases direction with
    | client => exact Lane.phase_of_termination? up
    | server => exact Lane.phase_of_termination? down
  simp only [stepLane, stepOver, Lane.step, finished, List.foldl_nil]
  cases direction <;> rfl

theorem Stage.exists_of_sockets {stage : Stage} {s t : Socket} (h : stage.sockets = [s, t]) :
    ∃ session, stage = .relaying session := by
  cases stage with
  | relaying session => exact ⟨session, rfl⟩
  | resting | dialling | binding | awaiting => cases h

def World.Happening.isStep : World.Happening → Bool
  | .step _ => true
  | _ => false

namespace World

/-- A session that was left behind closes its connections when both lanes have ended. -/
def letGo (w : World) : World :=
  match w.supervisor.stage with
  | .relaying session =>
    if session.isOver then
      { w with
        supervisor := { w.supervisor with stage := .left w.scene.now none }
        scene := session.close w.scene }
    else w
  | _ => w

def giveUp (w : World) : World :=
  let (session?, scene) := w.supervisor.abandon w.scene
  { w with supervisor := { w.supervisor with stage := .left w.scene.now session? }, scene }

def stop (w : World) : World := w.giveUp.letGo

/-- What happens after that. The supervisor takes no step any more. -/
def goOn (w : World) (happening : Happening) : World :=
  if happening.isStep then w else (w.move happening).letGo

def goOnWith (w : World) (happenings : List Happening) : World := happenings.foldl goOn w

theorem goOnWith_concat (w : World) (happenings : List Happening) (h : Happening) :
    w.goOnWith (happenings ++ [h]) = (w.goOnWith happenings).goOn h := by
  rw [goOnWith, List.foldl_append]
  rfl

variable {w v : World}

/-! ## As a run does it -/

theorem giveUp_eq_stop {r : Run} (supervisor : r.supervisor = w.supervisor) (scene : r.scene = w.scene) :
    r.stop.scene = w.giveUp.scene ∧
      r.stop.abandoned = r.abandoned ++ w.giveUp.supervisor.stage.session?.toList := by
  simp only [Run.stop, giveUp, supervisor, scene]
  cases w.supervisor.abandon w.scene with
  | mk session? scene => cases session? <;> simp [Stage.left, Stage.session?]

theorem goOn_lane {session : Session} (here : w.supervisor.stage = .relaying session)
    (direction : Direction) :
    let next := session.stepLane direction w.scene
    (w.goOn (.lane direction)).scene =
        (if next.session.isOver then next.session.close next.scene else next.scene) ∧
      (w.goOn (.lane direction)).supervisor.stage =
        if next.session.isOver then .resting next.scene.now else .relaying next.session := by
  simp only [goOn, Happening.isStep, Bool.false_eq_true, if_false, move, Supervision.move,
    Supervisor.stepLane, here, Supervision.after, letGo]
  split <;> exact ⟨rfl, rfl⟩

theorem goOn_lane_of_resting {wakes : Span} (here : w.supervisor.stage = .resting wakes)
    (direction : Direction) : w.goOn (.lane direction) = w := by
  rcases w.move_lane_cases direction with ⟨session, there, _⟩ | eq
  · cases here.symm.trans there
  · simp only [goOn, Happening.isStep, eq, letGo, here, Bool.false_eq_true, if_false]

theorem goOn_eq_carryOn {r : Run.Round} {session : Session}
    (here : w.supervisor.stage = .relaying session) (scene : r.run.scene = w.scene) :
    let v := (w.goOn (.lane .client)).goOn (.lane .server)
    (r.carryOn session).run.scene = v.scene ∧
      (r.carryOn session).run.abandoned = r.run.abandoned ++ v.supervisor.stage.session?.toList := by
  obtain ⟨sceneUp, stageUp⟩ := goOn_lane here .client
  simp only [Run.Round.carryOn, scene]
  -- A round closes the connections after both lanes; here that may come after the first one, and then
  -- the other lane has nothing to do any more.
  cases early : (session.stepLane .client w.scene).session.isOver with
  | false =>
      simp only [early, Bool.false_eq_true, if_false] at sceneUp stageUp
      obtain ⟨sceneDown, stageDown⟩ := goOn_lane stageUp .server
      rw [sceneUp] at sceneDown stageDown
      simp only [sceneDown, stageDown]
      split <;> simp [Stage.session?]
  | true =>
      simp only [early, if_true] at sceneUp stageUp
      have ended := Session.stepLane_of_isOver early .server
      simp only [goOn_lane_of_resting stageUp, ended, early, sceneUp, stageUp, if_true]
      exact ⟨trivial, (List.append_nil _).symm⟩

/-! ## What is held -/

/-- All that is held is still named, and others have got nothing of it. -/
def Hands (w v : World) : Prop :=
  v.Orderly ∧
    w.network.Withholds w.theirs w.theirDoors v.network v.theirs v.theirDoors

theorem Orderly.hands_letGo (h : w.Orderly) : w.Hands w.letGo := by
  unfold letGo
  split
  · rename_i session here
    split
    · simp only [Orderly, here] at h
      have client := closing_close w.network session.client
      have target := closing_close (w.network.close session.client) session.target
      exact ⟨h.completes client target, (client.withholds ..).trans (target.withholds ..)⟩
    · exact ⟨h, .refl ..⟩
  · exact ⟨h, .refl ..⟩

theorem Hands.trans {x : World} (first : w.Hands v) (second : v.Hands x) : w.Hands x :=
  ⟨second.1, first.2.trans second.2⟩

theorem Orderly.hands_giveUp (h : w.Orderly) : w.Hands w.giveUp := by
  unfold Orderly at h
  cases here : w.supervisor.stage with
  | resting | dialling =>
      rw [here] at h
      simp only [giveUp, Supervisor.abandon, here]
      exact ⟨h.congr rfl rfl trivial, .refl ..⟩
  | binding target =>
      rw [here] at h
      simp only [giveUp, Supervisor.abandon, here]
      have closes := closing_close w.network target.socket
      exact ⟨h.closes closes, closes.withholds ..⟩
  | awaiting target doorway =>
      rw [here] at h
      simp only [giveUp, Supervisor.abandon, here]
      have shuts := shuts_unlisten w.network doorway.listener
      have closes := closing_close (w.network.unlisten doorway.listener) target.socket
      exact ⟨(h.shuts shuts).closes closes, (shuts.withholds h.shared).trans (closes.withholds ..)⟩
  | relaying session =>
      rw [here] at h
      simp only [giveUp, Supervisor.abandon, here]
      exact ⟨h, .refl ..⟩

theorem Orderly.hands_stop (h : w.Orderly) : w.Hands w.stop :=
  h.hands_giveUp.trans h.hands_giveUp.1.hands_letGo

theorem Hands.goOn (h : w.Hands v) (happening : Happening) : w.Hands (v.goOn happening) := by
  unfold World.goOn
  split
  · exact h
  · have moves : v.Hands (v.move happening) := ⟨h.1.move happening, h.1.withholds_move happening⟩
    exact (h.trans moves).trans moves.1.hands_letGo

theorem Hands.goOnWith (h : w.Hands v) (happenings : List Happening) :
    w.Hands (v.goOnWith happenings) := by
  induction happenings generalizing v with
  | nil => exact h
  | cons happening rest ih => exact ih (h.goOn happening)

/-! ## What goes on -/

/-- What there is after a stop: a session that goes on in the world as it would be had nobody been
stopped, or nothing. There is nothing only if there was no session or its lanes have ended. -/
inductive Left (w : World) (quiet : List Happening) (v : World) : Prop where
  | goesOn {session : Session} (here : v.supervisor.stage = .relaying session)
      (isOpen : session.isOver = false) (same : w.run quiet = v)
  | nothing {wakes : Span} (here : v.supervisor.stage = .resting wakes)
      (reason : (∀ session, w.supervisor.stage ≠ .relaying session) ∨
        ∃ earlier session, earlier <+: quiet ∧
          (w.run earlier).supervisor.stage = .relaying session ∧ session.isOver = true)

theorem left_letGo {quiet : List Happening} {session : Session}
    (here : (w.run quiet).supervisor.stage = .relaying session) :
    w.Left quiet (w.run quiet).letGo := by
  cases ended : session.isOver with
  | false =>
      have stays : (w.run quiet).letGo = w.run quiet := by simp [letGo, here, ended]
      rw [stays]
      exact .goesOn here ended rfl
  | true =>
      have rests : (w.run quiet).letGo.supervisor.stage = .resting (w.run quiet).scene.now := by
        simp [letGo, here, ended, Stage.left]
      exact .nothing rests (.inr ⟨quiet, session, List.prefix_rfl, here, ended⟩)

theorem left_stop (w : World) : w.Left [] w.stop := by
  unfold stop
  cases here : w.supervisor.stage with
  | relaying session =>
      have same : w.giveUp = w := by
        simp only [giveUp, Supervisor.abandon, here, Stage.left]
        rw [← here]
      have under : (w.run []).supervisor.stage = .relaying session := here
      rw [same]
      exact left_letGo under
  | resting | dialling | binding | awaiting =>
      have rests : w.giveUp.letGo.supervisor.stage = .resting w.scene.now := by
        simp only [giveUp, Supervisor.abandon, here, Stage.left, letGo]
      refine .nothing rests (.inl ?_)
      intro session other
      rw [here] at other
      cases other

/-- Nobody but the supervisor begins or ends a session. -/
theorem stage_move {happening : Happening} (others : happening.isStep = false) :
    (∃ session next, w.supervisor.stage = .relaying session ∧
      (w.move happening).supervisor.stage = .relaying next) ∨
    (w.move happening).supervisor.stage = w.supervisor.stage := by
  cases happening with
  | step => cases others
  | lane direction =>
      rcases w.move_lane_cases direction with ⟨session, here, eq⟩ | eq
      · exact .inl ⟨session, _, here, by rw [eq]⟩
      · exact .inr (by rw [eq])
  | deed d =>
      simp only [move]
      split
      · exact .inr (by rw [(w.supervisor_act d).1])
      · exact .inr rfl
  | besides change => exact .inr rfl

theorem Left.goOn {quiet : List Happening} (h : w.Left quiet v) {happening : Happening}
    (others : happening.isStep = false) : w.Left (quiet ++ [happening]) (v.goOn happening) := by
  simp only [World.goOn, others, Bool.false_eq_true, if_false]
  have moved := v.stage_move others
  cases h with
  | goesOn here isOpen same =>
      -- The world is that of the supervisor that was not stopped, before the happening and after it.
      subst same
      rw [← run_concat] at moved ⊢
      rcases moved with ⟨_, next, _, there⟩ | kept
      · exact left_letGo there
      · exact left_letGo (kept.trans here)
  | @nothing wakes here reason =>
      have still : (v.move happening).supervisor.stage = .resting wakes := by
        rcases moved with ⟨session, _, other, _⟩ | kept
        · rw [here] at other
          cases other
        · exact kept.trans here
      have stays : (v.move happening).letGo = v.move happening := by simp only [letGo, still]
      rw [stays]
      refine .nothing still ?_
      rcases reason with none | ⟨earlier, session, before, there, ended⟩
      · exact .inl none
      · exact .inr ⟨earlier, session, before.trans (List.prefix_append ..), there, ended⟩

theorem left_goOnWith (w : World) (happenings : List Happening) :
    w.Left (happenings.filter (!·.isStep)) (w.stop.goOnWith happenings) := by
  induction happenings using List.reverseRecOn with
  | nil => exact w.left_stop
  | append_singleton happenings happening ih =>
      rw [goOnWith_concat, List.filter_append]
      cases own : happening.isStep with
      | true => simpa [World.goOn, own] using ih
      | false => simpa [own] using ih.goOn own

/-- What there is after a supervisor was stopped, at whatever moment. It listens no more, and all that
it ever held is closed but the two ends of a session that was under way. That session goes on: until
its lanes have ended, everything is as if nobody had been stopped. Then its ends are closed too. -/
theorem stop_leaves_session (relay : Relay) (scene : Scene) (past before after : List Happening) :
    let u := (start relay scene).run past
    let w := u.run before
    let v := w.stop.goOnWith after
    let quiet := after.filter (!·.isStep)
    (∀ l, u.HasDoor l → ¬ v.network.Listens l) ∧
    (∀ s, u.Has s → v.network.Holds s → ∃ session, v.supervisor.stage = .relaying session ∧
      (s = session.target ∨ s = session.client)) ∧
    (∀ session, v.supervisor.stage = .relaying session →
      session.isOver = false ∧ v.Has session.target ∧ v.Has session.client ∧ w.run quiet = v) ∧
    ((∀ session, v.supervisor.stage ≠ .relaying session) →
      (∀ direction, v.goOn (.lane direction) = v) ∧
      ((∀ session, w.supervisor.stage ≠ .relaying session) ∨
        ∃ earlier session, earlier <+: quiet ∧
          (w.run earlier).supervisor.stage = .relaying session ∧ session.isOver = true)) := by
  intro u w v quiet
  have earlier : u.Orderly := (orderly_start relay scene).run past
  have left : w.Left quiet v := w.left_goOnWith after
  obtain ⟨orderly, withholds⟩ : w.Hands v := (earlier.run before).hands_stop.goOnWith after
  have lasting := (earlier.withholds_run before).trans withholds
  have kept (s : Socket) (had : u.Has s) (held : v.network.Holds s) :
      s ∈ v.supervisor.stage.sockets :=
    (orderly.ours s).mp ⟨held, (lasting.socket s had.withheld).2⟩
  have doors (l : Nat) (had : u.HasDoor l) (listens : v.network.Listens l) :
      l ∈ v.supervisor.stage.doors :=
    (orderly.ourDoor l).mp ⟨listens, (lasting.door l had.withheld).2⟩
  cases left with
  | @goesOn session here isOpen same =>
      simp only [here, Stage.sockets, Stage.doors, List.mem_cons, List.not_mem_nil, or_false]
        at kept doors
      refine ⟨doors, fun s had held => ⟨session, here, kept s had held⟩, ?_, ?_⟩
      · intro other there
        cases here.symm.trans there
        exact ⟨isOpen, (orderly.ours _).mpr (by simp [here, Stage.sockets]),
          (orderly.ours _).mpr (by simp [here, Stage.sockets]), same⟩
      · intro none
        exact absurd here (none session)
  | nothing here reason =>
      simp only [here, Stage.sockets, Stage.doors, List.not_mem_nil] at kept doors
      refine ⟨doors, fun s had held => (kept s had held).elim, ?_, fun _ => ⟨?_, reason⟩⟩
      · intro session there
        cases here.symm.trans there
      · exact goOn_lane_of_resting here

/-! ## A client that sends late -/

/-- A relay whose target listens next to it. -/
def besideTarget : Relay := { Relay.atPort 9 with targetPort := some 7 }

def quietScene : Scene := Scene.start {} (.start .noop ⟨[]⟩ "") fun _ => ""

/-- The target listens, and the supervisor lets a client in. -/
def lettingIn : List Happening :=
  [.deed (.listen ⟨.loopbackV4, 7, 0⟩), .step .client, .step .client, .step .client,
    .deed (.dial ⟨.loopbackV4, 9, 0⟩), .step .client]

/-- The client sends an octet, and the lane from the client reads and inspects it. -/
def sending : List Happening := [.deed (.send ⟨1, .dialled⟩ [112]), .lane .client, .lane .client]

/-- The client goes, and the lanes wind up. -/
def leaving : List Happening :=
  .deed (.close ⟨1, .dialled⟩) ::
    (List.replicate 4 (.lane .client) ++ List.replicate 4 (.lane .server))

def underWay : World := (start besideTarget quietScene).run lettingIn

theorem sockets_underWay : underWay.supervisor.stage.sockets = [⟨0, .dialled⟩, ⟨1, .accepted⟩] := by
  decide +kernel

theorem sockets_sending :
    (underWay.stop.goOnWith sending).supervisor.stage.sockets = [⟨0, .dialled⟩, ⟨1, .accepted⟩] := by
  decide +kernel

theorem sockets_leaving :
    (underWay.stop.goOnWith (sending ++ leaving)).supervisor.stage.sockets = [] := by
  decide +kernel

theorem orderly_underWay : underWay.Orderly := (orderly_start besideTarget quietScene).run lettingIn

theorem has_underWay : underWay.Has ⟨0, .dialled⟩ := by
  refine (orderly_underWay.ours _).mpr ?_
  rw [sockets_underWay]
  exact List.mem_cons_self

/-- The supervisor is stopped in a session, which goes on until the client leaves. -/
theorem stop_leaves_session_sending :
    (∃ session, (underWay.stop.goOnWith sending).supervisor.stage = .relaying session ∧
      underWay.run sending = underWay.stop.goOnWith sending) ∧
    underWay.Has ⟨0, .dialled⟩ ∧
    ∀ s, underWay.Has s → ¬ (underWay.stop.goOnWith (sending ++ leaving)).network.Holds s := by
  obtain ⟨_, _, goesOn, _⟩ := stop_leaves_session besideTarget quietScene lettingIn [] sending
  obtain ⟨_, ends, _, _⟩ :=
    stop_leaves_session besideTarget quietScene lettingIn [] (sending ++ leaving)
  have here : (start besideTarget quietScene).run lettingIn = underWay := rfl
  have quiet : sending.filter (!·.isStep) = sending := rfl
  rw [run_nil, here] at goesOn ends
  rw [quiet] at goesOn
  refine ⟨?_, has_underWay, ?_⟩
  · obtain ⟨session, there⟩ := Stage.exists_of_sockets sockets_sending
    obtain ⟨_, _, _, same⟩ := goesOn session there
    exact ⟨session, there, same⟩
  · intro s has held
    obtain ⟨session, there, _⟩ := ends s has held
    have nothing := sockets_leaving
    rw [there] at nothing
    cases nothing

/-- The supervisor is stopped in a session, and after that the client sends an octet. The lanes carry
it to the target and count it, and the end of the connection to the target stays open. -/
theorem chunk_carried_after_stop :
    (¬∀ (relay : Relay) (scene : Scene) (before after : List Happening) (direction : Direction),
      let v := ((start relay scene).run before).stop.goOnWith after
      (v.goOn (.lane direction)).scene.counters = v.scene.counters) ∧
    ¬∀ (relay : Relay) (scene : Scene) (before after : List Happening) (s : Socket),
      let w := (start relay scene).run before
      w.Has s → ¬ (w.stop.goOnWith after).network.Holds s := by
  constructor
  · intro claimed
    have same := congrArg List.length (claimed besideTarget quietScene lettingIn sending .client)
    revert same
    decide +kernel
  · intro claimed
    refine claimed besideTarget quietScene lettingIn sending ⟨0, .dialled⟩ has_underWay ?_
    rw [Holds]
    decide +kernel

end World

end Wiretap
