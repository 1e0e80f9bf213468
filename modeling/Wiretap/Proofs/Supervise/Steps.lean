import Wiretap.Supervise.Supervisor
/-! # What a supervisor does

`Does` says once what a step of a supervisor can do, by the stage that it is in. All invariants of
supervisors go by its cases.

A supervisor is followed over everything that can happen: its own steps, those of its session's
lanes, and whatever others do to the scene in between. What it has done is kept, moment by moment.
-/

namespace Wiretap

namespace Supervisor

variable (s : Supervisor) (scene : Scene)

/-! ## The parts of a step in full -/

theorem begin_eq :
    let begun := scene.log (if s.status.attempt = 0 then [s.startEntry] else [])
    let counted := { s.status with attempt := s.status.attempt + 1 }
    let status := { counted with state := .connecting }
    s.begin scene =
      { supervisor :=
          { s with
            status
            stage := .dialling (.start (s.relay.target.addresses scene.network)) }
        scene := { s with status }.note [attemptEntry, Dialling.startEntry s.relay.target] begun
        moments := [⟨.began, begun⟩, ⟨.published counted, begun⟩, ⟨.published status, begun⟩] } :=
  rfl

theorem fail_eq (fault : RelayFault) :
    let counters := scene.counters.recordSetupFailure s.relay.localPort fault.kind
    let failed := { scene with counters }.log [s.failedEntry fault]
    let told := { s.status with lastError := some fault.message }
    let status := { told with state := .idle }
    s.fail scene fault =
      { supervisor := ⟨s.relay, status, .resting (scene.now + s.relay.restartDelay)⟩
        scene := failed.log [{ s with status }.restartEntry]
        moments :=
          [⟨.failed fault, failed⟩, ⟨.published told, failed⟩, ⟨.published status, failed⟩] } :=
  rfl

/-- The session that a supervisor begins with a client, and the scene as it is then. -/
def pairing (target : Session.Party) (doorway : Doorway) (client : Socket) : Session × Scene :=
  let address := (scene.network.peerAddress? client).getD s.relay.listenAddress
  let (sessionId, named) := scene.nameSession s.relay.localPort
  let session := Session.start sessionId s.relay.localPort s.relay.bufferSize ⟨client, address⟩ target
    named.now
  let noted := s.note [doorway.clientEntry address, session.startEntry] named
  (session, { noted with counters := noted.counters.recordSession s.relay.localPort })

theorem pair_eq (target : Session.Party) (doorway : Doorway) (client : Socket) :
    let p := s.pairing scene target doorway client
    let status := { s.status with state := .relaying }
    s.pair scene target doorway client =
      { supervisor := ⟨s.relay, status, .relaying p.1⟩
        scene := p.2
        moments := [⟨.published status, p.2⟩] } :=
  rfl

theorem complete_eq (session : Session) (report : SessionReport) :
    let closed := session.close scene
    let torn := { s.status with state := .tearingDown }
    let counted :=
      { torn with sessionsCompleted := torn.sessionsCompleted + 1, lastError := none }
    let status := { counted with state := .idle }
    let told := closed.log [report.entry]
    s.complete scene session report =
      { supervisor := ⟨s.relay, status, .resting (scene.now + s.relay.restartDelay)⟩
        scene := told.log [{ s with status }.restartEntry]
        moments :=
          [⟨.published torn, closed⟩, ⟨.completed report, told⟩, ⟨.published counted, told⟩,
            ⟨.published status, told⟩] } :=
  rfl

/-! ## What a step can do -/

/-- What a step of a supervisor can do, by the stage that it is in. -/
inductive Does (s : Supervisor) (scene : Scene) : Step → Prop where
  /-- There is nothing to do yet. -/
  | waits : Does s scene { supervisor := s, scene, isBlocked := true }
  | begins {wakes : Span} (here : s.stage = .resting wakes) : Does s scene (s.begin scene)
  /-- The next address does not connect. -/
  | misses {address : SocketAddress} {rest : List SocketAddress} {last : Option IoFault}
      {fault : IoFault} {network : Network}
      (here : s.stage = .dialling (.trying (address :: rest) last))
      (dialled : scene.network.dial address = (.error fault, network)) :
      Does s scene
        { supervisor := { s with stage := .dialling (.trying rest (some fault)) }
          scene := s.note [Dialling.failedEntry address fault] { scene with network } }
  /-- The next address connects. -/
  | connects {address : SocketAddress} {rest : List SocketAddress} {last : Option IoFault}
      {socket : Socket} {network : Network}
      (here : s.stage = .dialling (.trying (address :: rest) last))
      (dialled : scene.network.dial address = (.ok socket, network)) (entries : Journal) :
      Does s scene
        { supervisor := { s with stage := .binding ⟨socket, address⟩ }
          scene := s.note entries { scene with network := network.tryNoDelay socket } }
  /-- An address has connected. No supervisor is ever found so. -/
  | holds {socket : Socket} {address : SocketAddress}
      (here : s.stage = .dialling (.connected socket address)) :
      Does s scene { supervisor := { s with stage := .binding ⟨socket, address⟩ }, scene }
  /-- No address is left. -/
  | givesUp {dialling : Dialling Socket} (here : s.stage = .dialling dialling) (reason : String)
      (fault : Option IoFault) :
      Does s scene (s.fail scene (.connect s.relay.target.toText reason fault))
  | opens {target : Session.Party} {listener : Nat} {network : Network}
      (here : s.stage = .binding target)
      (opened : scene.network.listen s.relay.listenAddress = (.ok listener, network)) :
      Does s scene
        { supervisor := { s with stage := .awaiting target ⟨listener, s.relay.listenAddress⟩ }
          scene := s.note [Doorway.openEntry ⟨listener, s.relay.listenAddress⟩]
            { scene with network } }
  | cannotOpen {target : Session.Party} {fault : IoFault} {network : Network}
      (here : s.stage = .binding target)
      (refused : scene.network.listen s.relay.listenAddress = (.error fault, network)) :
      Does s scene
        (s.fail { scene with network := network.close target.socket }
          (.bind s.relay.listenAddress fault))
  | admits {target : Session.Party} {doorway : Doorway} {client : Socket} {network : Network}
      (here : s.stage = .awaiting target doorway)
      (comes : scene.network.accept doorway.listener = (.ready (.ok client), network)) :
      Does s scene
        (s.pair { scene with network := (network.unlisten doorway.listener).tryNoDelay client } target
          doorway client)
  | cannotAdmit {target : Session.Party} {doorway : Doorway} {fault : IoFault} {network : Network}
      (here : s.stage = .awaiting target doorway)
      (comes : scene.network.accept doorway.listener = (.ready (.error fault), network)) :
      Does s scene
        (s.fail { scene with network := (network.unlisten doorway.listener).close target.socket }
          (.accept doorway.address.portNumber fault))
  | targetGoes {target : Session.Party} {doorway : Doorway}
      (here : s.stage = .awaiting target doorway) (fault : Option IoFault) :
      Does s scene
        (s.fail { scene with network := (scene.network.unlisten doorway.listener).close target.socket }
          (.targetClosed target.address fault))
  | completes {session : Session} {report : SessionReport} (here : s.stage = .relaying session)
      (reported : session.report? scene.now = some report) : Does s scene (s.complete scene session report)

variable {s scene}

theorem dialling_does {dialling : Dialling Socket} (here : s.stage = .dialling dialling)
    (first : Glance) : s.Does scene (s.step first scene) := by
  simp only [step, here]
  cases dialling with
  | connected socket address => exact .holds here
  | failed reason fault => exact .givesUp here reason fault
  | trying addresses last =>
      cases addresses with
      | nil => cases last with
        | none => exact .givesUp here _ none
        | some fault => exact .givesUp here _ (some fault)
      | cons address rest =>
          simp only [Dialling.step, Network.dialler]
          cases dialled : scene.network.dial address with
          | mk result network =>
              cases result with
              | error fault => exact .misses here dialled
              | ok socket =>
                  have connects := Does.connects here dialled
                  simp only [Network.tryNoDelay] at connects
                  simp only
                  cases asked : network.setNoDelay socket with
                  | mk result network =>
                      rw [asked] at connects
                      cases result with
                      | ok | error fault => exact connects _

theorem binding_does {target : Session.Party} (here : s.stage = .binding target) (first : Glance) :
    s.Does scene (s.step first scene) := by
  simp only [step, here, Doorway.openAt]
  cases opened : scene.network.listen s.relay.listenAddress with
  | mk result network =>
      cases result with
      | ok listener => exact .opens here opened
      | error fault => exact .cannotOpen here opened

theorem clientStep?_does {target : Session.Party} {doorway : Doorway} {step : Step}
    (here : s.stage = .awaiting target doorway)
    (h : s.clientStep? scene target doorway = some step) : s.Does scene step := by
  simp only [clientStep?, Doorway.letIn, Doorway.close] at h
  cases comes : scene.network.accept doorway.listener with
  | mk result network =>
      rw [comes] at h
      cases result with
      | pending => cases h
      | ready result =>
          cases result with
          | ok client =>
              obtain rfl := Option.some.inj h
              exact .admits here comes
          | error fault =>
              obtain rfl := Option.some.inj h
              exact .cannotAdmit here comes

theorem targetStep?_does {target : Session.Party} {doorway : Doorway} {step : Step}
    (here : s.stage = .awaiting target doorway)
    (h : s.targetStep? scene target doorway = some step) : s.Does scene step := by
  simp only [targetStep?] at h
  cases presence : scene.network.presence target.socket with
  | present => simp [presence] at h
  | gone fault =>
      rw [presence] at h
      obtain rfl := Option.some.inj h
      exact .targetGoes here fault

theorem step_does (s : Supervisor) (first : Glance) (scene : Scene) :
    s.Does scene (s.step first scene) := by
  cases here : s.stage with
  | resting wakes =>
      simp only [step, here]
      split
      · exact .begins here
      · exact .waits
  | dialling dialling => exact dialling_does here first
  | binding target => exact binding_does here first
  | awaiting target doorway =>
      simp only [step, here]
      -- Whichever is looked at first, the step is one of the two or none.
      have either (a b : Option Step) (ha : ∀ step, a = some step → s.Does scene step)
          (hb : ∀ step, b = some step → s.Does scene step) :
          s.Does scene ((a.or b).getD { supervisor := s, scene, isBlocked := true }) := by
        cases a with
        | some step => exact ha step rfl
        | none => cases b with
          | some step => exact hb step rfl
          | none => exact .waits
      have client (step : Step) (comes : s.clientStep? scene target doorway = some step) :
          s.Does scene step := clientStep?_does here comes
      have gone (step : Step) (goes : s.targetStep? scene target doorway = some step) :
          s.Does scene step := targetStep?_does here goes
      cases first with
      | client => exact either _ _ client gone
      | target => exact either _ _ gone client
  | relaying session =>
      simp only [step, here]
      cases reported : session.report? scene.now with
      | some report => exact .completes here reported
      | none => exact .waits

/-- A step of a lane is one of the session that is under way, if there is one. -/
theorem stepLane_cases (s : Supervisor) (direction : Direction) (scene : Scene) :
    (∃ session, s.stage = .relaying session ∧
      let r := session.stepLane direction scene
      s.stepLane direction scene =
        { supervisor := { s with stage := .relaying r.session }, scene := r.scene
          isBlocked := r.isBlocked }) ∨
    s.stepLane direction scene = { supervisor := s, scene, isBlocked := true } := by
  cases here : s.stage with
  | relaying session => exact .inl ⟨session, rfl, by simp only [stepLane, here]⟩
  | _ => exact .inr (by simp only [stepLane, here])

end Supervisor

/-! ## A supervisor among others -/

/-- A supervisor that is followed, with all that it has done. -/
structure Supervision where
  supervisor : Supervisor
  scene : Scene
  /-- The moments of its work so far, in order. -/
  moments : List Supervisor.Moment

namespace Supervision

def start (relay : Relay) (scene : Scene) : Supervision := ⟨.start relay, scene, []⟩

/-- What happens next. -/
inductive Happening where
  /-- The supervisor takes a step. -/
  | step (first : Glance)
  /-- A lane of its session takes a step. -/
  | lane (direction : Direction)
  /-- Others change the scene. -/
  | others (change : Scene → Scene)

def after (v : Supervision) (s : Supervisor.Step) : Supervision :=
  ⟨s.supervisor, s.scene, v.moments ++ s.moments⟩

/-- After a happening. -/
def move (v : Supervision) : Happening → Supervision
  | .step first => v.after (v.supervisor.step first v.scene)
  | .lane direction => v.after (v.supervisor.stepLane direction v.scene)
  | .others change => { v with scene := change v.scene }

def run (v : Supervision) (happenings : List Happening) : Supervision := happenings.foldl move v

theorem run_concat (v : Supervision) (happenings : List Happening) (h : Happening) :
    v.run (happenings ++ [h]) = (v.run happenings).move h := by
  rw [run, List.foldl_append]
  rfl

end Supervision

end Wiretap
