import Wiretap.Proofs.Disk
import Wiretap.Proofs.Watch.Procession
/-! # Edits while a program starts

A program reads its settings file twice before anybody watches the folder: once to run, and once more
for the watch. What is written there in between is reported to nobody. And what is published before the
reloader follows is not heard of. So an edit is lost when it comes before the folder is watched, or when
its report is handled before the reloader follows; after that none is.
-/

namespace Wiretap

/-! ## What the file says -/

theorem Disk.Grows.exists? {d e : Disk} (h : d.Grows e) {path : String} (there : d.exists? path = true) :
    e.exists? path = true := by
  simp only [Disk.exists?] at there ⊢
  cases found : d.find path with
  | error fault => simp [found, Except.isOk, Except.toBool] at there
  | ok place => simp [h.find found, Except.isOk, Except.toBool]

theorem Settings.load_of_grows {d e : Disk} (h : d.Grows e) {path : String}
    (there : d.exists? path = true) : load e path = load d path := by
  have same : e.read path = d.read path := by
    simp only [Disk.exists?] at there
    simp only [Disk.read, bind, Except.bind]
    cases found : d.find path with
    | error fault => simp [found, Except.isOk, Except.toBool] at there
    | ok place => rw [h.find found]
  simp only [load, textOf, there, h.exists? there, same]

/-- Building an inspector leaves what was on the disk. -/
theorem Inspector.grows_build {disk next : Disk} {choice : InspectorChoice} {inspector : Inspector}
    (built : build disk choice = .ok (inspector, next)) : disk.Grows next := by
  cases choice with
  | noop | log =>
      cases built
      exact fun _ _ found => found
  | capture path =>
      simp only [build] at built
      split at built
      next opens =>
        cases built
        exact Disk.grows_openToAppend opens
      next => cases built

/-- The options leave the inspector alone unless they name one. -/
theorem Settings.inspector_merge {o : Overrides} (none : o.inspector = .none) (c : Settings) :
    (c.merge o).1.inspector = c.inspector ∧ (c.merge o).2 = .none := by
  have relays : c.withRelay.inspector = c.inspector := by
    unfold withRelay
    split <;> rfl
  simp only [merge, none, modifyFirst]
  split <;> exact ⟨relays, trivial⟩

/-- A program that starts from a file without options for the inspector runs with the inspector of the
file, which says the same afterwards. -/
theorem Program.inspector_of_start {i : Invocation} {p : Setup} {c : Settings}
    (starts : start i = .runs p) (there : i.disk.exists? p.arguments.config = true)
    (loaded : Settings.load i.disk p.arguments.config = .ok c)
    (plain : p.arguments.overrides.inspector = none) :
    p.settings.inspector = c.inspector ∧ p.inspector = c.inspector.inspector ∧
      Settings.load p.disk p.arguments.config = .ok c := by
  obtain ⟨accepted, built⟩ := start_eq_runs starts
  have base : baseSettings i.disk i.environment p.arguments = .ok c := (if_pos there).trans loaded
  obtain ⟨kept, merges⟩ := Settings.inspector_merge plain c
  have same : p.settings.inspector = c.inspector := by
    rw [((settings_eq_ok_iff base merges p.settings).mp accepted).1, kept]
  refine ⟨same, same ▸ Inspector.eq_of_build built, ?_⟩
  rw [Settings.load_of_grows (Inspector.grows_build built) there, loaded]

namespace Watcher

theorem disk_advance (w : Watcher) (u : Update) : (w.advance u).1.disk = w.disk := by
  cases u with
  | loading cause =>
      simp only [advance]
      split
      · rfl
      · cases cause with
        | request => rfl
        | fileChange =>
            dsimp only
            split <;> rfl
  | storing | sending | finished => rfl

theorem disk_handle (w : Watcher) (paths : List String) (kind : FileEventKind) :
    (w.handle paths kind).disk = w.disk := by
  have updated : (w.update .fileChange).1.disk = w.disk := by
    simp only [update]
    split <;> simp only [disk_advance]
  simp only [handle]
  split
  · cases kind with
    | changed => exact updated
    | removed | other => rfl
  · rfl

theorem isAbout_path (w : Watcher) : w.isAbout [w.path] = true := by simp [isAbout]

/-- The current settings are those of the file, but maybe with a path spelled as before. -/
def IsFresh (w : Watcher) : Prop := ∃ s, Settings.load w.disk w.path = .ok s ∧ w.current.sameAs s

theorem isFresh_of_loaded {w : Watcher} (loaded : Settings.load w.disk w.path = .ok w.current) :
    w.IsFresh :=
  ⟨_, loaded, Settings.sameAs_refl _⟩

theorem watch_eq_ok {disk : Disk} {path : String} {current : Settings} {w : Watcher}
    (begins : watch disk path current = .ok w) :
    w = ⟨path, disk, current, .blank channelCapacity, 0, []⟩ := by
  simp only [watch] at begins
  split at begins
  · cases begins
  · split at begins
    · cases begins
      rfl
    · cases begins

end Watcher

theorem Tenure.endsWell_start (initial : Settings) (inspector : Inspector) (disk : Disk) (now : String) :
    (start initial inspector disk now).EndsWell := by
  intro last isLast
  cases isLast

/-! ## Steps of a start -/

/-- How far a program has come with keeping itself up to date. -/
inductive Launch.Stage where
  /-- It has the settings to run with, and their inspector. -/
  | equipped (disk : Disk)
  /-- The watch has loaded the file, and told so. -/
  | informed (disk : Disk) (current : Settings) (told : Journal)
  /-- The folder is watched. -/
  | watching (v : Vigil)
  /-- The reloader follows. -/
  | complete (q : Procession)
  /-- There is nothing to watch. -/
  | without

/-- A program that runs and begins to keep itself up to date. -/
structure Launch where
  setup : Program.Setup
  stage : Launch.Stage
  /-- How many reports on the file have not been handled yet. -/
  reports : Nat

namespace Launch

namespace Stage

def disk? : Stage → Option Disk
  | .equipped disk | .informed disk _ _ => some disk
  | .watching v => some v.watcher.disk
  | .complete q => some q.vigil.watcher.disk
  | .without => none

/-- Whether the folder reports what is edited. -/
def isWatched : Stage → Bool
  | .watching _ | .complete _ => true
  | .equipped _ | .informed .. | .without => false

def edit (change : Disk → Disk) : Stage → Stage
  | .equipped disk => .equipped (change disk)
  | .informed disk current told => .informed (change disk) current told
  | .watching v => .watching (v.move (.disk change))
  | .complete q => .complete (q.move (.watches (.disk change)))
  | .without => .without

/-- A report that the file at a path has changed is handled. -/
def handle (path : String) : Stage → Stage
  | .watching v => .watching (v.move (.report [path] .changed))
  | .complete q => .complete (q.move (.watches (.report [path] .changed)))
  | stage => stage

/-- Something happens to a reloader that follows. -/
def follow (m : Upkeep.Move) : Stage → Stage
  | .complete q => .complete (q.move m)
  | stage => stage

end Stage

def start (p : Program.Setup) : Launch := ⟨p, .equipped p.disk, 0⟩

def path (l : Launch) : String := l.setup.arguments.config

def goOn (l : Launch) : Stage :=
  match l.stage with
  | .equipped disk =>
    if disk.exists? l.path then
      match Settings.load disk l.path with
      | .ok current => .informed disk current (Settings.loadJournal disk l.path)
      | .error _ => .without
    else .without
  | .informed disk current told =>
    match Watcher.watch disk l.path current with
    | .ok w => .watching (.start (w.log (told ++ [w.startEntry])))
    | .error _ => .without
  | .watching v =>
    .complete (.start v (.start l.setup.settings l.setup.inspector l.setup.disk ""))
  | stage => stage

/-- What happens next. A report is handled at once: of its update only the load looks at the disk, and
only the sending is heard of. So what is edited after the load counts as edited after the update, and a
reloader that follows before the sending as one that follows before the update. -/
inductive Move where
  | goesOn
  /-- The file is edited. When its folder is watched that is reported, so many times more than once. -/
  | edits (change : Disk → Disk) (again : Nat)
  /-- A report is handled, if there is one. -/
  | handles
  /-- The reloader hears of the next change. -/
  | hears
  /-- A relay has a chunk inspected. -/
  | inspects (e : Event) (delivered : Nat)
  /-- Time passes, and others change the disk. -/
  | besides (disk : Disk) (now : String)

def move (l : Launch) : Move → Launch
  | .goesOn => { l with stage := l.goOn }
  | .edits change again =>
    { l with
      stage := l.stage.edit change
      reports := if l.stage.isWatched then l.reports + (again + 1) else l.reports }
  | .handles =>
    match l.reports with
    | 0 => l
    | n + 1 => { l with stage := l.stage.handle l.path, reports := n }
  | .hears => { l with stage := l.stage.follow .hears }
  | .inspects e delivered => { l with stage := l.stage.follow (.inspects e delivered) }
  | .besides disk now => { l with stage := l.stage.follow (.besides disk now) }

def run (l : Launch) (moves : List Move) : Launch := moves.foldl move l

def Always (P : Launch → Move → Prop) : Launch → List Move → Prop
  | _, [] => True
  | l, m :: rest => P l m ∧ Always P (l.move m) rest

def IsValid (l : Launch) : Move → Prop
  | .edits change _ => ∀ disk ∈ l.stage.disk?, ∃ s, Settings.load (change disk) l.path = .ok s
  | _ => True

/-- Before the folder is watched nothing else is written, and before the reloader follows no report is
handled that tells something new. -/
def IsTimely (l : Launch) : Move → Prop
  | .edits change _ => l.stage.isWatched = false →
      ∀ disk ∈ l.stage.disk?, Settings.load (change disk) l.path = Settings.load disk l.path
  | .handles => ∀ v, l.stage = .watching v → v.watcher.IsFresh
  | _ => True

/-- The start is over, all reports were handled, and the reloader has heard of all that came of it. -/
structure Settles (l : Launch) (q : Procession) : Prop where
  complete : l.stage = .complete q
  handled : l.reports = 0
  heard : q.follower.IsCaughtUp

/-- The steps of a start, one right after the other. -/
theorem upkeep_of_start {p : Program.Setup} {u : Upkeep} (begins : Upkeep.start p = .ok u)
    (there : p.disk.exists? p.arguments.config = true) :
    ∃ q, ((start p).run [.goesOn, .goesOn, .goesOn]).stage = .complete q ∧ q.upkeep = u := by
  simp only [Upkeep.start, HotReload.start, Watcher.start, bind, Except.bind, pure, Except.pure]
    at begins
  cases loaded : Settings.load p.disk p.arguments.config with
  | error fault => simp [loaded] at begins
  | ok c =>
      cases watched : Watcher.watch p.disk p.arguments.config c with
      | error fault => simp [loaded, watched] at begins
      | ok w =>
          simp only [loaded, watched, Except.ok.injEq] at begins
          simp only [run, List.foldl, move, start, goOn, path, there, loaded, watched, if_true]
          exact ⟨_, rfl, begins⟩

/-! ## What is kept -/

/-- A watch whose program began with some settings: the current ones were published last, and they are
those of the file unless there is a report to handle. -/
structure Watches (path : String) (reports : Nat) (c : Settings) (v : Vigil) : Prop where
  path : v.watcher.path = path
  capacity : v.watcher.channel.capacity = Watcher.channelCapacity
  current : v.watcher.current = (v.watcher.channel.sent.getLast?.map (·.settings)).getD c
  valid : ∃ s, Settings.load v.watcher.disk v.watcher.path = .ok s
  fresh : reports = 0 → v.watcher.IsFresh

/-- How it is at every stage of a start without edits that are lost. -/
def Sound (c : Settings) (l : Launch) : Prop :=
  match l.stage with
  | .equipped disk => Settings.load disk l.path = .ok c
  | .informed disk current _ => Settings.load disk l.path = .ok c ∧ current = c
  | .watching v => Watches l.path l.reports c v ∧ v.watcher.channel.sent = []
  | .complete q => Watches l.path l.reports c q.vigil ∧ q.Keeps [] l.setup.settings
  | .without => True

variable {l : Launch} {c : Settings} {v : Vigil} {path : String} {reports : Nat}

theorem setup_move (l : Launch) (m : Move) : (l.move m).setup = l.setup := by
  cases m with
  | handles =>
      simp only [move]
      split <;> rfl
  | goesOn | edits | hears | inspects | besides => rfl

theorem Watches.edit (h : Watches path reports c v) {change : Disk → Disk}
    (valid : ∃ s, Settings.load (change v.watcher.disk) path = .ok s) (again : Nat) :
    Watches path (reports + (again + 1)) c (v.move (.disk change)) where
  path := h.path
  capacity := h.capacity
  current := h.current
  valid := by
    change ∃ s, Settings.load (change v.watcher.disk) v.watcher.path = .ok s
    rw [h.path]
    exact valid
  fresh none := absurd none (Nat.succ_ne_zero _)

theorem Watches.handle (h : Watches path reports c v) (left : Nat) :
    Watches path left c (v.move (.report [path] .changed)) := by
  obtain ⟨s, loaded⟩ := h.valid
  have handled := v.watcher.handle_of_loaded loaded [path] .changed
  have about : v.watcher.isAbout [path] = true := h.path ▸ v.watcher.isAbout_path
  have disk : (v.move (.report [path] .changed)).watcher.disk = v.watcher.disk :=
    v.watcher.disk_handle [path] .changed
  generalize next : v.move (.report [path] .changed) = x at disk ⊢
  have isNext : v.watcher.handle [path] .changed = x.watcher := congrArg (·.watcher) next
  rw [isNext] at handled
  have still (same : x.watcher.path = v.watcher.path) :
      Settings.load x.watcher.disk x.watcher.path = .ok s := by
    rw [disk, same, loaded]
  by_cases same : v.watcher.current.sameAs s
  · rw [if_neg (by simp [same])] at handled
    have written := still handled.path
    refine ⟨handled.path.trans h.path, ?_, ?_, ⟨s, written⟩, fun _ => ⟨s, written, ?_⟩⟩
    · rw [handled.channel, h.capacity]
    · rw [handled.channel, handled.current, h.current]
    · rw [handled.current, same]
  · rw [if_pos ⟨rfl, about, same⟩] at handled
    have written := still handled.path
    refine ⟨handled.path.trans h.path, ?_, ?_, ⟨s, written⟩, fun _ => ⟨s, written, ?_⟩⟩
    · rw [handled.channel]
      exact h.capacity
    · rw [handled.channel, handled.current]
      simp [Broadcast.send]
    · rw [handled.current, Settings.sameAs_refl]

theorem channel_report_of_fresh {v : Vigil} (path : String) (fresh : v.watcher.IsFresh) :
    (v.move (.report [path] .changed)).watcher.channel = v.watcher.channel := by
  obtain ⟨s, loaded, same⟩ := fresh
  have handled := v.watcher.handle_of_loaded loaded [path] .changed
  rw [if_neg (by simp [same])] at handled
  exact handled.channel

theorem Sound.goOn (h : l.Sound c) (equips : l.setup.inspector = l.setup.settings.inspector.inspector) :
    (l.move .goesOn).Sound c := by
  obtain ⟨setup, stage, reports⟩ := l
  cases stage with
  | equipped disk =>
      have loaded : Settings.load disk setup.arguments.config = .ok c := h
      simp only [move, Launch.goOn, Launch.path, loaded]
      cases disk.exists? setup.arguments.config with
      | true => exact ⟨loaded, rfl⟩
      | false => trivial
  | informed disk current told =>
      obtain ⟨loaded, rfl⟩ : Settings.load disk setup.arguments.config = .ok c ∧ current = c := h
      simp only [move, Launch.goOn, Launch.path]
      cases begins : Watcher.watch disk setup.arguments.config current with
      | error fault => trivial
      | ok w =>
          obtain rfl := Watcher.watch_eq_ok begins
          exact ⟨⟨rfl, rfl, rfl, ⟨_, loaded⟩, fun _ => Watcher.isFresh_of_loaded loaded⟩, rfl⟩
  | watching v =>
      obtain ⟨watches, none⟩ :
        Watches setup.arguments.config reports c v ∧ v.watcher.channel.sent = [] := h
      have keeps := Procession.keeps_start watches.capacity setup.settings setup.disk ""
      rw [none, ← equips] at keeps
      exact ⟨⟨watches.path, watches.capacity, watches.current, watches.valid, watches.fresh⟩, keeps⟩
  | complete q => exact h
  | without => trivial

theorem Sound.follow (h : l.Sound c) {m : Upkeep.Move} (apart : m.happening? = none) :
    Sound c { l with stage := l.stage.follow m } := by
  obtain ⟨setup, stage, reports⟩ := l
  cases stage with
  | complete q =>
      obtain ⟨watches, keeps⟩ :
        Watches setup.arguments.config reports c q.vigil ∧ q.Keeps [] setup.settings := h
      refine ⟨?_, keeps.move m⟩
      cases m with
      | watches happening => cases apart
      | hears | inspects | besides => exact watches
  | equipped | informed | watching | without => exact h

-- Nobody reports an edit that comes early, so it must say the same; a later one is reported.
theorem Sound.edits (h : l.Sound c) {change : Disk → Disk} {again : Nat}
    (valid : l.IsValid (.edits change again)) (timely : l.IsTimely (.edits change again)) :
    (l.move (.edits change again)).Sound c := by
  obtain ⟨setup, stage, reports⟩ := l
  cases stage with
  | equipped disk =>
      have loaded : Settings.load disk setup.arguments.config = .ok c := h
      exact (timely rfl disk rfl).trans loaded
  | informed disk current told =>
      obtain ⟨loaded, rfl⟩ : Settings.load disk setup.arguments.config = .ok c ∧ current = c := h
      exact ⟨(timely rfl disk rfl).trans loaded, rfl⟩
  | watching v =>
      obtain ⟨watches, none⟩ :
        Watches setup.arguments.config reports c v ∧ v.watcher.channel.sent = [] := h
      exact ⟨watches.edit (valid _ rfl) again, none⟩
  | complete q =>
      obtain ⟨watches, keeps⟩ :
        Watches setup.arguments.config reports c q.vigil ∧ q.Keeps [] setup.settings := h
      exact ⟨watches.edit (valid _ rfl) again, keeps.move (.watches (.disk change))⟩
  | without => trivial

theorem Sound.handles (h : l.Sound c) (timely : l.IsTimely .handles) : (l.move .handles).Sound c := by
  obtain ⟨setup, stage, reports⟩ := l
  cases reports with
  | zero => exact h
  | succ left =>
      cases stage with
      | equipped | informed | without => exact h
      | watching v =>
          obtain ⟨watches, none⟩ :
            Watches setup.arguments.config (left + 1) c v ∧ v.watcher.channel.sent = [] := h
          -- Nobody would hear of what is published now, so nothing may be.
          have still := channel_report_of_fresh setup.arguments.config (timely v rfl)
          exact ⟨watches.handle left, (congrArg Broadcast.sent still).trans none⟩
      | complete q =>
          obtain ⟨watches, keeps⟩ :
            Watches setup.arguments.config (left + 1) c q.vigil ∧ q.Keeps [] setup.settings := h
          exact ⟨watches.handle left, keeps.move (.watches (.report [setup.arguments.config] .changed))⟩

theorem Sound.move (h : l.Sound c) (equips : l.setup.inspector = l.setup.settings.inspector.inspector)
    {m : Move} (valid : l.IsValid m) (timely : l.IsTimely m) : (l.move m).Sound c := by
  cases m with
  | goesOn => exact h.goOn equips
  | hears => exact h.follow rfl
  | inspects => exact h.follow rfl
  | besides => exact h.follow rfl
  | edits change again => exact h.edits valid timely
  | handles => exact h.handles timely

theorem Sound.run (h : l.Sound c) (equips : l.setup.inspector = l.setup.settings.inspector.inspector)
    {moves : List Move} (valid : Always IsValid l moves) (timely : Always IsTimely l moves) :
    (l.run moves).Sound c := by
  induction moves generalizing l with
  | nil => exact h
  | cons m rest ih =>
      exact ih (h.move equips valid.1 timely.1) (by rw [setup_move]; exact equips) valid.2 timely.2

theorem setup_run (l : Launch) (moves : List Move) : (l.run moves).setup = l.setup := by
  induction moves generalizing l with
  | nil => rfl
  | cons m rest ih => exact (ih (l.move m)).trans (setup_move l m)

variable {q : Procession}

/-- What a reloader may know at last is the inspector of the current settings. -/
theorem Watches.inspector_latest (h : Watches path reports c q.vigil) {initial : Settings}
    (keeps : q.Keeps [] initial) (same : initial.inspector = c.inspector) :
    (q.follower.latest initial []).inspector = q.vigil.watcher.current.inspector := by
  rw [h.current, Follower.latest, Follower.published, keeps.channel, List.length_nil, List.drop_zero]
  cases q.vigil.watcher.channel.sent.getLast? with
  | none => exact same
  | some change => rfl

theorem Sound.settles (h : l.Sound c) (same : l.setup.settings.inspector = c.inspector)
    (settles : l.Settles q) :
    q.vigil.watcher.path = l.path ∧ q.vigil.watcher.IsFresh ∧
      ((∀ disk, (Inspector.build disk q.vigil.watcher.current.inspector).isOk = true) →
        q.follower.tenure.EndsWell) ∧
      (q.follower.tenure.EndsWell → q.follower.tenure.station.current.inspector.BuiltFrom
        q.vigil.watcher.current.inspector) := by
  simp only [Sound, settles.complete] at h
  obtain ⟨watches, keeps⟩ := h
  have newest := watches.inspector_latest keeps same
  refine ⟨watches.path, watches.fresh settles.handled, fun builds => ?_, fun well => ?_⟩
  · refine (keeps.follows.ends_latest keeps.sound settles.heard).2.1 fun disk => ?_
    rw [newest]
    exact builds disk
  · rw [← newest]
    exact (keeps.hasApplied settles.heard well).builtFrom

/-- A program that starts from its settings file, without an option for the inspector, ends up with the
inspector of the file, provided that nothing new is written before the folder is watched and that nothing
new is told before the reloader follows. Settings are new unless they spell a path in another way. -/
theorem edits_followed {i : Invocation} {p : Program.Setup} {c : Settings}
    (starts : Program.start i = .runs p) (there : i.disk.exists? p.arguments.config = true)
    (loaded : Settings.load i.disk p.arguments.config = .ok c)
    (plain : p.arguments.overrides.inspector = none) (moves : List Move)
    (valid : Always IsValid (start p) moves) (timely : Always IsTimely (start p) moves)
    {q : Procession} (settles : ((start p).run moves).Settles q) :
    q.vigil.watcher.path = p.arguments.config ∧ q.vigil.watcher.IsFresh ∧
      ((∀ disk, (Inspector.build disk q.vigil.watcher.current.inspector).isOk = true) →
        q.follower.tenure.EndsWell) ∧
      (q.follower.tenure.EndsWell → q.follower.tenure.station.current.inspector.BuiltFrom
        q.vigil.watcher.current.inspector) := by
  obtain ⟨same, equips, again⟩ := Program.inspector_of_start starts there loaded plain
  have begins : (start p).Sound c := again
  have setup : ((start p).run moves).setup = p := setup_run _ moves
  have ends := (begins.run (equips.trans (same ▸ rfl)) valid timely).settles
    (by rw [setup]; exact same) settles
  rw [path, setup] at ends
  exact ends

/-! ## Edits in the gaps -/

def idleText : String := "[[relays]]\nport = 1\nupstream_port = 2\n[inspector]\nkind = \"noop\"\n"

def idle : Settings := { Upkeep.logging "info" with inspector := .noop }

theorem idle_not_sameAs : ¬idle.sameAs (Upkeep.logging "info") := by decide +kernel

theorem load_idle : Settings.load (Upkeep.diskOf idleText) "r" = .ok idle :=
  Upkeep.load_diskOf (by decide +kernel) (by decide +kernel) (by decide +kernel)

def idly : Invocation where
  arguments := ["--config", "r"]
  environment _ := none
  disk := Upkeep.diskOf idleText

/-- A program that starts from the file without an inspector. -/
structure IsIdle (p : Program.Setup) : Prop where
  starts : Program.start idly = .runs p
  config : p.arguments.config = "r"
  plain : p.arguments.overrides.inspector = none
  settings : p.settings = idle
  inspector : p.inspector = .noop
  disk : p.disk = Upkeep.diskOf idleText

theorem start_idly : ∃ p, IsIdle p := by
  let a : Arguments := { config := "r", overrides := {} }
  have base : Program.baseSettings (Upkeep.diskOf idleText) (fun _ => none) a = .ok idle :=
    (if_pos (Route.isName_r.exists? (Upkeep.at?_diskOf _))).trans load_idle
  have accepted : Program.settings idly.disk idly.environment a = .ok idle :=
    (Program.settings_eq_ok_iff base rfl idle).mpr ⟨rfl, by decide +kernel⟩
  obtain ⟨p, starts, arguments, settings, inspector, disk⟩ :=
    Program.start_of_settings (by decide +kernel) accepted Upkeep.isBroken_info rfl rfl
  exact ⟨p, starts, by rw [arguments], by rw [arguments], settings, inspector, disk⟩

/-- Somebody has the inspector log from now on. -/
def logs : Move := .edits (fun _ => Upkeep.diskOf Upkeep.loggingText) 0

/-- The file is edited between its two loads. -/
def betweenLoads : List Move := [logs, .goesOn, .goesOn, .goesOn]

/-- The file is edited before its folder is watched. -/
def beforeWatched : List Move := [.goesOn, logs, .goesOn, .goesOn]

/-- The file is edited, and that handled, before the reloader follows. -/
def beforeFollowed : List Move := [.goesOn, .goesOn, logs, .handles, .goesOn]

/-- The file is edited before the reloader follows, but that is handled afterwards. -/
def whenFollowed : List Move := [.goesOn, .goesOn, logs, .goesOn, .handles, .hears]

variable {p : Program.Setup} {disk : Disk}

theorem goesOn_equipped (config : p.arguments.config = "r") (there : disk.exists? "r" = true)
    (loaded : Settings.load disk "r" = .ok c) (reports : Nat) :
    (Launch.mk p (.equipped disk) reports).move .goesOn =
      ⟨p, .informed disk c (Settings.loadJournal disk "r"), reports⟩ := by
  simp only [move, goOn, path, config, there, loaded, if_true]

def watcher (disk : Disk) (current : Settings) (told : Journal) : Watcher :=
  ⟨"r", disk, current, .blank Watcher.channelCapacity, 0, told⟩

theorem goesOn_informed (config : p.arguments.config = "r") (disk : Disk) (c : Settings)
    (told : Journal) (reports : Nat) :
    ∃ journal, (Launch.mk p (.informed disk c told) reports).move .goesOn =
      ⟨p, .watching (.start (watcher disk c journal)), reports⟩ := by
  have folder := Route.isName_r.parentPath?
  have empty : ("" : String).isEmpty = true := rfl
  have begins : Watcher.watch disk "r" c = .ok (watcher disk c []) := by
    simp only [Watcher.watch, folder, empty, Bool.true_or, if_true]
    rfl
  refine ⟨told ++ [(watcher disk c []).startEntry], ?_⟩
  simp only [move, goOn, path, config, begins]
  rfl

theorem settles_of_watching (p : Program.Setup) (v : Vigil) :
    ((Launch.mk p (.watching v) 0).move .goesOn).Settles
      (.start v (.start p.settings p.inspector p.disk "")) :=
  ⟨rfl, rfl, rfl⟩

section Idle

variable (h : IsIdle p)
include h

theorem IsIdle.goesOn_equipped {text : String} (reports : Nat)
    (loaded : Settings.load (Upkeep.diskOf text) "r" = .ok c) :
    ∃ told, (Launch.mk p (.equipped (Upkeep.diskOf text)) reports).move .goesOn =
      ⟨p, .informed (Upkeep.diskOf text) c told, reports⟩ :=
  ⟨_, Launch.goesOn_equipped h.config (Route.isName_r.exists? (Upkeep.at?_diskOf _)) loaded reports⟩

theorem IsIdle.goesOn_twice {text : String} (reports : Nat)
    (loaded : Settings.load (Upkeep.diskOf text) "r" = .ok c) :
    ∃ told, (Launch.mk p (.equipped (Upkeep.diskOf text)) reports).run [.goesOn, .goesOn] =
      ⟨p, .watching (.start (watcher (Upkeep.diskOf text) c told)), reports⟩ := by
  obtain ⟨told, informs⟩ := h.goesOn_equipped reports loaded
  obtain ⟨journal, watches⟩ := goesOn_informed h.config _ _ told reports
  refine ⟨journal, ?_⟩
  rw [← watches, ← informs]
  rfl

theorem IsIdle.valid_logs (l : Launch) (same : l.setup = p) : l.IsValid logs := by
  intro disk _
  refine ⟨Upkeep.logging "info", ?_⟩
  rw [path, same, h.config]
  exact Upkeep.load_logging

theorem IsIdle.run_betweenLoads : ∃ told, ((start p).run betweenLoads).Settles
    (.start (.start (watcher (Upkeep.diskOf Upkeep.loggingText) (Upkeep.logging "info") told))
      (.start idle .noop p.disk "")) := by
  obtain ⟨told, watches⟩ := h.goesOn_twice 0 Upkeep.load_logging
  have begins : (start p).run betweenLoads =
      ((Launch.mk p (.equipped (Upkeep.diskOf Upkeep.loggingText)) 0).run [.goesOn, .goesOn]).move
        .goesOn := rfl
  refine ⟨told, ?_⟩
  rw [begins, watches, ← h.settings, ← h.inspector]
  exact settles_of_watching p _

theorem IsIdle.run_beforeWatched : ∃ told, ((start p).run beforeWatched).Settles
    (.start (.start (watcher (Upkeep.diskOf Upkeep.loggingText) idle told))
      (.start idle .noop p.disk "")) := by
  obtain ⟨told, informs⟩ := h.goesOn_equipped 0 load_idle
  obtain ⟨journal, watches⟩ :=
    goesOn_informed h.config (Upkeep.diskOf Upkeep.loggingText) idle told 0
  have begins : (start p).run beforeWatched =
      ((((Launch.mk p (.equipped (Upkeep.diskOf idleText)) 0).move .goesOn).move logs).move
        .goesOn).move .goesOn := by
    rw [← h.disk]
    rfl
  have edited : (Launch.mk p (.informed (Upkeep.diskOf idleText) idle told) 0).move logs =
      ⟨p, .informed (Upkeep.diskOf Upkeep.loggingText) idle told, 0⟩ := rfl
  refine ⟨journal, ?_⟩
  rw [begins, informs, edited, watches, ← h.settings, ← h.inspector]
  exact settles_of_watching p _

theorem IsIdle.run_watched (more : List Move) : ∃ told, (start p).run (.goesOn :: .goesOn :: more) =
    (Launch.mk p (.watching (.start (watcher (Upkeep.diskOf idleText) idle told))) 0).run more := by
  obtain ⟨told, watches⟩ := h.goesOn_twice 0 load_idle
  rw [← h.disk] at watches ⊢
  exact ⟨told, congrArg (·.run more) watches⟩

theorem IsIdle.run_beforeFollowed : ∃ v : Vigil, v.watcher.current = Upkeep.logging "info" ∧
    ((start p).run beforeFollowed).Settles (.start v (.start idle .noop p.disk "")) := by
  obtain ⟨told, watched⟩ := h.run_watched [logs, .handles, .goesOn]
  let v : Vigil := .start (watcher (Upkeep.diskOf Upkeep.loggingText) idle told)
  have handled := Watcher.handle_of_loaded (w := v.watcher) Upkeep.load_logging ["r"] .changed
  rw [if_pos ⟨rfl, v.watcher.isAbout_path, idle_not_sameAs⟩] at handled
  have ends : (start p).run beforeFollowed =
      (Launch.mk p (.watching (v.move (.report [p.arguments.config] .changed))) 0).move .goesOn := watched
  refine ⟨v.move (.report ["r"] .changed), handled.current, ?_⟩
  rw [ends, h.config, ← h.settings, ← h.inspector]
  exact settles_of_watching p _

theorem IsIdle.timely_whenFollowed : Always IsTimely (start p) whenFollowed := by
  obtain ⟨told, watched⟩ := h.run_watched []
  have now : ((start p).move .goesOn).move .goesOn = _ := watched
  refine ⟨trivial, trivial, fun unwatched => ?_, trivial, fun v unfollowed => ?_, trivial, trivial⟩
  · rw [now] at unwatched
    cases unwatched
  · rw [now] at unfollowed
    cases unfollowed

theorem IsIdle.run_whenFollowed : ∃ q : Procession,
    q.vigil.watcher.current = Upkeep.logging "info" ∧ ((start p).run whenFollowed).Settles q := by
  obtain ⟨told, watched⟩ := h.run_watched [logs, .goesOn, .handles, .hears]
  let w : Watcher := watcher (Upkeep.diskOf Upkeep.loggingText) idle told
  let q : Procession := .start (.start w) (.start idle .noop p.disk "")
  have keeps : q.Keeps [] idle := Procession.keeps_start (v := .start w) rfl idle p.disk ""
  have reported := keeps.move (.watches (.report ["r"] .changed))
  have handled := Watcher.handle_of_loaded (w := w.subscribe.1) Upkeep.load_logging ["r"] .changed
  rw [if_pos ⟨rfl, w.subscribe.1.isAbout_path, idle_not_sameAs⟩] at handled
  have channel : (q.move (.watches (.report ["r"] .changed))).follower.channel =
      (Broadcast.blank Watcher.channelCapacity).send ⟨Upkeep.logging "info", "r"⟩ := handled.channel
  have oldest : (q.move (.watches (.report ["r"] .changed))).follower.channel.oldest = 0 := by
    rw [channel]
    decide
  have heard := reported.isCaughtUp_hears (n := 1) (oldest ▸ Nat.zero_le _) (by
    rw [channel]
    exact Nat.sub_le 1 _)
  have ends : (start p).run whenFollowed =
      ⟨p, .complete (((Procession.start (.start w) (.start p.settings p.inspector p.disk "")).move
        (.watches (.report [p.arguments.config] .changed))).move .hears), 0⟩ := watched
  rw [h.config, h.settings, h.inspector] at ends
  refine ⟨(q.move (.watches (.report ["r"] .changed))).move .hears, handled.current, ?_⟩
  rw [ends]
  exact ⟨rfl, rfl, heard⟩

end Idle

/-- A program that starts from the file without an inspector logs in the end, when the reloader follows
in time. -/
theorem edits_followed_in_time : ∃ p q, Program.start idly = .runs p ∧
    ((start p).run whenFollowed).Settles q ∧ q.vigil.watcher.IsFresh ∧
    q.vigil.watcher.current = Upkeep.logging "info" ∧
    q.follower.tenure.station.current.inspector = .preview 64 := by
  obtain ⟨p, h⟩ := start_idly
  obtain ⟨q, current, settles⟩ := h.run_whenFollowed
  obtain ⟨_, fresh, wells, live⟩ := edits_followed h.starts
    (h.config ▸ Route.isName_r.exists? (Upkeep.at?_diskOf _)) (h.config ▸ load_idle) h.plain whenFollowed
    ⟨trivial, trivial, h.valid_logs _ rfl, trivial, trivial, trivial, trivial⟩
    h.timely_whenFollowed settles
  rw [current] at wells live
  exact ⟨p, q, h.starts, settles, fresh, current, (live (wells fun _ => rfl)).eq_of_log⟩

/-- After some moves every program that settles has the inspector of the file. -/
def Heeds (moves : List Move) : Prop :=
  ∀ (i : Invocation) (p : Program.Setup) (c : Settings), Program.start i = .runs p →
    i.disk.exists? p.arguments.config = true → Settings.load i.disk p.arguments.config = .ok c →
    p.arguments.overrides.inspector = none → Always IsValid (start p) moves →
    ∀ q, ((start p).run moves).Settles q → q.follower.tenure.EndsWell →
    q.vigil.watcher.IsFresh ∧ q.follower.tenure.station.current.inspector.BuiltFrom
      q.vigil.watcher.current.inspector

theorem Heeds.idly {moves : List Move} (heeds : Heeds moves) (h : IsIdle p)
    (valid : Always IsValid (start p) moves) {v : Vigil}
    (settles : ((start p).run moves).Settles (.start v (.start idle .noop p.disk ""))) :
    v.watcher.IsFresh ∧ Inspector.noop.BuiltFrom v.watcher.current.inspector := by
  have there : Launch.idly.disk.exists? p.arguments.config = true :=
    h.config ▸ Route.isName_r.exists? (Upkeep.at?_diskOf _)
  have loaded : Settings.load Launch.idly.disk p.arguments.config = .ok idle := h.config ▸ load_idle
  exact heeds Launch.idly p idle h.starts there loaded h.plain valid _ settles
    (Tenure.endsWell_start idle .noop p.disk "")

theorem not_builtFrom_logging : ¬Inspector.noop.BuiltFrom (Upkeep.logging "info").inspector :=
  fun built => nomatch Inspector.BuiltFrom.eq_of_log built

/-- In each of three gaps an edit is lost: the inspector that is installed in the end is not that of the
current settings, or these are not what the file says. -/
theorem edits_lost : ¬ Heeds betweenLoads ∧ ¬ Heeds beforeWatched ∧ ¬ Heeds beforeFollowed := by
  obtain ⟨p, h⟩ := start_idly
  refine ⟨fun heeds => ?_, fun heeds => ?_, fun heeds => ?_⟩
  · obtain ⟨told, settles⟩ := h.run_betweenLoads
    exact not_builtFrom_logging
      (heeds.idly h ⟨h.valid_logs _ rfl, trivial, trivial, trivial, trivial⟩ settles).2
  · obtain ⟨told, settles⟩ := h.run_beforeWatched
    obtain ⟨⟨s, written, same⟩, _⟩ :=
      heeds.idly h ⟨trivial, h.valid_logs _ rfl, trivial, trivial, trivial⟩ settles
    obtain rfl := Except.ok.inj (Upkeep.load_logging.symm.trans written)
    exact idle_not_sameAs same
  · obtain ⟨v, current, settles⟩ := h.run_beforeFollowed
    obtain ⟨_, built⟩ :=
      heeds.idly h ⟨trivial, trivial, h.valid_logs _ rfl, trivial, trivial, trivial⟩ settles
    exact not_builtFrom_logging (current ▸ built)

end Launch

end Wiretap
