import Wiretap.Proofs.Broadcast
import Wiretap.Proofs.CommandLine.Loading
import Wiretap.Watch.HotReload
/-! # Which inspector is in use while settings are reloaded

A program begins with the inspector of its merged settings, and so does the reloader. What the
reloader hears of are the settings of the file alone. So when the file changes, for whatever reason,
its own inspector takes the place of one that was chosen on the command line. That happens once.
-/

namespace Wiretap

/-! ## Inspectors that are built -/

/-- The inspector that is built from a choice. -/
def InspectorChoice.inspector : InspectorChoice → Inspector
  | .noop => .noop
  | .log n => .preview n
  | .capture path => .capture path

/-- An inspector is that of a choice, however the path of a capture was spelled. -/
def Inspector.BuiltFrom (inspector : Inspector) (choice : InspectorChoice) : Prop :=
  ∃ own : InspectorChoice, own.sameAs choice ∧ inspector = own.inspector

/-- Only the path of a capture can be spelled in more than one way. -/
theorem Inspector.BuiltFrom.eq_of_log {inspector : Inspector} {n : Nat}
    (h : inspector.BuiltFrom (.log n)) : inspector = .preview n := by
  obtain ⟨own, same, rfl⟩ := h
  cases own with
  | noop | capture => cases same
  | log m =>
      simp only [InspectorChoice.sameAs, decide_eq_true_eq] at same
      cases same
      rfl

theorem Inspector.eq_of_build {disk next : Disk} {choice : InspectorChoice} {inspector : Inspector}
    (built : build disk choice = .ok (inspector, next)) : inspector = choice.inspector := by
  cases choice with
  | noop | log =>
      cases built
      rfl
  | capture path =>
      simp only [build] at built
      split at built
      · cases built
        rfl
      · cases built

/-- An inspector that is built installs no other one. -/
theorem Station.inspect_of_chosen {s : Station} {choice : InspectorChoice}
    (chosen : s.current.inspector = choice.inspector) (e : Event) (delivered : Nat) :
    (s.inspect e delivered).station.current = s.current ∧
      (s.inspect e delivered).station.calls = s.calls := by
  cases choice with
  | noop => simp [inspect, run, chosen, InspectorChoice.inspector]
  | log n => simp [inspect, run, chosen, InspectorChoice.inspector, log]
  | capture path =>
      simp only [inspect, run, chosen, InspectorChoice.inspector]
      split <;> exact ⟨rfl, rfl⟩

/-! ## A change that is heard -/

namespace Reloader

/-- The station when other relays have been warned about. -/
def warned (r : Reloader) (station : Station) (s : Settings) : Station :=
  if s.relays = r.relays then station else station.log relaysEntry

theorem warned_eq (r : Reloader) (station : Station) (s : Settings) :
    (r.warned station s).current = station.current ∧ (r.warned station s).calls = station.calls ∧
      (r.warned station s).disk = station.disk := by
  unfold warned
  split <;> exact ⟨rfl, rfl, rfl⟩

/-- What applying settings comes to. -/
inductive Applies (r : Reloader) (station : Station) (s : Settings) : Applied → Prop where
  | same (equal : s.inspector.sameAs r.inspector) :
      Applies r station s ⟨⟨r.inspector, s.relays⟩, r.warned station s, .ok false⟩
  | fails {fault : Failure} (other : ¬s.inspector.sameAs r.inspector)
      (unbuildable : Inspector.build station.disk s.inspector = .error fault) :
      Applies r station s
        ⟨⟨r.inspector, s.relays⟩, r.warned station s, .error (fault.within .rebuildingInspector)⟩
  | installs {disk : Disk} (other : ¬s.inspector.sameAs r.inspector)
      (built : Inspector.build station.disk s.inspector = .ok (s.inspector.inspector, disk)) :
      Applies r station s ⟨.start s,
        ({ r.warned station s with disk }.install s.inspector.inspector).log
          (inspectorEntry s.inspector), .ok true⟩

theorem apply_applies (r : Reloader) (station : Station) (s : Settings) :
    r.Applies station s (r.apply station s) := by
  obtain ⟨_, _, disk⟩ := r.warned_eq station s
  have warned : (if s.relays = r.relays then station else station.log relaysEntry) =
      r.warned station s := rfl
  simp only [apply, warned]
  split
  · rename_i equal
    exact .same equal
  · rename_i other
    simp only [Station.installPlan, Inspector.ofPlan, disk, bind, Except.bind]
    cases built : Inspector.build station.disk s.inspector with
    | error fault => exact .fails other built
    | ok made =>
        obtain ⟨inspector, disk⟩ := made
        obtain rfl := Inspector.eq_of_build built
        exact .installs other built

/-- What becomes of a reloader and a station that are to use the inspector of a choice. -/
inductive Takes (r : Reloader) (station : Station) (choice : InspectorChoice) (r' : Reloader)
    (station' : Station) : Prop where
  | keeps (current : station'.current = station.current) (calls : station'.calls = station.calls)
      (applied : r'.inspector = r.inspector)
      (reason : choice.sameAs r.inspector ∨
        ∃ fault, Inspector.build station.disk choice = .error fault)
  | installs (other : ¬choice.sameAs r.inspector)
      (current : station'.current = ⟨choice.inspector, station.calls.length⟩)
      (calls : station'.calls = station.calls ++ [0]) (applied : r'.inspector = choice)

variable {r r' : Reloader} {station station' : Station} {choice : InspectorChoice}

theorem Takes.log (h : r.Takes station choice r' station') (entry : Entry) :
    r.Takes station choice r' (station'.log entry) := by
  cases h with
  | keeps current calls applied reason => exact .keeps current calls applied reason
  | installs other current calls applied => exact .installs other current calls applied

theorem Takes.unlog {entry : Entry} (h : r.Takes (station.log entry) choice r' station') :
    r.Takes station choice r' station' := by
  cases h with
  | keeps current calls applied reason => exact .keeps current calls applied reason
  | installs other current calls applied => exact .installs other current calls applied

theorem takes_apply (r : Reloader) (station : Station) (s : Settings) :
    r.Takes station s.inspector (r.apply station s).reloader (r.apply station s).station := by
  have applies := r.apply_applies station s
  obtain ⟨current, calls, _⟩ := r.warned_eq station s
  generalize r.apply station s = a at applies
  cases applies with
  | same equal => exact .keeps current calls rfl (.inl equal)
  | fails other unbuildable => exact .keeps current calls rfl (.inr ⟨_, unbuildable⟩)
  | installs other built =>
      exact .installs other (by simp only [Station.install, Station.log, calls])
        (by simp only [Station.install, Station.log, calls]) rfl

theorem takes_hear (r : Reloader) (station : Station) (change : Change) :
    r.Takes station change.settings.inspector (r.hear station (.message change)).1
      (r.hear station (.message change)).2 := by
  have applied := r.takes_apply
    (station.log (.info .watcher s!"Applying configuration change from: {change.path}"))
    change.settings
  simp only [hear]
  split
  · exact applied.unlog
  · exact applied.unlog.log _

end Reloader

/-! ## Keeping a program up to date -/

/-- A program's station with what keeps it up to date: the watch of the settings file, and a reloader
with its place in what the watch publishes. -/
structure Upkeep where
  vigil : Vigil
  reloader : Reloader
  receiver : Nat
  station : Station

namespace Upkeep

def start (p : Program.Setup) : Except Failure Upkeep := do
  let h ← HotReload.start p.disk p.arguments.config p.settings
  return ⟨.start h.watcher, h.reloader, h.receiver, .start p.inspector p.disk ""⟩

inductive Move where
  /-- Something happens to the watch. -/
  | watches (happening : Vigil.Happening)
  /-- The reloader hears of the next change, if there is one. -/
  | hears
  /-- A relay has a chunk inspected. -/
  | inspects (e : Event) (delivered : Nat)
  /-- Time passes, and others change the disk. -/
  | besides (disk : Disk) (now : String)

def move (u : Upkeep) : Move → Upkeep
  | .watches happening => { u with vigil := u.vigil.move happening }
  | .hears =>
    let (received, receiver) := u.vigil.watcher.channel.receive u.receiver
    let (reloader, station) := u.reloader.hear u.station received
    { u with reloader, receiver, station }
  | .inspects e delivered => { u with station := (u.station.inspect e delivered).station }
  | .besides disk now => { u with station := { u.station with disk, now } }

def run (u : Upkeep) (moves : List Move) : Upkeep := moves.foldl move u

/-- All settings that are loaded in some moves are of some kind. -/
def LoadsOnly (P : Settings → Prop) : Upkeep → List Move → Prop
  | _, [] => True
  | u, m :: rest =>
    (∀ happening, m = .watches happening → u.vigil.loads happening = true →
      ∀ s, Settings.load u.vigil.watcher.disk u.vigil.watcher.path = .ok s → P s) ∧
    LoadsOnly P (u.move m) rest

/-- An inspector that was chosen is in use, and the reloader knows. -/
structure Uses (choice : InspectorChoice) (serial : Nat) (u : Upkeep) : Prop where
  current : u.station.current = ⟨choice.inspector, serial⟩
  calls : u.station.calls.length = serial + 1
  applied : u.reloader.inspector = choice

variable {P : Settings → Prop} {u : Upkeep} {own choice : InspectorChoice} {serial : Nat}

theorem loadsOnly_append (before more : List Move) :
    u.LoadsOnly P (before ++ more) ↔ u.LoadsOnly P before ∧ (u.run before).LoadsOnly P more := by
  induction before generalizing u with
  | nil => simp [LoadsOnly, run]
  | cons m before ih => simp only [List.cons_append, LoadsOnly, ih, and_assoc]; rfl

theorem keepsTo_move (h : u.vigil.KeepsTo P) (m : Move)
    (loads : ∀ happening, m = .watches happening → u.vigil.loads happening = true →
      ∀ s, Settings.load u.vigil.watcher.disk u.vigil.watcher.path = .ok s → P s) :
    (u.move m).vigil.KeepsTo P := by
  cases m with
  | watches happening => exact h.move happening (loads happening rfl)
  | hears | inspects | besides => exact h

theorem takes_hears {change : Change} {next : Nat} (published : u.vigil.KeepsTo (·.inspector = own))
    (received : u.vigil.watcher.channel.receive u.receiver = (.message change, next)) :
    u.reloader.Takes u.station own (u.move .hears).reloader (u.move .hears).station := by
  have its : change.settings.inspector = own :=
    published.serves _ (.inr ⟨change, Broadcast.mem_of_receive received, rfl⟩)
  have taken := u.reloader.takes_hear u.station change
  rw [its] at taken
  simpa only [Upkeep.move, received] using taken

theorem Uses.installs {v : Upkeep} (h : u.Uses choice serial)
    (current : v.station.current = ⟨own.inspector, u.station.calls.length⟩)
    (calls : v.station.calls = u.station.calls ++ [0]) (applied : v.reloader.inspector = own) :
    v.Uses own (serial + 1) where
  current := by rw [current, h.calls]
  calls := by rw [calls, List.length_append, h.calls, List.length_singleton]
  applied := applied

/-- While the file's own inspector does not change, nothing but that is ever put in the place of
another one. -/
theorem Uses.move (h : u.Uses choice serial) (published : u.vigil.KeepsTo (·.inspector = own))
    (m : Move) :
    (u.move m).Uses choice serial ∨ ¬own.sameAs choice ∧ (u.move m).Uses own (serial + 1) := by
  cases m with
  | watches | besides => exact .inl ⟨h.current, h.calls, h.applied⟩
  | inspects e delivered =>
      obtain ⟨current, calls⟩ :=
        Station.inspect_of_chosen (congrArg Installed.inspector h.current) e delivered
      exact .inl ⟨current.trans h.current, (congrArg _ calls).trans h.calls, h.applied⟩
  | hears =>
      cases received : u.vigil.watcher.channel.receive u.receiver with
      | mk value next =>
          cases value with
          | empty | lagged =>
              simp only [Upkeep.move, received]
              exact .inl ⟨h.current, h.calls, h.applied⟩
          | message change =>
              cases takes_hears published received with
              | keeps current calls applied _ =>
                  exact .inl ⟨current.trans h.current, (congrArg _ calls).trans h.calls,
                    applied.trans h.applied⟩
              | installs other current calls applied =>
                  exact .inr ⟨h.applied ▸ other, h.installs current calls applied⟩

/-- The file's own inspector takes the place of another one with a change that is heard of. -/
theorem Uses.hears {change : Change} {next : Nat} (h : u.Uses choice serial)
    (published : u.vigil.KeepsTo (·.inspector = own))
    (received : u.vigil.watcher.channel.receive u.receiver = (.message change, next))
    (other : ¬own.sameAs choice) (buildable : (Inspector.build u.station.disk own).isOk = true) :
    (u.move .hears).Uses own (serial + 1) := by
  cases takes_hears published received with
  | keeps _ _ _ reason =>
      rcases reason with same | ⟨fault, fails⟩
      · exact absurd (h.applied ▸ same) other
      · rw [fails] at buildable
        cases buildable
  | installs _ current calls applied => exact h.installs current calls applied

theorem Uses.run (h : u.Uses choice serial) (published : u.vigil.KeepsTo (·.inspector = own))
    (moves : List Move) (unchanged : u.LoadsOnly (·.inspector = own) moves) :
    (u.run moves).vigil.KeepsTo (·.inspector = own) ∧
      ((u.run moves).Uses choice serial ∨
        ¬own.sameAs choice ∧ (u.run moves).Uses own (serial + 1)) := by
  -- After the replacement the same statement holds of the file's own inspector, which rules out another.
  induction moves generalizing u choice serial with
  | nil => exact ⟨published, .inl h⟩
  | cons m moves ih =>
      have still := keepsTo_move published m unchanged.1
      rcases h.move published m with same | ⟨other, replaced⟩
      · exact ih same still unchanged.2
      · obtain ⟨always, kept | again⟩ := ih replaced still unchanged.2
        · exact ⟨always, .inr ⟨other, kept⟩⟩
        · exact absurd own.sameAs_refl again.1

/-- How an upkeep begins: with the settings that the file has now, and with the inspector that the
program runs with. -/
theorem start_eq_ok {i : Invocation} {p : Program.Setup} {c : Settings}
    (starts : Program.start i = .runs p) (begins : start p = .ok u)
    (loaded : Settings.load p.disk p.arguments.config = .ok c) :
    u.vigil.KeepsTo (·.inspector = c.inspector) ∧ u.Uses p.settings.inspector 0 := by
  have built := Inspector.eq_of_build (Program.start_eq_runs starts).2
  simp only [start, HotReload.start, bind, Except.bind, pure, Except.pure] at begins
  split at begins
  · cases begins
  · rename_i h hot
    split at hot
    · cases hot
    · rename_i w watching
      cases hot
      cases begins
      have first : (Vigil.start w).KeepsTo (·.inspector = c.inspector) := by
        refine Vigil.keepsTo_start watching fun s again => ?_
        rw [loaded] at again
        cases again
        rfl
      refine ⟨first.move .subscribes (by simp [Vigil.loads]), ⟨?_, rfl, rfl⟩⟩
      simp only [Station.start, built]

/-- Which inspector a program uses while the inspector in its settings file stays as it is, whatever
else changes there. It is the one that the program began with, which is that of the merged settings.
Only when the file's own inspector is another one, and not the same one spelled differently, does that
take its place: with the first change that is heard of when it can be built. After that no inspector is
installed any more. -/
theorem inspector_in_use {i : Invocation} {p : Program.Setup} {c : Settings}
    (starts : Program.start i = .runs p) (begins : start p = .ok u)
    (loaded : Settings.load p.disk p.arguments.config = .ok c) (before more : List Move)
    (unchanged : u.LoadsOnly (·.inspector = c.inspector) (before ++ more)) :
    let v := u.run before
    (v.station.current = ⟨p.inspector, 0⟩ ∨
      ¬c.inspector.sameAs p.settings.inspector ∧
        v.station.current = ⟨c.inspector.inspector, 1⟩) ∧
    (∀ change next, v.vigil.watcher.channel.receive v.receiver = (.message change, next) →
      v.station.current.serial = 0 → ¬c.inspector.sameAs p.settings.inspector →
      (Inspector.build v.station.disk c.inspector).isOk = true →
      (v.move .hears).station.current = ⟨c.inspector.inspector, 1⟩) ∧
    (v.station.current.serial = 1 → (v.run more).station.current = v.station.current) := by
  intro v
  obtain ⟨earlier, later⟩ := (loadsOnly_append before more).mp unchanged
  have built := Inspector.eq_of_build (Program.start_eq_runs starts).2
  obtain ⟨published, first⟩ := start_eq_ok starts begins loaded
  obtain ⟨always, now⟩ := first.run published before earlier
  refine ⟨?_, fun change next received untouched other buildable => ?_, fun replaced => ?_⟩
  · rcases now with kept | ⟨other, replaced⟩
    · exact .inl (built ▸ kept.current)
    · exact .inr ⟨other, replaced.current⟩
  · rcases now with kept | ⟨_, replaced⟩
    · exact (kept.hears always received other buildable).current
    · rw [replaced.current] at untouched
      cases untouched
  · rcases now with kept | ⟨_, itsOwn⟩
    · rw [kept.current] at replaced
      cases replaced
    · rcases (itsOwn.run always more later).2 with still | ⟨again, _⟩
      · exact still.current.trans itsOwn.current.symm
      · exact absurd c.inspector.sameAs_refl again

/-! ## A file that logs, and a command line that does not -/

def loggingText : String := "[[relays]]\nport = 1\nupstream_port = 2\n[inspector]\nkind = \"log\"\n"

/-- A disk with nothing but a settings file of a text. -/
def diskOf (text : String) : Disk := Disk.blank.put ["r"] (.file (Bytes.ofText text))

/-- What the file lays out, with a log level. -/
def logging (logLevel : String) : Settings :=
  ⟨logLevel, [⟨1, .anyV4, "127.0.0.1", some 2, 4096, .zero⟩], .log 64, .standard⟩

def quietly : Invocation where
  arguments := ["--config", "r", "--inspector", "noop"]
  environment _ := none
  disk := diskOf loggingText

/-- The disk is as it is here now, and the folder reports a change of the settings file. -/
def rewriting (disk : Disk) : List Move :=
  [.watches (.disk fun _ => disk), .watches (.report ["r"] .changed)]

theorem at?_diskOf (text : String) : (diskOf text).at? ["r"] = some (.file (Bytes.ofText text)) := rfl

theorem load_diskOf {text : String} {c : Settings} (isText : (Bytes.ofText text).toText? = some text)
    (laid : Settings.ofText text = .ok c) (valid : c.validate = .ok ()) :
    Settings.load (diskOf text) "r" = .ok c := by
  have placed := at?_diskOf text
  have read := Settings.textOf_of_read (Route.isName_r.read placed) isText
  exact Settings.load_of_valid (Route.isName_r.exists? placed) read laid valid

theorem load_logging : Settings.load (diskOf loggingText) "r" = .ok (logging "info") :=
  load_diskOf (by decide +kernel) (by decide +kernel) (by decide +kernel)

theorem load_debugging :
    Settings.load (diskOf ("log_level = \"debug\"\n" ++ loggingText)) "r" = .ok (logging "debug") :=
  load_diskOf (by decide +kernel) (by decide +kernel) (by decide +kernel)

theorem isBroken_info : (JournalFilter.ofTextLeniently "info").isBroken = false := by
  have whole : "info".splitOn "," = ["info"] := Text.splitOn_of_not_mem (by decide)
  have parts : JournalFilter.parts "info" = ["info"] := by simp [JournalFilter.parts, whole]
  have rule : FilterRule.ofText "info" = .ok { threshold := some .info } := by decide +kernel
  simp [JournalFilter.ofTextLeniently, parts, JournalFilter.readRule, rule]

theorem start_quietly : ∃ p, Program.start quietly = .runs p ∧ p.arguments.config = "r" ∧
    p.arguments.overrides.inspector = some "noop" ∧
    p.settings = { logging "info" with inspector := .noop } ∧ p.disk = diskOf loggingText := by
  let a : Arguments := { config := "r", overrides := { inspector := some "noop" } }
  let s : Settings := { logging "info" with inspector := .noop }
  have base : Program.baseSettings (diskOf loggingText) (fun _ => none) a = .ok (logging "info") :=
    (if_pos (Route.isName_r.exists? (at?_diskOf _))).trans load_logging
  have accepted : Program.settings quietly.disk quietly.environment a = .ok s :=
    (Program.settings_eq_ok_iff base rfl s).mpr ⟨rfl, by decide +kernel⟩
  obtain ⟨p, starts, arguments, settings, _, disk⟩ :=
    Program.start_of_settings (by decide +kernel) accepted isBroken_info rfl rfl
  exact ⟨p, starts, by rw [arguments], by rw [arguments], settings, disk⟩

theorem start_plain {p : Program.Setup} {c : Settings} (config : p.arguments.config = "r")
    (loaded : Settings.load p.disk "r" = .ok c) :
    ∃ u, start p = .ok u ∧ u.vigil.watcher.path = "r" ∧ u.vigil.watcher.current = c ∧
      u.vigil.watcher.channel = .blank Watcher.channelCapacity ∧ u.receiver = 0 := by
  have folder := Route.isName_r.parentPath?
  have empty : ("" : String).isEmpty = true := rfl
  exact ⟨_, by simp only [start, HotReload.start, Watcher.start, Watcher.watch, config, loaded,
    folder, empty, bind, Except.bind, pure, Except.pure, Bool.true_or, if_true]; rfl, rfl, rfl, rfl, rfl⟩

theorem loadsOnly_rewriting {disk : Disk} {s : Settings} (path : u.vigil.watcher.path = "r")
    (loaded : Settings.load disk "r" = .ok s) (kind : P s) :
    u.LoadsOnly P (rewriting disk ++ [.hears]) := by
  refine ⟨?_, ?_, ?_, trivial⟩
  · rintro _ ⟨⟩ loads
    cases loads
  · rintro _ ⟨⟩ _ t again
    change Settings.load disk u.vigil.watcher.path = .ok t at again
    rw [path, loaded] at again
    cases again
    exact kind
  · intro _ other
    cases other

theorem channel_handle_changed {w : Watcher} {s : Settings}
    (loaded : Settings.load w.disk w.path = .ok s) (new : w.current.sameAs s = false) :
    (w.handle [w.path] .changed).channel = w.channel.send ⟨s, w.path⟩ := by
  simp [Watcher.handle, Watcher.isAbout, Watcher.update, Watcher.advance, Watcher.log, loaded, new]

theorem receive_rewriting {disk : Disk} {s : Settings} (path : u.vigil.watcher.path = "r")
    (channel : u.vigil.watcher.channel = .blank Watcher.channelCapacity) (receiver : u.receiver = 0)
    (loaded : Settings.load disk "r" = .ok s) (new : u.vigil.watcher.current.sameAs s = false) :
    (u.run (rewriting disk)).vigil.watcher.channel.receive (u.run (rewriting disk)).receiver =
      (.message ⟨s, "r"⟩, 1) := by
  have published := channel_handle_changed (w := { u.vigil.watcher with disk }) (path ▸ loaded) new
  simp only [path, channel] at published
  simp only [rewriting, run, List.foldl, move, Vigil.move, receiver, path, channel, published]
  simp [Broadcast.receive, Broadcast.oldest, Broadcast.send, Broadcast.blank, Watcher.channelCapacity]

/-- The program that runs quietly, and the first change that it is about to hear of. -/
theorem quietly_rewritten : ∃ p u moves, Program.start quietly = .runs p ∧
    p.arguments.overrides.inspector = some "noop" ∧ p.settings.inspector = .noop ∧
    start p = .ok u ∧ Settings.load p.disk p.arguments.config = .ok (logging "info") ∧
    u.LoadsOnly (·.inspector = (logging "info").inspector) (moves ++ [.hears]) ∧
    (u.run moves).Uses .noop 0 ∧
    ∃ change next, (u.run moves).vigil.watcher.channel.receive (u.run moves).receiver =
      (.message change, next) := by
  obtain ⟨p, starts, config, option, settings, disk⟩ := start_quietly
  have loaded : Settings.load p.disk "r" = .ok (logging "info") := by rw [disk, load_logging]
  obtain ⟨u, begins, path, current, channel, receiver⟩ := start_plain config loaded
  have new : u.vigil.watcher.current.sameAs (logging "debug") = false := by
    rw [current]
    decide +kernel
  have first := (start_eq_ok starts begins (config ▸ loaded)).2
  rw [settings] at first
  exact ⟨p, u, rewriting _, starts, option, by rw [settings], begins, by rw [config, loaded],
    loadsOnly_rewriting path load_debugging rfl, ⟨first.current, first.calls, first.applied⟩, _, _,
    receive_rewriting path channel receiver load_debugging new⟩

/-- Another log level is written to the file, and when the program hears of that the file's own
inspector takes the place of the one that was chosen on the command line. -/
theorem replaced_inspector_of_command_line :
    ¬∀ (i : Invocation) (p : Program.Setup) (u : Upkeep) (c : Settings) (moves : List Move),
      Program.start i = .runs p → p.arguments.overrides.inspector.isSome = true →
      start p = .ok u → Settings.load p.disk p.arguments.config = .ok c →
      u.LoadsOnly (·.inspector = c.inspector) moves →
      (u.run moves).station.current = ⟨p.inspector, 0⟩ := by
  intro claimed
  obtain ⟨p, u, moves, starts, option, quiet, begins, loaded, unchanged, uses, change, next, received⟩ :=
    quietly_rewritten
  have stays := claimed quietly p u (logging "info") (moves ++ [.hears]) starts (by rw [option]; rfl)
    begins loaded unchanged
  have earlier := ((loadsOnly_append _ _).mp unchanged).1
  obtain ⟨published, first⟩ := start_eq_ok starts begins loaded
  have always := (first.run published moves earlier).1
  have replaced := uses.hears always received (by decide) rfl
  rw [run, List.foldl_append] at stays
  cases congrArg Installed.serial (stays.symm.trans replaced.current)

/-- The same program, before it hears of the change and when it does. -/
theorem inspector_in_use_quietly : ∃ p u moves, Program.start quietly = .runs p ∧ start p = .ok u ∧
    u.LoadsOnly (·.inspector = (logging "info").inspector) (moves ++ [.hears]) ∧
    (u.run moves).station.current = ⟨.noop, 0⟩ ∧
    ((u.run moves).move .hears).station.current = ⟨.preview 64, 1⟩ := by
  obtain ⟨p, u, moves, starts, _, quiet, begins, loaded, unchanged, uses, change, next, received⟩ :=
    quietly_rewritten
  obtain ⟨_, hears, _⟩ := inspector_in_use starts begins loaded moves [.hears] unchanged
  exact ⟨p, u, moves, starts, begins, unchanged, uses.current,
    hears change next received (by rw [uses.current]) (by rw [quiet]; decide) rfl⟩

end Upkeep

end Wiretap
